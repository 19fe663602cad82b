/-!
# Quoting words

A list of words is written as one text from which a shell reads back the same words. A word is cut
into chunks, each as long as one style of quoting can serve: plain, single quotes or double quotes.
-/

namespace MusicLibrary.Text

/-- How a chunk of a word is written. -/
inductive Quotes where
  | plain
  | single
  | double
deriving DecidableEq, Inhabited, Repr

/-- Which styles still serve for the chunk read so far. -/
structure Serving where
  plain : Bool
  single : Bool
  double : Bool
deriving DecidableEq, Repr

/-- Characters that need no quotes. -/
def needsNoQuotes (c : Char) : Bool :=
  ('a' ≤ c && c ≤ 'z') || ('A' ≤ c && c ≤ 'Z') || ('0' ≤ c && c ≤ '9') ||
    ['+', '-', '.', '/', ':', '@', ']', '_'].contains c

/-- Characters that may stand within single quotes. -/
def fitsSingle (c : Char) : Bool := !(['\'', '^', '\\'].contains c)

/-- Characters that may stand within double quotes. -/
def fitsDouble (c : Char) : Bool := !(['\x60', '$', '!', '^'].contains c)

namespace Serving

/-- Every style serves for an empty chunk. -/
def all : Serving := ⟨true, true, true⟩

/-- A circumflex may only stand right after an opening single quote. -/
def afterCircumflex : Serving := ⟨false, true, false⟩

/-- The styles that serve for one character more. -/
def add (s : Serving) (c : Char) : Serving :=
  ⟨s.plain && needsNoQuotes c, s.single && fitsSingle c, s.double && fitsDouble c⟩

def none (s : Serving) : Bool := !(s.plain || s.single || s.double)

/-- The style to use: the first that serves. -/
def choice (s : Serving) : Quotes :=
  if s.plain then .plain else if s.single then .single else .double

end Serving

/-- Within double quotes a backslash goes before these characters. -/
def escapedInDouble (c : Char) : Bool := ['$', '\x60', '"', '\\'].contains c

/-- A chunk in a style of quoting. -/
def Quotes.write : Quotes → List Char → List Char
  | .plain, cs => cs
  | .single, cs => '\'' :: cs ++ ['\'']
  | .double, cs => '"' :: (cs.flatMap fun c => if escapedInDouble c then ['\\', c] else [c]) ++ ['"']

/-- Writes a word from the middle of a chunk on: `acc` holds the chunk so far in reverse and `s`
the styles that serve for it. -/
def quoteFrom (s : Serving) (acc : List Char) : List Char → List Char
  | [] => s.choice.write acc.reverse
  | c :: rest =>
    if (s.add c).none then
      s.choice.write acc.reverse ++
        quoteFrom (if c = '^' then .afterCircumflex else Serving.all.add c) [c] rest
    else quoteFrom (s.add c) (c :: acc) rest

/-- A word in quotes, as far as it needs them. -/
def quote (w : List Char) : List Char :=
  match w with
  | [] => ['\'', '\'']
  | c :: rest => quoteFrom (if c = '^' then .afterCircumflex else Serving.all.add c) [c] rest

/-- The text of a list of words; none if a word contains the null character. -/
def quoteAll? (ws : List (List Char)) : Option (List Char) :=
  if ws.any (·.contains '\x00') then none
  else some ([' '].intercalate (ws.map quote))

end MusicLibrary.Text

/-!
# Words of a command line

Splitting a text into words by the rules of a shell: blanks separate words, and quotes and
backslashes keep characters together or take away their meaning. `Place.next` says how the splitter
moves from character to character, `Place.kept` which characters it adds to the word being read.
A hash mark where a word would start opens a comment that runs to the end of the line.
-/

namespace MusicLibrary.Text

/-- Where the splitter stands. -/
inductive Place where
  /-- between words -/
  | gap
  /-- within a word, outside quotes -/
  | word
  /-- after a backslash outside quotes -/
  | escape
  /-- within single quotes -/
  | single
  /-- within double quotes -/
  | double
  /-- after a backslash within double quotes -/
  | doubleEscape
deriving DecidableEq, Inhabited, Repr

namespace Place

/-- The place after reading a character outside quotes. -/
def enter (c : Char) : Place :=
  if c = ' ' ∨ c = '\t' ∨ c = '\n' then gap
  else if c = '\\' then escape
  else if c = '\'' then single
  else if c = '"' then double
  else word

/-- The place after reading a character. -/
def next : Place → Char → Place
  | gap, c | word, c => enter c
  | escape, _ => word
  | single, c => if c = '\'' then word else single
  | double, c => if c = '"' then word else if c = '\\' then doubleEscape else double
  | doubleEscape, _ => double

/-- The characters that reading a character adds to the word. -/
def kept : Place → Char → List Char
  | gap, c | word, c => if enter c = word then [c] else []
  | escape, c => if c = '\n' then [] else [c]
  | single, c => if c = '\'' then [] else [c]
  | double, c => if c = '"' ∨ c = '\\' then [] else [c]
  | doubleEscape, c =>
    if c = '\n' then []
    else if c = '$' ∨ c = '\x60' ∨ c = '"' ∨ c = '\\' then [c]
    else ['\\', c]

end Place

/-- Whether an unquoted hash mark stands where a word would start. -/
def opensComment : Place → List Char → Bool
  | _, [] => false
  | p, c :: rest => (p == .gap && c == '#') || opensComment (p.next c) rest

/-- The words of a text from a place on, where `acc` holds what has been read of the current word
in reverse; nothing if a quote is left open or a backslash ends the text. -/
def wordsFrom (p : Place) (acc : List Char) : List Char → Option (List (List Char))
  | [] =>
    match p with
    | .gap => some []
    | .word => some [acc.reverse]
    | _ => none
  | c :: rest =>
    if p.next c = .gap then
      if p = .gap then wordsFrom .gap [] rest
      else (wordsFrom .gap [] rest).map (acc.reverse :: ·)
    else wordsFrom (p.next c) ((p.kept c).reverse ++ acc) rest

/-- The words of a text, a hash mark being a character like any other. -/
def words? (cs : List Char) : Option (List (List Char)) := wordsFrom .gap [] cs

end MusicLibrary.Text

import MusicLibrary.Pattern.Classes
import MusicLibrary.Pattern.Cursor

/-!
# Flags and escapes of a pattern

Flags say how a part of a pattern is read. A backslash gives the character after it a meaning, or
takes one away.
-/

namespace MusicLibrary.Pattern

open Unicode

/-- How a part of a pattern is read. -/
structure Flags where
  /-- letters match in either case -/
  insensitive : Bool
  /-- a circumflex and a dollar sign stand for the borders of lines -/
  multiLine : Bool
  /-- a dot also stands for the end of a line -/
  dotAll : Bool
  /-- characters are those of Unicode, not bytes -/
  unicode : Bool
  /-- a carriage return belongs to the end of a line -/
  crlf : Bool
  /-- blanks and comments count for nothing -/
  spaced : Bool
deriving DecidableEq, Inhabited, Repr

namespace Flags

/-- The flags at the start of a pattern for a search in either case. -/
def initial : Flags := ⟨true, false, false, true, false, false⟩

/-- Sets the flag of a letter. The flag for the greed of repetitions changes no search. -/
def set? (f : Flags) (letter : Char) (on : Bool) : Option Flags :=
  match letter with
  | 'i' => some { f with insensitive := on }
  | 'm' => some { f with multiLine := on }
  | 's' => some { f with dotAll := on }
  | 'U' => some f
  | 'u' => some { f with unicode := on }
  | 'R' => some { f with crlf := on }
  | 'x' => some { f with spaced := on }
  | _ => none

/-- A set with what differs in case alone, if the flags ask for it. -/
def fold (f : Flags) (s : CodeSet) : CodeSet := if f.insensitive then foldSet f.unicode s else s

/-- The complement of a set. In bytes it would hold parts of characters, and is refused. -/
def compl? (f : Flags) (s : CodeSet) : Option CodeSet := if f.unicode then some s.compl else none

/-- The set of a class that may be negated. -/
def classSet? (f : Flags) (negated : Bool) (s : CodeSet) : Option CodeSet :=
  if negated then f.compl? s else some s

end Flags

/-- Reads the letters of flags up to a bracket or a colon, which is returned with the rest. `seen`
holds the letters read so far, a hyphen among them. -/
def readFlags? (f : Flags) (on : Bool) (seen : List Char) :
    List Char → Option (Flags × List Char × Char × List Char)
  | [] => none
  | c :: rest =>
    if c = ':' ∨ c = ')' then
      if seen.head? = some '-' then none else some (f, seen, c, rest)
    else if seen.contains c then none
    else if c = '-' then readFlags? f false (c :: seen) rest
    else
      match f.set? c on with
      | some f => readFlags? f on (c :: seen) rest
      | none => none

/-! ## Escapes -/

/-- What an escape stands for. -/
inductive Escape where
  /-- a character, which may have been written as a byte in hexadecimal -/
  | char (c : Char) (byte : Bool)
  | set (s : CodeSet)
  | look (l : Look)

/-- Characters that have a meaning of their own, which a backslash takes away. -/
def isMark (c : Char) : Bool := "\\.+*?()|[]\x7b\x7d^$#&-~".toList.contains c

/-- Characters before which a backslash means nothing else than the character. -/
def isPlainEscape (c : Char) : Bool :=
  isMark c || (c.toNat < 0x80 && !c.isAlphanum && c ≠ '<' && c ≠ '>')

/-- The control characters that have a letter. -/
def control? : Char → Option Char
  | 'a' => some '\x07'
  | 'f' => some '\x0c'
  | 't' => some '\t'
  | 'n' => some '\n'
  | 'r' => some '\r'
  | 'v' => some '\x0b'
  | _ => none

/-- The conditions on borders of words that have a name. -/
def namedBorder? (name : List Char) : Option Border :=
  match String.ofList name with
  | "start" => some .opening
  | "end" => some .closing
  | "start-half" => some .afterGap
  | "end-half" => some .beforeGap
  | _ => none

/-- Reads what follows the letter of a word border: a name in braces, unless the braces hold the
counts of a repetition. -/
def readBorder? (f : Flags) (cs : List Char) : Option (Border × List Char) :=
  match cs with
  | '\x7b' :: rest =>
    match skip f.spaced rest with
    | [] => none
    | c :: more =>
      if c.isAlpha || c = '-' then do
        let (name, rest) ← readBraced? f.spaced false (c :: more)
        return (← namedBorder? name, rest)
      else some (.edge, cs)
  | _ => some (.edge, cs)

/-- Reads the name of a class after its letter: one character, or a name in braces. -/
def readClass? (f : Flags) (negated : Bool) (cs : List Char) : Option (Escape × List Char) := do
  let (set?, rest) ←
    match skip f.spaced cs with
    | [] => none
    | '\x7b' :: rest => (readBraced? f.spaced false rest).map fun p => (bracedSet? p.1, p.2)
    | c :: rest => if c = '\\' then none else some (namedSet? [c], rest)
  let set ← if f.unicode then set? else none
  return (.set (← f.classSet? negated (f.fold set)), rest)

/-- Reads an escape after its backslash. -/
def readEscape? (f : Flags) : List Char → Option (Escape × List Char)
  | [] => none
  | 'x' :: rest => do
    let braced := (skip f.spaced rest).head? = some '\x7b'
    let (c, rest) ← readHex? f.spaced 2 rest
    return (.char c !braced, rest)
  | 'u' :: rest => (readHex? f.spaced 4 rest).map fun p => (.char p.1 false, p.2)
  | 'U' :: rest => (readHex? f.spaced 8 rest).map fun p => (.char p.1 false, p.2)
  | 'p' :: rest => readClass? f false rest
  | 'P' :: rest => readClass? f true rest
  | 'A' :: rest => some (.look .textStart, rest)
  | 'z' :: rest => some (.look .textEnd, rest)
  | 'b' :: rest => (readBorder? f rest).map fun p => (.look (.border p.1 f.unicode), p.2)
  | 'B' :: rest => some (.look (.border .inner f.unicode), rest)
  | '<' :: rest => some (.look (.border .opening f.unicode), rest)
  | '>' :: rest => some (.look (.border .closing f.unicode), rest)
  | c :: rest =>
    if isPlainEscape c then some (.char c false, rest)
    else if let some d := control? c then some (.char d false, rest)
    else do
      let set ← shortClass? f.unicode c.toLower
      return (.set (← f.classSet? c.isUpper set), rest)

end MusicLibrary.Pattern

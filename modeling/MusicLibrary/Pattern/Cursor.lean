import MusicLibrary.Text.Blank
import MusicLibrary.Text.Numeral

/-!
# Reading the parts of a pattern

Small readers for the text of a pattern: each takes what stands in front and returns it with the
rest of the text. In a pattern that is `spaced`, blanks count for nothing, nor does what follows a
hash mark up to the end of its line.
-/

namespace MusicLibrary.Pattern

open Text (isBlank)

/-- Skips what counts for nothing; `comment` tells whether a comment is being skipped. -/
def skipFrom (comment : Bool) : List Char → List Char
  | [] => []
  | c :: rest =>
    if comment then skipFrom (c ≠ '\n') rest
    else if isBlank c then skipFrom false rest
    else if c = '#' then skipFrom true rest
    else c :: rest

/-- Skips what counts for nothing in front of a text. -/
def skip (spaced : Bool) (cs : List Char) : List Char := if spaced then skipFrom false cs else cs

/-- The first character that counts; right after a hash mark any character does, but for blanks. -/
def glance? (spaced : Bool) (cs : List Char) : Option Char :=
  if spaced then
    match cs.dropWhile isBlank with
    | '#' :: rest => (rest.dropWhile isBlank).head?
    | rest => rest.head?
  else cs.head?

/-- Reads up to a closing brace, leaving out what counts for nothing. -/
def readBraced? (spaced comment : Bool) : List Char → Option (List Char × List Char)
  | [] => none
  | c :: rest =>
    if comment then readBraced? spaced (c ≠ '\n') rest
    else if spaced && isBlank c then readBraced? spaced false rest
    else if spaced && c = '#' then readBraced? spaced true rest
    else if c = '\x7d' then some ([], rest)
    else (readBraced? spaced false rest).map fun p => (c :: p.1, p.2)

/-- The hyphens in front of a text and what follows them. -/
def readHyphens (spaced comment : Bool) (count : Nat) : List Char → Nat × List Char
  | [] => (count, [])
  | c :: rest =>
    if comment then readHyphens spaced (c ≠ '\n') count rest
    else if spaced && isBlank c then readHyphens spaced false count rest
    else if spaced && c = '#' then readHyphens spaced true count rest
    else if c = '-' then readHyphens spaced false (count + 1) rest
    else (count, c :: rest)

/-! ## Numbers -/

/-- The value of a hexadecimal digit. -/
def hexValue? (c : Char) : Option Nat :=
  if '0' ≤ c ∧ c ≤ '9' then some (c.toNat - 48)
  else if 'a' ≤ c ∧ c ≤ 'f' then some (c.toNat - 87)
  else if 'A' ≤ c ∧ c ≤ 'F' then some (c.toNat - 55)
  else none

/-- The character with a number, if there is one. -/
def charOf? (n : Nat) : Option Char := if n.isValidChar then some (Char.ofNat n) else none

/-- The number that hexadecimal digits denote. -/
def hexNumber? (cs : List Char) : Option Nat :=
  if cs.isEmpty then none
  else cs.foldl (fun n? c => do return 16 * (← n?) + (← hexValue? c)) (some 0)

/-- Takes a number of characters, leaving out what counts for nothing. -/
def readUnits? (spaced : Bool) : Nat → List Char → Option (List Char × List Char)
  | 0, cs => some ([], cs)
  | k + 1, cs =>
    match skip spaced cs with
    | [] => none
    | c :: rest => (readUnits? spaced k rest).map fun p => (c :: p.1, p.2)

/-- Reads a character given by its number: a fixed count of hexadecimal digits, or any in braces. -/
def readHex? (spaced : Bool) (count : Nat) (cs : List Char) : Option (Char × List Char) := do
  let (digits, rest) ←
    match skip spaced cs with
    | '\x7b' :: rest => readBraced? spaced false rest
    | rest => readUnits? spaced count rest
  let c ← charOf? (← hexNumber? digits)
  return (c, rest)

/-- Reads digits, in a spaced pattern also with blanks between them. -/
def readDigits (spaced comment : Bool) (acc : List Char) : List Char → List Char × List Char
  | [] => (acc.reverse, [])
  | c :: rest =>
    if comment then readDigits spaced (c ≠ '\n') acc rest
    else if c.isDigit then readDigits spaced false (c :: acc) rest
    else if spaced && !acc.isEmpty && isBlank c then readDigits spaced false acc rest
    else if spaced && !acc.isEmpty && c = '#' then readDigits spaced true acc rest
    else (acc.reverse, c :: rest)

/-- Reads a count with blanks around it. -/
def readCount (spaced : Bool) (cs : List Char) : Option Nat × List Char :=
  let (digits, rest) := readDigits spaced false [] ((skip spaced cs).dropWhile isBlank)
  ((Text.natural? digits).filter (· < 0x100000000), skip spaced (rest.dropWhile isBlank))

/-- Reads the counts of a repetition after the opening brace: one, a least one, or both bounds. -/
def readCounts? (spaced : Bool) (cs : List Char) : Option ((Nat × Option Nat) × List Char) := do
  let (least?, rest) := readCount spaced cs
  let least ← least?
  match rest with
  | '\x7d' :: rest => return ((least, some least), rest)
  | ',' :: rest =>
    match skip spaced rest with
    | '\x7d' :: rest => return ((least, none), rest)
    | rest =>
      let (most?, rest) := readCount spaced rest
      let most ← most?
      match rest with
      | '\x7d' :: rest => if least ≤ most then return ((least, some most), rest) else none
      | _ => none
  | _ => none

end MusicLibrary.Pattern

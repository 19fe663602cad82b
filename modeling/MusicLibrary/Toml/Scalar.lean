import MusicLibrary.Date
import MusicLibrary.Score.Decimal
import MusicLibrary.Toml.Value

/-!
# Texts, numbers and dates of TOML

Readers for the values that hold no other values. Each takes what stands in front of a text and
returns it with the rest.
-/

namespace MusicLibrary.Toml

/-- Whether a character may stand in comments and texts of one line. -/
def isPrintable (c : Char) : Bool := c = '\t' || (' ' ≤ c && c ≠ '\x7f')

def isSpace (c : Char) : Bool := c = ' ' || c = '\t'

/-- Skips spaces and tabs. -/
def skipSpaces (cs : List Char) : List Char := cs.dropWhile isSpace

/-- The rest after the end of a line. -/
def readNewline? : List Char → Option (List Char)
  | '\n' :: rest => some rest
  | '\r' :: '\n' :: rest => some rest
  | _ => none

/-- Skips a comment. -/
def skipComment : List Char → List Char
  | '#' :: rest => rest.dropWhile isPrintable
  | cs => cs

/-- Skips spaces, comments and ends of lines. -/
def skipTrivia (cs : List Char) : List Char :=
  let rest := skipComment (skipSpaces cs)
  match readNewline? rest with
  | some more => if more.length < cs.length then skipTrivia more else more
  | none => rest
termination_by cs.length

/-! ## Texts -/

/-- The value of a hexadecimal digit. -/
def hexDigit? (c : Char) : Option Nat :=
  if '0' ≤ c ∧ c ≤ '9' then some (c.toNat - 48)
  else if 'a' ≤ c ∧ c ≤ 'f' then some (c.toNat - 87)
  else if 'A' ≤ c ∧ c ≤ 'F' then some (c.toNat - 55)
  else none

/-- Reads a character given by a fixed count of hexadecimal digits. -/
def readCode? (count : Nat) (cs : List Char) : Option (Char × List Char) := do
  if cs.length < count then none
  else
    let n ← (cs.take count).foldlM (fun n c => (hexDigit? c).map (16 * n + ·)) 0
    if n.isValidChar then return (Char.ofNat n, cs.drop count) else none

/-- Reads what follows a backslash. -/
def readEscape? : List Char → Option (Char × List Char)
  | 'b' :: rest => some ('\x08', rest)
  | 't' :: rest => some ('\t', rest)
  | 'n' :: rest => some ('\n', rest)
  | 'f' :: rest => some ('\x0c', rest)
  | 'r' :: rest => some ('\r', rest)
  | '"' :: rest => some ('"', rest)
  | '\\' :: rest => some ('\\', rest)
  | 'u' :: rest => readCode? 4 rest
  | 'U' :: rest => readCode? 8 rest
  | _ => none

/-- Reads a text of one line in double quotes after the opening one. -/
def readBasic? (acc : List Char) : List Char → Option (String × List Char)
  | [] => none
  | '"' :: rest => some (.ofList acc.reverse, rest)
  | '\\' :: rest =>
    match readEscape? rest with
    | some (c, more) => if more.length ≤ rest.length then readBasic? (c :: acc) more else none
    | none => none
  | c :: rest => if isPrintable c then readBasic? (c :: acc) rest else none
termination_by cs => cs.length

/-- Reads a text of one line in single quotes after the opening one. -/
def readLiteral? (cs : List Char) : Option (String × List Char) :=
  let body := cs.takeWhile fun c => c ≠ '\'' && isPrintable c
  match cs.drop body.length with
  | '\'' :: rest => some (.ofList body, rest)
  | _ => none

/-- Skips spaces and ends of lines. -/
def skipBlankLines (cs : List Char) : List Char :=
  let rest := skipSpaces cs
  match readNewline? rest with
  | some more => if more.length < cs.length then skipBlankLines more else more
  | none => rest
termination_by cs.length

/-- Reads a text of several lines up to three quotes; two more may stand before them. `escapes` says
whether a backslash has a meaning. -/
def readLines? (quote : Char) (escapes : Bool) (acc : List Char) :
    List Char → Option (String × List Char)
  | [] => none
  | c :: rest =>
    if c = quote then
      let run := rest.takeWhile (· = quote)
      let after := rest.drop run.length
      if run.length < 2 then readLines? quote escapes (c :: run ++ acc) after
      else if run.length ≤ 4 then
        some (.ofList (List.replicate (run.length - 2) quote ++ acc).reverse, after)
      else none
    else if c = '\\' && escapes then
      match readEscape? rest with
      | some (d, more) =>
        if more.length ≤ rest.length then readLines? quote escapes (d :: acc) more else none
      | none =>
        match (readNewline? (skipSpaces rest)).map skipBlankLines with
        | some more =>
          if more.length ≤ rest.length then readLines? quote escapes acc more else none
        | none => none
    else
      match readNewline? (c :: rest) with
      | some more =>
        if more.length ≤ rest.length then readLines? quote escapes ('\n' :: acc) more else none
      | none => if isPrintable c then readLines? quote escapes (c :: acc) rest else none
termination_by cs => cs.length

/-- A text without the end of a line in front. -/
def skipNewline (cs : List Char) : List Char := (readNewline? cs).getD cs

/-- Reads a text in quotes of any kind. -/
def readText? : List Char → Option (String × List Char)
  | '"' :: '"' :: '"' :: rest => readLines? '"' true [] (skipNewline rest)
  | '"' :: rest => readBasic? [] rest
  | '\'' :: '\'' :: '\'' :: rest => readLines? '\'' false [] (skipNewline rest)
  | '\'' :: rest => readLiteral? rest
  | _ => none

/-! ## Numbers -/

/-- Reads digits of a base, with single underscores between them. -/
def readDigits? (isDigit : Char → Bool) : List Char → Option (List Char × List Char)
  | [] => none
  | c :: rest => if isDigit c then more [c] rest else none
where
  /-- Reads further digits. -/
  more (acc : List Char) : List Char → Option (List Char × List Char)
    | '_' :: c :: rest => if isDigit c then more (c :: acc) rest else none
    | '_' :: [] => none
    | c :: rest => if isDigit c then more (c :: acc) rest else some (acc.reverse, c :: rest)
    | [] => some (acc.reverse, [])

/-- Reads a sign. -/
def readSign : List Char → Option Char × List Char
  | '+' :: rest => (some '+', rest)
  | '-' :: rest => (some '-', rest)
  | cs => (none, cs)

/-- Reads decimal digits without zeros in front. -/
def readWhole? : List Char → Option (List Char × List Char)
  | '0' :: rest => some (['0'], rest)
  | cs => readDigits? Char.isDigit cs

/-- The number that digits of a base denote. -/
def valueOf (base : Nat) (digits : List Char) : Nat :=
  digits.foldl (fun n c => base * n + (hexDigit? c).getD 0) 0

/-- A number within 64 bits. -/
def bounded? (n : Int) : Option Value := if Text.FitsInt64 n then some (.integer n) else none

/-- Reads an integer. -/
def readInteger? (cs : List Char) : Option (Value × List Char) := do
  match cs with
  | '0' :: 'x' :: rest =>
    let (digits, rest) ← readDigits? (fun c => (hexDigit? c).isSome) rest
    return (← bounded? (valueOf 16 digits), rest)
  | '0' :: 'o' :: rest =>
    let (digits, rest) ← readDigits? (fun c => '0' ≤ c && c ≤ '7') rest
    return (← bounded? (valueOf 8 digits), rest)
  | '0' :: 'b' :: rest =>
    let (digits, rest) ← readDigits? (fun c => c = '0' || c = '1') rest
    return (← bounded? (valueOf 2 digits), rest)
  | _ =>
    let (sign?, rest) := readSign cs
    let (digits, rest) ← readWhole? rest
    let n : Int := valueOf 10 digits
    return (← bounded? (if sign? = some '-' then -n else n), rest)

/-- Reads an exponent. -/
def readExponent? : List Char → Option (Int × List Char)
  | c :: rest =>
    if c = 'e' ∨ c = 'E' then do
      let (sign?, rest) := readSign rest
      let (digits, rest) ← readDigits? Char.isDigit rest
      let n : Int := valueOf 10 digits
      return (if sign? = some '-' then -n else n, rest)
    else none
  | [] => none

/-- Reads what makes a number a fraction: places after the point, an exponent, or both. -/
def readFraction? (cs : List Char) : Option (List Char × Int × List Char) :=
  match cs with
  | '.' :: rest => do
    let (places, rest) ← readDigits? Char.isDigit rest
    match readExponent? rest with
    | some (e, rest) => return (places, e, rest)
    | none =>
      match rest with
      | 'e' :: _ | 'E' :: _ => none
      | _ => return (places, 0, rest)
  | _ => (readExponent? cs).map fun (e, rest) => ([], e, rest)

/-- Reads a fraction. Beyond the largest number it has to be negative. -/
def readFloat? (cs : List Char) : Option (Value × List Char) := do
  let (sign?, rest) := readSign cs
  let negative := sign? = some '-'
  match rest with
  | 'i' :: 'n' :: 'f' :: rest => return (.float (.infinite negative), rest)
  | 'n' :: 'a' :: 'n' :: rest => return (.float (.nan negative), rest)
  | _ =>
    let (whole, rest) ← readWhole? rest
    let (places, e, rest) ← readFraction? rest
    let x := Score.ofDecimal negative (valueOf 10 (whole ++ places)) (e - places.length)
    if x = .infinite false then none else return (.float x, rest)

/-! ## Dates -/

/-- Reads a number of two digits within bounds. -/
def readPair? (lo hi : Nat) : List Char → Option (Nat × List Char)
  | a :: b :: rest =>
    if a.isDigit && b.isDigit then
      let n := valueOf 10 [a, b]
      if lo ≤ n ∧ n ≤ hi then some (n, rest) else none
    else none
  | _ => none

/-- Reads a character. -/
def readMark? (c : Char) : List Char → Option (List Char)
  | d :: rest => if d = c then some rest else none
  | [] => none

/-- Reads a day. -/
def readDay? (cs : List Char) : Option (List Char) := do
  let (century, rest) ← readPair? 0 99 cs
  let (year, rest) ← readPair? 0 99 rest
  let (month, rest) ← readPair? 1 12 (← readMark? '-' rest)
  let (day, rest) ← readPair? 1 31 (← readMark? '-' rest)
  if day ≤ daysInMonth (100 * century + year) month then return rest else none

/-- Reads a time of a day. -/
def readTime? (cs : List Char) : Option (List Char) := do
  let (_, rest) ← readPair? 0 23 cs
  let (_, rest) ← readPair? 0 59 (← readMark? ':' rest)
  let (_, rest) ← readPair? 0 60 (← readMark? ':' rest)
  match rest with
  | '.' :: more =>
    let places := more.takeWhile Char.isDigit
    if places.isEmpty then return rest else return more.drop places.length
  | _ => return rest

/-- Reads the offset of a time, if there is one. -/
def readOffset? : List Char → Option (List Char)
  | 'Z' :: rest | 'z' :: rest => some rest
  | '+' :: rest | '-' :: rest => do
    let (_, rest) ← readPair? 0 23 rest
    let (_, rest) ← readPair? 0 59 (← readMark? ':' rest)
    return rest
  | rest => some rest

/-- Reads a day, a time, or both. -/
def readDate? (cs : List Char) : Option (List Char) :=
  match readDay? cs with
  | none => readTime? cs
  | some rest =>
    match rest with
    | mark :: more =>
      if mark = 'T' ∨ mark = 't' ∨ mark = ' ' then
        match readTime? more with
        | some more => readOffset? more
        | none => some rest
      else some rest
    | [] => some rest

/-- Reads a date or a number. -/
def readNumeric? (cs : List Char) : Option (Value × List Char) :=
  match readDate? cs with
  | some rest => some (.date, rest)
  | none => (readFloat? cs).or (readInteger? cs)

end MusicLibrary.Toml

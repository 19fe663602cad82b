/-!
# Decimal numerals

Reading and writing whole numbers. What is read has to fit the given range; a sign may stand in
front of the digits, and nothing else may stand in the text.
-/

namespace MusicLibrary.Text

/-- The value of a decimal digit. -/
def digitValue (c : Char) : Nat := c.toNat - '0'.toNat

/-- The number that a list of digits denotes. -/
def digitsValue (cs : List Char) : Nat := cs.foldl (fun n c => 10 * n + digitValue c) 0

/-- The number denoted by a non-empty run of digits. -/
def natural? (cs : List Char) : Option Nat :=
  if cs.isEmpty || !cs.all Char.isDigit then none else some (digitsValue cs)

/-- Whether a number fits 64 bits with sign. -/
def FitsInt64 (n : Int) : Prop := -0x8000000000000000 ≤ n ∧ n < 0x8000000000000000

instance (n : Int) : Decidable (FitsInt64 n) := inferInstanceAs (Decidable (_ ∧ _))

/-- The number denoted by digits with an optional sign, if it fits 64 bits. -/
def int64? (cs : List Char) : Option Int :=
  let value : Option Int :=
    match cs with
    | '-' :: rest => (natural? rest).map fun n => -(n : Int)
    | '+' :: rest => (natural? rest).map fun n => (n : Int)
    | _ => (natural? cs).map fun n => (n : Int)
  value.filter fun n => decide (FitsInt64 n)

/-- The number denoted by digits with an optional plus sign, if it fits 32 bits. -/
def nat32? (cs : List Char) : Option Nat :=
  let value :=
    match cs with
    | '+' :: rest => natural? rest
    | _ => natural? cs
  value.filter (· < 0x100000000)

/-- The decimal digits of a number. -/
def digits (n : Nat) : List Char := Nat.toDigits 10 n

/-- The digits of a number, filled up with zeros in front to a least width. -/
def padded (width n : Nat) : List Char :=
  List.replicate (width - (digits n).length) '0' ++ digits n

/-- A number in decimal, with a minus sign if it is negative. -/
def numeral (n : Int) : List Char :=
  if n < 0 then '-' :: digits n.natAbs else digits n.natAbs

/-- A number in decimal as a text. -/
def showInt (n : Int) : String := .ofList (numeral n)

end MusicLibrary.Text

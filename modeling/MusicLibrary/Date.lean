import MusicLibrary.Text.Blank
import MusicLibrary.Text.Numeral

/-!
# Calendar dates

Dates of the Gregorian calendar, carried on into the past, and their text: the year with at least
four digits, and with a sign if it has to have more than four or lies before year 0; then month and
day with two digits each.
-/

namespace MusicLibrary

/-- Whether a year has a 29th of February. -/
def leapYear (year : Int) : Bool := year % 4 = 0 && (year % 100 ≠ 0 || year % 400 = 0)

/-- The number of days of a month. -/
def daysInMonth (year : Int) (month : Nat) : Nat :=
  if month = 2 then (if leapYear year then 29 else 28)
  else if month = 4 ∨ month = 6 ∨ month = 9 ∨ month = 11 then 30
  else 31

/-- Whether year, month and day name a day of the calendar. -/
def OnCalendar (year : Int) (month day : Nat) : Prop :=
  (-262143 ≤ year ∧ year ≤ 262142) ∧ (1 ≤ month ∧ month ≤ 12) ∧
    (1 ≤ day ∧ day ≤ daysInMonth year month)

instance (year : Int) (month day : Nat) : Decidable (OnCalendar year month day) :=
  inferInstanceAs (Decidable ((_ ∧ _) ∧ (_ ∧ _) ∧ (_ ∧ _)))

/-- A day of the calendar. -/
structure Date where
  year : Int
  month : Nat
  day : Nat
  onCalendar : OnCalendar year month day
deriving DecidableEq

namespace Date

/-- The day with the given numbers, if there is one. -/
def ofNumbers? (year : Int) (month day : Nat) : Option Date :=
  if h : OnCalendar year month day then some ⟨year, month, day, h⟩ else none

/-! ## Writing -/

/-- The text of a year. -/
def yearText (year : Int) : List Char :=
  if year < 0 then '-' :: Text.padded 4 year.natAbs
  else if 9999 < year then '+' :: Text.padded 4 year.natAbs
  else Text.padded 4 year.natAbs

/-- The characters of a date's text. -/
def chars (d : Date) : List Char :=
  yearText d.year ++ '-' :: Text.padded 2 d.month ++ '-' :: Text.padded 2 d.day

/-- The text of a date. -/
def format (d : Date) : String := .ofList d.chars

/-! ## Reading -/

/-- Reads a number of at least one and at most `limit` digits. -/
def readNumber? (limit : Nat) (cs : List Char) : Option (Nat × List Char) :=
  let run := (cs.take limit).takeWhile Char.isDigit
  if run.isEmpty then none else some (Text.digitsValue run, cs.drop run.length)

/-- Reads a year: without a sign it has at most four digits. -/
def readYear? (cs : List Char) : Option (Int × List Char) :=
  match Text.trimLeft cs with
  | '-' :: rest => (readNumber? rest.length rest).map fun (n, tail) => (-(n : Int), tail)
  | '+' :: rest => (readNumber? rest.length rest).map fun (n, tail) => ((n : Int), tail)
  | rest => (readNumber? 4 rest).map fun (n, tail) => ((n : Int), tail)

/-- Reads a hyphen, blanks and a number of at most two digits. -/
def readPart? : List Char → Option (Nat × List Char)
  | '-' :: rest => readNumber? 2 (Text.trimLeft rest)
  | _ => none

/-- The date that a text without blanks around it denotes. -/
def ofChars? (cs : List Char) : Option Date := do
  let (year, cs) ← readYear? cs
  let (month, cs) ← readPart? cs
  let (day, cs) ← readPart? cs
  if cs.isEmpty then ofNumbers? year month day else none

/-- The date that a text denotes. -/
def parse? (text : String) : Option Date := ofChars? (Text.trim text.toList)

end Date

end MusicLibrary

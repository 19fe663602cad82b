/-!
# Sets of code points

A `CodeSet` is a finite union of inclusive ranges of code points. Tables of the Unicode character
database are written as text, `41-5A 5F` for the ranges from 41 to 5A and from 5F to 5F in
hexadecimal, and read by `CodeSet.ofText`.
-/

namespace MusicLibrary.Unicode

/-- A set of code points, as inclusive ranges in no particular order. -/
structure CodeSet where
  ranges : List (Nat × Nat)
deriving DecidableEq, Inhabited, Repr

namespace CodeSet

/-- The largest code point. -/
def top : Nat := 0x10FFFF

/-- Membership of a code point. -/
def mem (s : CodeSet) (n : Nat) : Bool := s.ranges.any fun r => r.1 ≤ n && n ≤ r.2

/-- Membership of a character. -/
def has (s : CodeSet) (c : Char) : Bool := s.mem c.toNat

def empty : CodeSet := ⟨[]⟩

/-- The set of the code points from `lo` to `hi`. -/
def range (lo hi : Nat) : CodeSet := ⟨[(lo, hi)]⟩

def single (n : Nat) : CodeSet := range n n

def union (s t : CodeSet) : CodeSet := ⟨s.ranges ++ t.ranges⟩

def unions (sets : List CodeSet) : CodeSet := sets.foldr union empty

/-- The set listed under a name. -/
def named? (table : List (List String × CodeSet)) (name : String) : Option CodeSet :=
  (table.find? fun entry => entry.1.contains name).map (·.2)

/-- What ranges, sorted by their first element, leave out from `lo` upwards. -/
def gaps (lo : Nat) : List (Nat × Nat) → List (Nat × Nat)
  | [] => if lo ≤ top then [(lo, top)] else []
  | (a, b) :: rest =>
    if lo < a then (lo, a - 1) :: gaps (max lo (b + 1)) rest else gaps (max lo (b + 1)) rest

/-- The code points outside a set. -/
def compl (s : CodeSet) : CodeSet :=
  ⟨gaps 0 (s.ranges.mergeSort fun r t => r.1 ≤ t.1)⟩

def inter (s t : CodeSet) : CodeSet := (s.compl.union t.compl).compl

def diff (s t : CodeSet) : CodeSet := s.inter t.compl

def symmDiff (s t : CodeSet) : CodeSet := (s.union t).diff (s.inter t)

/-- The same set as sorted ranges that neither overlap nor touch. -/
def normal (s : CodeSet) : CodeSet := s.compl.compl

/-- Whether every member is an ASCII code point. -/
def isAscii (s : CodeSet) : Bool := s.ranges.all fun r => r.2 ≤ 0x7F

/-! ## Reading tables -/

/-- The value of a hexadecimal digit. -/
def hexDigit (c : Char) : Nat :=
  if c.toNat ≤ 0x39 then c.toNat - 0x30 else c.toNat - 0x37

/-- The value of a hexadecimal number. -/
def hexNumber (cs : List Char) : Nat := cs.foldl (fun n c => 16 * n + hexDigit c) 0

/-- The groups of numbers that a table's text lists: hyphens join numbers to a group, blanks and line
breaks separate groups. -/
def groups (s : String) : List (List Nat) :=
  let words := (s.toList.splitOnP fun c => c = ' ' || c = '\n').filter fun w => !w.isEmpty
  words.map fun w => (w.splitOn '-').map hexNumber

/-- The set that a table's text describes. -/
def ofText (s : String) : CodeSet := ⟨(groups s).map fun g => (g.headD 0, g.getLastD 0)⟩

end CodeSet

end MusicLibrary.Unicode

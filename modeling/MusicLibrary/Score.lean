/-!
# Scores

A score is a double, given by its bits: a sign, and a magnitude in the order of its bits. Two orders
matter. `Score.rank` puts all doubles in line, from the negative NaNs over the negative numbers,
the two zeros and the positive numbers to the positive NaNs. `Score.Reaches` compares numbers, so
that the zeros are equal and a NaN compares with nothing.
-/

namespace MusicLibrary

/-- A double by its bits. -/
structure Score where
  bits : UInt64
deriving DecidableEq, Inhabited, Repr

namespace Score

/-- The score 1. -/
def one : Score := ⟨0x3FF0000000000000⟩

/-- The score 0. -/
def zero : Score := ⟨0⟩

/-- The bits of infinity: no number has a larger magnitude. -/
def infinity : Nat := 0x7FF0000000000000

/-- The bits without the sign. -/
def magnitude (s : Score) : Nat := s.bits.toNat % 0x8000000000000000

/-- Whether the sign bit is set. -/
def negative (s : Score) : Bool := 0x8000000000000000 ≤ s.bits.toNat

def isNaN (s : Score) : Bool := infinity < s.magnitude

/-- The place of a score in the line of all doubles. -/
def rank (s : Score) : Int :=
  if s.negative then -(s.magnitude : Int) - 1 else s.magnitude

/-- The place of a number among the numbers: the zeros share theirs. -/
def level (s : Score) : Int :=
  if s.negative then -(s.magnitude : Int) else s.magnitude

/-- A score reaches a threshold if both are numbers and it is not the smaller one. -/
def Reaches (s threshold : Score) : Prop :=
  s.isNaN = false ∧ threshold.isNaN = false ∧ threshold.level ≤ s.level

instance (s t : Score) : Decidable (s.Reaches t) := inferInstanceAs (Decidable (_ ∧ _ ∧ _))

theorem level_le_of_rank_le {s t : Score} (h : s.rank ≤ t.rank) : s.level ≤ t.level := by
  by_cases hs : s.negative = true <;> by_cases ht : t.negative = true <;>
    simp only [rank, level, hs, ht, if_true, if_false, Bool.false_eq_true] at h ⊢ <;> omega

end Score

end MusicLibrary

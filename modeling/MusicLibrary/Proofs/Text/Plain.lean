import Mathlib.Data.List.DropRight
import Mathlib.Tactic.SplitIfs
import MusicLibrary.Proofs.Text.Digits
import MusicLibrary.Unicode.LowerCase

/-!
# Texts that are left as they are

A text without blanks at its ends is not changed by trimming, and one of small ASCII characters not by
lower case. The numeral of an integer is such a text, and is read back as that integer
(`int64?_numeral`).
-/

namespace MusicLibrary

/-- The letters of ASCII have their usual lower case. -/
theorem Unicode.lowerFrom_of_ascii {cs : List Char} (h : ∀ c ∈ cs, c.toNat < 0x80) (before : List Char) :
    lowerFrom before cs = cs.map Char.toLower := by
  induction cs generalizing before with
  | nil => rfl
  | cons c cs ih =>
    obtain ⟨hc, hcs⟩ := List.forall_mem_cons.1 h
    have hsigma : c ≠ 'Σ' := by
      rintro rfl
      exact absurd hc (by decide)
    rw [lowerFrom, if_neg hsigma, lowerChar, if_pos hc, ih hcs]
    rfl

theorem lowerCase_eq_self {s : String} (h : ∀ c ∈ s.toList, c.toNat < 0x80 ∧ c.toLower = c) :
    lowerCase s = s := by
  have hself : s.toList.map Char.toLower = s.toList.map id :=
    List.map_congr_left fun c hc => (h c hc).2
  rw [lowerCase, Unicode.lowerFrom_of_ascii fun c hc => (h c hc).1, hself, List.map_id,
    String.ofList_toList]

namespace Text

/-! ## Blanks at the ends -/

/-- A text without leading blanks has none either once its trailing blanks are gone. -/
theorem trimLeft_trim (cs : List Char) : trimLeft (trim cs) = trim cs := by
  refine List.dropWhile_eq_self_iff.2 fun hlength => ?_
  have hfirst : trimRight (trimLeft cs) <+: trimLeft cs := List.rdropWhile_prefix _ _
  have hleft : 0 < (trimLeft cs).length := hlength.trans_le hfirst.length_le
  have hsame : (trim cs)[0] = (trimLeft cs)[0] := hfirst.getElem hlength
  rw [hsame]
  exact List.dropWhile_get_zero_not isBlank cs hleft

theorem trim_trim (cs : List Char) : trim (trim cs) = trim cs := by
  rw [trim, trimLeft_trim]
  exact List.rdropWhile_idempotent isBlank (trimLeft cs)

theorem trim_cons {c : Char} (hc : isBlank c = true) (cs : List Char) : trim (c :: cs) = trim cs := by
  rw [trim, trimLeft, List.dropWhile_cons_of_pos hc]
  rfl

theorem trim_of_forall {cs : List Char} (h : ∀ c ∈ cs, isBlank c = false) : trim cs = cs := by
  have hleft : trimLeft cs = cs :=
    List.dropWhile_eq_self_iff.2 fun hlength => by simp [h _ (List.getElem_mem hlength)]
  rw [trim, hleft]
  exact List.rdropWhile_eq_self_iff.2 fun hne => by simp [h _ (List.getLast_mem hne)]

theorem mem_of_mem_trim {c : Char} {cs : List Char} (h : c ∈ trim cs) : c ∈ cs :=
  (List.dropWhile_sublist _).subset ((List.rdropWhile_prefix isBlank _).subset h)

/-- Blanks at the ends of a text do not matter. -/
theorem trim_append {before after : List Char} (hbefore : ∀ c ∈ before, isBlank c = true)
    (hafter : ∀ c ∈ after, isBlank c = true) (cs : List Char) :
    trim (before ++ cs ++ after) = trim cs := by
  have hright : ∀ cs, trimRight (cs ++ after) = trimRight cs := by
    intro cs
    have hreverse : ∀ c ∈ after.reverse, isBlank c = true := fun c hc => hafter c (List.mem_reverse.1 hc)
    rw [trimRight, List.reverse_append, List.dropWhile_append_of_pos hreverse]
    rfl
  rw [trim, trim, List.append_assoc, trimLeft, List.dropWhile_append_of_pos hbefore,
    List.dropWhile_append]
  split_ifs with hempty
  · rw [trimLeft, List.isEmpty_iff.1 hempty, List.dropWhile_eq_nil_iff.2 hafter]
  · exact hright _

/-- A text is what is left of it when it is trimmed, with blanks at its ends. -/
theorem exists_eq_append_trim (cs : List Char) : ∃ before after, cs = before ++ trim cs ++ after ∧
    (∀ c ∈ before, isBlank c = true) ∧ ∀ c ∈ after, isBlank c = true := by
  refine ⟨cs.takeWhile isBlank, (trimLeft cs).rtakeWhile isBlank, ?_,
    fun c hc => List.mem_takeWhile_imp hc, fun c hc => List.mem_rtakeWhile_imp hc⟩
  have hright : trim cs ++ (trimLeft cs).rtakeWhile isBlank = trimLeft cs :=
    List.rdropWhile_append_rtakeWhile
  rw [List.append_assoc, hright]
  exact List.takeWhile_append_dropWhile.symm

/-! ## Parts -/

/-- No part that a list is split into has the separator. -/
theorem not_mem_of_mem_splitOn {α : Type} [DecidableEq α] {x : α} {part cs : List α}
    (h : part ∈ cs.splitOn x) : x ∉ part := by
  induction cs generalizing part with
  | nil =>
    obtain rfl := List.mem_singleton.1 h
    exact List.not_mem_nil
  | cons c cs ih =>
    rw [List.splitOn_cons_eq_if_modifyHead] at h
    split_ifs at h with hc
    · rcases List.mem_cons.1 h with rfl | h
      · exact List.not_mem_nil
      · exact ih h
    · obtain ⟨first, rest, hparts⟩ := List.exists_cons_of_ne_nil (List.splitOn_ne_nil x cs)
      rw [hparts] at h ih
      rcases List.mem_cons.1 h with rfl | h
      · intro hx
        rcases List.mem_cons.1 hx with rfl | hx
        · exact hc (beq_self_eq_true _)
        · exact ih (.head _) hx
      · exact ih (.tail _ h)

/-! ## Numerals -/

theorem natural?_digits (n : Nat) : natural? (digits n) = some n := by
  have hdigits : (digits n).all Char.isDigit = true :=
    List.all_eq_true.2 fun c => isDigit_of_mem_digits
  have hvalue : digitsValue (digits n) = n := Nat.ofDigitChars_ten_toDigits
  simp [natural?, hdigits, hvalue, digits_ne_nil]

/-- The numeral of an integer of 64 bits is read as that integer. -/
theorem int64?_numeral {n : Int} (hn : FitsInt64 n) : int64? (numeral n) = some n := by
  have hfits : (some n).filter (fun n => decide (FitsInt64 n)) = some n := by
    rw [Option.filter_some, if_pos (decide_eq_true hn)]
  have hvalue := natural?_digits n.natAbs
  rw [numeral]
  split_ifs with hneg
  · have hsign : -(n.natAbs : Int) = n := by omega
    rw [int64?, hvalue]
    show (some (-(n.natAbs : Int))).filter _ = _
    rw [hsign, hfits]
  · have hsign : (n.natAbs : Int) = n := by omega
    obtain ⟨c, cs, hc⟩ := List.exists_cons_of_ne_nil (digits_ne_nil n.natAbs)
    have hdigit : c.isDigit = true := isDigit_of_mem_digits (by rw [hc]; exact .head _)
    rw [hc] at hvalue ⊢
    unfold int64?
    split
    · rename_i heq
      cases heq
      cases hdigit
    · rename_i heq
      cases heq
      cases hdigit
    · rw [hvalue]
      show (some (n.natAbs : Int)).filter _ = _
      rw [hsign, hfits]

theorem trim_numeral (n : Int) : trim (numeral n) = numeral n := by
  have hright := trimRight_append (digits_ne_nil n.natAbs) (fun c => isDigit_of_mem_digits)
  rw [trim, numeral]
  split_ifs
  · rw [trimLeft_cons (by decide)]
    exact hright ['-']
  · have hleft := trimLeft_append (digits_ne_nil n.natAbs) (fun c => isDigit_of_mem_digits) []
    rw [List.append_nil] at hleft
    rw [hleft]
    exact hright []

theorem numeral_ne_nil (n : Int) : numeral n ≠ [] := by
  rw [numeral]
  split_ifs
  · exact List.cons_ne_nil _ _
  · exact digits_ne_nil _

end Text

end MusicLibrary

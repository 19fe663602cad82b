import MusicLibrary.Text.Blank
import MusicLibrary.Text.Numeral

/-!
# Digits

Numbers that are written with zeros in front are read back. Digits are no blanks, so a text that
starts and ends with other than blanks has none to trim.
-/

namespace MusicLibrary.Text

theorem digits_ne_nil (n : Nat) : digits n ≠ [] := Nat.toDigits_ne_nil

theorem isDigit_of_mem_digits {n : Nat} {c : Char} (h : c ∈ digits n) : c.isDigit = true :=
  Nat.isDigit_of_mem_toDigits (by decide) (by decide) h

theorem isDigit_of_mem_padded {width n : Nat} {c : Char} (h : c ∈ padded width n) :
    c.isDigit = true := by
  rcases List.mem_append.1 h with h | h
  · rw [List.eq_of_mem_replicate h]
    rfl
  · exact isDigit_of_mem_digits h

theorem padded_ne_nil (width n : Nat) : padded width n ≠ [] :=
  fun h => digits_ne_nil n (List.append_eq_nil_iff.1 h).2

theorem length_padded_le {width n : Nat} (hw : 0 < width) (hn : n < Nat.pow 10 width) :
    (padded width n).length ≤ width := by
  have : (digits n).length ≤ width := (Nat.length_toDigits_le_iff (by decide) hw).2 hn
  rw [padded, List.length_append, List.length_replicate]
  omega

theorem digitsValue_padded (width n : Nat) : digitsValue (padded width n) = n := by
  show Nat.ofDigitChars 10 (padded width n) 0 = n
  rw [padded, Nat.ofDigitChars_append, Nat.ofDigitChars_replicate_zero, Nat.mul_zero]
  exact Nat.ofDigitChars_ten_toDigits

/-! ## Blanks -/

theorem isBlank_of_isDigit {c : Char} (h : c.isDigit = true) : isBlank c = false := by
  have hd : 48 ≤ c.toNat ∧ c.toNat ≤ 57 := Char.isDigit_iff_toNat.1 h
  simp only [isBlank, Bool.or_eq_false_iff, Bool.and_eq_false_iff, decide_eq_false_iff_not,
    beq_eq_false_iff_ne]
  omega

theorem trimLeft_cons {c : Char} (hc : isBlank c = false) (cs : List Char) :
    trimLeft (c :: cs) = c :: cs := by
  rw [trimLeft, List.dropWhile_cons_of_neg (by simp [hc])]

/-- Digits in front of a text keep its blanks from being trimmed there. -/
theorem trimLeft_append {ds : List Char} (hne : ds ≠ []) (hds : ∀ c ∈ ds, c.isDigit = true)
    (cs : List Char) : trimLeft (ds ++ cs) = ds ++ cs := by
  obtain ⟨d, ds, rfl⟩ := List.exists_cons_of_ne_nil hne
  exact trimLeft_cons (isBlank_of_isDigit (hds d (.head _))) _

theorem trimRight_append {ds : List Char} (hne : ds ≠ []) (hds : ∀ c ∈ ds, c.isDigit = true)
    (cs : List Char) : trimRight (cs ++ ds) = cs ++ ds := by
  have hne' : ds.reverse ≠ [] := by simpa using hne
  have h := trimLeft_append hne' (fun c hc => hds c (List.mem_reverse.1 hc)) cs.reverse
  rw [trimLeft, ← List.reverse_append] at h
  rw [trimRight, h, List.reverse_reverse]

end MusicLibrary.Text

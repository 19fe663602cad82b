import Mathlib.Data.List.Infix
import Mathlib.Data.List.TakeWhile
import Mathlib.Tactic.SplitIfs
import MusicLibrary.Text.Wildcard

/-!
# Texts that are searched literally

A text with an escape before each character that means something in a pattern matches the texts that are
equal to it but for the case of letters (`like_literal_iff`), and between wildcards the texts that contain it
(`like_around_literal_iff`).
-/

namespace MusicLibrary.Text

variable {p : List Wild} {c d : Char} {cs ds w : List Char}

/-! ## The table of a pattern -/

theorem wildTable_ne_nil (cs : List Char) (p : List Wild) : wildTable cs p ≠ [] := by
  induction p with
  | nil => simp [wildTable]
  | cons e p ih =>
    obtain ⟨b, bs, hbs⟩ := List.exists_cons_of_ne_nil ih
    cases e <;> simp [wildTable, anyRight, hbs]

/-- The table of a text has a first entry for the text and then the table of the text after its first
character. -/
theorem wildTable_cons (c : Char) (cs : List Char) (p : List Wild) :
    wildTable (c :: cs) p = wildMatches p (c :: cs) :: wildTable cs p := by
  suffices hex : ∃ b, wildTable (c :: cs) p = b :: wildTable cs p by
    obtain ⟨b, hb⟩ := hex
    rw [wildMatches, hb, List.headD_cons]
  induction p with
  | nil => exact ⟨false, rfl⟩
  | cons e p ih =>
    obtain ⟨b, hb⟩ := ih
    obtain ⟨b', bs, hbs⟩ := List.exists_cons_of_ne_nil (wildTable_ne_nil cs p)
    cases e <;> simp [wildTable, anyRight, hb, hbs]

theorem wildTable_nil (p : List Wild) : wildTable [] p = [wildMatches p []] := by
  suffices hex : ∃ b, wildTable [] p = [b] by
    obtain ⟨b, hb⟩ := hex
    rw [wildMatches, hb, List.headD_cons]
  induction p with
  | nil => exact ⟨true, rfl⟩
  | cons e p ih =>
    obtain ⟨b, hb⟩ := ih
    cases e <;> simp [wildTable, anyRight, hb]

@[simp]
theorem wildMatches_nil : wildMatches [] cs = cs.isEmpty := by cases cs <;> rfl

@[simp]
theorem wildMatches_lit_cons :
    wildMatches (.lit c :: p) (d :: ds) = (sameFolded c d && wildMatches p ds) := by
  have hrest : wildMatches p ds = (wildTable ds p).headD false := rfl
  obtain ⟨b, bs, hbs⟩ := List.exists_cons_of_ne_nil (wildTable_ne_nil ds p)
  rw [hrest, wildMatches, wildTable, wildTable_cons, List.tail_cons, hbs]
  rfl

@[simp]
theorem wildMatches_run_nil : wildMatches (.run :: p) [] = wildMatches p [] := by
  rw [wildMatches, wildTable, wildTable_nil]
  exact Bool.or_false _

@[simp]
theorem wildMatches_run_cons :
    wildMatches (.run :: p) (d :: ds) = (wildMatches p (d :: ds) || wildMatches (.run :: p) ds) := by
  rw [wildMatches, wildTable, wildTable_cons]
  rfl

/-! ## What patterns match -/

/-- A text with its ASCII letters in lower case. -/
def folded (cs : List Char) : List Char := cs.map Char.toLower

/-- A run stands for any characters in front. -/
theorem wildMatches_run_iff : wildMatches (.run :: p) cs ↔ ∃ ds, ds <:+ cs ∧ wildMatches p ds := by
  induction cs with
  | nil => simp
  | cons c cs ih =>
    rw [wildMatches_run_cons, Bool.or_eq_true_iff, ih]
    simp only [List.suffix_cons_iff, or_and_right, exists_or, exists_eq_left]

/-- Characters in a pattern stand for themselves, but for the case of letters. -/
theorem wildMatches_append_iff : wildMatches (w.map .lit ++ p) cs ↔
    ∃ as ds, cs = as ++ ds ∧ folded as = folded w ∧ wildMatches p ds := by
  induction w generalizing cs with
  | nil => simp [folded]
  | cons c w ih =>
    cases cs with
    | nil =>
      have hno : wildMatches (.lit c :: (w.map .lit ++ p)) [] = false := rfl
      simp [folded, hno]
    | cons d cs =>
      rw [List.map_cons, List.cons_append, wildMatches_lit_cons, Bool.and_eq_true_iff, ih]
      constructor
      · rintro ⟨hcd, as, ds, rfl, has, hds⟩
        refine ⟨d :: as, ds, rfl, ?_, hds⟩
        exact congrArg₂ List.cons (beq_iff_eq.1 hcd).symm has
      · rintro ⟨as, ds, heq, has, hds⟩
        cases as with
        | nil => cases has
        | cons a as =>
          obtain ⟨rfl, rfl⟩ := List.cons.inj heq
          obtain ⟨hac, has⟩ := List.cons.inj has
          exact ⟨beq_iff_eq.2 hac.symm, as, ds, rfl, has, hds⟩

theorem wildMatches_literal_iff : wildMatches (w.map .lit) cs ↔ folded cs = folded w := by
  rw [← List.append_nil (w.map Wild.lit), wildMatches_append_iff]
  constructor
  · rintro ⟨as, ds, rfl, has, hds⟩
    rw [wildMatches_nil, List.isEmpty_iff] at hds
    rw [hds, List.append_nil, has]
  · intro h
    exact ⟨cs, [], (List.append_nil cs).symm, h, rfl⟩

/-- Between runs characters match a text that contains them. -/
theorem wildMatches_around_iff :
    wildMatches (.run :: (w.map .lit ++ [.run])) cs ↔ folded w <:+: folded cs := by
  have hall : ∀ ds, wildMatches [.run] ds = true := fun ds =>
    wildMatches_run_iff.2 ⟨[], List.nil_suffix, rfl⟩
  simp only [wildMatches_run_iff, wildMatches_append_iff, hall, and_true]
  constructor
  · rintro ⟨-, ⟨front, rfl⟩, as, ds, rfl, has⟩
    refine ⟨folded front, folded ds, ?_⟩
    simp only [folded, List.map_append, List.append_assoc] at has ⊢
    rw [has]
  · rintro ⟨front, back, heq⟩
    obtain ⟨cs₁, cs₂, rfl, hcs₁, hback⟩ := List.append_eq_map_iff.1 heq
    obtain ⟨as₁, as₂, rfl, hfront, hw⟩ := List.append_eq_map_iff.1 hcs₁.symm
    exact ⟨as₂ ++ cs₂, ⟨as₁, (List.append_assoc ..).symm⟩, as₂, cs₂, rfl, hw⟩

/-! ## Escapes -/

/-- A text with an escape before each character that means something in a pattern. -/
def literal (cs : List Char) : List Char :=
  cs.flatMap fun c => if c = '%' ∨ c = '_' ∨ c = wildEscape then [wildEscape, c] else [c]

theorem literal_cons (c : Char) (cs : List Char) : literal (c :: cs) =
    (if c = '%' ∨ c = '_' ∨ c = wildEscape then [wildEscape, c] else [c]) ++ literal cs :=
  List.flatMap_cons

theorem mem_or_eq_of_mem_literal (h : c ∈ literal cs) : c ∈ cs ∨ c = wildEscape := by
  obtain ⟨d, hd, hcd⟩ := List.mem_flatMap.1 h
  split_ifs at hcd
  · rcases List.mem_cons.1 hcd with rfl | hc
    · exact .inr rfl
    · exact .inl (List.mem_singleton.1 hc ▸ hd)
  · exact .inl (List.mem_singleton.1 hcd ▸ hd)

theorem head?_literal (h : cs.head? = some c) :
    (literal cs).head? = some c ∨ (literal cs).head? = some wildEscape := by
  obtain ⟨cs, rfl⟩ := List.head?_eq_some_iff.1 h
  rw [literal_cons]
  split_ifs
  · exact .inr rfl
  · exact .inl rfl

theorem wilds?_cons (h : c ≠ wildEscape) (cs : List Char) : wilds? (c :: cs) =
    (wilds? cs).map ((if c = '%' then .run else if c = '_' then .one else .lit c) :: ·) := by
  rw [wilds?.eq_def]
  split <;> simp_all [wildEscape]

theorem wilds?_literal_append (w cs : List Char) :
    wilds? (literal w ++ cs) = (wilds? cs).map (w.map .lit ++ ·) := by
  induction w with
  | nil => simp [literal]
  | cons c w ih =>
    rw [literal_cons, List.append_assoc]
    split_ifs with hc
    · show wilds? ('/' :: c :: (literal w ++ cs)) = _
      rw [wilds?, ih, Option.map_map]
      rfl
    · obtain ⟨hrun, hone, hescape⟩ : c ≠ '%' ∧ c ≠ '_' ∧ c ≠ wildEscape := by simpa using hc
      rw [List.singleton_append, wilds?_cons hescape, if_neg hrun, if_neg hone, ih, Option.map_map]
      rfl

/-! ## Matching -/

theorem beforeNull_eq_self (h : '\x00' ∉ cs) : beforeNull cs = cs := by
  refine List.takeWhile_eq_self_iff.2 fun c hc => ?_
  have hne : c ≠ '\x00' := fun he => h (he ▸ hc)
  simpa using hne

theorem not_mem_literal (h : '\x00' ∉ w) : '\x00' ∉ literal w := fun hmem =>
  (mem_or_eq_of_mem_literal hmem).elim h (by decide)

/-- A pattern and a text without null characters are compared as a whole. -/
theorem like_eq {v : String} (hp : wilds? cs = some p) (hcs : '\x00' ∉ cs) (hv : '\x00' ∉ v.toList) :
    like (.ofList cs) v = wildMatches p v.toList := by
  simp only [like, String.toList_ofList, beforeNull_eq_self hcs, beforeNull_eq_self hv, hp]

theorem wilds?_literal (w : List Char) : wilds? (literal w) = some (w.map .lit) := by
  simpa [wilds?] using wilds?_literal_append w []

theorem wilds?_around_literal (w : List Char) :
    wilds? ('%' :: (literal w ++ ['%'])) = some (.run :: (w.map .lit ++ [.run])) := by
  have hcs := wilds?_literal_append w ['%']
  rw [wilds?_cons (by decide), hcs]
  rfl

/-- A literal text matches what is equal to it but for the case of ASCII letters. -/
theorem like_literal_iff {v : String} (hw : '\x00' ∉ w) (hv : '\x00' ∉ v.toList) :
    like (.ofList (literal w)) v ↔ folded v.toList = folded w := by
  rw [like_eq (wilds?_literal w) (not_mem_literal hw) hv]
  exact wildMatches_literal_iff

/-- A literal text between wildcards matches what contains it but for the case of ASCII letters. -/
theorem like_around_literal_iff {v : String} (hw : '\x00' ∉ w) (hv : '\x00' ∉ v.toList) :
    like (.ofList ('%' :: (literal w ++ ['%']))) v ↔ folded w <:+: folded v.toList := by
  have hnull : '\x00' ∉ '%' :: (literal w ++ ['%']) := by
    simp [not_mem_literal hw]
  rw [like_eq (wilds?_around_literal w) hnull hv]
  exact wildMatches_around_iff

end MusicLibrary.Text

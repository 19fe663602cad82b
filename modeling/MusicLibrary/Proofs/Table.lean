import Mathlib.Data.List.Nodup

/-!
# Tables

What the tables of a store have in common. A `Table` has its rows in ascending order of their
numbers, none above the last number given, and two keys that no two rows share. Writing a row keeps
this if the row is `Free`: no row of another number has one of its keys.
-/

namespace MusicLibrary

variable {ρ κ : Type} {num : ρ → Int} {key : ρ → κ} {path : ρ → String} {last : Int}
  {rows : List ρ} {r q : ρ}

theorem nodup_eraseDups {α : Type} [BEq α] [LawfulBEq α] (as : List α) : as.eraseDups.Nodup := by
  rcases as with _ | ⟨a, as⟩
  · exact List.nodup_nil
  · rw [List.eraseDups_cons, List.nodup_cons]
    refine ⟨?_, nodup_eraseDups _⟩
    simp [List.mem_eraseDups]
termination_by as.length
decreasing_by
  have := List.length_filter_le (fun b => !b == a) as
  simp only [List.length_cons]
  omega

theorem eraseDups_append_singleton {α : Type} [DecidableEq α] (as : List α) (a : α) :
    (as ++ [a]).eraseDups = if a ∈ as then as.eraseDups else as.eraseDups ++ [a] := by
  rw [List.eraseDups_append]
  by_cases ha : a ∈ as <;> simp [List.removeAll, List.eraseDups_cons, ha]

/-- A key without repeats belongs to one member of a list only, if it belongs to any. -/
theorem eq_of_nodup_filterMap {key? : ρ → Option κ} {k : κ} (h : (rows.filterMap key?).Nodup)
    (hr : r ∈ rows) (hq : q ∈ rows) (hrk : key? r = some k) (hqk : key? q = some k) : r = q := by
  have hpairs : rows.Pairwise fun r q => key? r = some k → key? q = some k → r = q :=
    (List.pairwise_filterMap.1 h).imp fun hrq hr hq => absurd rfl (hrq k hr k hq)
  exact List.Pairwise.forall_of_forall_of_flip (fun _ _ _ _ => rfl) hpairs
    (hpairs.imp fun hrq hq hr => (hrq hr hq).symm) hr hq hrk hqk

/-- Rows in order of their numbers, with two keys that no two of them share. -/
structure Table (num : ρ → Int) (key : ρ → κ) (path : ρ → String) (last : Int) (rows : List ρ) :
    Prop where
  ascending : rows.Pairwise fun r q => num r < num q
  numbered : ∀ r ∈ rows, num r ≤ last
  keys : (rows.map key).Nodup
  paths : (rows.map path).Nodup

/-- No row of another number has a key of `r`. -/
def Free (num : ρ → Int) (key : ρ → κ) (path : ρ → String) (rows : List ρ) (r : ρ) : Prop :=
  ∀ q ∈ rows, num q ≠ num r → key q ≠ key r ∧ path q ≠ path r

/-- A row is free if a search of the other rows for either of its keys finds nothing. -/
theorem free_iff [DecidableEq κ] : Free num key path rows r ↔
    (rows.filter (num · ≠ num r)).any (key · = key r) = false ∧
      (rows.filter (num · ≠ num r)).any (path · = path r) = false := by
  simp only [Free, List.any_eq_false, List.mem_filter, decide_eq_true_eq, and_imp]
  exact ⟨fun h => ⟨fun q hq hn => (h q hq hn).1, fun q hq hn => (h q hq hn).2⟩,
    fun h q hq hn => ⟨h.1 q hq hn, h.2 q hq hn⟩⟩

/-- The rows with `r` in the place of the row of its number. -/
def replaceRow (num : ρ → Int) (r : ρ) (rows : List ρ) : List ρ :=
  rows.map fun q => if num q = num r then r else q

theorem mem_replaceRow : q ∈ replaceRow num r rows ↔
    (q ∈ rows ∧ num q ≠ num r) ∨ (q = r ∧ ∃ q' ∈ rows, num q' = num r) := by
  simp only [replaceRow, List.mem_map]
  constructor
  · rintro ⟨q', hq', rfl⟩
    by_cases h : num q' = num r
    · exact .inr ⟨if_pos h, q', hq', h⟩
    · rw [if_neg h]
      exact .inl ⟨hq', h⟩
  · rintro (⟨hq, h⟩ | ⟨rfl, q', hq', h⟩)
    · exact ⟨q, hq, if_neg h⟩
    · exact ⟨q', hq', if_pos h⟩

theorem map_num_replaceRow : (replaceRow num r rows).map num = rows.map num := by
  simp only [replaceRow, List.map_map]
  refine List.map_congr_left fun q _ => ?_
  by_cases h : num q = num r <;> simp [h]

/-- A key stays without repeats if the row that is put in has it to itself. -/
theorem nodup_map_replaceRow {β : Type} {f : ρ → β} (hn : (rows.map num).Nodup)
    (hf : (rows.map f).Nodup) (hr : ∀ q ∈ rows, num q ≠ num r → f q ≠ f r) :
    ((replaceRow num r rows).map f).Nodup := by
  induction rows with
  | nil => exact .nil
  | cons a rows ih =>
    rw [List.map_cons, List.nodup_cons] at hn hf
    have ih := ih hn.2 hf.2 fun q hq => hr q (.tail _ hq)
    rw [replaceRow, List.map_cons, List.map_cons, List.nodup_cons]
    refine ⟨fun h => ?_, ih⟩
    obtain ⟨q, hq, hfq⟩ := List.mem_map.1 h
    rcases mem_replaceRow.1 hq with ⟨hq, hne⟩ | ⟨rfl, q', hq', hn'⟩
    · by_cases ha : num a = num r
      · rw [if_pos ha] at hfq
        exact hr q (.tail _ hq) hne hfq
      · rw [if_neg ha] at hfq
        exact hf.1 (hfq ▸ List.mem_map_of_mem hq)
    · have ha : num a ≠ num q := fun ha => hn.1 (ha ▸ hn' ▸ List.mem_map_of_mem hq')
      rw [if_neg ha] at hfq
      exact hr a (.head _) ha hfq.symm

namespace Table

theorem nil : Table num key path last [] :=
  ⟨.nil, fun _ h => absurd h List.not_mem_nil, .nil, .nil⟩

theorem nodup_nums (h : Table num key path last rows) : (rows.map num).Nodup :=
  List.pairwise_map.2 (h.ascending.imp fun hlt => Int.ne_of_lt hlt)

theorem eq_of_num (h : Table num key path last rows) (hr : r ∈ rows) (hq : q ∈ rows)
    (he : num r = num q) : r = q :=
  List.inj_on_of_nodup_map h.nodup_nums hr hq he

theorem eq_of_key (h : Table num key path last rows) (hr : r ∈ rows) (hq : q ∈ rows)
    (he : key r = key q) : r = q :=
  List.inj_on_of_nodup_map h.keys hr hq he

theorem eq_of_path (h : Table num key path last rows) (hr : r ∈ rows) (hq : q ∈ rows)
    (he : path r = path q) : r = q :=
  List.inj_on_of_nodup_map h.paths hr hq he

/-- Two tables with the same rows have them in the same order. -/
theorem eq_of_mem_iff {last' : Int} {rows' : List ρ} (h : Table num key path last rows)
    (h' : Table num key path last' rows') (hmem : ∀ r, r ∈ rows ↔ r ∈ rows') : rows = rows' := by
  have hperm : rows.Perm rows' :=
    (List.perm_ext_iff_of_nodup h.nodup_nums.of_map h'.nodup_nums.of_map).2 hmem
  refine hperm.eq_of_pairwise ?_ h.ascending h'.ascending
  intro r q _ _ hrq hqr
  omega

/-- What a search finds is accepted, and no row of a lower number is. -/
theorem lowest_of_find? (h : Table num key path last rows) {p : ρ → Bool}
    (hf : rows.find? p = some r) :
    r ∈ rows ∧ p r = true ∧ ∀ q ∈ rows, num q < num r → p q = false := by
  obtain ⟨hp, before, after, rfl, hno⟩ := List.find?_eq_some_iff_append.1 hf
  refine ⟨List.mem_append_right _ (.head _), hp, fun q hq hlt => ?_⟩
  have hasc := h.ascending
  rw [List.pairwise_append, List.pairwise_cons] at hasc
  rcases List.mem_append.1 hq with hq | hq
  · simpa using hno q hq
  · rcases List.mem_cons.1 hq with rfl | hq
    · exact absurd hlt (Int.lt_irrefl _)
    · exact absurd (hasc.2.1.1 q hq) (Int.not_lt.2 (Int.le_of_lt hlt))

theorem find?_eq_some (h : Table num key path last rows) {p : ρ → Bool} : rows.find? p = some r ↔
    r ∈ rows ∧ p r = true ∧ ∀ q ∈ rows, num q < num r → p q = false := by
  refine ⟨h.lowest_of_find?, ?_⟩
  rintro ⟨hr, hp, hno⟩
  obtain ⟨q, hf⟩ := Option.isSome_iff_exists.1 (List.find?_isSome.2 ⟨r, hr, hp⟩)
  obtain ⟨hq, hpq, hnoq⟩ := h.lowest_of_find? hf
  rcases Int.lt_trichotomy (num q) (num r) with hlt | heq | hlt
  · simp [hno q hq hlt] at hpq
  · rw [hf, h.eq_of_num hq hr heq]
  · simp [hnoq r hr hlt] at hp

/-- A row that is stored already may be written. -/
theorem free (h : Table num key path last rows) (hr : r ∈ rows) : Free num key path rows r :=
  fun _ hq hne => ⟨fun hk => hne (by rw [h.eq_of_key hq hr hk]),
    fun hp => hne (by rw [h.eq_of_path hq hr hp])⟩

/-- Replacing a stored row by itself changes nothing. -/
theorem replaceRow_eq (h : Table num key path last rows) (hr : r ∈ rows) :
    replaceRow num r rows = rows := by
  rw [replaceRow]
  conv_rhs => rw [← List.map_id rows]
  refine List.map_congr_left fun q hq => ?_
  by_cases he : num q = num r
  · rw [if_pos he, h.eq_of_num hq hr he]
    rfl
  · rw [if_neg he]
    rfl

theorem filter (h : Table num key path last rows) (p : ρ → Bool) :
    Table num key path last (rows.filter p) where
  ascending := h.ascending.filter p
  numbered r hr := h.numbered r (List.mem_of_mem_filter hr)
  keys := h.keys.sublist (List.filter_sublist.map key)
  paths := h.paths.sublist (List.filter_sublist.map path)

theorem replaceRow (h : Table num key path last rows) (hr : Free num key path rows r) :
    Table num key path last (replaceRow num r rows) where
  ascending := by
    rw [← List.pairwise_map (f := num) (R := (· < ·)), map_num_replaceRow, List.pairwise_map]
    exact h.ascending
  numbered q hq := by
    rcases mem_replaceRow.1 hq with ⟨hq, _⟩ | ⟨rfl, q', hq', he⟩
    · exact h.numbered q hq
    · exact he ▸ h.numbered q' hq'
  keys := nodup_map_replaceRow h.nodup_nums h.keys fun q hq hne => (hr q hq hne).1
  paths := nodup_map_replaceRow h.nodup_nums h.paths fun q hq hne => (hr q hq hne).2

/-- A row under the next number goes to the end of a table. -/
theorem append (h : Table num key path last rows) (hn : num r = last + 1)
    (hr : Free num key path rows r) : Table num key path (last + 1) (rows ++ [r]) := by
  have hlt : ∀ q ∈ rows, num q < num r := fun q hq => by
    have := h.numbered q hq
    omega
  have hfree := fun q hq => hr q hq (Int.ne_of_lt (hlt q hq))
  refine ⟨?_, fun q hq => ?_, ?_, ?_⟩
  · rw [List.pairwise_append]
    exact ⟨h.ascending, List.pairwise_singleton _ _, by simpa using hlt⟩
  · rcases List.mem_append.1 hq with hq | hq
    · have := h.numbered q hq
      omega
    · have hqr : num q = num r := congrArg num (List.mem_singleton.1 hq)
      exact Int.le_of_eq (hqr.trans hn)
  · rw [List.map_append, List.map_singleton, List.nodup_append]
    exact ⟨h.keys, List.nodup_singleton _, by simpa using fun q hq => (hfree q hq).1⟩
  · rw [List.map_append, List.map_singleton, List.nodup_append]
    exact ⟨h.paths, List.nodup_singleton _, by simpa using fun q hq => (hfree q hq).2⟩

end Table

/-! ## What has been written -/

/-- The rows of `new` have been written to a table: they are there, each in the place of the row of
its number, and all other rows are as they were. -/
def Written (num : ρ → Int) (rows rows' new : List ρ) : Prop :=
  ∀ r, r ∈ rows' ↔ r ∈ new ∨ (r ∈ rows ∧ ∀ q ∈ new, num q ≠ num r)

theorem written_nil : Written num rows rows [] := fun r => by simp

theorem written_replaceRow (h : ∃ q ∈ rows, num q = num r) :
    Written num rows (replaceRow num r rows) [r] := fun q => by
  rw [mem_replaceRow, List.mem_singleton]
  simp only [List.mem_singleton, forall_eq, h, and_true, ne_comm (a := num r)]
  exact or_comm

theorem written_append (h : ∀ q ∈ rows, num q ≠ num r) : Written num rows (rows ++ [r]) [r] :=
  fun q => by
    rw [List.mem_append, or_comm]
    simp only [List.mem_singleton, forall_eq]
    exact or_congr_right ⟨fun hq => ⟨hq, (h q hq).symm⟩, fun hq => hq.1⟩

theorem Written.append {rows₁ rows₂ new₁ new₂ : List ρ} (h₁ : Written num rows rows₁ new₁)
    (h₂ : Written num rows₁ rows₂ new₂) (hne : ∀ r ∈ new₁, ∀ q ∈ new₂, num q ≠ num r) :
    Written num rows rows₂ (new₁ ++ new₂) := fun q => by
  rw [h₂ q, h₁ q]
  simp only [List.mem_append, or_imp, forall_and]
  constructor
  · rintro (hq | ⟨hq | ⟨hq, hnew₁⟩, hnew₂⟩)
    · exact .inl (.inr hq)
    · exact .inl (.inl hq)
    · exact .inr ⟨hq, hnew₁, hnew₂⟩
  · rintro ((hq | hq) | ⟨hq, hnew₁, hnew₂⟩)
    · exact .inr ⟨.inl hq, fun q' hq' => hne q hq q' hq'⟩
    · exact .inl hq
    · exact .inr ⟨.inr ⟨hq, hnew₁⟩, hnew₂⟩

/-- Only the rows whose numbers are not written matter before. -/
theorem Written.of_mem_iff {rows' new rest : List ρ} (h : Written num rows rows' new)
    (hrest : ∀ r, (∀ q ∈ new, num q ≠ num r) → (r ∈ rows ↔ r ∈ rest)) :
    Written num rest rows' new := fun r => by
  rw [h r]
  exact or_congr_right (and_congr_left fun hr => hrest r hr)

/-- A number that a row had still has a row. -/
theorem Written.exists_num {rows' new : List ρ} (h : Written num rows rows' new) {k : Int}
    (hk : ∃ q ∈ rows, num q = k) : ∃ q ∈ rows', num q = k := by
  obtain ⟨q, hq, rfl⟩ := hk
  by_cases hnew : ∃ q' ∈ new, num q' = num q
  · obtain ⟨q', hq', he⟩ := hnew
    exact ⟨q', (h q').2 (.inl hq'), he⟩
  · exact ⟨q, (h q).2 (.inr ⟨hq, fun q' hq' he => hnew ⟨q', hq', he⟩⟩), rfl⟩

end MusicLibrary

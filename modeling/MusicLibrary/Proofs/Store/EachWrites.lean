import MusicLibrary.Proofs.Store.Preservation

/-!
# Writing values one after the other

The tracks of an album are written one after the other, and so are its extras. What both have in
common is `EachWrites`: one run gives the value a number, its own or a new one, and what the runs
have written adds up as long as the numbers differ. `EachWrites.run` says it of a whole list.
-/

namespace MusicLibrary.Progress

variable {α : Type}

theorem each_cons_of_ok {f : Store → α → Progress α} {st : Store} {a : α} {as : List α}
    (h : (f st a).fault? = none) :
    each f st (a :: as) = (each f (f st a).store as).map ((f st a).value :: ·) := by
  simp [each, h]

theorem each_cons_of_fault {f : Store → α → Progress α} {st : Store} {a : α} {e : Fault}
    (as : List α) (h : (f st a).fault? = some e) : (each f st (a :: as)).fault? = some e := by
  simp [each, h]

/-- If all runs on a list go well, so do the first and those after it. -/
theorem ok_of_each_cons {f : Store → α → Progress α} {st : Store} {a : α} {as : List α}
    (h : (each f st (a :: as)).fault? = none) :
    (f st a).fault? = none ∧ (each f (f st a).store as).fault? = none := by
  rcases hf : (f st a).fault? with _ | e
  · rw [each_cons_of_ok hf] at h
    exact ⟨rfl, h⟩
  · rw [each_cons_of_fault as hf] at h
    cases h

theorem each_singleton (f : Store → α → Progress α) (st : Store) (a : α) :
    each f st [a] = (f st a).map ([·]) := by
  rcases hf : (f st a).fault? with _ | e
  · rw [each_cons_of_ok hf, Progress.map, Progress.map, hf]
    rfl
  · simp [each, hf, Progress.map]

/-- Two runs go well if the first does, and then the second. -/
theorem each_pair_ok_iff {f : Store → α → Progress α} {st : Store} {a b : α} :
    (each f st [a, b]).fault? = none ↔
      (f st a).fault? = none ∧ (f (f st a).store b).fault? = none := by
  constructor
  · intro hok
    obtain ⟨ha, hb⟩ := ok_of_each_cons hok
    rw [each_singleton] at hb
    exact ⟨ha, hb⟩
  · rintro ⟨ha, hb⟩
    rw [each_cons_of_ok ha, each_singleton]
    exact hb

theorem each_pair_store {f : Store → α → Progress α} {st : Store} {a b : α}
    (ha : (f st a).fault? = none) : (each f st [a, b]).store = (f (f st a).store b).store := by
  rw [each_cons_of_ok ha, each_singleton]
  rfl

/-- If all runs on a list go well, what follows it is run on the store they leave. -/
theorem each_append_of_ok {f : Store → α → Progress α} {st : Store} {as : List α} (bs : List α)
    (h : (each f st as).fault? = none) :
    each f st (as ++ bs) = (each f (each f st as).store bs).map ((each f st as).value ++ ·) := by
  induction as generalizing st with
  | nil => rfl
  | cons a as ih =>
    obtain ⟨hok₁, hok₂⟩ := ok_of_each_cons h
    rw [List.cons_append, each_cons_of_ok hok₁, each_cons_of_ok hok₁, ih hok₂]
    rfl

/-- If each run succeeds on what the store holds and keeps what is `Kept`, so do the runs on a
list. -/
theorem each_of_kept (f : Store → α → Progress α) (Inv : Store → Prop) (Held : Store → α → Prop)
    (Became : α → α → Prop) (Kept : Store → Store → Prop) (hrefl : ∀ st, Kept st st)
    (htrans : ∀ {st st₁ st'}, Kept st st₁ → Kept st₁ st' → Kept st st') {as : List α} {st : Store}
    (h : Inv st) (has : ∀ a ∈ as, Held st a)
    (hf : ∀ st a, Inv st → Held st a →
      (f st a).fault? = none ∧ Became a (f st a).value ∧ Kept st (f st a).store)
    (hinv : ∀ st a, Inv st → Inv (f st a).store)
    (hheld : ∀ st st' a, Kept st st' → Held st a → Held st' a) :
    (each f st as).fault? = none ∧ List.Forall₂ Became as (each f st as).value ∧
      Kept st (each f st as).store ∧ Inv (each f st as).store := by
  induction as generalizing st with
  | nil => exact ⟨rfl, .nil, hrefl st, h⟩
  | cons a as ih =>
    obtain ⟨hok, hvalue, hkept⟩ := hf st a h (has a (.head _))
    obtain ⟨hoks, hvalues, hkepts, hinvs⟩ :=
      ih (hinv st a h) fun b hb => hheld st _ b hkept (has b (.tail _ hb))
    rw [each_cons_of_ok hok]
    exact ⟨hoks, .cons hvalue hvalues, htrans hkept hkepts, hinvs⟩

/-- What values have become by being numbered with `number`: each has a number, its own if it had
one, and is the same otherwise. -/
def Numbered (id? : α → Option Int) (number : α → Int → α) (as bs : List α) : Prop :=
  List.Forall₂ (fun a b => ∃ k, b = number a k ∧ ∀ k', id? a = some k' → k' = k) as bs

/-- How values are written one by one: `id?` is the number of a value and `number` gives it one,
`Has st k` says that a row has the number `k`, and `Wrote st as st'` that the values `as`, all of
which have numbers, have been written. -/
structure EachWrites (f : Store → α → Progress α) (id? : α → Option Int) (number : α → Int → α)
    (Inv : Store → Prop) (Has : Store → Int → Prop) (Wrote : Store → List α → Store → Prop) :
    Prop where
  id?_number : ∀ a k, id? (number a k) = some k
  one : ∀ {st a}, Inv st → (∀ k, id? a = some k → Has st k) → (f st a).fault? = none →
    ∃ k, (f st a).value = number a k ∧ (id? a = some k ∨ id? a = none ∧ ¬ Has st k) ∧
      Inv (f st a).store ∧ Wrote st [number a k] (f st a).store
  nil : ∀ {st}, Wrote st [] st
  cons : ∀ {st st₁ st₂ a as}, Wrote st [a] st₁ → Wrote st₁ as st₂ → (∀ b ∈ as, id? b ≠ id? a) →
    Wrote st (a :: as) st₂
  keeps : ∀ {st as st' k}, Wrote st as st' → Has st k → Has st' k
  has : ∀ {st as st' a k}, Wrote st as st' → a ∈ as → id? a = some k → Has st' k

/-- Values are written one after the other, whatever list they stand in. The numbers of the values
that have been written differ, and each is new or was listed. -/
theorem EachWrites.run {f : Store → α → Progress α} {id? : α → Option Int}
    {number : α → Int → α} {Inv : Store → Prop} {Has : Store → Int → Prop}
    {Wrote : Store → List α → Store → Prop} (h : EachWrites f id? number Inv Has Wrote)
    {as : List α} {st : Store} (hst : Inv st)
    (hnodup : (as.filterMap id?).Nodup) (hknown : ∀ k ∈ as.filterMap id?, Has st k)
    (hok : (each f st as).fault? = none) :
    Inv (each f st as).store ∧ Wrote st (each f st as).value (each f st as).store ∧
      Numbered id? number as (each f st as).value ∧
      ((each f st as).value.filterMap id?).Nodup ∧
      ∀ k ∈ (each f st as).value.filterMap id?, k ∈ as.filterMap id? ∨ ¬ Has st k := by
  induction as generalizing st with
  | nil => exact ⟨hst, h.nil, .nil, .nil, fun k hk => absurd hk List.not_mem_nil⟩
  | cons a as ih =>
    obtain ⟨hok₁, hok₂⟩ := ok_of_each_cons hok
    have ha : ∀ k, id? a = some k → Has st k := fun k hk =>
      hknown k (List.mem_filterMap.2 ⟨a, .head _, hk⟩)
    obtain ⟨k, hvalue₁, hcase, hst₁, hw₁⟩ := h.one hst ha hok₁
    have hk := h.id?_number a k
    have hsub : (as.filterMap id?).Sublist ((a :: as).filterMap id?) :=
      (List.sublist_cons_self a as).filterMap id?
    obtain ⟨hst₂, hw₂, hnum, hnodup₂, hnew⟩ := ih hst₁ (hnodup.sublist hsub)
      (fun k' hk' => h.keeps hw₁ (hknown k' (hsub.subset hk'))) hok₂
    -- the number of the first value is not listed again, and it has a row when the others are written
    have hkas : k ∉ as.filterMap id? := by
      rcases hcase with hak | ⟨-, hfresh⟩
      · rw [List.filterMap_cons_some hak, List.nodup_cons] at hnodup
        exact hnodup.1
      · exact fun hmem => hfresh (hknown k (hsub.subset hmem))
    have hfirst : ∀ k' ∈ (each f (f st a).store as).value.filterMap id?, k' ≠ k := by
      rintro k' hk' rfl
      rcases hnew k' hk' with hmem | hfresh
      · exact hkas hmem
      · exact hfresh (h.has hw₁ (List.mem_singleton_self _) hk)
    rw [each_cons_of_ok hok₁, hvalue₁]
    show _ ∧ Wrote st (number a k :: _) _ ∧ Numbered id? number _ (number a k :: _) ∧
      (List.filterMap id? (number a k :: _)).Nodup ∧ ∀ k' ∈ List.filterMap id? (number a k :: _), _
    rw [List.filterMap_cons_some hk]
    refine ⟨hst₂, h.cons hw₁ hw₂ fun b hb hbk => ?_, .cons ⟨k, rfl, fun k' hk' => ?_⟩ hnum,
      List.nodup_cons.2 ⟨fun hmem => hfirst k hmem rfl, hnodup₂⟩, fun k' hk' => ?_⟩
    · exact hfirst k (List.mem_filterMap.2 ⟨b, hb, hbk.trans hk⟩) rfl
    · rcases hcase with hak | ⟨hnone, -⟩
      · exact Option.some.inj (hk'.symm.trans hak)
      · rw [hnone] at hk'
        cases hk'
    · rcases List.mem_cons.1 hk' with rfl | hk'
      · rcases hcase with hak | ⟨-, hfresh⟩
        · exact .inl (List.mem_filterMap.2 ⟨a, .head _, hak⟩)
        · exact .inr hfresh
      · rcases hnew k' hk' with hmem | hfresh
        · exact .inl (hsub.subset hmem)
        · exact .inr fun hhas => hfresh (h.keeps hw₁ hhas)

end MusicLibrary.Progress

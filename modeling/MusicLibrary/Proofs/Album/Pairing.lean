import MusicLibrary.Album.Merge

/-!
# What a pairing pairs

A candidate is accepted if it reaches the threshold and clashes with none accepted before. So
accepted candidates do not clash with each other, and every candidate that reaches the threshold is
accepted or clashes with one that is. For tracks, under a threshold above 0 and up to 1, reaching
the threshold means standing at the same position.
-/

namespace MusicLibrary

namespace Candidate

variable {threshold : Score} {taken cs : List Candidate} {c d : Candidate}

theorem clashes_comm : c.clashes d = d.clashes c := by
  simp only [clashes, eq_comm]

/-- Whether a candidate is accepted after those in `taken`. -/
def Fits (threshold : Score) (taken : List Candidate) (c : Candidate) : Prop :=
  c.score.Reaches threshold ∧ ∀ d ∈ taken, c.clashes d = false

theorem accept_cons_of_fits (h : Fits threshold taken c) :
    accept threshold taken (c :: cs) = c :: accept threshold (c :: taken) cs := by
  rw [accept, if_pos ⟨h.1, by simpa using h.2⟩]

theorem accept_cons_of_not_fits (h : ¬ Fits threshold taken c) :
    accept threshold taken (c :: cs) = accept threshold taken cs := by
  rw [accept, if_neg fun hc => h ⟨hc.1, by simpa using hc.2⟩]

theorem accept_sublist : (accept threshold taken cs).Sublist cs := by
  induction cs generalizing taken with
  | nil => exact .slnil
  | cons c cs ih =>
    by_cases hc : Fits threshold taken c
    · rw [accept_cons_of_fits hc]
      exact ih.cons_cons c
    · rw [accept_cons_of_not_fits hc]
      exact ih.cons c

/-- Every accepted candidate fits after those that were taken at the start. -/
theorem fits_of_mem_accept (h : c ∈ accept threshold taken cs) : Fits threshold taken c := by
  induction cs generalizing taken with
  | nil => exact absurd h List.not_mem_nil
  | cons b cs ih =>
    by_cases hb : Fits threshold taken b
    · rw [accept_cons_of_fits hb] at h
      rcases List.mem_cons.1 h with rfl | h
      · exact hb
      · exact ⟨(ih h).1, fun d hd => (ih h).2 d (.tail _ hd)⟩
    · rw [accept_cons_of_not_fits hb] at h
      exact ih h

theorem pairwise_accept : (accept threshold taken cs).Pairwise fun c d => c.clashes d = false := by
  induction cs generalizing taken with
  | nil => exact .nil
  | cons c cs ih =>
    by_cases hc : Fits threshold taken c
    · rw [accept_cons_of_fits hc]
      refine .cons (fun d hd => ?_) ih
      rw [clashes_comm]
      exact (fits_of_mem_accept hd).2 c (.head _)
    · rw [accept_cons_of_not_fits hc]
      exact ih

/-- Among candidates in an order, one that reaches the threshold is passed over only for one that is
ahead of it or was taken before. -/
theorem mem_accept_or_exists_clash {R : Candidate → Candidate → Prop} (taken : List Candidate)
    (hcs : cs.Pairwise R) (hc : c ∈ cs) (hr : c.score.Reaches threshold) :
    c ∈ accept threshold taken cs ∨ (∃ d ∈ taken, c.clashes d = true) ∨
      ∃ d ∈ accept threshold taken cs, R d c ∧ c.clashes d = true := by
  induction cs generalizing taken with
  | nil => exact absurd hc List.not_mem_nil
  | cons b cs ih =>
    obtain ⟨hb, hcs⟩ := List.pairwise_cons.1 hcs
    by_cases hfits : Fits threshold taken b
    · rw [accept_cons_of_fits hfits]
      rcases List.mem_cons.1 hc with rfl | hrest
      · exact .inl (.head _)
      · rcases ih (b :: taken) hcs hrest with hin | ⟨d, hd, hcd⟩ | ⟨d, hd, hdc, hcd⟩
        · exact .inl (.tail _ hin)
        · rcases List.mem_cons.1 hd with rfl | hd
          · exact .inr (.inr ⟨d, .head _, hb c hrest, hcd⟩)
          · exact .inr (.inl ⟨d, hd, hcd⟩)
        · exact .inr (.inr ⟨d, .tail _ hd, hdc, hcd⟩)
    · rw [accept_cons_of_not_fits hfits]
      rcases List.mem_cons.1 hc with rfl | hc
      · rw [Fits, not_and] at hfits
        exact .inr (.inl (by simpa using hfits hr))
      · exact ih taken hcs hc

theorem mem_all {n m : Nat} {score : Nat → Nat → Score} :
    c ∈ all n m score ↔ c.left < n ∧ c.right < m ∧ c.score = score c.left c.right := by
  simp only [all, List.mem_flatMap, List.mem_map, List.mem_range]
  constructor
  · rintro ⟨i, hi, j, hj, rfl⟩
    exact ⟨hi, hj, rfl⟩
  · rintro ⟨hi, hj, hs⟩
    exact ⟨c.left, hi, c.right, hj, by rw [← hs]⟩

theorem mem_visits {n m : Nat} {score : Nat → Nat → Score} :
    c ∈ visits n m score ↔ c.left < n ∧ c.right < m ∧ c.score = score c.left c.right :=
  (List.mergeSort_perm _ _).mem_iff.trans mem_all

end Candidate

section

variable {n m : Nat} {threshold : Score} {score : Nat → Nat → Score} {c d : Candidate}

theorem of_mem_accepted (h : c ∈ accepted n m threshold score) :
    c.left < n ∧ c.right < m ∧ (score c.left c.right).Reaches threshold := by
  obtain ⟨hi, hj, hs⟩ := Candidate.mem_visits.1 (Candidate.accept_sublist.subset h)
  exact ⟨hi, hj, hs ▸ (Candidate.fits_of_mem_accept h).1⟩

/-- Two accepted candidates that need the same item are one. -/
theorem eq_of_clashes (hc : c ∈ accepted n m threshold score) (hd : d ∈ accepted n m threshold score)
    (h : c.clashes d = true) : c = d := by
  have hpairs : (accepted n m threshold score).Pairwise fun c d => c.clashes d = false :=
    Candidate.pairwise_accept
  exact List.Pairwise.forall_of_forall_of_flip (R := fun c d => c.clashes d = true → c = d)
    (fun _ _ _ => rfl) (hpairs.imp fun hcd hdc => absurd hdc (by simp [hcd]))
    (hpairs.imp fun hcd hdc => absurd hdc (by simp [Candidate.clashes_comm, hcd])) hc hd h

/-- If two items could be partners, one of them has a partner. -/
theorem exists_accepted_of_reaches {i j : Nat} (hi : i < n) (hj : j < m)
    (h : (score i j).Reaches threshold) :
    ∃ c ∈ accepted n m threshold score, c.left = i ∨ c.right = j := by
  have hvisited : (⟨i, j, score i j⟩ : Candidate) ∈ Candidate.visits n m score :=
    Candidate.mem_visits.2 ⟨hi, hj, rfl⟩
  have hvisits : (Candidate.visits n m score).Pairwise fun _ _ => True :=
    List.pairwise_of_forall fun _ _ => trivial
  rcases Candidate.mem_accept_or_exists_clash [] hvisits hvisited h with hin | ⟨d, hd, -⟩ | ⟨d, hd, -, hclash⟩
  · exact ⟨_, hin, .inl rfl⟩
  · exact absurd hd List.not_mem_nil
  · have hclash : i = d.left ∨ j = d.right := by simpa [Candidate.clashes] using hclash
    exact ⟨d, hd, hclash.imp Eq.symm Eq.symm⟩

theorem partner?_pairing (i : Nat) : partner? (pairing n m threshold score) i =
    (accepted n m threshold score).findSome? fun c => if c.left = i then some c.right else none := by
  have hnone : ∀ is : List Nat, is.findSome? (fun _ => (none : Option Nat)) = none :=
    fun is => List.findSome?_eq_none_iff.2 fun _ _ => rfl
  simp [partner?, pairing, List.findSome?_append, List.findSome?_map, Function.comp_def, hnone]

/-- The partner of a left item is the right item of the accepted candidate that needs it. -/
theorem partner?_pairing_eq_some {i j : Nat} : partner? (pairing n m threshold score) i = some j ↔
    ∃ c ∈ accepted n m threshold score, c.left = i ∧ c.right = j := by
  rw [partner?_pairing]
  constructor
  · intro h
    obtain ⟨c, hc, hcj⟩ := List.exists_of_findSome?_eq_some h
    by_cases hci : c.left = i
    · exact ⟨c, hc, hci, by simpa [hci] using hcj⟩
    · simp [hci] at hcj
  · rintro ⟨c, hc, rfl, rfl⟩
    rcases hp : (accepted n m threshold score).findSome?
        (fun d => if d.left = c.left then some d.right else none) with _ | j
    · have hno := List.findSome?_eq_none_iff.1 hp c hc
      simp at hno
    · obtain ⟨d, hd, hdj⟩ := List.exists_of_findSome?_eq_some hp
      by_cases hdc : d.left = c.left
      · rw [if_pos hdc, eq_of_clashes hd hc (by simp [Candidate.clashes, hdc])] at hdj
        exact hp.trans hdj.symm
      · simp [hdc] at hdj

theorem mem_newcomers {pairs : List (Pair Nat Nat)} {j : Nat} : j ∈ newcomers pairs ↔ .right j ∈ pairs := by
  rw [newcomers, List.mem_filterMap]
  constructor
  · rintro ⟨p, hp, hpj⟩
    cases p with
    | right l => exact Option.some.inj hpj ▸ hp
    | both k l => cases hpj
    | left k => cases hpj
  · intro hj
    exact ⟨_, hj, rfl⟩

/-- The right items without a partner are those that no accepted candidate needs. -/
theorem mem_newcomers_pairing {j : Nat} : j ∈ newcomers (pairing n m threshold score) ↔
    j < m ∧ ∀ c ∈ accepted n m threshold score, c.right ≠ j := by
  rw [mem_newcomers]
  simp [pairing, leftOver]

end

/-! ## Tracks -/

namespace Score

/-- A number above 0 and up to 1. -/
def WithinOne (t : Score) : Prop := t.isNaN = false ∧ zero.level < t.level ∧ t.level ≤ one.level

theorem WithinOne.one_reaches {t : Score} (h : t.WithinOne) : one.Reaches t :=
  ⟨by decide, h.1, h.2.2⟩

theorem WithinOne.not_zero_reaches {t : Score} (h : t.WithinOne) : ¬ zero.Reaches t :=
  fun hz => absurd hz.2.2 (Int.not_le.2 h.2.1)

end Score

namespace Track

variable {ts us : List Track} {threshold : Score} {i j : Nat}

/-- Two tracks reach a threshold above 0 and up to 1 if they stand at the same position. -/
theorem scoreAt_reaches (h : threshold.WithinOne) (hi : i < ts.length) (hj : j < us.length) :
    (scoreAt ts us i j).Reaches threshold ↔ ts[i].position = us[j].position := by
  rw [scoreAt, List.getElem?_eq_getElem hi, List.getElem?_eq_getElem hj]
  by_cases hp : ts[i].position = us[j].position
  · simp [score, hp, h.one_reaches]
  · simp [score, hp, h.not_zero_reaches]

/-- Partners stand at the same position. -/
theorem partner?_position (h : threshold.WithinOne)
    (hp : partner? (pairing ts us threshold) i = some j) :
    ∃ (hi : i < ts.length) (hj : j < us.length), ts[i].position = us[j].position := by
  obtain ⟨c, hc, rfl, rfl⟩ := partner?_pairing_eq_some.1 hp
  obtain ⟨hi, hj, hr⟩ := of_mem_accepted hc
  exact ⟨hi, hj, (scoreAt_reaches h hi hj).1 hr⟩

/-- If a right track has no partner, a left track at its position has another one. -/
theorem partner?_of_mem_newcomers (h : threshold.WithinOne)
    (hnew : j ∈ newcomers (pairing ts us threshold)) (hi : i < ts.length) (hj : j < us.length)
    (hp : ts[i].position = us[j].position) :
    ∃ k, k ≠ j ∧ partner? (pairing ts us threshold) i = some k := by
  obtain ⟨-, hno⟩ := mem_newcomers_pairing.1 hnew
  obtain ⟨c, hc, hleft | hright⟩ :=
    exists_accepted_of_reaches hi hj ((scoreAt_reaches h hi hj).2 hp)
  · exact ⟨c.right, hno c hc, partner?_pairing_eq_some.2 ⟨c, hc, hleft, rfl⟩⟩
  · exact absurd hright (hno c hc)

/-- A right track is a newcomer or has one partner. -/
theorem mem_newcomers_or (ts : List Track) (threshold : Score) (hj : j < us.length) :
    j ∈ newcomers (pairing ts us threshold) ∨
      ∃ i, partner? (pairing ts us threshold) i = some j := by
  by_cases hc : ∃ c ∈ accepted ts.length us.length threshold (scoreAt ts us), c.right = j
  · obtain ⟨c, hc, hcj⟩ := hc
    exact .inr ⟨c.left, partner?_pairing_eq_some.2 ⟨c, hc, rfl, hcj⟩⟩
  · exact .inl (mem_newcomers_pairing.2 ⟨hj, fun c hc' hcj => hc ⟨c, hc', hcj⟩⟩)

end Track

end MusicLibrary

import MusicLibrary.Proofs.Album.Pairing
import MusicLibrary.Proofs.Table

/-!
# Pairings are greedy

Which pairs of a `GreedyPairing` are accepted is settled from the first visited pair to the last one: a
pair is accepted if it reaches the threshold and no accepted pair ahead of it needs one of its items
(`GreedyPairing.both_mem_iff`). So a relation that answers to the same rule holds of exactly the
accepted pairs (`GreedyPairing.both_mem_iff_of_settled`), and there is one greedy pairing of two lists
of items, which is the one that `pairing` makes (`greedyPairing_iff`). Tracks at one position each are
visited in the order of their numbers (`Track.both_mem_pairing_iff_of_position`).
-/

namespace MusicLibrary

/-- A stable sort keeps the order of what it does not distinguish. -/
theorem pairwise_mergeSort_stable {α : Type} {R : α → α → Prop} (le : α → α → Bool)
    (htrans : ∀ a b c, le a b = true → le b c = true → le a c = true)
    (htotal : ∀ a b, (le a b || le b a) = true) {as : List α} (h : as.Pairwise R) :
    (as.mergeSort le).Pairwise fun a b => le a b = true ∧ (le b a = true → R a b) := by
  -- the sort by `le` is the sort by `le` and then by the place in the list
  have hsorted := List.pairwise_mergeSort (List.zipIdxLE_trans htrans) (List.zipIdxLE_total htotal) as.zipIdx
  have hdistinct : (as.zipIdx.map (·.2)).Nodup := by
    rw [List.zipIdx_map_snd]
    exact List.nodup_range'
  have hperm := List.mergeSort_perm as.zipIdx (List.zipIdxLE le)
  have hplaces := List.pairwise_map.1 ((hperm.map (·.2)).nodup_iff.2 hdistinct)
  rw [← List.mergeSort_zipIdx, List.pairwise_map]
  refine (hsorted.and hplaces).imp_of_mem fun {p q} hp hq hpq => ?_
  obtain ⟨a, i⟩ := p
  obtain ⟨b, j⟩ := q
  obtain ⟨hi, rfl⟩ := List.getElem?_eq_some_iff.1 (List.mk_mem_zipIdx_iff_getElem?.1 (hperm.mem_iff.1 hp))
  obtain ⟨hj, rfl⟩ := List.getElem?_eq_some_iff.1 (List.mk_mem_zipIdx_iff_getElem?.1 (hperm.mem_iff.1 hq))
  obtain ⟨hle, hne⟩ := hpq
  simp only [List.zipIdxLE] at hle
  by_cases hij : le as[i] as[j] = true
  · refine ⟨hij, fun hji => List.pairwise_iff_getElem.1 h i j hi hj ?_⟩
    simp only [hij, hji, if_true, decide_eq_true_eq] at hle
    exact Nat.lt_of_le_of_ne hle hne
  · simp [hij] at hle

/-! ## The order of visits -/

theorem Score.rank_lt (s : Score) : s.rank < 0x8000000000000000 := by
  have hmagnitude : s.magnitude < 0x8000000000000000 := Nat.mod_lt _ (by decide)
  rw [rank]
  split_ifs <;> omega

/-- Whether a pair of items is visited before another one: its score has the higher rank, or the same
rank, and then its left item has the lower number, or the same and its right item has the lower one. -/
def Ahead (score : Nat → Nat → Score) (p q : Nat × Nat) : Prop :=
  (score q.1 q.2).rank < (score p.1 p.2).rank ∨
    (score p.1 p.2).rank = (score q.1 q.2).rank ∧ (p.1 < q.1 ∨ p.1 = q.1 ∧ p.2 < q.2)

section Ahead

variable {score : Nat → Nat → Score} {p q : Nat × Nat}

theorem not_ahead_self (score : Nat → Nat → Score) (p : Nat × Nat) : ¬ Ahead score p p := by
  simp [Ahead]

theorem Ahead.asymm (h : Ahead score p q) : ¬ Ahead score q p := by
  unfold Ahead at *
  omega

/-- Only so many pairs are ahead of a pair, as scores have a highest rank. -/
theorem wellFounded_ahead (score : Nat → Nat → Score) : WellFounded (Ahead score) := by
  let depth (p : Nat × Nat) : Nat × Nat × Nat :=
    ((0x8000000000000000 - (score p.1 p.2).rank).toNat, p.1, p.2)
  have hlex : WellFounded (Prod.Lex (· < ·) (Prod.Lex (· < ·) (· < ·)) : Nat × Nat × Nat → _ → Prop) :=
    (Prod.lex Nat.lt_wfRel (Prod.lex Nat.lt_wfRel Nat.lt_wfRel)).wf
  refine Subrelation.wf (fun {p q} h => ?_) (InvImage.wf depth hlex)
  have hp := (score p.1 p.2).rank_lt
  have hq := (score q.1 q.2).rank_lt
  show Prod.Lex _ _ (depth p) (depth q)
  simp only [depth, Prod.lex_def]
  unfold Ahead at h
  omega

end Ahead

namespace Candidate

/-- The numbers of the two items. -/
def items (c : Candidate) : Nat × Nat := (c.left, c.right)

theorem pairwise_all (n m : Nat) (score : Nat → Nat → Score) :
    (all n m score).Pairwise fun c d => c.left < d.left ∨ c.left = d.left ∧ c.right < d.right := by
  refine List.pairwise_flatMap.2 ⟨fun i _ => ?_, ?_⟩
  · exact List.pairwise_map.2 (List.pairwise_lt_range.imp fun hlt => .inr ⟨rfl, hlt⟩)
  · refine List.pairwise_lt_range.imp fun {i k} hik c hc d hd => .inl ?_
    obtain ⟨_, -, rfl⟩ := List.mem_map.1 hc
    obtain ⟨_, -, rfl⟩ := List.mem_map.1 hd
    exact hik

theorem pairwise_visits (n m : Nat) (score : Nat → Nat → Score) :
    (visits n m score).Pairwise fun c d => Ahead score c.items d.items := by
  have hstable := pairwise_mergeSort_stable precedes
    (fun c d e hcd hde => by simp only [precedes, decide_eq_true_eq] at *; omega)
    (fun c d => by simp only [precedes, Bool.or_eq_true, decide_eq_true_eq]; omega)
    (pairwise_all n m score)
  refine List.Pairwise.imp_of_mem (fun {c d} hc hd hcd => ?_) hstable
  obtain ⟨hle, htie⟩ := hcd
  simp only [precedes, decide_eq_true_eq, (mem_visits.1 hc).2.2, (mem_visits.1 hd).2.2] at hle htie
  simp only [Ahead, items]
  omega

end Candidate

/-! ## Greedy pairings -/

/-- Whether a line stands before another one: pairs in the order of visits, then left items without
partner, then right ones, in the order of their numbers. -/
def Pair.Before (score : Nat → Nat → Score) : Pair Nat Nat → Pair Nat Nat → Prop
  | .both i j, .both k l => Ahead score (i, j) (k, l)
  | .both _ _, _ => True
  | .left i, .left k => i < k
  | .left _, .right _ => True
  | .right j, .right l => j < l
  | _, _ => False

theorem Pair.not_before_self (score : Nat → Nat → Score) (p : Pair Nat Nat) : ¬ p.Before score p := by
  cases p <;> simp [Before, not_ahead_self]

theorem Pair.Before.asymm {score : Nat → Nat → Score} {p q : Pair Nat Nat} (h : p.Before score q) :
    ¬ q.Before score p := by
  cases p <;> cases q <;> simp only [Before, not_false_eq_true] at *
  · exact h.asymm
  · omega
  · omega

/-- The lines of a stable greedy pairing of `n` left and `m` right items: every item stands in one
line, pairs reach the threshold, the lines are in order, and a pair that reaches the threshold is missing
only where one of its items is in a pair ahead of it. -/
structure GreedyPairing (n m : Nat) (threshold : Score) (score : Nat → Nat → Score)
    (pairs : List (Pair Nat Nat)) : Prop where
  lefts : (pairs.filterMap (·.left?)).Perm (List.range n)
  rights : (pairs.filterMap (·.right?)).Perm (List.range m)
  reaches : ∀ i j, .both i j ∈ pairs → (score i j).Reaches threshold
  ordered : pairs.Pairwise (Pair.Before score)
  stable : ∀ i < n, ∀ j < m, (score i j).Reaches threshold → .both i j ∉ pairs →
    ∃ k l, .both k l ∈ pairs ∧ (k = i ∨ l = j) ∧ Ahead score (k, l) (i, j)

section

variable {n m : Nat} {threshold : Score} {score : Nat → Nat → Score} {pairs pairs' : List (Pair Nat Nat)}
  {p q : Pair Nat Nat} {i j : Nat}

namespace GreedyPairing

theorem nodup (h : GreedyPairing n m threshold score pairs) : pairs.Nodup :=
  h.ordered.imp fun {p _} hpq => by
    rintro rfl
    exact p.not_before_self score hpq

theorem eq_of_left (h : GreedyPairing n m threshold score pairs) (hp : p ∈ pairs) (hq : q ∈ pairs)
    (hpi : p.left? = some i) (hqi : q.left? = some i) : p = q :=
  eq_of_nodup_filterMap (h.lefts.nodup_iff.2 List.nodup_range) hp hq hpi hqi

theorem eq_of_right (h : GreedyPairing n m threshold score pairs) (hp : p ∈ pairs) (hq : q ∈ pairs)
    (hpj : p.right? = some j) (hqj : q.right? = some j) : p = q :=
  eq_of_nodup_filterMap (h.rights.nodup_iff.2 List.nodup_range) hp hq hpj hqj

theorem exists_left_iff (h : GreedyPairing n m threshold score pairs) :
    (∃ p ∈ pairs, p.left? = some i) ↔ i < n := by
  rw [← List.mem_filterMap, h.lefts.mem_iff, List.mem_range]

theorem exists_right_iff (h : GreedyPairing n m threshold score pairs) :
    (∃ p ∈ pairs, p.right? = some j) ↔ j < m := by
  rw [← List.mem_filterMap, h.rights.mem_iff, List.mem_range]

/-- A pair is accepted if it reaches the threshold and no accepted pair ahead of it needs one of its
items. -/
theorem both_mem_iff (h : GreedyPairing n m threshold score pairs) : .both i j ∈ pairs ↔
    i < n ∧ j < m ∧ (score i j).Reaches threshold ∧
      ∀ k l, .both k l ∈ pairs → Ahead score (k, l) (i, j) → k ≠ i ∧ l ≠ j := by
  constructor
  · intro hij
    refine ⟨h.exists_left_iff.1 ⟨_, hij, rfl⟩, h.exists_right_iff.1 ⟨_, hij, rfl⟩, h.reaches i j hij, ?_⟩
    intro k l hkl hahead
    have hne : (.both k l : Pair Nat Nat) ≠ .both i j := by
      rintro heq
      cases heq
      exact not_ahead_self score _ hahead
    exact ⟨fun hki => hne (h.eq_of_left hkl hij (congrArg some hki) rfl),
      fun hlj => hne (h.eq_of_right hkl hij (congrArg some hlj) rfl)⟩
  · rintro ⟨hi, hj, hreaches, hfree⟩
    by_contra hno
    obtain ⟨k, l, hkl, hclash, hahead⟩ := h.stable i hi j hj hreaches hno
    obtain ⟨hk, hl⟩ := hfree k l hkl hahead
    exact hclash.elim hk hl

/-- A relation that accepts pairs by the rule of `both_mem_iff` holds of the accepted pairs. -/
theorem both_mem_iff_of_settled (h : GreedyPairing n m threshold score pairs) {P : Nat → Nat → Prop}
    (hP : ∀ i < n, ∀ j < m, P i j ↔ (score i j).Reaches threshold ∧
      ∀ k < n, ∀ l < m, P k l → Ahead score (k, l) (i, j) → k ≠ i ∧ l ≠ j)
    (hi : i < n) (hj : j < m) : .both i j ∈ pairs ↔ P i j := by
  -- along the order of visits: both sides say the same of all pairs ahead
  have hall : ∀ p : Nat × Nat, p.1 < n → p.2 < m → (.both p.1 p.2 ∈ pairs ↔ P p.1 p.2) := by
    intro p
    induction p using (wellFounded_ahead score).induction with
    | h p ih =>
      intro hp₁ hp₂
      rw [h.both_mem_iff, hP _ hp₁ _ hp₂]
      constructor
      · rintro ⟨-, -, hreaches, hfree⟩
        exact ⟨hreaches, fun k hk l hl hkl ha => hfree k l ((ih (k, l) ha hk hl).2 hkl) ha⟩
      · rintro ⟨hreaches, hfree⟩
        refine ⟨hp₁, hp₂, hreaches, fun k l hkl ha => ?_⟩
        have hk : k < n := h.exists_left_iff.1 ⟨_, hkl, rfl⟩
        have hl : l < m := h.exists_right_iff.1 ⟨_, hkl, rfl⟩
        exact hfree k hk l hl ((ih (k, l) ha hk hl).1 hkl) ha
  exact hall (i, j) hi hj

/-- A left item without partner stands alone. -/
theorem left_mem_iff (h : GreedyPairing n m threshold score pairs) :
    .left i ∈ pairs ↔ i < n ∧ ∀ j, .both i j ∉ pairs := by
  constructor
  · intro hi
    refine ⟨h.exists_left_iff.1 ⟨_, hi, rfl⟩, fun j hij => ?_⟩
    cases h.eq_of_left hi hij rfl rfl
  · rintro ⟨hi, hno⟩
    obtain ⟨p, hp, hpi⟩ := h.exists_left_iff.2 hi
    rcases p with ⟨a, b⟩ | a | b
    · cases Option.some.inj hpi
      exact absurd hp (hno b)
    · cases Option.some.inj hpi
      exact hp
    · cases hpi

/-- A right item without partner stands alone. -/
theorem right_mem_iff (h : GreedyPairing n m threshold score pairs) :
    .right j ∈ pairs ↔ j < m ∧ ∀ i, .both i j ∉ pairs := by
  constructor
  · intro hj
    refine ⟨h.exists_right_iff.1 ⟨_, hj, rfl⟩, fun i hij => ?_⟩
    cases h.eq_of_right hj hij rfl rfl
  · rintro ⟨hj, hno⟩
    obtain ⟨p, hp, hpj⟩ := h.exists_right_iff.2 hj
    rcases p with ⟨a, b⟩ | a | b
    · cases Option.some.inj hpj
      exact absurd hp (hno a)
    · cases hpj
    · cases Option.some.inj hpj
      exact hp

/-- There is one greedy pairing. -/
theorem unique (h : GreedyPairing n m threshold score pairs)
    (h' : GreedyPairing n m threshold score pairs') : pairs = pairs' := by
  have hboth : ∀ i j, .both i j ∈ pairs ↔ .both i j ∈ pairs' := by
    intro i j
    by_cases hlt : i < n ∧ j < m
    · refine h.both_mem_iff_of_settled (P := fun i j => .both i j ∈ pairs') (fun i hi j hj => ?_) hlt.1 hlt.2
      rw [h'.both_mem_iff]
      constructor
      · rintro ⟨-, -, hreaches, hfree⟩
        exact ⟨hreaches, fun k _ l _ => hfree k l⟩
      · rintro ⟨hreaches, hfree⟩
        refine ⟨hi, hj, hreaches, fun k l hkl => ?_⟩
        exact hfree k (h'.both_mem_iff.1 hkl).1 l (h'.both_mem_iff.1 hkl).2.1 hkl
    · exact iff_of_false (fun hij => hlt ⟨(h.both_mem_iff.1 hij).1, (h.both_mem_iff.1 hij).2.1⟩)
        fun hij => hlt ⟨(h'.both_mem_iff.1 hij).1, (h'.both_mem_iff.1 hij).2.1⟩
  have hmem : ∀ p, p ∈ pairs ↔ p ∈ pairs' := by
    intro p
    cases p with
    | both i j => exact hboth i j
    | left i => simp only [h.left_mem_iff, h'.left_mem_iff, hboth]
    | right j => simp only [h.right_mem_iff, h'.right_mem_iff, hboth]
  refine List.Perm.eq_of_pairwise (fun p q _ _ hpq hqp => absurd hqp hpq.asymm) h.ordered h'.ordered ?_
  exact (List.perm_ext_iff_of_nodup h.nodup h'.nodup).2 hmem

end GreedyPairing

/-! ## The pairing that is made -/

theorem mem_leftOver {used : List Nat} : i ∈ leftOver n used ↔ i < n ∧ i ∉ used := by
  simp [leftOver]

theorem pairwise_leftOver (n : Nat) (used : List Nat) : (leftOver n used).Pairwise (· < ·) :=
  List.pairwise_lt_range.filter _

/-- What has been used and what is left over make up all items. -/
theorem append_leftOver_perm {used : List Nat} (hused : used.Nodup) (hlt : ∀ i ∈ used, i < n) :
    (used ++ leftOver n used).Perm (List.range n) := by
  have hnodup : (used ++ leftOver n used).Nodup := by
    refine List.nodup_append.2 ⟨hused, (pairwise_leftOver n used).imp Nat.ne_of_lt, ?_⟩
    rintro i hi j hj rfl
    exact (mem_leftOver.1 hj).2 hi
  refine (List.perm_ext_iff_of_nodup hnodup List.nodup_range).2 fun i => ?_
  rw [List.mem_append, mem_leftOver, List.mem_range]
  constructor
  · rintro (hi | ⟨hi, -⟩)
    · exact hlt i hi
    · exact hi
  · intro hi
    by_cases hused : i ∈ used
    · exact .inl hused
    · exact .inr ⟨hi, hused⟩

/-- Candidates that are in the order of their ranks already are visited in the order of their numbers. -/
theorem accepted_of_pairwise (h : (Candidate.all n m score).Pairwise fun c d => c.precedes d = true)
    (threshold : Score) :
    accepted n m threshold score = Candidate.accept threshold [] (Candidate.all n m score) := by
  rw [accepted, Candidate.visits, List.mergeSort_of_pairwise h]

theorem both_mem_pairing : .both i j ∈ pairing n m threshold score ↔
    ⟨i, j, score i j⟩ ∈ accepted n m threshold score := by
  have hboth : .both i j ∈ pairing n m threshold score ↔
      ∃ c ∈ accepted n m threshold score, c.left = i ∧ c.right = j := by
    simp [pairing]
  rw [hboth]
  constructor
  · rintro ⟨c, hc, rfl, rfl⟩
    have hscore := (Candidate.mem_visits.1 (Candidate.accept_sublist.subset hc)).2.2
    exact hscore ▸ hc
  · intro hc
    exact ⟨_, hc, rfl, rfl⟩

theorem filterMap_left?_pairing (n m : Nat) (threshold : Score) (score : Nat → Nat → Score) :
    (pairing n m threshold score).filterMap (·.left?) =
      (accepted n m threshold score).map (·.left) ++
        leftOver n ((accepted n m threshold score).map (·.left)) := by
  simp [pairing, List.filterMap_append, List.filterMap_map, Pair.left?]

theorem filterMap_right?_pairing (n m : Nat) (threshold : Score) (score : Nat → Nat → Score) :
    (pairing n m threshold score).filterMap (·.right?) =
      (accepted n m threshold score).map (·.right) ++
        leftOver m ((accepted n m threshold score).map (·.right)) := by
  simp [pairing, List.filterMap_append, List.filterMap_map, Pair.right?]

/-- Lines of accepted candidates and of what is left over are in order. -/
theorem pairwise_before_pairing (n m : Nat) (threshold : Score) (score : Nat → Nat → Score) :
    (pairing n m threshold score).Pairwise (Pair.Before score) := by
  have hvisits : (accepted n m threshold score).Pairwise fun c d => Ahead score c.items d.items :=
    (Candidate.pairwise_visits n m score).sublist Candidate.accept_sublist
  simp only [pairing, List.pairwise_append, List.pairwise_map, List.mem_append, List.mem_map]
  refine ⟨⟨hvisits, pairwise_leftOver n _, ?_⟩, pairwise_leftOver m _, ?_⟩
  · rintro _ ⟨c, -, rfl⟩ _ ⟨i, -, rfl⟩
    trivial
  · rintro _ (⟨c, -, rfl⟩ | ⟨i, -, rfl⟩) _ ⟨j, -, rfl⟩ <;> trivial

theorem greedyPairing_pairing (n m : Nat) (threshold : Score) (score : Nat → Nat → Score) :
    GreedyPairing n m threshold score (pairing n m threshold score) where
  lefts := by
    rw [filterMap_left?_pairing]
    refine append_leftOver_perm (List.pairwise_map.2 ?_) (List.forall_mem_map.2 fun c hc => ?_)
    · exact Candidate.pairwise_accept.imp fun hcd heq => by simp [Candidate.clashes, heq] at hcd
    · exact (of_mem_accepted hc).1
  rights := by
    rw [filterMap_right?_pairing]
    refine append_leftOver_perm (List.pairwise_map.2 ?_) (List.forall_mem_map.2 fun c hc => ?_)
    · exact Candidate.pairwise_accept.imp fun hcd heq => by simp [Candidate.clashes, heq] at hcd
    · exact (of_mem_accepted hc).2.1
  reaches i j hij := (of_mem_accepted (both_mem_pairing.1 hij)).2.2
  ordered := pairwise_before_pairing n m threshold score
  stable i hi j hj hreaches hno := by
    rw [both_mem_pairing] at hno
    have hvisited : (⟨i, j, score i j⟩ : Candidate) ∈ Candidate.visits n m score :=
      Candidate.mem_visits.2 ⟨hi, hj, rfl⟩
    rcases Candidate.mem_accept_or_exists_clash [] (Candidate.pairwise_visits n m score) hvisited hreaches with
      hin | ⟨d, hd, -⟩ | ⟨d, hd, hahead, hclash⟩
    · exact absurd hin hno
    · exact absurd hd List.not_mem_nil
    · have hclash : i = d.left ∨ j = d.right := by simpa [Candidate.clashes] using hclash
      have hscore := (Candidate.mem_visits.1 (Candidate.accept_sublist.subset hd)).2.2
      exact ⟨d.left, d.right, both_mem_pairing.2 (hscore ▸ hd), hclash.imp Eq.symm Eq.symm, hahead⟩

/-- A list of lines is a greedy pairing if and only if it is the one that is made. -/
theorem greedyPairing_iff :
    GreedyPairing n m threshold score pairs ↔ pairs = pairing n m threshold score :=
  ⟨fun h => h.unique (greedyPairing_pairing n m threshold score),
    fun h => h ▸ greedyPairing_pairing n m threshold score⟩

/-! ## Partners and newcomers -/

theorem partner?_pairing_iff :
    partner? (pairing n m threshold score) i = some j ↔ .both i j ∈ pairing n m threshold score := by
  rw [partner?_pairing_eq_some]
  simp [pairing]

theorem GreedyPairing.pairwise_newcomers (h : GreedyPairing n m threshold score pairs) :
    (newcomers pairs).Pairwise (· < ·) := by
  refine List.pairwise_filterMap.2 (h.ordered.imp fun {p q} hpq j hj l hl => ?_)
  cases p <;> cases q <;> cases hj <;> cases hl
  exact hpq

theorem GreedyPairing.newcomers_eq (h : GreedyPairing n m threshold score pairs) :
    newcomers pairs = (List.range m).filter (.right · ∈ pairs) := by
  have hmem : ∀ j, j ∈ newcomers pairs ↔ j ∈ (List.range m).filter (.right · ∈ pairs) := by
    intro j
    rw [mem_newcomers, List.mem_filter, List.mem_range, decide_eq_true_eq]
    exact ⟨fun hj => ⟨(h.right_mem_iff.1 hj).1, hj⟩, And.right⟩
  have hnodup : (newcomers pairs).Nodup := h.pairwise_newcomers.imp Nat.ne_of_lt
  refine List.Perm.eq_of_pairwise (fun i j _ _ hij hji => absurd hji (Nat.lt_asymm hij)) h.pairwise_newcomers
    (List.pairwise_lt_range.filter _) ?_
  exact (List.perm_ext_iff_of_nodup hnodup (List.nodup_range.filter _)).2 hmem

end

/-! ## Tracks -/

namespace Track

variable {ts us : List Track} {i j k l : Nat}

theorem greedyPairing (ts us : List Track) (threshold : Score) :
    GreedyPairing ts.length us.length threshold (scoreAt ts us) (pairing ts us threshold) :=
  greedyPairing_pairing ..

theorem scoreAt_of_position (hi : i < ts.length) (hj : j < us.length)
    (hposition : ts[i].position = us[j].position) : scoreAt ts us i j = .one := by
  rw [scoreAt, List.getElem?_eq_getElem hi, List.getElem?_eq_getElem hj]
  exact if_pos hposition

theorem rank_scoreAt_le (ts us : List Track) (i j : Nat) : (scoreAt ts us i j).rank ≤ Score.one.rank := by
  unfold scoreAt score
  split
  · split_ifs <;> decide
  · decide

/-- Pairs at one position each are visited in the order of their numbers. -/
theorem ahead_iff_of_position (hi : i < ts.length) (hj : j < us.length) (hk : k < ts.length)
    (hl : l < us.length) (hij : ts[i].position = us[j].position) (hkl : ts[k].position = us[l].position) :
    Ahead (scoreAt ts us) (k, l) (i, j) ↔ k < i ∨ k = i ∧ l < j := by
  simp [Ahead, scoreAt_of_position hi hj hij, scoreAt_of_position hk hl hkl]

/-- A relation between tracks at one position each, under which no track has two partners, holds of exactly the
partners if every pair at one position that it leaves out clashes with an earlier one that it holds of. -/
theorem both_mem_pairing_iff_of_position {threshold : Score} (h : threshold.WithinOne) {P : Nat → Nat → Prop}
    (hposition : ∀ i j (hj : j < us.length), P i j → ∃ hi : i < ts.length, ts[i].position = us[j].position)
    (hleft : ∀ i k j, P i j → P k j → i = k) (hright : ∀ i j l, P i j → P i l → j = l)
    (hbefore : ∀ i j (hi : i < ts.length) (hj : j < us.length), ts[i].position = us[j].position → ¬ P i j →
      ∃ k l, P k l ∧ l < us.length ∧ (k = i ∨ l = j) ∧ (k < i ∨ k = i ∧ l < j))
    (hi : i < ts.length) (hj : j < us.length) : .both i j ∈ pairing ts us threshold ↔ P i j := by
  refine (greedyPairing ts us threshold).both_mem_iff_of_settled (fun i hi j hj => ?_) hi hj
  rw [scoreAt_reaches h hi hj]
  constructor
  · intro hij
    obtain ⟨_, hij'⟩ := hposition i j hj hij
    refine ⟨hij', fun k _ l _ hkl hahead => ⟨?_, ?_⟩⟩
    · rintro rfl
      exact not_ahead_self _ _ (hright k j l hij hkl ▸ hahead)
    · rintro rfl
      exact not_ahead_self _ _ (hleft i k l hij hkl ▸ hahead)
  · rintro ⟨hij, hfree⟩
    by_contra hno
    obtain ⟨k, l, hkl, hl, hclash, hearlier⟩ := hbefore i j hi hj hij hno
    obtain ⟨hk, hkl'⟩ := hposition k l hl hkl
    have hahead := (ahead_iff_of_position hi hj hk hl hij hkl').2 hearlier
    obtain ⟨hki, hlj⟩ := hfree k hk l hl hkl hahead
    exact hclash.elim hki hlj

end Track

end MusicLibrary

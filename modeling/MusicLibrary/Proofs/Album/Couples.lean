import Mathlib.Data.Finset.Card
import MusicLibrary.Proofs.Album.Greedy
import MusicLibrary.Score.Decimal

/-!
# Accepted pairs

The couples of a pairing are its accepted pairs, in the order of acceptance. Candidates are visited from
the highest rank down, and ranks agree with the order of numbers, so that what a higher threshold lets pass
is visited before what only a lower one does: raising the threshold cuts the couples short
(`couples_raised`). And since a pair is passed over only for a couple that needs one of its items, and a
couple has two items, no `Matching` has more than twice as many pairs (`card_le_two_mul_couples`).
-/

namespace MusicLibrary

/-- The two partners of a line, if it has two. -/
def Pair.couple? {α β : Type} : Pair α β → Option (α × β)
  | .both a b => some (a, b)
  | .left _ | .right _ => none

/-- The accepted pairs of a pairing, in order. -/
def couples {α β : Type} (pairs : List (Pair α β)) : List (α × β) := pairs.filterMap (·.couple?)

theorem mem_couples {α β : Type} {pairs : List (Pair α β)} {a : α} {b : β} :
    (a, b) ∈ couples pairs ↔ .both a b ∈ pairs := by
  rw [couples, List.mem_filterMap]
  constructor
  · rintro ⟨p, hp, hab⟩
    cases p <;> cases hab
    exact hp
  · exact fun h => ⟨_, h, rfl⟩

theorem couples_pairing (n m : Nat) (threshold : Score) (score : Nat → Nat → Score) :
    couples (pairing n m threshold score) = (accepted n m threshold score).map Candidate.items := by
  have hnone : ∀ is : List Nat, is.filterMap (fun _ => (none : Option (Nat × Nat))) = [] :=
    fun is => List.filterMap_eq_nil_iff.2 fun _ _ => rfl
  simp only [couples, pairing, List.filterMap_append, List.filterMap_map, Function.comp_def, Pair.couple?,
    hnone, List.append_nil, List.filterMap_eq_map']
  rfl

theorem GreedyPairing.nodup_couples {n m : Nat} {threshold : Score} {score : Nat → Nat → Score}
    {pairs : List (Pair Nat Nat)} (h : GreedyPairing n m threshold score pairs) : (couples pairs).Nodup := by
  refine h.nodup.filterMap fun p q c hp hq => ?_
  cases p <;> cases q <;> cases hp <;> cases hq
  rfl

/-! ## Raising the threshold -/

namespace Score

variable {s t low high : Score}

theorem Reaches.trans (h : s.Reaches high) (hlow : high.Reaches low) : s.Reaches low :=
  ⟨h.1, hlow.2.1, Int.le_trans hlow.2.2 h.2.2⟩

/-- What a score reaches, every number of at least its rank reaches. -/
theorem Reaches.of_rank_le (h : s.Reaches high) (hrank : s.rank ≤ t.rank) (ht : t.isNaN = false) :
    t.Reaches high :=
  ⟨ht, h.2.1, Int.le_trans h.2.2 (level_le_of_rank_le hrank)⟩

end Score

/-- Where what a test refuses is followed by nothing that it accepts, it accepts a first part. -/
theorem filter_eq_takeWhile {α : Type} {p : α → Bool} {as : List α}
    (h : as.Pairwise fun a b => p b = true → p a = true) : as.filter p = as.takeWhile p := by
  induction as with
  | nil => rfl
  | cons a as ih =>
    obtain ⟨ha, has⟩ := List.pairwise_cons.1 h
    by_cases hp : p a = true
    · rw [List.filter_cons_of_pos hp, List.takeWhile_cons_of_pos hp, ih has]
    · rw [List.filter_cons_of_neg hp, List.takeWhile_cons_of_neg hp]
      exact List.filter_eq_nil_iff.2 fun b hb hpb => hp (ha b hb hpb)

namespace Candidate

variable {low high threshold : Score} {cs : List Candidate}

theorem accept_eq_nil (h : ∀ c ∈ cs, ¬ c.score.Reaches threshold) (taken : List Candidate) :
    accept threshold taken cs = [] :=
  List.eq_nil_iff_forall_not_mem.2 fun c hc => h c (accept_sublist.subset hc) (fits_of_mem_accept hc).1

/-- Of candidates in the order of their ranks, a higher threshold accepts those that a lower one accepts,
up to the first one that does not reach it. -/
theorem accept_raised (h : high.Reaches low) (hcs : cs.Pairwise fun c d => d.score.rank ≤ c.score.rank)
    (taken : List Candidate) :
    accept high taken cs = (accept low taken cs).takeWhile (·.score.Reaches high) := by
  induction cs generalizing taken with
  | nil => rfl
  | cons c cs ih =>
    obtain ⟨hc, hcs⟩ := List.pairwise_cons.1 hcs
    by_cases hlow : Fits low taken c
    · rw [accept_cons_of_fits hlow]
      by_cases hhigh : c.score.Reaches high
      · rw [accept_cons_of_fits ⟨hhigh, hlow.2⟩, List.takeWhile_cons_of_pos (by simpa using hhigh), ih hcs]
      · -- no candidate behind `c`, which is a number, reaches what `c` does not reach
        have hrest : ∀ d ∈ cs, ¬ d.score.Reaches high := fun d hd hdh =>
          hhigh (hdh.of_rank_le (hc d hd) hlow.1.1)
        rw [accept_cons_of_not_fits fun hf => hhigh hf.1, List.takeWhile_cons_of_neg (by simpa using hhigh)]
        exact accept_eq_nil hrest taken
    · have hhigh : ¬ Fits high taken c := fun hf => hlow ⟨hf.1.trans h, hf.2⟩
      rw [accept_cons_of_not_fits hlow, accept_cons_of_not_fits hhigh, ih hcs]

theorem pairwise_rank_visits (n m : Nat) (score : Nat → Nat → Score) :
    (visits n m score).Pairwise fun c d => d.score.rank ≤ c.score.rank := by
  refine List.Pairwise.imp_of_mem (fun {c d} hc hd hcd => ?_) (pairwise_visits n m score)
  rw [(mem_visits.1 hc).2.2, (mem_visits.1 hd).2.2]
  simp only [Ahead, items] at hcd
  omega

end Candidate

section

variable {n m : Nat} {threshold low high : Score} {score : Nat → Nat → Score} {pairs : List (Pair Nat Nat)}

theorem accepted_raised (h : high.Reaches low) (n m : Nat) (score : Nat → Nat → Score) :
    accepted n m high score = (accepted n m low score).takeWhile (·.score.Reaches high) :=
  Candidate.accept_raised h (Candidate.pairwise_rank_visits n m score) []

/-- The candidates of a lower threshold that reach a higher one: no accepted score is a NaN, so that they come
first. -/
theorem filter_accepted (h : high.Reaches low) (n m : Nat) (score : Nat → Nat → Score) :
    (accepted n m low score).filter (·.score.Reaches high) = accepted n m high score := by
  rw [accepted_raised h]
  refine filter_eq_takeWhile (List.Pairwise.imp_of_mem (fun {c d} hc _ hcd => ?_)
    ((Candidate.pairwise_rank_visits n m score).sublist Candidate.accept_sublist))
  simpa using fun hd : d.score.Reaches high => hd.of_rank_le hcd (Candidate.fits_of_mem_accept hc).1.1

theorem leftOver_nil (n : Nat) : leftOver n [] = List.range n := by
  simp [leftOver]

/-- A threshold that is not below another one accepts a first part of what that one accepts, namely the
pairs that reach it; and under a threshold that no pair reaches, every item is left without partner. -/
theorem couples_raised (n m : Nat) (score : Nat → Nat → Score) :
    (∀ low high : Score, high.Reaches low →
      couples (pairing n m high score) <+: couples (pairing n m low score) ∧
      couples (pairing n m high score) =
        (couples (pairing n m low score)).filter fun p => (score p.1 p.2).Reaches high) ∧
    ∀ threshold : Score, (∀ i < n, ∀ j < m, ¬ (score i j).Reaches threshold) →
      pairing n m threshold score = (List.range n).map .left ++ (List.range m).map .right := by
  refine ⟨fun low high h => ?_, fun threshold hnone => ?_⟩
  · rw [couples_pairing, couples_pairing]
    constructor
    · rw [accepted_raised h]
      exact (List.takeWhile_prefix _).map _
    · rw [← filter_accepted h, List.filter_map]
      refine congrArg _ (List.filter_congr fun c hc => ?_)
      rw [(Candidate.mem_visits.1 (Candidate.accept_sublist.subset hc)).2.2]
      rfl
  · have hnil : accepted n m threshold score = [] := Candidate.accept_eq_nil (fun c hc => by
      obtain ⟨hi, hj, hs⟩ := Candidate.mem_visits.1 hc
      exact hs ▸ hnone c.left hi c.right hj) []
    simp [pairing, hnil, leftOver_nil]

/-- The scores of two items each, with a NaN of either sign and a negative zero. -/
def mixedScores (i j : Nat) : Score :=
  match i, j with
  | 0, 0 => .nan false
  | 0, _ => .one
  | _, 0 => .ofMagnitude true 0
  | _, _ => .nan true

/-- The negative zero reaches 0, but not 1, and nothing reaches infinity, not the NaN either that is visited
first. -/
theorem couples_raised_mixedScores :
    Score.one.Reaches .zero ∧ couples (pairing 2 2 .zero mixedScores) = [(0, 1), (1, 0)] ∧
      couples (pairing 2 2 .one mixedScores) = [(0, 1)] ∧
      couples (pairing 2 2 .one mixedScores) <+: couples (pairing 2 2 .zero mixedScores) ∧
      (∀ i < 2, ∀ j < 2, ¬ (mixedScores i j).Reaches (.infinite false)) ∧
      pairing 2 2 (.infinite false) mixedScores = [.left 0, .left 1, .right 0, .right 1] := by
  obtain ⟨hraised, hunreached⟩ := couples_raised 2 2 mixedScores
  have hreaches : Score.one.Reaches .zero := by decide
  have hnone : ∀ i < 2, ∀ j < 2, ¬ (mixedScores i j).Reaches (.infinite false) := by decide +kernel
  have hlow : couples (pairing 2 2 .zero mixedScores) = [(0, 1), (1, 0)] := by
    rw [couples_pairing, accepted_of_pairwise (by decide +kernel)]
    decide +kernel
  have hhigh : couples (pairing 2 2 .one mixedScores) = [(0, 1)] := by
    rw [couples_pairing, accepted_of_pairwise (by decide +kernel)]
    decide +kernel
  exact ⟨hreaches, hlow, hhigh, (hraised .zero .one hreaches).1, hnone, hunreached _ hnone⟩

/-! ## Matchings -/

/-- Pairs of items that reach the threshold, of which no two need the same item. -/
structure Matching (n m : Nat) (threshold : Score) (score : Nat → Nat → Score) (pairs : Finset (Nat × Nat)) :
    Prop where
  left_lt : ∀ p ∈ pairs, p.1 < n
  right_lt : ∀ p ∈ pairs, p.2 < m
  reaches : ∀ p ∈ pairs, (score p.1 p.2).Reaches threshold
  left_inj : Set.InjOn Prod.fst (pairs : Set (Nat × Nat))
  right_inj : Set.InjOn Prod.snd (pairs : Set (Nat × Nat))

theorem mem_toFinset_couples {i j : Nat} : (i, j) ∈ (couples pairs).toFinset ↔ .both i j ∈ pairs :=
  List.mem_toFinset.trans mem_couples

/-- The couples of a greedy pairing are a matching. -/
theorem GreedyPairing.matching_couples (h : GreedyPairing n m threshold score pairs) :
    Matching n m threshold score (couples pairs).toFinset where
  left_lt := fun (_, _) hp => (h.both_mem_iff.1 (mem_toFinset_couples.1 hp)).1
  right_lt := fun (_, _) hp => (h.both_mem_iff.1 (mem_toFinset_couples.1 hp)).2.1
  reaches := fun (i, j) hp => h.reaches i j (mem_toFinset_couples.1 hp)
  left_inj := by
    rintro ⟨i, j⟩ hp ⟨_, l⟩ hq rfl
    cases h.eq_of_left (mem_toFinset_couples.1 hp) (mem_toFinset_couples.1 hq) rfl rfl
    rfl
  right_inj := by
    rintro ⟨i, j⟩ hp ⟨k, _⟩ hq rfl
    cases h.eq_of_right (mem_toFinset_couples.1 hp) (mem_toFinset_couples.1 hq) rfl rfl
    rfl

/-- One of two items that could be partners is in a couple. -/
theorem GreedyPairing.mem_couples_or (h : GreedyPairing n m threshold score pairs) {i j : Nat} (hi : i < n)
    (hj : j < m) (hreaches : (score i j).Reaches threshold) :
    i ∈ (couples pairs).map Prod.fst ∨ j ∈ (couples pairs).map Prod.snd := by
  by_cases hij : .both i j ∈ pairs
  · exact .inl (List.mem_map_of_mem (mem_couples.2 hij))
  · obtain ⟨k, l, hkl, rfl | rfl, -⟩ := h.stable i hi j hj hreaches hij
    · exact .inl (List.mem_map_of_mem (mem_couples.2 hkl))
    · exact .inr (List.mem_map_of_mem (mem_couples.2 hkl))

/-- Of pairs that differ in an item, at most as many have it in a list as the list is long. -/
theorem card_filter_mem_le {f : Nat × Nat → Nat} {M : Finset (Nat × Nat)}
    (hf : Set.InjOn f (M : Set (Nat × Nat))) (is : List Nat) : (M.filter (f · ∈ is)).card ≤ is.length := by
  have himage : (M.filter (f · ∈ is)).image f ⊆ is.toFinset := by
    intro i hi
    obtain ⟨p, hp, rfl⟩ := Finset.mem_image.1 hi
    exact List.mem_toFinset.2 (Finset.mem_filter.1 hp).2
  have hinj : Set.InjOn f (M.filter (f · ∈ is) : Set (Nat × Nat)) :=
    hf.mono (Finset.coe_subset.2 (Finset.filter_subset _ _))
  calc (M.filter (f · ∈ is)).card = ((M.filter (f · ∈ is)).image f).card := (Finset.card_image_of_injOn hinj).symm
    _ ≤ is.toFinset.card := Finset.card_le_card himage
    _ ≤ is.length := is.toFinset_card_le

/-- A pairing has at least half as many couples as any matching has pairs, and is a matching itself. -/
theorem card_le_two_mul_couples (n m : Nat) (threshold : Score) (score : Nat → Nat → Score) :
    let chosen := couples (pairing n m threshold score)
    chosen.Nodup ∧ Matching n m threshold score chosen.toFinset ∧
      ∀ M : Finset (Nat × Nat), Matching n m threshold score M → M.card ≤ 2 * chosen.length := by
  intro chosen
  have h := greedyPairing_pairing n m threshold score
  refine ⟨h.nodup_couples, h.matching_couples, fun M hM => ?_⟩
  -- every pair of `M` takes an item from a couple, and each item is taken once
  have hcover : M ⊆ M.filter (·.1 ∈ chosen.map Prod.fst) ∪ M.filter (·.2 ∈ chosen.map Prod.snd) := by
    intro p hp
    rw [Finset.mem_union, Finset.mem_filter, Finset.mem_filter]
    exact (h.mem_couples_or (hM.left_lt p hp) (hM.right_lt p hp) (hM.reaches p hp)).imp (⟨hp, ·⟩) (⟨hp, ·⟩)
  calc M.card ≤ (M.filter (·.1 ∈ chosen.map Prod.fst) ∪ M.filter (·.2 ∈ chosen.map Prod.snd)).card :=
        Finset.card_le_card hcover
    _ ≤ (M.filter (·.1 ∈ chosen.map Prod.fst)).card + (M.filter (·.2 ∈ chosen.map Prod.snd)).card :=
        Finset.card_union_le _ _
    _ ≤ (chosen.map Prod.fst).length + (chosen.map Prod.snd).length :=
        Nat.add_le_add (card_filter_mem_le hM.left_inj _) (card_filter_mem_le hM.right_inj _)
    _ = 2 * chosen.length := by rw [List.length_map, List.length_map, Nat.two_mul]

/-- The scores of two items each, one pair of which has a higher score than the two that cross it. -/
def crossingScores (i j : Nat) : Score :=
  match i, j with
  | 0, 0 => .one
  | 0, _ | _, 0 => .ofDecimal false 8 (-1)
  | _, _ => .zero

/-- The pair of the highest score takes the items of two pairs that would have been a matching. -/
theorem card_le_two_mul_couples_crossing :
    let half := Score.ofDecimal false 5 (-1)
    couples (pairing 2 2 half crossingScores) = [(0, 0)] ∧
      Matching 2 2 half crossingScores {(0, 1), (1, 0)} ∧
      ({(0, 1), (1, 0)} : Finset (Nat × Nat)).card ≤ 2 * (couples (pairing 2 2 half crossingScores)).length := by
  intro half
  have hcouples : couples (pairing 2 2 half crossingScores) = [(0, 0)] := by
    rw [couples_pairing, accepted_of_pairwise (by decide +kernel)]
    decide +kernel
  have hmatching : Matching 2 2 half crossingScores {(0, 1), (1, 0)} :=
    ⟨by decide, by decide, by decide +kernel, by simp [Set.InjOn], by simp [Set.InjOn]⟩
  exact ⟨hcouples, hmatching, (card_le_two_mul_couples 2 2 half crossingScores).2.2 _ hmatching⟩

end

end MusicLibrary

import Mathlib.Algebra.Order.BigOperators.Group.Finset
import MusicLibrary.Proofs.Album.Couples

/-!
# Pairing by position

Under a threshold above 0 and up to 1 tracks are paired by their positions, which may repeat. All pairs at
one position each have the same score, so that they are visited in the order of their numbers, and the
first track of the one list at a position takes the first track of the other list there, the second one
the second one, and so on (`both_mem_pairing_iff`). So as many tracks find a partner at each position as
both lists have there, and no matching has more pairs (`couples_by_position`).
-/

namespace MusicLibrary.Track

variable {ts us : List Track} {threshold : Score} {i j k l : Nat} {p : Int × Int}

/-- The numbers of the tracks at a position, in their order. -/
def numbersAt (ts : List Track) (p : Int × Int) : List Nat := (ts.map position).idxsOf p

theorem mem_numbersAt : i ∈ numbersAt ts p ↔ ∃ hi : i < ts.length, ts[i].position = p := by
  simp [numbersAt]

theorem length_numbersAt (ts : List Track) (p : Int × Int) :
    (numbersAt ts p).length = (ts.map position).count p :=
  List.length_idxsOf

theorem pairwise_numbersAt (ts : List Track) (p : Int × Int) : (numbersAt ts p).Pairwise (· < ·) :=
  List.pairwise_idxsOf

theorem nodup_numbersAt (ts : List Track) (p : Int × Int) : (numbersAt ts p).Nodup :=
  List.nodup_idxsOf

/-- Whether two tracks come at the same place among the tracks of their lists at one position. -/
def Peers (ts us : List Track) (i j : Nat) : Prop :=
  ∃ (p : Int × Int) (k : Nat), (numbersAt ts p)[k]? = some i ∧ (numbersAt us p)[k]? = some j

theorem Peers.symm (h : Peers ts us i j) : Peers us ts j i := by
  obtain ⟨p, k, hi, hj⟩ := h
  exact ⟨p, k, hj, hi⟩

theorem Peers.position (h : Peers ts us i j) :
    ∃ (hi : i < ts.length) (hj : j < us.length), ts[i].position = us[j].position := by
  obtain ⟨p, k, hki, hkj⟩ := h
  obtain ⟨hi, hip⟩ := mem_numbersAt.1 (List.mem_of_getElem? hki)
  obtain ⟨hj, hjp⟩ := mem_numbersAt.1 (List.mem_of_getElem? hkj)
  exact ⟨hi, hj, hip.trans hjp.symm⟩

theorem Peers.right_eq (h : Peers ts us i j) (h' : Peers ts us i l) : j = l := by
  obtain ⟨p, k, hi, hj⟩ := h
  obtain ⟨q, k', hi', hl⟩ := h'
  obtain ⟨_, rfl⟩ := mem_numbersAt.1 (List.mem_of_getElem? hi)
  obtain ⟨_, rfl⟩ := mem_numbersAt.1 (List.mem_of_getElem? hi')
  obtain ⟨hk, -⟩ := List.getElem?_eq_some_iff.1 hi
  rw [(List.getElem?_inj hk (nodup_numbersAt ts _)).1 (hi.trans hi'.symm), hl] at hj
  exact (Option.some.inj hj).symm

theorem Peers.left_eq (h : Peers ts us i j) (h' : Peers ts us k j) : i = k := h.symm.right_eq h'.symm

/-- Tracks at a position come after those that have an earlier place there. -/
theorem exists_earlier {a b : Nat} (hj : (numbersAt ts p)[b]? = some j) (hab : a < b) :
    ∃ l < j, (numbersAt ts p)[a]? = some l := by
  obtain ⟨hb, rfl⟩ := List.getElem?_eq_some_iff.1 hj
  exact ⟨_, List.pairwise_iff_getElem.1 (pairwise_numbersAt ts p) a b (by omega) hb hab,
    List.getElem?_eq_getElem (by omega)⟩

/-- Of two tracks at one position that are no peers, the one that has the earlier place has an earlier peer. -/
theorem exists_peers_before (hi : i < ts.length) (hj : j < us.length)
    (hposition : ts[i].position = us[j].position) (hno : ¬ Peers ts us i j) :
    ∃ k l, Peers ts us k l ∧ l < us.length ∧ (k = i ∨ l = j) ∧ (k < i ∨ k = i ∧ l < j) := by
  have hip : i ∈ numbersAt ts ts[i].position := mem_numbersAt.2 ⟨hi, rfl⟩
  have hjp : j ∈ numbersAt us ts[i].position := mem_numbersAt.2 ⟨hj, hposition.symm⟩
  obtain ⟨a, ha⟩ := List.mem_iff_getElem?.1 hip
  obtain ⟨b, hb⟩ := List.mem_iff_getElem?.1 hjp
  rcases Nat.lt_trichotomy a b with hab | rfl | hba
  · obtain ⟨l, hlj, hl⟩ := exists_earlier hb hab
    exact ⟨i, l, ⟨_, a, ha, hl⟩, Nat.lt_trans hlj hj, .inl rfl, .inr ⟨rfl, hlj⟩⟩
  · exact absurd ⟨_, a, ha, hb⟩ hno
  · obtain ⟨k, hki, hk⟩ := exists_earlier ha hba
    exact ⟨k, j, ⟨_, b, hk, hb⟩, hj, .inr rfl, .inl hki⟩

/-- Partners are the tracks that come at the same place among the tracks of their lists at one position. -/
theorem both_mem_pairing_iff (h : threshold.WithinOne) :
    .both i j ∈ pairing ts us threshold ↔ Peers ts us i j := by
  have hall : ∀ {i j : Nat}, i < ts.length → j < us.length →
      (.both i j ∈ pairing ts us threshold ↔ Peers ts us i j) :=
    both_mem_pairing_iff_of_position h (fun _ _ _ hij => hij.position.imp fun _ ⟨_, hposition⟩ => hposition)
      (fun _ _ _ => Peers.left_eq) (fun _ _ _ => Peers.right_eq)
      (fun _ _ hi hj hposition hno => exists_peers_before hi hj hposition hno)
  constructor
  · intro hij
    obtain ⟨hi, hj, -⟩ := (greedyPairing ts us threshold).both_mem_iff.1 hij
    exact (hall hi hj).1 hij
  · intro hij
    obtain ⟨hi, hj, -⟩ := hij.position
    exact (hall hi hj).2 hij

theorem mem_couples_iff (h : threshold.WithinOne) :
    (i, j) ∈ couples (pairing ts us threshold) ↔ Peers ts us i j :=
  mem_couples.trans (both_mem_pairing_iff h)

/-! ## How many partners there are -/

theorem mem_zip {α β : Type} {as : List α} {bs : List β} {a : α} {b : β} :
    (a, b) ∈ as.zip bs ↔ ∃ k : Nat, as[k]? = some a ∧ bs[k]? = some b := by
  rw [List.mem_iff_getElem?]
  exact exists_congr fun k => List.getElem?_zip_eq_some

theorem nodup_zip {α β : Type} {as : List α} (has : as.Nodup) (bs : List β) : (as.zip bs).Nodup := by
  refine List.pairwise_iff_getElem.2 fun i j hi hj hij heq => ?_
  rw [List.length_zip] at hi hj
  refine List.pairwise_iff_getElem.1 has i j (by omega) (by omega) hij ?_
  simpa using congrArg Prod.fst heq

section Counts

variable {M : Finset (Nat × Nat)}

/-- Pairs are counted position by position. -/
theorem card_eq_sum_positions (hM : ∀ c ∈ M, c.1 < ts.length) :
    M.card = ∑ p ∈ (ts.map position).toFinset, (M.filter (·.1 ∈ numbersAt ts p)).card := by
  let place (c : Nat × Nat) : Int × Int := (ts.map position)[c.1]?.getD (0, 0)
  have hplace : ∀ c ∈ M, ∃ hi : c.1 < ts.length, ts[c.1].position = place c := by
    intro c hc
    have hi := hM c hc
    exact ⟨hi, by simp [place, hi]⟩
  have hmaps : Set.MapsTo place (M : Set (Nat × Nat)) (ts.map position).toFinset := by
    intro c hc
    obtain ⟨hi, hp⟩ := hplace c hc
    rw [Finset.mem_coe, List.mem_toFinset, ← hp]
    exact List.mem_map_of_mem (List.getElem_mem hi)
  rw [Finset.card_eq_sum_card_fiberwise hmaps]
  refine Finset.sum_congr rfl fun p _ => congrArg Finset.card (Finset.filter_congr fun c hc => ?_)
  obtain ⟨hi, hp⟩ := hplace c hc
  rw [← hp, mem_numbersAt, exists_prop_of_true hi]

/-- A matching has at a position at most as many pairs as either list has tracks there. -/
theorem card_filter_position_le (h : threshold.WithinOne)
    (hM : Matching ts.length us.length threshold (scoreAt ts us) M) (p : Int × Int) :
    (M.filter (·.1 ∈ numbersAt ts p)).card ≤ min ((ts.map position).count p) ((us.map position).count p) := by
  have hpeers : ∀ c ∈ M, c.1 ∈ numbersAt ts p ↔ c.2 ∈ numbersAt us p := by
    intro c hc
    have hi := hM.left_lt c hc
    have hj := hM.right_lt c hc
    have hposition := (scoreAt_reaches h hi hj).1 (hM.reaches c hc)
    simp only [mem_numbersAt, hi, hj, hposition, exists_true_left]
  rw [← length_numbersAt, ← length_numbersAt, Nat.le_min]
  refine ⟨card_filter_mem_le hM.left_inj _, ?_⟩
  rw [Finset.filter_congr hpeers]
  exact card_filter_mem_le hM.right_inj _

/-- At each position as many tracks find a partner as both lists have there. -/
theorem card_couples_position (h : threshold.WithinOne) (ts us : List Track) (p : Int × Int) :
    ((couples (pairing ts us threshold)).toFinset.filter (·.1 ∈ numbersAt ts p)).card =
      min ((ts.map position).count p) ((us.map position).count p) := by
  have hzip : (couples (pairing ts us threshold)).toFinset.filter (·.1 ∈ numbersAt ts p) =
      ((numbersAt ts p).zip (numbersAt us p)).toFinset := by
    ext ⟨i, j⟩
    rw [Finset.mem_filter, List.mem_toFinset, List.mem_toFinset, mem_couples_iff h, mem_zip]
    constructor
    · rintro ⟨⟨q, k, hi, hj⟩, hip⟩
      obtain ⟨_, rfl⟩ := mem_numbersAt.1 (List.mem_of_getElem? hi)
      obtain ⟨_, rfl⟩ := mem_numbersAt.1 hip
      exact ⟨k, hi, hj⟩
    · rintro ⟨k, hi, hj⟩
      exact ⟨⟨p, k, hi, hj⟩, List.mem_of_getElem? hi⟩
  rw [hzip, List.toFinset_card_of_nodup (nodup_zip (nodup_numbersAt ts p) _), List.length_zip,
    length_numbersAt, length_numbersAt]

end Counts

/-- At every position the first track of the one list is paired with the first one of the other list, the
second one with the second one, and so on up to the end of the shorter list of tracks there, and no other
tracks are paired. No matching has more pairs, and exchanging the lists exchanges the partners. -/
theorem couples_by_position (h : threshold.WithinOne) (ts us : List Track) :
    let chosen := couples (pairing ts us threshold)
    (∀ i j, (i, j) ∈ chosen ↔ ∃ (p : Int × Int) (k : Nat),
      ((ts.map position).idxsOf p)[k]? = some i ∧ ((us.map position).idxsOf p)[k]? = some j) ∧
    chosen.Nodup ∧
    chosen.length = ∑ p ∈ (ts.map position).toFinset,
      min ((ts.map position).count p) ((us.map position).count p) ∧
    (∀ M, Matching ts.length us.length threshold (scoreAt ts us) M → M.card ≤ chosen.length) ∧
    (couples (pairing us ts threshold)).Perm (chosen.map Prod.swap) := by
  intro chosen
  have hgreedy := greedyPairing ts us threshold
  have hlength : chosen.length = ∑ p ∈ (ts.map position).toFinset,
      min ((ts.map position).count p) ((us.map position).count p) := by
    rw [← List.toFinset_card_of_nodup hgreedy.nodup_couples,
      card_eq_sum_positions hgreedy.matching_couples.left_lt]
    exact Finset.sum_congr rfl fun p _ => card_couples_position h ts us p
  refine ⟨fun i j => mem_couples_iff h, hgreedy.nodup_couples, hlength, fun M hM => ?_, ?_⟩
  · rw [hlength, card_eq_sum_positions hM.left_lt]
    exact Finset.sum_le_sum fun p _ => card_filter_position_le h hM p
  · have hswap : (chosen.map Prod.swap).Nodup := hgreedy.nodup_couples.map Prod.swap_injective
    refine (List.perm_ext_iff_of_nodup (greedyPairing us ts threshold).nodup_couples hswap).2 ?_
    rintro ⟨j, i⟩
    rw [mem_couples_iff h, List.mem_map]
    constructor
    · intro hji
      exact ⟨(i, j), (mem_couples_iff h).2 hji.symm, rfl⟩
    · rintro ⟨⟨i, j⟩, hij, heq⟩
      cases heq
      exact ((mem_couples_iff h).1 hij).symm

/-- Tracks at given positions. -/
def atPositions (ps : List (Int × Int)) : List Track :=
  ps.map fun p => { Track.create .empty default p.1 "Take" (.ofText "/take.flac") with disc := p.2 }

/-- The second take on the first disc finds the second one there, although it is the third track of its
list, and one of three takes has no partner. -/
theorem couples_by_position_takes :
    let ts := atPositions [(1, 1), (1, 2), (1, 1)]
    let us := atPositions [(1, 2), (1, 1), (1, 1), (1, 1)]
    let chosen := couples (pairing ts us .one)
    Score.one.WithinOne ∧ (0, 1) ∈ chosen ∧ (1, 0) ∈ chosen ∧ (2, 2) ∈ chosen ∧ chosen.length = 3 ∧
      (couples (pairing us ts .one)).Perm (chosen.map Prod.swap) := by
  intro ts us chosen
  have hone : Score.one.WithinOne := ⟨by decide, by decide, by decide⟩
  obtain ⟨hmem, -, hlength, -, hswap⟩ := couples_by_position hone ts us
  exact ⟨hone, (hmem 0 1).2 ⟨(1, 1), 0, rfl, rfl⟩, (hmem 1 0).2 ⟨(1, 2), 0, rfl, rfl⟩,
    (hmem 2 2).2 ⟨(1, 1), 1, rfl, rfl⟩, hlength.trans (by decide +kernel), hswap⟩

end MusicLibrary.Track

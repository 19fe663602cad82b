import MusicLibrary.Proofs.Album.MergedMembers
import MusicLibrary.Score.Decimal

/-!
# Merging the same source twice

Tracks may share positions and extras may share names, in the target as well as in the source. After a
merge every source track has a track of the album that has taken it in, as its partner or as a newcomer.
When the source is merged once more these tracks are its partners (`both_mem_pairing_again_iff`), which
have all that the source tracks could give them, so that nothing changes (`merge_again`). And each track of
an album is the partner of its own copy, whatever scores below 1 the threshold lets pass, so that merging
an album with its copy changes nothing either (`merge_deepCopy`).
-/

namespace MusicLibrary

/-! ## Fields that have been merged -/

section Fields

variable (overwrite : Bool)

theorem AlbumInfo.merge_merge (i source : AlbumInfo) :
    (i.merge overwrite source).merge overwrite source = i.merge overwrite source := by
  cases overwrite <;> simp [merge, or_or_left, Option.or_assoc]

theorem AlbumInfo.merge_self (i : AlbumInfo) : i.merge overwrite i = i := by
  cases overwrite <;> simp [merge]

theorem Track.merge_self (t : Track) : t.merge overwrite t = t := by
  cases overwrite <;> simp [merge, GenreSet.orElse_self]

end Fields

theorem Shelf.write_read (s : Shelf) (h : Handle) : s.write h (s.read h) = s := by
  refine congrArg Shelf.mk (Array.ext (by simp) fun i hi hi' => ?_)
  rw [Array.getElem_setIfInBounds hi']
  split_ifs with heq
  · subst heq
    simp [read, hi']
  · rfl

/-! ## Members of a copy -/

section Copies

variable (overwrite : Bool) (threshold : Score) (k : Handle)

theorem Track.scoreAt_map_on (ts us : List Track) : scoreAt ts (us.map (·.on k)) = scoreAt ts us := by
  funext i j
  rw [scoreAt, scoreAt, List.getElem?_map]
  rcases ts[i]? with _ | t <;> rcases us[j]? with _ | u <;> rfl

theorem Track.pairing_map_on (ts us : List Track) :
    pairing ts (us.map (·.on k)) threshold = pairing ts us threshold := by
  rw [pairing, pairing, scoreAt_map_on, List.length_map]

theorem Album.mergedTrack_map_on (pairs : List (Pair Nat Nat)) (source : List Track) :
    mergedTrack overwrite pairs (source.map (·.on k)) = mergedTrack overwrite pairs source := by
  funext i t
  rcases hp : partner? pairs i with _ | j
  · simp only [mergedTrack, hp, Option.bind_none]
  · simp only [mergedTrack, hp, Option.bind_some, List.getElem?_map]
    rcases source[j]? with _ | u
    · rfl
    · exact Track.merge_on u k

/-- Tracks are merged without regard to the album that they are of. -/
theorem Album.mergeTracks_map_on (a : Album) (source : List Track) :
    a.mergeTracks overwrite threshold (source.map (·.on k)) = a.mergeTracks overwrite threshold source := by
  rw [mergeTracks_eq, mergeTracks_eq, Track.pairing_map_on, mergedTrack_map_on]
  simp only [List.getElem?_map, ← List.map_filterMap, List.map_map]
  rfl

/-- Extras are merged without regard to the album that they are of. -/
theorem Album.foldl_mergeExtra_map_on (a : Album) (source : List Extra) :
    (source.map (·.on k)).foldl (mergeExtra overwrite) a = source.foldl (mergeExtra overwrite) a := by
  rw [List.foldl_map]
  rfl

end Copies

/-! ## Tracks paired with themselves -/

namespace Track

variable {ts : List Track} {threshold : Score} {i j : Nat}

/-- If a list of tracks is paired with itself, every track is its own partner. -/
theorem both_mem_pairing_self (h : Score.one.Reaches threshold) (hi : i < ts.length) (hj : j < ts.length) :
    .both i j ∈ pairing ts ts threshold ↔ i = j := by
  have hown : ∀ k < ts.length, scoreAt ts ts k k = .one := fun k hk => scoreAt_of_position hk hk rfl
  refine (greedyPairing ts ts threshold).both_mem_iff_of_settled (P := (· = ·)) (fun i hi j hj => ?_) hi hj
  constructor
  · rintro rfl
    refine ⟨(hown i hi).symm ▸ h, ?_⟩
    rintro k - l - rfl hahead
    have hne : k ≠ i := by
      rintro rfl
      exact not_ahead_self _ _ hahead
    exact ⟨hne, hne⟩
  · rintro ⟨-, hfree⟩
    by_contra hne
    -- one of the pairs `(i, i)` and `(j, j)` would be ahead of `(i, j)`
    have hleft : ¬ Ahead (scoreAt ts ts) (i, i) (i, j) := fun ha => (hfree i hi i hi rfl ha).1 rfl
    have hright : ¬ Ahead (scoreAt ts ts) (j, j) (i, j) := fun ha => (hfree j hj j hj rfl ha).2 rfl
    have hrank := rank_scoreAt_le ts ts i j
    simp only [Ahead, hown i hi, hown j hj, true_and] at hleft hright
    omega

end Track

namespace Album

variable {overwrite : Bool} {threshold : Score} {a : Album} {source : List Track} {i j : Nat}

/-- Tracks that have all that their partners could give them stay as they are, if there are no newcomers. -/
theorem mergeTracks_eq_self
    (hall : ∀ j < source.length, ∃ i, .both i j ∈ Track.pairing a.tracks source threshold)
    (hpartners : ∀ (i j : Nat) (hi : i < a.tracks.length) (hj : j < source.length),
      .both i j ∈ Track.pairing a.tracks source threshold →
        a.tracks[i].merge overwrite source[j] = a.tracks[i]) :
    a.mergeTracks overwrite threshold source = a := by
  have hnone : newcomers (Track.pairing a.tracks source threshold) = [] := by
    refine List.eq_nil_iff_forall_not_mem.2 fun j hj => ?_
    obtain ⟨hlt, hno⟩ := (Track.greedyPairing _ _ _).right_mem_iff.1 (mem_newcomers.1 hj)
    obtain ⟨i, hi⟩ := hall j hlt
    exact hno i hi
  have hold : a.tracks.mapIdx (mergedTrack overwrite (Track.pairing a.tracks source threshold) source) =
      a.tracks := by
    refine List.ext_getElem (by simp) fun i hi hi' => ?_
    rw [List.getElem_mapIdx]
    rcases mergedTrack_cases (Track.pairing a.tracks source threshold) i a.tracks[i] with
      ⟨j, hj, hp, hm⟩ | hm <;> rw [hm]
    exact hpartners i j hi' hj (partner?_pairing_iff.1 hp)
  rw [mergeTracks_eq, hnone, hold, List.filterMap_nil, List.map_nil, List.append_nil]

/-- An album keeps its tracks when it is merged with them. -/
theorem mergeTracks_self (h : Score.one.Reaches threshold) (a : Album) :
    a.mergeTracks overwrite threshold a.tracks = a := by
  refine mergeTracks_eq_self (fun j hj => ⟨j, ?_⟩) fun i j hi hj hij => ?_
  · exact (Track.both_mem_pairing_self h hj hj).2 rfl
  · cases (Track.both_mem_pairing_self h hi hj).1 hij
    exact Track.merge_self overwrite _

/-! ## The tracks of a merged album -/

/-- Whether the `i`-th track of an album has taken in the `j`-th source track: it is its partner, or it is
that track itself, added behind the `n` tracks of the target. -/
def TakenIn (pairs : List (Pair Nat Nat)) (n i j : Nat) : Prop :=
  .both i j ∈ pairs ∨ ∃ k, i = n + k ∧ (newcomers pairs)[k]? = some j

section TakenIn

variable {n m i' j' : Nat} {score : Nat → Nat → Score} {pairs : List (Pair Nat Nat)}

theorem TakenIn.left_eq (h : GreedyPairing n m threshold score pairs) (hij : TakenIn pairs n i j)
    (hij' : TakenIn pairs n i' j) : i = i' := by
  rcases hij with hij | ⟨k, rfl, hk⟩ <;> rcases hij' with hij' | ⟨k', rfl, hk'⟩
  · cases h.eq_of_right hij hij' rfl rfl
    rfl
  · exact absurd hij ((h.right_mem_iff.1 (mem_newcomers.1 (List.mem_of_getElem? hk'))).2 i)
  · exact absurd hij' ((h.right_mem_iff.1 (mem_newcomers.1 (List.mem_of_getElem? hk))).2 i')
  · have hnodup : (newcomers pairs).Nodup := h.pairwise_newcomers.imp Nat.ne_of_lt
    obtain ⟨hlt, -⟩ := List.getElem?_eq_some_iff.1 hk
    rw [(List.getElem?_inj hlt hnodup).1 (hk.trans hk'.symm)]

theorem TakenIn.right_eq (h : GreedyPairing n m threshold score pairs) (hij : TakenIn pairs n i j)
    (hij' : TakenIn pairs n i j') : j = j' := by
  rcases hij with hij | ⟨k, rfl, hk⟩ <;> rcases hij' with hij' | ⟨k', hkk', hk'⟩
  · cases h.eq_of_left hij hij' rfl rfl
    rfl
  · have := (h.both_mem_iff.1 hij).1
    omega
  · have := (h.both_mem_iff.1 hij').1
    omega
  · obtain rfl : k = k' := by omega
    exact Option.some.inj (hk.symm.trans hk')

/-- Every source track is taken in. -/
theorem exists_takenIn (h : GreedyPairing n m threshold score pairs) (hj : j < m) :
    ∃ i, TakenIn pairs n i j := by
  by_cases hpartner : ∃ i, .both i j ∈ pairs
  · obtain ⟨i, hi⟩ := hpartner
    exact ⟨i, .inl hi⟩
  · have hnew : j ∈ newcomers pairs :=
      mem_newcomers.2 (h.right_mem_iff.2 ⟨hj, fun i hi => hpartner ⟨i, hi⟩⟩)
    obtain ⟨k, hk⟩ := List.mem_iff_getElem?.1 hnew
    exact ⟨n + k, .inr ⟨k, rfl, hk⟩⟩

/-- Source tracks before a newcomer are taken in before it. -/
theorem TakenIn.lt_of_lt_newcomer (h : GreedyPairing n m threshold score pairs) (hij : TakenIn pairs n i j)
    {k : Nat} (hk : k < (newcomers pairs).length) (hjk : j < (newcomers pairs)[k]) : i < n + k := by
  rcases hij with hij | ⟨l, rfl, hl⟩
  · exact Nat.lt_add_right k (h.both_mem_iff.1 hij).1
  · obtain ⟨hlt, rfl⟩ := List.getElem?_eq_some_iff.1 hl
    by_contra hge
    rcases Nat.eq_or_lt_of_le (by omega : k ≤ l) with rfl | hkl
    · exact Nat.lt_irrefl _ hjk
    · exact Nat.lt_asymm hjk (List.pairwise_iff_getElem.1 h.pairwise_newcomers k l hk hlt hkl)

end TakenIn

/-- A track that has taken in a source track stands at its position and has all it could give. -/
theorem TakenIn.exists_track (overwrite : Bool) (h : threshold.WithinOne) (hj : j < source.length)
    (hij : TakenIn (Track.pairing a.tracks source threshold) a.tracks.length i j) :
    ∃ v, (a.mergeTracks overwrite threshold source).tracks[i]? = some v ∧
      v.position = source[j].position ∧ v.merge overwrite source[j] = v := by
  rcases hij with hij | ⟨k, rfl, hk⟩
  · have hp : partner? (Track.pairing a.tracks source threshold) i = some j := partner?_pairing_iff.2 hij
    obtain ⟨hi, _, hposition⟩ := Track.partner?_position h hp
    refine ⟨_, getElem?_tracks_mergeTracks hi, (mergedTrack_position h hi).trans hposition, ?_⟩
    rw [mergedTrack_of_partner? _ hp hj]
    exact Track.merge_merge overwrite _ _
  · refine ⟨_, getElem?_tracks_mergeTracks_add hk hj, rfl, ?_⟩
    rw [← Track.merge_on source[j] a.handle, Track.merge_self]

theorem TakenIn.position (overwrite : Bool) (h : threshold.WithinOne) (hj : j < source.length)
    (hij : TakenIn (Track.pairing a.tracks source threshold) a.tracks.length i j) :
    ∃ hi : i < (a.mergeTracks overwrite threshold source).tracks.length,
      (a.mergeTracks overwrite threshold source).tracks[i].position = source[j].position := by
  obtain ⟨v, hv, hposition, -⟩ := hij.exists_track overwrite h hj
  obtain ⟨hi, rfl⟩ := List.getElem?_eq_some_iff.1 hv
  exact ⟨hi, hposition⟩

/-- A pair at one position that is not taken in is held up by one that is, and comes first. -/
theorem exists_takenIn_before (h : threshold.WithinOne)
    (hi : i < (a.mergeTracks overwrite threshold source).tracks.length) (hj : j < source.length)
    (hposition : (a.mergeTracks overwrite threshold source).tracks[i].position = source[j].position)
    (hno : ¬ TakenIn (Track.pairing a.tracks source threshold) a.tracks.length i j) :
    ∃ k l, TakenIn (Track.pairing a.tracks source threshold) a.tracks.length k l ∧ l < source.length ∧
      (k = i ∨ l = j) ∧ (k < i ∨ k = i ∧ l < j) := by
  have hfirst := Track.greedyPairing a.tracks source threshold
  by_cases hold : i < a.tracks.length
  · -- the pair was held up when the source was merged first
    have hmerged : (a.mergeTracks overwrite threshold source).tracks[i] =
        mergedTrack overwrite (Track.pairing a.tracks source threshold) source i a.tracks[i] :=
      (List.getElem?_eq_some_iff.1 (getElem?_tracks_mergeTracks hold)).2
    have hown : a.tracks[i].position = source[j].position := by
      rw [hmerged, mergedTrack_position h hold] at hposition
      exact hposition
    obtain ⟨k, l, hkl, hclash, hahead⟩ := hfirst.stable i hold j hj
      ((Track.scoreAt_reaches h hold hj).2 hown) fun hij => hno (.inl hij)
    obtain ⟨hk, hl, hpartners⟩ := Track.partner?_position h (partner?_pairing_iff.2 hkl)
    exact ⟨k, l, .inl hkl, hl, hclash,
      (Track.ahead_iff_of_position hold hj hk hl hown hpartners).1 hahead⟩
  · -- a newcomer has taken in itself, and source tracks before it have been taken in before it
    obtain ⟨k, rfl⟩ := Nat.exists_eq_add_of_le (Nat.not_lt.1 hold)
    have hk : k < (newcomers (Track.pairing a.tracks source threshold)).length := by
      rw [length_tracks_mergeTracks] at hi
      omega
    have hself := List.getElem?_eq_getElem hk
    rcases Nat.lt_trichotomy (newcomers (Track.pairing a.tracks source threshold))[k] j with hlt | heq | hgt
    · exact ⟨_, _, .inr ⟨k, rfl, hself⟩, Nat.lt_trans hlt hj, .inl rfl, .inr ⟨rfl, hlt⟩⟩
    · exact absurd (.inr ⟨k, rfl, heq ▸ hself⟩) hno
    · obtain ⟨i', hi'⟩ := exists_takenIn hfirst hj
      exact ⟨i', j, hi', hj, .inr rfl, .inl (hi'.lt_of_lt_newcomer hfirst hk hgt)⟩

/-- When the source is merged once more, each of its tracks finds the track that has taken it in. -/
theorem both_mem_pairing_again_iff (h : threshold.WithinOne)
    (hi : i < (a.mergeTracks overwrite threshold source).tracks.length) (hj : j < source.length) :
    .both i j ∈ Track.pairing (a.mergeTracks overwrite threshold source).tracks source threshold ↔
      TakenIn (Track.pairing a.tracks source threshold) a.tracks.length i j := by
  have hfirst := Track.greedyPairing a.tracks source threshold
  exact Track.both_mem_pairing_iff_of_position h (fun _ _ hj hij => hij.position overwrite h hj)
    (fun _ _ _ hij hkj => hij.left_eq hfirst hkj) (fun _ _ _ hij hil => hij.right_eq hfirst hil)
    (fun _ _ hi hj hposition hno => exists_takenIn_before h hi hj hposition hno) hi hj

/-- Tracks that have been merged are not changed by merging them once more. -/
theorem mergeTracks_again (h : threshold.WithinOne) :
    (a.mergeTracks overwrite threshold source).mergeTracks overwrite threshold source =
      a.mergeTracks overwrite threshold source := by
  refine mergeTracks_eq_self (fun j hj => ?_) fun i j hi hj hij => ?_
  · obtain ⟨i, hij⟩ := exists_takenIn (Track.greedyPairing a.tracks source threshold) hj
    obtain ⟨hi, -⟩ := hij.position overwrite h hj
    exact ⟨i, (both_mem_pairing_again_iff h hi hj).2 hij⟩
  · obtain ⟨v, hv, -, hmerge⟩ := ((both_mem_pairing_again_iff h hi hj).1 hij).exists_track overwrite h hj
    obtain ⟨_, rfl⟩ := List.getElem?_eq_some_iff.1 hv
    exact hmerge

/-! ## The extras of a merged album -/

/-- Extras that have been merged are not changed by merging them once more. -/
theorem foldl_mergeExtra_again (overwrite : Bool) (a : Album) (source : List Extra) :
    source.foldl (mergeExtra overwrite) (source.foldl (mergeExtra overwrite) a) =
      source.foldl (mergeExtra overwrite) a := by
  obtain ⟨new, hnew, hnames, -⟩ := exists_extras_foldl_mergeExtra a source
  have hnamed : ∀ e ∈ source,
      e.filename ∈ (source.foldl (mergeExtra overwrite) a).extras.map (·.filename) := by
    intro e he
    rw [foldl_mergeExtra_eq, hnew]
    simp only [Extra.map_filename_redirectedFirsts, List.map_append, hnames]
    exact Extra.mem_append_lackedNames.2 (.inr (List.mem_map.2 ⟨e, he, rfl⟩))
  rw [foldl_mergeExtra_eq overwrite (source.foldl (mergeExtra overwrite) a), foldl_mergeExtra_of_named hnamed,
    foldl_mergeExtra_eq overwrite a source]
  simp only [Extra.redirectedFirsts_redirectedFirsts]

/-- An album of extras with different names keeps them when it is merged with them. -/
theorem foldl_mergeExtra_self (overwrite : Bool) (hnames : (a.extras.map (·.filename)).Nodup) :
    a.extras.foldl (mergeExtra overwrite) a = a := by
  have hself : ∀ e ∈ a.extras, e.redirected overwrite a.extras = e := by
    intro e he
    cases overwrite
    · rfl
    · rcases hl : Extra.lastNamed? a.extras e.filename with _ | f
      · exact Extra.redirected_of_none hl
      · have hf := List.mem_of_mem_filter (List.mem_of_getLast? hl)
        rw [Extra.redirected_of_some hl,
          List.inj_on_of_nodup_map hnames hf he (Extra.filename_of_lastNamed? hl)]
  rw [foldl_mergeExtra_eq, foldl_mergeExtra_of_named fun e he => List.mem_map.2 ⟨e, he, rfl⟩,
    Extra.redirectedFirsts_eq_self fun i hi _ => hself _ (List.getElem_mem hi)]

/-! ## Whole albums -/

section Whole

variable {target source : Album} {s : Shelf}

theorem read_add_read (s : Shelf) (h : Handle) : (s.add (s.read h)).2.read h = s.read h := by
  by_cases hs : s.Holds h
  · exact Shelf.read_add_of_holds hs _
  · have hdefault : s.read h = default := by
      rw [Shelf.read, Array.getElem?_eq_none (Nat.not_lt.1 hs)]
      rfl
    rw [hdefault]
    simp only [Shelf.read, Shelf.add, Array.getElem?_push]
    split_ifs
    · rfl
    · rw [Array.getElem?_eq_none (Nat.not_lt.1 hs)]
      rfl

theorem mergeTracks_extras (es : List Extra) (us : List Track) :
    { a with extras := es }.mergeTracks overwrite threshold us =
      { a.mergeTracks overwrite threshold us with extras := es } := by
  rw [mergeTracks_eq, mergeTracks_eq]

/-- Merging a copy of the source into an album that the source has been merged into changes nothing: not
the fields of the album, and no member. -/
theorem merge_again (overwrite : Bool) (h : threshold.WithinOne) (source : Album) (hs : s.Holds target.handle) :
    let copy := source.deepCopy s
    let once := target.merge overwrite threshold source copy.2
    once.1.merge overwrite threshold copy.1 once.2 = once := by
  intro copy once
  have hmembers : copy.1.extras.foldl (mergeExtra overwrite)
      (once.1.mergeTracks overwrite threshold copy.1.tracks) = once.1 := by
    have htracks : once.1.mergeTracks overwrite threshold copy.1.tracks = once.1 := by
      have honce : once.1 = { target.mergeTracks overwrite threshold source.tracks with extras := once.1.extras } :=
        foldl_mergeExtra_eq_extras overwrite _ _
      rw [honce, mergeTracks_extras]
      exact congrArg (fun b : Album => { b with extras := once.1.extras })
        ((mergeTracks_map_on ..).trans (mergeTracks_again h))
    rw [htracks]
    exact (foldl_mergeExtra_map_on ..).trans (foldl_mergeExtra_again ..)
  have hsource : source.info copy.2 = source.info s := read_add_read s source.handle
  have hcopy : copy.1.info once.2 = source.info s := by
    have hne : copy.1.handle ≠ target.handle := fun heq => by
      rw [← heq] at hs
      exact Shelf.not_holds_add s (source.info s) hs
    exact (Shelf.read_write_of_ne hne _).trans (Shelf.read_add s _)
  have honce : once.1.info once.2 = (target.info copy.2).merge overwrite (source.info s) := by
    have hread := Shelf.read_write (hs.of_add (source.info s))
      ((target.info copy.2).merge overwrite (source.info copy.2))
    rw [info, merge_handle]
    exact hread.trans (by rw [hsource])
  have hfields : once.2.write once.1.handle ((once.1.info once.2).merge overwrite (copy.1.info once.2)) =
      once.2 := by
    rw [hcopy, honce, AlbumInfo.merge_merge, ← honce]
    exact Shelf.write_read _ _
  exact Prod.ext hmembers hfields

/-- Two takes find the partners among three that they had before, though the third one has been added and
all of them have the number 1. -/
theorem merge_again_takes :
    let copy := threeTakes.deepCopy nightAndLive
    let once := twoTakes.merge true .one threeTakes copy.2
    Score.one.WithinOne ∧ nightAndLive.Holds twoTakes.handle ∧ once.1.tracks.length = 3 ∧
      once.1.merge true .one copy.1 once.2 = once := by
  intro copy once
  have hone : Score.one.WithinOne := ⟨by decide, by decide, by decide⟩
  have hs : nightAndLive.Holds twoTakes.handle := Nat.zero_lt_two
  have hlength : once.1.tracks.length = 3 := by
    rw [merge_tracks, length_tracks_mergeTracks, pairing_takes]
    rfl
  exact ⟨hone, hs, hlength, merge_again true hone threeTakes hs⟩

/-- Merging a copy of an album into it changes nothing, if no two of its extras share a name and 1 reaches
the threshold: not its fields, no member, and no handle. -/
theorem merge_deepCopy (overwrite : Bool) (hnames : (a.extras.map (·.filename)).Nodup)
    (hnumber : threshold.isNaN = false) (hthreshold : threshold.level ≤ Score.one.level) (s : Shelf) :
    let copy := a.deepCopy s
    a.merge overwrite threshold copy.1 copy.2 = (a, copy.2) := by
  intro copy
  have hmembers : copy.1.extras.foldl (mergeExtra overwrite)
      (a.mergeTracks overwrite threshold copy.1.tracks) = a := by
    have htracks : a.mergeTracks overwrite threshold copy.1.tracks = a :=
      (mergeTracks_map_on ..).trans (mergeTracks_self ⟨by decide, hnumber, hthreshold⟩ a)
    rw [htracks]
    exact (foldl_mergeExtra_map_on ..).trans (foldl_mergeExtra_self overwrite hnames)
  have hfields : copy.2.write a.handle ((a.info copy.2).merge overwrite (copy.1.info copy.2)) = copy.2 := by
    have hown : a.info copy.2 = a.info s := read_add_read s a.handle
    have hcopy : copy.1.info copy.2 = a.info s := Shelf.read_add s _
    rw [hcopy, ← hown, AlbumInfo.merge_self]
    exact Shelf.write_read _ _
  exact Prod.ext hmembers hfields

/-- Two takes keep their own titles although the threshold lets every pair pass. -/
theorem merge_deepCopy_takes :
    let a := takes ⟨0⟩ ["One", "Uno"] ["/night/cover.jpg", "/night/list.txt"]
    let copy := a.deepCopy nightAndLive
    (a.extras.map (·.filename)).Nodup ∧ (Score.infinite true).isNaN = false ∧
      (Score.infinite true).level ≤ Score.one.level ∧
      a.merge true (.infinite true) copy.1 copy.2 = (a, copy.2) := by
  intro a copy
  have hnames : (a.extras.map (·.filename)).Nodup := by decide +kernel
  exact ⟨hnames, by decide, by decide, merge_deepCopy true hnames (by decide) (by decide) nightAndLive⟩

end Whole

end Album

end MusicLibrary

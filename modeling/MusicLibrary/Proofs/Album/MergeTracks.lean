import Mathlib.Data.List.Induction
import MusicLibrary.Proofs.Album.Pairing
import MusicLibrary.Proofs.Table
import MusicLibrary.Store.Save

/-!
# Merging the same fields and tracks again

What has been taken from a source once is not taken again: a target `Absorbs` a source if merging
leaves all that a store keeps of the target as it is. Fields and tracks absorb what has been merged
into them (`absorbs_merge`). An album whose tracks absorb those of a source is left as it is by
`mergeTracks`, if tracks at the same position count as the same track.
-/

namespace MusicLibrary

/-- The items at the numbers that pass a test. -/
theorem filterMap_filter_range {α : Type} (as : List α) (p : Nat → Bool) :
    ((List.range as.length).filter p).filterMap (as[·]?) = (as.zipIdx.filter (p ·.2)).map (·.1) := by
  induction as using List.reverseRecOn with
  | nil => rfl
  | append_singleton as a ih =>
    have hbefore : ((List.range as.length).filter p).filterMap ((as ++ [a])[·]?) =
        ((List.range as.length).filter p).filterMap (as[·]?) := by
      refine List.filterMap_congr fun j hj => ?_
      exact List.getElem?_append_left (List.mem_range.1 (List.mem_of_mem_filter hj))
    rw [List.length_append, List.length_singleton, List.range_succ, List.filter_append, List.filterMap_append,
      hbefore, ih, List.zipIdx_append, List.filter_append, List.map_append, Nat.zero_add]
    by_cases hp : p as.length = true <;> simp [hp]

theorem or_or_left {α : Type} (x y : Option α) : x.or (x.or y) = x.or y := by
  cases x <;> rfl

namespace GenreSet

theorem orElse_self (s : GenreSet) : s.orElse s = s := by simp [orElse]

theorem orElse_orElse_left (s t : GenreSet) : s.orElse (s.orElse t) = s.orElse t := by
  by_cases hs : s.isEmpty <;> simp [orElse, hs]

theorem orElse_orElse_right (s t : GenreSet) : (s.orElse t).orElse t = s.orElse t := by
  by_cases hs : s.isEmpty <;> simp [orElse, hs]

end GenreSet

/-! ## Fields -/

namespace AlbumInfo

variable {overwrite : Bool} {i j source : AlbumInfo}

/-- A store keeps the same of two albums, but for the number. -/
def Alike (i j : AlbumInfo) : Prop := i.row 0 = j.row 0

/-- Merging a source leaves all that a store keeps of an album as it is. -/
def Absorbs (overwrite : Bool) (i source : AlbumInfo) : Prop := (i.merge overwrite source).Alike i

theorem Alike.row_eq (h : i.Alike j) (n : Int) : i.row n = j.row n := by
  have : { i.row 0 with id := n } = { j.row 0 with id := n } := congrArg (fun r => { r with id := n }) h
  exact this

theorem merge_id? : (i.merge overwrite source).id? = i.id? := by
  cases overwrite <;> rfl

/-- What has been merged is absorbed. -/
theorem absorbs_merge (h : i.Alike (j.merge overwrite source)) : i.Absorbs overwrite source := by
  rw [Alike, row, row, AlbumRow.mk.injEq] at h
  rw [Absorbs, Alike, row, row, AlbumRow.mk.injEq]
  cases overwrite <;> simp_all [merge, Option.map_or, or_or_left, Option.or_assoc]

/-- An album absorbs one that is the same to a store. -/
theorem absorbs_of_alike (h : i.Alike source) : i.Absorbs overwrite source := by
  rw [Alike, row, row, AlbumRow.mk.injEq] at h
  rw [Absorbs, Alike, row, row, AlbumRow.mk.injEq]
  cases overwrite <;> simp_all [merge, Option.map_or]

end AlbumInfo

namespace Track

variable {overwrite : Bool} {t u v source : Track}

/-- A store keeps the same of two tracks, but for number and album. -/
def Alike (t u : Track) : Prop := t.row 0 0 = u.row 0 0 ∧ t.genres = u.genres

/-- Merging a source leaves all that a store keeps of a track as it is. -/
def Absorbs (overwrite : Bool) (t source : Track) : Prop := (t.merge overwrite source).Alike t

theorem alike_refl (t : Track) : t.Alike t := ⟨rfl, rfl⟩

theorem Alike.symm (h : t.Alike u) : u.Alike t := ⟨h.1.symm, h.2.symm⟩

theorem Alike.trans (h : t.Alike u) (h' : u.Alike v) : t.Alike v := ⟨h.1.trans h'.1, h.2.trans h'.2⟩

theorem Alike.row_eq (h : t.Alike u) (k n : Int) : t.row k n = u.row k n := by
  have : { t.row 0 0 with id := k, albumId := n } = { u.row 0 0 with id := k, albumId := n } :=
    congrArg (fun r => { r with id := k, albumId := n }) h.1
  exact this

theorem Alike.position_eq (h : t.Alike u) : t.position = u.position := by
  have := congrArg TrackRow.position h.1
  simp only [TrackRow.position, row, Prod.mk.injEq, true_and] at this
  rw [position, position, this.1, this.2]

theorem merge_id? : (t.merge overwrite source).id? = t.id? := by
  cases overwrite <;> rfl

theorem Alike.merge (h : t.Alike u) (overwrite : Bool) (source : Track) :
    (t.merge overwrite source).Alike (u.merge overwrite source) := by
  obtain ⟨hr, hg⟩ := h
  rw [row, row, TrackRow.mk.injEq] at hr
  rw [Alike, row, row, TrackRow.mk.injEq]
  cases overwrite <;> simp_all [Track.merge]

/-- What is absorbed is a matter of what a store keeps. -/
theorem Absorbs.of_alike (h : t.Absorbs overwrite source) (hu : u.Alike t) :
    u.Absorbs overwrite source := ((hu.merge overwrite source).trans h).trans hu.symm

theorem merge_merge (overwrite : Bool) (t source : Track) :
    (t.merge overwrite source).merge overwrite source = t.merge overwrite source := by
  cases overwrite <;> simp [merge, or_or_left, Option.or_assoc, GenreSet.orElse_orElse_left,
    GenreSet.orElse_orElse_right]

/-- What has been merged is absorbed. -/
theorem absorbs_merge (overwrite : Bool) (t source : Track) :
    (t.merge overwrite source).Absorbs overwrite source := by
  rw [Absorbs, merge_merge]
  exact alike_refl _

/-- A track absorbs one that is the same to a store. -/
theorem absorbs_of_alike (h : t.Alike source) : t.Absorbs overwrite source := by
  obtain ⟨hr, hg⟩ := h
  rw [row, row, TrackRow.mk.injEq] at hr
  rw [Absorbs, Alike, row, row, TrackRow.mk.injEq]
  cases overwrite <;> simp_all [Track.merge, GenreSet.orElse_self]

theorem eq_of_position_eq {ts : List Track} (h : (ts.map (·.position)).Nodup) {i j : Nat}
    (hi : i < ts.length) (hj : j < ts.length) (he : ts[i].position = ts[j].position) : i = j := by
  have hpairs := List.pairwise_iff_getElem.1 (List.pairwise_map.1 h)
  rcases Nat.lt_trichotomy i j with hlt | heq | hgt
  · exact absurd he (hpairs i j hi hj hlt)
  · exact heq
  · exact absurd he.symm (hpairs j i hj hi hgt)

/-- A newcomer among tracks at different positions stands where no track of the target does. -/
theorem position_ne_of_mem_newcomers {ts us : List Track} {threshold : Score}
    (h : threshold.WithinOne) (hus : (us.map (·.position)).Nodup) {j : Nat}
    (hnew : j ∈ newcomers (pairing ts us threshold)) (hj : j < us.length) :
    ∀ t ∈ ts, t.position ≠ us[j].position := by
  intro t ht htp
  -- the track at the position of a newcomer has a partner, which stands at that position, too
  obtain ⟨i, hi, rfl⟩ := List.mem_iff_getElem.1 ht
  obtain ⟨k, hkj, hk⟩ := partner?_of_mem_newcomers h hnew hi hj htp
  obtain ⟨_, hk', hpos⟩ := partner?_position h hk
  exact hkj (eq_of_position_eq hus hk' hj (hpos.symm.trans htp))

end Track

/-! ## Tracks of albums -/

/-- A track as a member of the album at a handle. -/
def Track.on (h : Handle) (t : Track) : Track := { t with album := h }

/-- An extra as a member of the album at a handle. -/
def Extra.on (h : Handle) (e : Extra) : Extra := { e with album := h }

/-- An album as it would be at another handle. -/
def Album.on (h : Handle) (a : Album) : Album := ⟨h, a.tracks.map (·.on h), a.extras.map (·.on h)⟩

/-- What is merged into a track does not depend on the album it comes from. -/
theorem Track.merge_on {overwrite : Bool} {t : Track} (u : Track) (h : Handle) :
    t.merge overwrite (u.on h) = t.merge overwrite u := by
  cases overwrite <;> rfl

namespace Album

/-- The `i`-th track of the target after a merge. -/
def mergedTrack (overwrite : Bool) (pairs : List (Pair Nat Nat)) (source : List Track) (i : Nat)
    (t : Track) : Track :=
  match (partner? pairs i).bind (source[·]?) with
  | some u => t.merge overwrite u
  | none => t

theorem foldl_addTrack (a : Album) (us : List Track) :
    us.foldl addTrack a = { a with tracks := a.tracks ++ us.map ({ · with album := a.handle }) } := by
  induction us generalizing a with
  | nil => simp
  | cons u us ih => simp [ih, addTrack]

/-- Merging tracks keeps the target's tracks in their places and appends the newcomers. -/
theorem mergeTracks_eq (overwrite : Bool) (threshold : Score) (a : Album) (source : List Track) :
    a.mergeTracks overwrite threshold source =
      { a with
        tracks :=
          a.tracks.mapIdx (mergedTrack overwrite (Track.pairing a.tracks source threshold) source) ++
            ((newcomers (Track.pairing a.tracks source threshold)).filterMap (source[·]?)).map
              ({ · with album := a.handle }) } :=
  foldl_addTrack _ _

section

variable {overwrite : Bool} {threshold : Score} {a : Album} {source : List Track}

theorem mergedTrack_of_partner? {pairs : List (Pair Nat Nat)} {i j : Nat} (t : Track)
    (hp : partner? pairs i = some j) (hj : j < source.length) :
    mergedTrack overwrite pairs source i t = t.merge overwrite source[j] := by
  simp only [mergedTrack, hp, Option.bind_some, List.getElem?_eq_getElem hj]

/-- A track of the target is merged with its partner or stays as it is. -/
theorem mergedTrack_cases (pairs : List (Pair Nat Nat)) (i : Nat) (t : Track) :
    (∃ j, ∃ hj : j < source.length, partner? pairs i = some j ∧
      mergedTrack overwrite pairs source i t = t.merge overwrite source[j]) ∨
    mergedTrack overwrite pairs source i t = t := by
  rcases hp : partner? pairs i with _ | j
  · exact .inr (by simp only [mergedTrack, hp, Option.bind_none])
  · by_cases hj : j < source.length
    · exact .inl ⟨j, hj, rfl, mergedTrack_of_partner? t hp hj⟩
    · have hnone : source[j]? = none := List.getElem?_eq_none (Nat.not_lt.1 hj)
      exact .inr (by simp only [mergedTrack, hp, Option.bind_some, hnone])

theorem mergedTrack_id? {pairs : List (Pair Nat Nat)} {i : Nat} {t : Track} :
    (mergedTrack overwrite pairs source i t).id? = t.id? := by
  rcases mergedTrack_cases pairs i t with ⟨j, hj, -, h⟩ | h <;> rw [h]
  exact Track.merge_id?

theorem mergedTrack_album {pairs : List (Pair Nat Nat)} {i : Nat} {t : Track} :
    (mergedTrack overwrite pairs source i t).album = t.album := by
  rcases mergedTrack_cases pairs i t with ⟨j, hj, -, h⟩ | h <;> rw [h]
  cases overwrite <;> rfl

theorem mergedTrack_position (h : threshold.WithinOne) {i : Nat} (hi : i < a.tracks.length) :
    (mergedTrack overwrite (Track.pairing a.tracks source threshold) source i a.tracks[i]).position =
      a.tracks[i].position := by
  rcases mergedTrack_cases (Track.pairing a.tracks source threshold) i a.tracks[i] with
    ⟨j, hj, hp, hm⟩ | hm <;> rw [hm]
  obtain ⟨_, _, hpos⟩ := Track.partner?_position h hp
  cases overwrite
  · rfl
  · exact hpos.symm

theorem mem_mergeTracks {v : Track} : v ∈ (a.mergeTracks overwrite threshold source).tracks ↔
    (∃ (i : Nat) (h : i < a.tracks.length), v = mergedTrack overwrite
      (Track.pairing a.tracks source threshold) source i a.tracks[i]) ∨
    ∃ j ∈ newcomers (Track.pairing a.tracks source threshold), ∃ h : j < source.length,
      v = { source[j] with album := a.handle } := by
  rw [mergeTracks_eq, List.mem_append, List.mem_mapIdx, List.mem_map]
  simp only [List.mem_filterMap, eq_comm (b := v)]
  refine or_congr_right ⟨?_, ?_⟩
  · rintro ⟨u, ⟨j, hj, hu⟩, hv⟩
    obtain ⟨hlt, rfl⟩ := List.getElem?_eq_some_iff.1 hu
    exact ⟨j, hj, hlt, hv⟩
  · rintro ⟨j, hj, hlt, hv⟩
    exact ⟨_, ⟨j, hj, List.getElem?_eq_getElem hlt⟩, hv⟩

/-- Tracks without numbers bring no number to an album they are merged into. -/
theorem filterMap_id?_mergeTracks (hsource : ∀ u ∈ source, u.id? = none) :
    (a.mergeTracks overwrite threshold source).tracks.filterMap (·.id?) =
      a.tracks.filterMap (·.id?) := by
  have hold : ∀ (f : Nat → Track → Track) (ts : List Track), (∀ i t, (f i t).id? = t.id?) →
      (ts.mapIdx f).filterMap (·.id?) = ts.filterMap (·.id?) := by
    intro f ts hf
    induction ts generalizing f with
    | nil => rfl
    | cons t ts ih =>
      rw [List.mapIdx_cons, List.filterMap_cons, List.filterMap_cons, hf, ih _ fun i t => hf _ t]
  rw [mergeTracks_eq, List.filterMap_append, hold _ _ fun i t => mergedTrack_id?]
  refine List.append_right_eq_self.2 (List.filterMap_eq_nil_iff.2 fun v hv => ?_)
  obtain ⟨u, hu, rfl⟩ := List.mem_map.1 hv
  obtain ⟨j, -, hj⟩ := List.mem_filterMap.1 hu
  exact hsource u (List.mem_of_getElem? hj)

/-- Every source track is absorbed by a track of the album it has been merged into. -/
theorem exists_absorbs_mergeTracks (h : threshold.WithinOne) {u : Track} (hu : u ∈ source) :
    ∃ v ∈ (a.mergeTracks overwrite threshold source).tracks,
      v.position = u.position ∧ v.Absorbs overwrite u := by
  obtain ⟨j, hj, rfl⟩ := List.mem_iff_getElem.1 hu
  rcases Track.mem_newcomers_or a.tracks threshold hj with hnew | ⟨i, hp⟩
  · exact ⟨_, mem_mergeTracks.2 (.inr ⟨j, hnew, hj, rfl⟩), rfl, Track.absorbs_of_alike ⟨rfl, rfl⟩⟩
  · obtain ⟨hi, _, hpos⟩ := Track.partner?_position h hp
    refine ⟨_, mem_mergeTracks.2 (.inl ⟨i, hi, rfl⟩), (mergedTrack_position h hi).trans hpos, ?_⟩
    rw [mergedTrack_of_partner? _ hp hj]
    exact Track.absorbs_merge overwrite _ _

/-- The positions of a merged album are its own, followed by those of the newcomers. -/
theorem positions_mergeTracks (h : threshold.WithinOne) :
    (a.mergeTracks overwrite threshold source).tracks.map (·.position) =
      a.tracks.map (·.position) ++ (newcomers (Track.pairing a.tracks source threshold)).filterMap
        fun j => source[j]?.map (·.position) := by
  have hold : (a.tracks.mapIdx (mergedTrack overwrite
      (Track.pairing a.tracks source threshold) source)).map (·.position) =
        a.tracks.map (·.position) := by
    refine List.ext_getElem (by simp) fun i hi hi' => ?_
    rw [List.length_map] at hi'
    simp only [List.getElem_map, List.getElem_mapIdx]
    exact mergedTrack_position h hi'
  rw [mergeTracks_eq, List.map_append, hold, List.map_map, List.map_filterMap]
  rfl

/-- If no two tracks of a merged album share a position, no two source tracks do. -/
theorem nodup_positions_source (h : threshold.WithinOne)
    (hm : ((a.mergeTracks overwrite threshold source).tracks.map (·.position)).Nodup) :
    (source.map (·.position)).Nodup := by
  rw [positions_mergeTracks h, List.nodup_append] at hm
  obtain ⟨hown, hnew, hdisjoint⟩ := hm
  have hposition : ∀ j (hj : j < source.length),
      source[j]?.map (·.position) = some source[j].position := fun j hj => by
    rw [List.getElem?_eq_getElem hj, Option.map_some]
  -- a newcomer stands at none of the positions of the album, where all others stand
  have hmixed : ∀ i j k (hj : j < source.length) (hk : k < source.length),
      j ∈ newcomers (Track.pairing a.tracks source threshold) →
      partner? (Track.pairing a.tracks source threshold) i = some k →
      source[j].position ≠ source[k].position := by
    intro i j k hj hk hnew' hp he
    obtain ⟨hi, _, hpos⟩ := Track.partner?_position h hp
    exact hdisjoint _ (List.mem_map_of_mem (List.getElem_mem hi)) _
      (List.mem_filterMap.2 ⟨j, hnew', hposition j hj⟩) (hpos.trans he.symm)
  refine List.pairwise_map.2 (List.pairwise_iff_getElem.2 fun j k hj hk hjk he => ?_)
  rcases Track.mem_newcomers_or a.tracks threshold hj with hjnew | ⟨i, hp⟩ <;>
    rcases Track.mem_newcomers_or a.tracks threshold hk with hknew | ⟨i', hp'⟩
  · have := eq_of_nodup_filterMap hnew hjnew hknew (hposition j hj) (he ▸ hposition k hk)
    omega
  · exact hmixed i' j k hj hk hjnew hp' he
  · exact hmixed i k j hk hj hknew hp he.symm
  · obtain ⟨hi, _, hpos⟩ := Track.partner?_position h hp
    obtain ⟨hi', _, hpos'⟩ := Track.partner?_position h hp'
    cases Track.eq_of_position_eq hown hi hi' (hpos.trans (he.trans hpos'.symm))
    have := Option.some.inj (hp.symm.trans hp')
    omega

/-- A merge keeps the tracks of an album in their places and adds the source tracks at positions
where the album has none. It adds none if all positions of the source are the album's, too. -/
theorem exists_newcomers (overwrite : Bool) (h : threshold.WithinOne)
    (hs : (source.map (·.position)).Nodup) :
    ∃ new, (a.mergeTracks overwrite threshold source).tracks = a.tracks.mapIdx
        (mergedTrack overwrite (Track.pairing a.tracks source threshold) source) ++ new ∧
      (∀ u ∈ new, ∃ t ∈ source, u = { t with album := a.handle } ∧
        ∀ v ∈ a.tracks, v.position ≠ t.position) ∧
      (new = [] ↔ ∀ t ∈ source, ∃ v ∈ a.tracks, v.position = t.position) := by
  let pairs := Track.pairing a.tracks source threshold
  let new := ((newcomers pairs).filterMap (source[·]?)).map ({ · with album := a.handle })
  have hnew : ∀ u ∈ new, ∃ t ∈ source, u = { t with album := a.handle } ∧
      ∀ v ∈ a.tracks, v.position ≠ t.position := by
    intro u hu
    obtain ⟨t, ht, rfl⟩ := List.mem_map.1 hu
    obtain ⟨j, hj, hjt⟩ := List.mem_filterMap.1 ht
    obtain ⟨hlt, rfl⟩ := List.getElem?_eq_some_iff.1 hjt
    exact ⟨_, List.getElem_mem hlt, rfl, Track.position_ne_of_mem_newcomers h hs hj hlt⟩
  refine ⟨new, by rw [mergeTracks_eq], hnew, ?_⟩
  constructor
  · intro hnil t ht
    obtain ⟨j, hj, rfl⟩ := List.mem_iff_getElem.1 ht
    rcases Track.mem_newcomers_or a.tracks threshold hj with hjnew | ⟨i, hi⟩
    · have hadded : ({ source[j] with album := a.handle } : Track) ∈ new :=
        List.mem_map_of_mem (List.mem_filterMap.2 ⟨j, hjnew, List.getElem?_eq_getElem hj⟩)
      rw [hnil] at hadded
      exact absurd hadded List.not_mem_nil
    · obtain ⟨hlt, _, hpos⟩ := Track.partner?_position h hi
      exact ⟨a.tracks[i], List.getElem_mem hlt, hpos⟩
  · intro hpositions
    refine List.eq_nil_iff_forall_not_mem.2 fun u hu => ?_
    obtain ⟨t, ht, -, hno⟩ := hnew u hu
    obtain ⟨v, hv, hpos⟩ := hpositions t ht
    exact hno v hv hpos

/-- An album that absorbs the source tracks keeps what a store keeps of its own, and gets no
other. -/
theorem mergeTracks_alike (h : threshold.WithinOne) (ha : (a.tracks.map (·.position)).Nodup)
    (hs : (source.map (·.position)).Nodup)
    (habs : ∀ u ∈ source, ∃ t ∈ a.tracks, t.position = u.position ∧ t.Absorbs overwrite u)
    {v : Track} (hv : v ∈ (a.mergeTracks overwrite threshold source).tracks) :
    ∃ t ∈ a.tracks, v.id? = t.id? ∧ v.Alike t := by
  rcases mem_mergeTracks.1 hv with ⟨i, hi, rfl⟩ | ⟨j, hnew, hj, -⟩
  · refine ⟨a.tracks[i], List.getElem_mem hi, mergedTrack_id?, ?_⟩
    rcases mergedTrack_cases (Track.pairing a.tracks source threshold) i a.tracks[i] with
      ⟨j, hj, hp, hm⟩ | hm <;> rw [hm]
    · obtain ⟨_, _, hpos⟩ := Track.partner?_position h hp
      obtain ⟨t, ht, htp, htu⟩ := habs source[j] (List.getElem_mem hj)
      rw [List.inj_on_of_nodup_map ha (List.getElem_mem hi) ht (hpos.trans htp.symm)]
      exact htu
    · exact Track.alike_refl _
  · obtain ⟨t, ht, htp, -⟩ := habs source[j] (List.getElem_mem hj)
    exact absurd htp (Track.position_ne_of_mem_newcomers h hs hnew hj t ht)

end

end Album

end MusicLibrary

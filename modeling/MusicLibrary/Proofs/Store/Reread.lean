import MusicLibrary.Proofs.Store.Blanks
import MusicLibrary.Proofs.Store.Duplicates

/-!
# Reading an album again

A stored album may be added once more from the same files with other tags. Its tracks are paired with
the stored ones by their positions, while a store keeps every path once. So this goes well as long as
each track stands at a position that is stored, and leaves numbers, positions and paths as they are.
A track at any other position counts as a new one, and is refused for the path it is stored under
already (`addAlbum_reread_iff`).
-/

namespace MusicLibrary

open Progress

/-- The number, the position and the path of a row. -/
def TrackRow.keys (r : TrackRow) : Int × (Int × Int × Int) × String := (r.id, r.position, r.path)

namespace Store

variable {st st₁ st' : Store} {n : Int} {place : Handle}

/-- The paths of the tracks of an album. -/
def pathsOf (st : Store) (n : Int) : List String := (st.tracks.filter (·.albumId = n)).map (·.path)

/-! ## Writing in place -/

/-- Two stores have the same extras, and tracks with the same numbers, positions and paths. -/
structure SameKeys (st st' : Store) : Prop where
  extras : st'.extras = st.extras
  tracks : st'.tracks.map TrackRow.keys = st.tracks.map TrackRow.keys

theorem sameKeys_refl (st : Store) : SameKeys st st := ⟨rfl, rfl⟩

theorem SameKeys.trans (h : SameKeys st st₁) (h₁ : SameKeys st₁ st') : SameKeys st st' :=
  ⟨h₁.extras.trans h.extras, h₁.tracks.trans h.tracks⟩

theorem SameKeys.exists_iff (h : SameKeys st st') {P : Int × (Int × Int × Int) × String → Prop} :
    (∃ q ∈ st'.tracks, P q.keys) ↔ ∃ q ∈ st.tracks, P q.keys := by
  have hmap : ∀ rows : List TrackRow, (∃ q ∈ rows, P q.keys) ↔ ∃ k ∈ rows.map TrackRow.keys, P k := by
    intro rows
    simp only [List.mem_map, exists_exists_and_eq_and]
  rw [hmap, hmap, h.tracks]

theorem SameKeys.pathsOf_eq (h : SameKeys st st') (n : Int) : st'.pathsOf n = st.pathsOf n := by
  have hmap : ∀ rows : List TrackRow, (rows.filter (·.albumId = n)).map (·.path) =
      ((rows.map TrackRow.keys).filter (·.2.1.1 = n)).map (·.2.2) := by
    intro rows
    rw [List.filter_map, List.map_map]
    rfl
  unfold pathsOf
  rw [hmap, hmap, h.tracks]

/-- A track is stored under its number, at its position in an album, and with its path. -/
def InPlace (st : Store) (n : Int) (t : Track) : Prop :=
  ∃ k, t.id? = some k ∧ ∃ q ∈ st.tracks, q.keys = (t.row k n).keys

theorem InPlace.of_sameKeys {t : Track} (ht : st.InPlace n t) (h : SameKeys st st') :
    st'.InPlace n t := by
  obtain ⟨k, hid, hq⟩ := ht
  exact ⟨k, hid, (h.exists_iff (P := fun k' => k' = (t.row k n).keys)).2 hq⟩

/-- A row with the keys of a stored one leaves all keys as they are when it takes its place. -/
theorem map_keys_replaceRow (h : st.Consistent) {q r : TrackRow} (hq : q ∈ st.tracks)
    (hr : q.keys = r.keys) :
    (replaceRow TrackRow.id r st.tracks).map TrackRow.keys = st.tracks.map TrackRow.keys := by
  have hid : q.id = r.id := congrArg Prod.fst hr
  unfold replaceRow
  rw [List.map_map]
  refine List.map_congr_left fun q' hq' => ?_
  show (if q'.id = r.id then r else q').keys = q'.keys
  by_cases he : q'.id = r.id
  · rw [if_pos he, ← hr, h.tracks.eq_of_num hq' hq (he.trans hid.symm)]
  · rw [if_neg he]

/-- Writing a track in place goes well and leaves all keys as they are. -/
theorem writeTrack_of_inPlace (h : st.Consistent) {t : Track} (ht : st.InPlace n t) :
    (writeTrack n st t).fault? = none ∧ SameKeys st (writeTrack n st t).store := by
  obtain ⟨k, hid, q, hq, hkeys⟩ := ht
  obtain ⟨hnum, hposition, hpath⟩ : q.id = (t.row k n).id ∧
      q.position = (t.row k n).position ∧ q.path = (t.row k n).path := by
    unfold TrackRow.keys at hkeys
    simpa only [Prod.mk.injEq] using hkeys
  have hk : st.HasTrack (t.row k n).id := ⟨q, hq, hnum⟩
  have hfree : Free TrackRow.id TrackRow.position TrackRow.path st.tracks (t.row k n) := by
    intro q' hq' hne
    rw [← hnum] at hne
    rw [← hposition, ← hpath]
    exact h.tracks.free hq q' hq' hne
  rw [writeTrack_of_update hid hk (updateTrack_of_free hk hfree)]
  exact ⟨rfl, rfl, map_keys_replaceRow h hq hkeys⟩

/-- Writing tracks in place, one after the other, goes well and leaves all keys as they are. -/
theorem each_writeTrack_of_inPlace (h : st.Consistent) (hn : st.HasAlbum n) {ts : List Track}
    (hts : ∀ t ∈ ts, st.InPlace n t) :
    (each (writeTrack n) st ts).fault? = none ∧ SameKeys st (each (writeTrack n) st ts).store ∧
      (each (writeTrack n) st ts).store.Consistent ∧ (each (writeTrack n) st ts).store.HasAlbum n := by
  obtain ⟨hok, -, hsame, hinv⟩ := each_of_kept (writeTrack n)
    (fun st => st.Consistent ∧ st.HasAlbum n) (InPlace · n ·) (fun _ _ => True) SameKeys
    sameKeys_refl SameKeys.trans ⟨h, hn⟩ hts
    (fun st t hst ht => ⟨(writeTrack_of_inPlace hst.1 ht).1, trivial, (writeTrack_of_inPlace hst.1 ht).2⟩)
    (fun st t hst => Consistent.writeTrack_hasAlbum hst t) fun st st' t hsame ht => ht.of_sameKeys hsame
  exact ⟨hok, hsame, hinv⟩

/-! ## Tracks at other positions -/

/-- A new track at a position of its own whose path is stored. -/
structure Misplaced (st : Store) (n : Int) (u : Track) : Prop where
  id : u.id? = none
  position : ¬ ∃ q ∈ st.tracks, q.position = (n, u.position)
  path : ∃ q ∈ st.tracks, q.path = u.path.text

theorem Misplaced.of_sameKeys {u : Track} (hu : st.Misplaced n u) (h : SameKeys st st') :
    st'.Misplaced n u where
  id := hu.id
  position := fun hq => hu.position
    ((h.exists_iff (P := fun k => k.2.1 = (n, u.position))).1 hq)
  path := (h.exists_iff (P := fun k => k.2.2 = u.path.text)).2 hu.path

/-- A misplaced track is refused for its path. -/
theorem writeTrack_of_misplaced (h : st.Consistent) {u : Track} (hu : st.Misplaced n u) :
    (writeTrack n st u).fault? = some (.duplicate .trackPath) := by
  obtain ⟨q, hq, hpath⟩ := hu.path
  have hnew : ∀ q ∈ st.tracks, q.id ≠ st.lastTrack + 1 := by
    intro q hq
    have := h.tracks.numbered q hq
    omega
  have hothers : st.tracks.filter (·.id ≠ (u.row (st.lastTrack + 1) n).id) = st.tracks :=
    List.filter_eq_self.2 fun q hq => decide_eq_true (hnew q hq)
  have hposition : ¬ (st.tracks.any (·.position = (u.row (st.lastTrack + 1) n).position)) = true := by
    intro hany
    obtain ⟨q, hq, he⟩ := List.any_eq_true.1 hany
    exact hu.position ⟨q, hq, of_decide_eq_true he⟩
  have hany : (st.tracks.any (·.path = (u.row (st.lastTrack + 1) n).path)) = true :=
    List.any_eq_true.2 ⟨q, hq, decide_eq_true hpath⟩
  have hconflict : (u.row (st.lastTrack + 1) n).conflict? st.tracks = some .trackPath := by
    simp only [TrackRow.conflict?]
    rw [hothers, if_neg hposition, if_pos hany]
  have hinsert : st.insertTrack (u.row 0 n) = .error .trackPath := insertTrack_eq_error.2 hconflict
  unfold writeTrack
  rw [hu.id]
  simp only [hinsert]

/-! ## Members -/

/-- If all tracks of an album are in place, and its extras are stored, its members are written. -/
theorem writeMembers_of_inPlace (h : st.Consistent) (hn : st.HasAlbum n) {a : Album}
    (hdrop : st.deleteDropped n a = st) (htracks : ∀ t ∈ a.tracks, st.InPlace n t)
    (hextras : ∀ e ∈ a.extras, st.HoldsExtra n e) :
    (st.writeMembers n a).fault? = none ∧ SameKeys st (st.writeMembers n a).store := by
  obtain ⟨hok₁, hsame₁, hst₁, hn₁⟩ := each_writeTrack_of_inPlace h hn htracks
  have hheld : ∀ e ∈ a.extras, (each (writeTrack n) st a.tracks).store.HoldsExtra n e := by
    intro e he
    obtain ⟨k, hid, hr⟩ := hextras e he
    exact ⟨k, hid, hsame₁.extras ▸ hr⟩
  obtain ⟨hok₂, -, hsame₂, -⟩ := each_of_sameRows (writeExtra n)
    (fun st => st.Consistent ∧ st.HasAlbum n) (HoldsExtra · n ·) (· = ·) ⟨hst₁, hn₁⟩ hheld
    (fun st e hst he => writeExtra_of_holdsExtra hst.1 he)
    (fun st e hst => Consistent.writeExtra_hasAlbum hst e) fun st st' e hsame he => he.of_sameRows hsame
  have hm := writeMembers_eq (hdrop.symm ▸ hok₁)
  rw [hdrop] at hm
  rw [hm]
  exact ⟨hok₂, hsame₁.trans ⟨hsame₂.extras, congrArg _ hsame₂.tracks⟩⟩

/-- If a misplaced track follows those that are in place, the album is refused for its path. -/
theorem writeMembers_of_misplaced (h : st.Consistent) (hn : st.HasAlbum n) {a : Album}
    (hdrop : st.deleteDropped n a = st) {old new : List Track} {u : Track}
    (htracks : a.tracks = old ++ u :: new) (hold : ∀ t ∈ old, st.InPlace n t)
    (hu : st.Misplaced n u) : (st.writeMembers n a).fault? = some (.duplicate .trackPath) := by
  obtain ⟨hok, hsame, hst, -⟩ := each_writeTrack_of_inPlace h hn hold
  refine writeMembers_of_fault ?_
  rw [hdrop, htracks, each_append_of_ok _ hok]
  exact each_cons_of_fault new (writeTrack_of_misplaced hst (hu.of_sameKeys hsame))

/-! ## Reading again -/

/-- An album that has not been saved has the path and the identity of a stored one, and tracks at
different positions, each of which is a file of a stored track. Of the stored albums it collides with,
that one has the lowest number. -/
structure Rereads (st : Store) (r : AlbumRow) (i : AlbumInfo) (a : Album) : Prop where
  id : i.id? = none
  path : r.path = i.path.text
  identity : r.identity = (i.artist, i.title, i.year)
  new : a.New
  paths : ∀ t ∈ a.tracks, t.path.text ∈ st.pathsOf r.id
  positions : (a.tracks.map (·.position)).Nodup
  extras : a.extras = []
  lowest : ∀ q ∈ st.albums, q.id < r.id → i.collides q = false

variable {r : AlbumRow} {i : AlbumInfo} {a : Album}

theorem exists_position_iff (n : Int) (place : Handle) {x : Int × Int} :
    (∃ q ∈ st.tracks, q.position = (n, x)) ↔
      ∃ t ∈ (st.albumAt n place).tracks, t.position = x := by
  constructor
  · rintro ⟨q, hq, hposition⟩
    obtain ⟨hqn, hx⟩ := Prod.mk.inj hposition
    exact ⟨_, mem_albumAt_tracks.2 ⟨q, hq, hqn, rfl⟩, hx⟩
  · rintro ⟨t, ht, rfl⟩
    obtain ⟨q, hq, rfl, rfl⟩ := mem_albumAt_tracks.1 ht
    exact ⟨q, hq, rfl⟩

/-- A track of a loaded album is in place, and so it is once a source track has been merged into it
without `overwrite`. -/
theorem inPlace_mergedTrack {t : Track} (ht : t ∈ (st.albumAt n place).tracks)
    (pairs : List (Pair Nat Nat)) (source : List Track) (j : Nat) :
    st.InPlace n (Album.mergedTrack false pairs source j t) := by
  obtain ⟨q, hq, rfl, rfl⟩ := mem_albumAt_tracks.1 ht
  refine ⟨q.id, Album.mergedTrack_id?, q, hq, ?_⟩
  rcases Album.mergedTrack_cases pairs j (q.track place (st.genresOf q.id)) with ⟨k, hk, -, hm⟩ | hm
  · rw [hm]
    obtain ⟨hid, hpath, hposition⟩ := (q.filledAs_merge place (st.genresOf q.id) source[k]).keys
    unfold TrackRow.keys
    rw [hid, hpath, hposition]
  · rw [hm, TrackRow.row_track]

/-- Merging an album into the stored one that it rereads leaves the stored tracks in place and adds
misplaced ones, namely those that stand at no stored position. -/
theorem Rereads.exists_tracks (ha : st.Rereads r i a) {threshold : Score} (ht : threshold.WithinOne)
    (place : Handle) (s : Shelf) :
    ∃ old new, ((st.albumAt r.id place).merge false threshold a s).1.tracks = old ++ new ∧
      (∀ t ∈ old, st.InPlace r.id t) ∧ (∀ u ∈ new, st.Misplaced r.id u) ∧
      (new = [] ↔ ∀ t ∈ a.tracks, ∃ q ∈ st.tracks, q.position = (r.id, t.position)) := by
  obtain ⟨new, hmerged, hnew, hnil⟩ :=
    (st.albumAt r.id place).exists_newcomers false ht ha.positions
  rw [Album.merge_tracks]
  refine ⟨_, new, hmerged, ?_, ?_, ?_⟩
  · intro t htmem
    obtain ⟨j, hj, rfl⟩ := List.mem_mapIdx.1 htmem
    exact inPlace_mergedTrack (List.getElem_mem hj) _ a.tracks j
  · intro u hu
    obtain ⟨t, hmem, rfl, hposition⟩ := hnew u hu
    refine ⟨ha.new.tracks t hmem, ?_, ?_⟩
    · rw [exists_position_iff r.id place]
      rintro ⟨v, hv, he⟩
      exact hposition v hv he
    · obtain ⟨q, hq, hpath⟩ := List.mem_map.1 (ha.paths t hmem)
      exact ⟨q, List.mem_of_mem_filter hq, hpath⟩
  · simp only [exists_position_iff r.id place, hnil]

/-- What has been merged into a stored album is written to its row, unless it has a rival. -/
theorem writeAlbum_merge (h : st.Consistent) (hr : r ∈ st.albums) {overwrite : Bool}
    (hrival : ¬ st.HasRival (some r.id) (r.info.merge overwrite i)) :
    ∃ st₁, st.writeAlbum (r.info.merge overwrite i) = .ok (r.id, st₁) ∧ st₁.Consistent ∧
      st₁.HasAlbum r.id ∧ st₁.tracks = st.tracks ∧ st₁.extras = st.extras := by
  have hid : (r.info.merge overwrite i).id? = some r.id := AlbumInfo.merge_id?
  rcases hw : st.writeAlbum (r.info.merge overwrite i) with k | ⟨n, st₁⟩
  · have hrefused := (writeAlbum_refused_iff h).1 ⟨k, hw⟩
    rw [hid] at hrefused
    exact absurd hrefused hrival
  · obtain ⟨hst₁, hn⟩ := h.writeAlbum hw
    obtain ⟨-, htracks, hextras, -, hown⟩ := writeAlbum_written h hw
    rw [hid] at hown
    rcases hown with ⟨hrn, -⟩ | ⟨hgone, -⟩
    · obtain rfl := Option.some.inj hrn
      exact ⟨st₁, rfl, hst₁, hn, htracks, hextras⟩
    · exact absurd ⟨r, hr, rfl⟩ (hgone r.id rfl)

/-- All stored members of an album are still listed when a new album has been merged into it. -/
theorem Consistent.mem_ids_merge (h : st.Consistent) (n : Int) (place : Handle) (hnew : a.New)
    (overwrite : Bool) (threshold : Score) (s : Shelf) :
    let m := ((st.albumAt n place).merge overwrite threshold a s).1
    (∀ q ∈ st.tracks, q.albumId = n → q.id ∈ m.tracks.filterMap (·.id?)) ∧
      ∀ q ∈ st.extras, q.albumId = n → q.id ∈ m.extras.filterMap (·.id?) := by
  intro m
  obtain ⟨htracks, hextras⟩ := Album.filterMap_id?_merge overwrite threshold s
    (h.tidy_albumAt n place).names hnew
  rw [htracks, hextras]
  constructor
  · intro q hq hqn
    exact List.mem_filterMap.2 ⟨_, mem_albumAt_tracks.2 ⟨q, hq, hqn, rfl⟩, rfl⟩
  · intro q hq hqn
    exact List.mem_filterMap.2 ⟨_, mem_albumAt_extras.2 ⟨q, hq, hqn, rfl⟩, rfl⟩

/-- Once the row of a stored album has been written, writing its members with those of an album that
rereads it goes well if the tracks stand at stored positions; otherwise the first one that does not is
refused for its path. -/
theorem Rereads.writeMembers_merge (ha : st.Rereads r i a) (h : st.Consistent) {threshold : Score}
    (ht : threshold.WithinOne) (hst₁ : st₁.Consistent) (hn : st₁.HasAlbum r.id)
    (htracks : st₁.tracks = st.tracks) (hextras : st₁.extras = st.extras) (s : Shelf) :
    let p := st₁.writeMembers r.id ((st.albumAt r.id place).merge false threshold a s).1
    ((∀ t ∈ a.tracks, ∃ q ∈ st.tracks, q.position = (r.id, t.position)) ∧
        p.fault? = none ∧ SameKeys st p.store) ∨
      ¬ (∀ t ∈ a.tracks, ∃ q ∈ st.tracks, q.position = (r.id, t.position)) ∧
        p.fault? = some (.duplicate .trackPath) := by
  intro p
  have hsame : SameKeys st st₁ := ⟨hextras, by rw [htracks]⟩
  obtain ⟨hlistedTracks, hlistedExtras⟩ := h.mem_ids_merge r.id place ha.new false threshold s
  have hdrop := deleteDropped_eq (htracks ▸ hlistedTracks) (hextras ▸ hlistedExtras)
  obtain ⟨old, new, hmerged, hold, hnew, hnil⟩ := ha.exists_tracks ht place s
  have hold₁ : ∀ t ∈ old, st₁.InPlace r.id t := fun t ht => (hold t ht).of_sameKeys hsame
  rw [← hnil]
  rcases new with _ | ⟨u, new⟩
  · rw [List.append_nil] at hmerged
    have hmergedExtras : ((st.albumAt r.id place).merge false threshold a s).1.extras =
        (st.albumAt r.id place).extras := by
      simp only [Album.merge, ha.extras, List.foldl_nil, Album.mergeTracks_eq]
    have hheld : ∀ e ∈ (st.albumAt r.id place).extras, st₁.HoldsExtra r.id e := by
      intro e he
      obtain ⟨q, hq, hqn, rfl⟩ := mem_albumAt_extras.1 he
      refine ⟨q.id, rfl, ?_⟩
      rw [← hqn, ExtraRow.row_extra (h.named q hq), hextras]
      exact hq
    obtain ⟨hok, hkeys⟩ :=
      writeMembers_of_inPlace hst₁ hn hdrop (hmerged ▸ hold₁) (hmergedExtras ▸ hheld)
    exact .inl ⟨rfl, hok, hsame.trans hkeys⟩
  · refine .inr ⟨List.cons_ne_nil u new, ?_⟩
    exact writeMembers_of_misplaced hst₁ hn hdrop hmerged hold₁
      ((hnew u (.head _)).of_sameKeys hsame)

/-- Reading a stored album again with default settings goes well exactly if all its tracks stand at
positions that are stored. Then the stored paths are what they were, one row each. Otherwise a track
is refused for the path under which it is stored. -/
theorem addAlbum_reread_iff (h : st.Reachable) (hr : r ∈ st.albums) {s : Shelf}
    (hs : s.Holds a.handle) (ha : st.Rereads r (a.info s) a) :
    let p := st.addAlbum default s a
    (p.fault? = none ↔ ∀ t ∈ a.tracks, ∃ q ∈ st.tracks, q.position = (r.id, t.position)) ∧
    (p.fault? = none →
      p.store.pathsOf r.id = st.pathsOf r.id ∧ (p.store.pathsOf r.id).Nodup) ∧
    (p.fault? ≠ none →
      p.fault? = some (.duplicateItem "UNIQUE constraint failed: tracks.path")) := by
  intro p
  have ht : defaultThreshold.WithinOne := ⟨by decide, by decide, by decide⟩
  have hp : p.store.Consistent := h.consistent.addAlbum default s a
  have hc : st.colliding? (a.info s) = some r :=
    (colliding?_eq_some h.consistent).2 ⟨hr, (collides_iff ha.id).2 (.inl ha.path), ha.lowest⟩
  obtain ⟨place, s₁, m, rfl, -, hinfo, heq⟩ :=
    @addAlbum_of_some st r h.consistent default s a hs hc
  obtain ⟨st₁, hw, hst₁, hn, htracks, hextras⟩ :=
    writeAlbum_merge h.consistent hr (not_hasRival_merge h.consistent hr (i := a.info s))
  have hsave := heq.trans (saveAlbum_of_writeAlbum ((congrArg st.writeAlbum hinfo).trans hw))
  rcases ha.writeMembers_merge h.consistent ht hst₁ hn htracks hextras s₁ with
    ⟨hstored, hok, hkeys⟩ | ⟨hmisplaced, hfault⟩
  · have hpok : p.fault? = none := (congrArg Progress.fault? hsave).trans hok
    have hpkeys : SameKeys st p.store := (congrArg Progress.store hsave).symm ▸ hkeys
    exact ⟨iff_of_true hpok hstored,
      fun _ => ⟨hpkeys.pathsOf_eq r.id, (hp.tracks.filter _).paths⟩, fun hne => absurd hpok hne⟩
  · have hpfault : p.fault? = some (.duplicate .trackPath) :=
      (congrArg Progress.fault? hsave).trans hfault
    have hne : p.fault? ≠ none := by
      rw [hpfault]
      exact Option.some_ne_none _
    exact ⟨iff_of_false hne hmisplaced, fun hok => absurd hok hne, fun _ => hpfault⟩

/-- An album with the one track of a stored album, under another title and a number. -/
def retaggedNight (number : Int) : Album :=
  ⟨⟨0⟩, [.create nightAndDay ⟨0⟩ number "Uno" (.ofText "/night/1.flac")], []⟩

theorem rereads_retaggedNight (number : Int) :
    (Session.after [.saveAlbum nightAndDay night]).working.Rereads ((nightAndDay.read ⟨0⟩).row 1)
      ((retaggedNight number).info nightAndDay) (retaggedNight number) where
  id := rfl
  path := rfl
  identity := rfl
  new := ⟨by simp [retaggedNight, Track.create], by simp [retaggedNight]⟩
  paths := by
    have hpath : (Path.ofText "/night/1.flac").text ∈
        (Session.after [.saveAlbum nightAndDay night]).working.pathsOf 1 := by decide +kernel
    intro t ht
    obtain rfl := List.mem_singleton.1 ht
    exact hpath
  positions := List.nodup_singleton _
  extras := rfl
  lowest := by
    show ∀ q ∈ (Session.after [.saveAlbum nightAndDay night]).working.albums, q.id < 1 →
      (nightAndDay.read ⟨0⟩).collides q = false
    decide +kernel

/-- A track that keeps its number is read again, whatever its title. -/
theorem addAlbum_reread_retaggedNight :
    let st := (Session.after [.saveAlbum nightAndDay night]).working
    let p := st.addAlbum default nightAndDay (retaggedNight 1)
    p.fault? = none ∧ p.store.pathsOf 1 = st.pathsOf 1 ∧ (p.store.pathsOf 1).Nodup := by
  intro st p
  have hread := addAlbum_reread_iff ⟨_, rfl⟩ (r := (nightAndDay.read ⟨0⟩).row 1) (by decide +kernel)
    (s := nightAndDay) (a := retaggedNight 1) Nat.two_pos (rereads_retaggedNight 1)
  have hok : p.fault? = none := hread.1.2 (by decide +kernel)
  exact ⟨hok, hread.2.1 hok⟩

/-- A track that has another number than the stored one of its path is refused. -/
theorem addAlbum_renumberedNight :
    let st := (Session.after [.saveAlbum nightAndDay night]).working
    st.Rereads ((nightAndDay.read ⟨0⟩).row 1) ((retaggedNight 2).info nightAndDay) (retaggedNight 2) ∧
      (retaggedNight 2).tracks.map (·.path.text) = st.pathsOf 1 ∧
      (st.addAlbum default nightAndDay (retaggedNight 2)).fault? =
        some (.duplicateItem "UNIQUE constraint failed: tracks.path") :=
  ⟨rereads_retaggedNight 2, by decide +kernel, by decide +kernel⟩

end Store

end MusicLibrary

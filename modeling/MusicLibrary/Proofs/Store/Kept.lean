import MusicLibrary.Proofs.Album.Merge
import MusicLibrary.Proofs.Store.Loaded
import MusicLibrary.Proofs.Store.Resaved

/-!
# What a store keeps of an album

An album may differ from the one that is loaded by what a store does not keep: paths may have stray
units, and members may stand in another order. `Store.holdsAlbum_of_alike` says that a store holds
what is the same to it as what it would load. After a save the store would load what is the same to
it as what has been saved (`AlbumSaved.absorbs`).
-/

namespace MusicLibrary

/-! ## Rows of loaded values -/

theorem AlbumInfo.alike_info_row (i : AlbumInfo) (n : Int) : (i.row n).info.Alike i := by
  simp only [Alike, row, AlbumRow.info, bind_parse?_map_format, Path.text_ofText]

theorem map_format_bind_parse? {text? : Option String} (h : WrittenDate text?) :
    (text?.bind Date.parse?).map Date.format = text? := by
  rcases text? with _ | text
  · rfl
  · obtain ⟨d, rfl⟩ := h text rfl
    simp

theorem AlbumRow.row_info {r : AlbumRow} (h : r.Dated) : r.info.row r.id = r := by
  simp only [AlbumInfo.row, info, map_format_bind_parse? h.1, map_format_bind_parse? h.2,
    Path.text_ofText]

theorem TrackRow.row_track (r : TrackRow) (place : Handle) (names : List String) :
    (r.track place names).row r.id r.albumId = r := by
  simp only [Track.row, track, Path.text_ofText]

theorem ExtraRow.row_extra {r : ExtraRow} (h : r.Named) (place : Handle) :
    (r.extra place).row r.id r.albumId = r := by
  have hname : (r.extra place).filename = r.filename := h.symm
  rw [Extra.row, hname]
  simp only [extra, Path.text_ofText]

namespace Store

variable {st st' : Store} {n : Int} {place : Handle}

/-! ## Members of loaded albums -/

theorem mem_albumAt_tracks {t : Track} : t ∈ (st.albumAt n place).tracks ↔
    ∃ r ∈ st.tracks, r.albumId = n ∧ r.track place (st.genresOf r.id) = t := by
  simp only [albumAt, List.mem_map, (List.mergeSort_perm _ _).mem_iff, List.mem_filter,
    decide_eq_true_eq, and_assoc]

theorem mem_albumAt_extras {e : Extra} : e ∈ (st.albumAt n place).extras ↔
    ∃ r ∈ st.extras, r.albumId = n ∧ r.extra place = e := by
  simp only [albumAt, List.mem_map, (List.mergeSort_perm _ _).mem_iff, List.mem_filter,
    decide_eq_true_eq, and_assoc]

theorem Consistent.tidy_albumAt (h : st.Consistent) (n : Int) (place : Handle) :
    (st.albumAt n place).Tidy where
  positions := List.pairwise_map.2 ((h.before_tracks place).imp fun {t u} hlt he => by
    simp only [Track.position, Prod.mk.injEq] at he
    rcases hlt with hlt | ⟨-, hlt⟩ <;> omega)
  names := List.pairwise_map.2 ((h.before_extras place).imp fun {e f} hlt he => by
    rw [Extra.Before, he] at hlt
    exact String.lt_irrefl _ hlt)

theorem Consistent.lists_albumAt (h : st.Consistent) (n : Int) (place : Handle) :
    st.Lists (st.albumAt n place) where
  trackIds := by
    have hids : (st.albumAt n place).tracks.filterMap (·.id?) =
        ((st.tracks.filter (·.albumId = n)).mergeSort TrackRow.albumOrder).map (·.id) := by
      rw [albumAt, List.filterMap_map, ← List.filterMap_eq_map]
      rfl
    rw [hids, ((List.mergeSort_perm _ _).map _).nodup_iff]
    exact (h.tracks.filter _).nodup_nums
  extraIds := by
    have hids : (st.albumAt n place).extras.filterMap (·.id?) =
        ((st.extras.filter (·.albumId = n)).mergeSort ExtraRow.albumOrder).map (·.id) := by
      rw [albumAt, List.filterMap_map, ← List.filterMap_eq_map]
      rfl
    rw [hids, ((List.mergeSort_perm _ _).map _).nodup_iff]
    exact (h.extras.filter _).nodup_nums
  hasTrack k hk := by
    obtain ⟨t, ht, hid⟩ := List.mem_filterMap.1 hk
    obtain ⟨r, hr, -, rfl⟩ := mem_albumAt_tracks.1 ht
    exact ⟨r, hr, Option.some.inj hid⟩
  hasExtra k hk := by
    obtain ⟨e, he, hid⟩ := List.mem_filterMap.1 hk
    obtain ⟨r, hr, -, rfl⟩ := mem_albumAt_extras.1 he
    exact ⟨r, hr, Option.some.inj hid⟩

/-- A loaded album into which a new one has been merged lists stored members. -/
theorem Consistent.lists_merge (h : st.Consistent) (n : Int) (place : Handle) {a : Album}
    (ha : a.New) (overwrite : Bool) (threshold : Score) (s : Shelf) :
    st.Lists ((st.albumAt n place).merge overwrite threshold a s).1 := by
  obtain ⟨htracks, hextras⟩ := Album.filterMap_id?_merge overwrite threshold s
    (h.tidy_albumAt n place).names ha
  have hlists := h.lists_albumAt n place
  exact {
    trackIds := htracks ▸ hlists.trackIds
    extraIds := hextras ▸ hlists.extraIds
    hasTrack := htracks ▸ hlists.hasTrack
    hasExtra := hextras ▸ hlists.hasExtra }

/-- A store holds an album that is the same to it as the one it would load. -/
theorem holdsAlbum_of_alike (h : st.Consistent) {r : AlbumRow} (hr : r ∈ st.albums) {i : AlbumInfo}
    (hid : i.id? = some r.id) (hi : i.Alike r.info) {a : Album} (ha : a.Alike (st.albumAt r.id place)) :
    st.HoldsAlbum r.id i a where
  id := hid
  row := by
    rw [hi.row_eq, AlbumRow.row_info (h.dated r hr)]
    exact hr
  tracks t ht := by
    obtain ⟨u, hu, hid, halike⟩ := ha.tracks t ht
    obtain ⟨q, hq, hqn, rfl⟩ := mem_albumAt_tracks.1 hu
    refine ⟨q.id, hid, ?_, fun g => ?_⟩
    · rw [halike.row_eq, ← hqn, TrackRow.row_track]
      exact hq
    · rw [halike.2]
      exact GenreSet.mem_ofList.symm
  extras e he := by
    obtain ⟨f, hf, hid, halike⟩ := ha.extras e he
    obtain ⟨q, hq, hqn, rfl⟩ := mem_albumAt_extras.1 hf
    refine ⟨q.id, hid, ?_⟩
    have hrow : e.row q.id r.id = (q.extra place).row q.id r.id := by
      rw [Extra.row, Extra.row, halike.filename_eq, halike]
    rw [hrow, ← hqn, ExtraRow.row_extra (h.named q hq)]
    exact hq
  allTracks q hq hqn := by
    rw [ha.trackIds]
    exact List.mem_filterMap.2 ⟨_, mem_albumAt_tracks.2 ⟨q, hq, hqn, rfl⟩, rfl⟩
  allExtras q hq hqn := by
    rw [ha.extraIds]
    exact List.mem_filterMap.2 ⟨_, mem_albumAt_extras.2 ⟨q, hq, hqn, rfl⟩, rfl⟩

/-- A store holds each of its albums as it would load it. -/
theorem holdsAlbum_albumAt (h : st.Consistent) {r : AlbumRow} (hr : r ∈ st.albums) (place : Handle) :
    st.HoldsAlbum r.id r.info (st.albumAt r.id place) :=
  holdsAlbum_of_alike h hr rfl rfl
    ⟨fun t ht => ⟨t, ht, rfl, t.alike_refl⟩, fun e he => ⟨e, he, rfl, rfl⟩, rfl, rfl⟩

/-! ## Right after a save -/

namespace MembersSaved

variable {a a' : Album}

/-- What has been saved is loaded, as far as it is kept. -/
theorem exists_track (h : MembersSaved n st a a' st') {t : Track} (ht : t ∈ a.tracks)
    (place : Handle) : ∃ u ∈ (st'.albumAt n place).tracks, u.Alike t := by
  obtain ⟨k, hk⟩ := h.tracks.exists_number ht
  have hr : t.row k n ∈ st'.tracks := (h.tracksAfter _).2 (.inl (mem_trackRows.2 ⟨_, hk, rfl⟩))
  refine ⟨_, mem_albumAt_tracks.2 ⟨_, hr, rfl, rfl⟩, ?_, ?_⟩
  · exact congrArg (fun r => { r with id := 0, albumId := 0 }) (TrackRow.row_track (t.row k n) place _)
  · exact GenreSet.ext fun g => GenreSet.mem_ofList.trans (h.mem_genresOf hk rfl)

theorem exists_extra (h : MembersSaved n st a a' st') {e : Extra} (he : e ∈ a.extras)
    (place : Handle) : ∃ f ∈ (st'.albumAt n place).extras, f.Alike e := by
  obtain ⟨k, hk⟩ := h.extras.exists_number he
  have hr : e.row k n ∈ st'.extras := (h.extrasAfter _).2 (.inl (mem_extraRows.2 ⟨_, hk, rfl⟩))
  exact ⟨_, mem_albumAt_extras.2 ⟨_, hr, rfl, rfl⟩, Path.text_ofText _⟩

/-- A track that had a number has the row of that number, with its fields and genres. -/
theorem row_mem_tracks (h : MembersSaved n st a a' st') {t : Track} (ht : t ∈ a.tracks) {k : Int}
    (hk : t.id? = some k) :
    t.row k n ∈ st'.tracks ∧ ∀ g, g ∈ st'.genresOf k ↔ g ∈ t.genres.names := by
  have hmem : t.numbered k ∈ a'.tracks := h.tracks.mem_of_id? ht hk
  exact ⟨(h.tracksAfter _).2 (.inl (mem_trackRows.2 ⟨_, hmem, rfl⟩)),
    fun g => h.mem_genresOf hmem rfl⟩

theorem row_mem_extras (h : MembersSaved n st a a' st') {e : Extra} (he : e ∈ a.extras) {k : Int}
    (hk : e.id? = some k) : e.row k n ∈ st'.extras := by
  have hmem : e.numbered k ∈ a'.extras := h.extras.mem_of_id? he hk
  exact (h.extrasAfter _).2 (.inl (mem_extraRows.2 ⟨_, hmem, rfl⟩))

/-- A track row after a save is that of a saved track, or it was there, with another album. -/
theorem track_cases (h : MembersSaved n st a a' st') {r : TrackRow} (hr : r ∈ st'.tracks) :
    (∃ t ∈ a.tracks, ∃ k, t.numbered k ∈ a'.tracks ∧ t.row k n = r) ∨
      r ∈ st.tracks ∧ r.albumId ≠ n := by
  rcases (h.tracksAfter r).1 hr with hr | ⟨hr, -⟩
  · obtain ⟨t', ht', hrow⟩ := mem_trackRows.1 hr
    obtain ⟨t, ht, k, rfl⟩ := h.tracks.exists_of_mem ht'
    exact .inl ⟨t, ht, k, ht', Option.some.inj hrow⟩
  · exact .inr (by simpa using List.mem_filter.1 hr)

theorem extra_cases (h : MembersSaved n st a a' st') {r : ExtraRow} (hr : r ∈ st'.extras) :
    (∃ e ∈ a.extras, ∃ k, e.row k n = r) ∨ r ∈ st.extras ∧ r.albumId ≠ n := by
  rcases (h.extrasAfter r).1 hr with hr | ⟨hr, -⟩
  · obtain ⟨e', he', hrow⟩ := mem_extraRows.1 hr
    obtain ⟨e, he, k, rfl⟩ := h.extras.exists_of_mem he'
    exact .inl ⟨e, he, k, Option.some.inj hrow⟩
  · exact .inr (by simpa using List.mem_filter.1 hr)

/-- Only what has been saved is loaded. -/
theorem exists_saved_track (h : MembersSaved n st a a' st') {u : Track}
    (hu : u ∈ (st'.albumAt n place).tracks) : ∃ t ∈ a.tracks, u.Alike t := by
  obtain ⟨r, hr, hrn, rfl⟩ := mem_albumAt_tracks.1 hu
  rcases h.track_cases hr with ⟨t, ht, k, hk, rfl⟩ | ⟨-, hne⟩
  · refine ⟨t, ht, ?_, GenreSet.ext fun g => GenreSet.mem_ofList.trans (h.mem_genresOf hk rfl)⟩
    exact congrArg (fun r => { r with id := 0, albumId := 0 }) (TrackRow.row_track (t.row k n) place _)
  · exact absurd hrn hne

theorem exists_saved_extra (h : MembersSaved n st a a' st') {f : Extra}
    (hf : f ∈ (st'.albumAt n place).extras) : ∃ e ∈ a.extras, f.Alike e := by
  obtain ⟨r, hr, hrn, rfl⟩ := mem_albumAt_extras.1 hf
  rcases h.extra_cases hr with ⟨e, he, k, rfl⟩ | ⟨-, hne⟩
  · exact ⟨e, he, Path.text_ofText _⟩
  · exact absurd hrn hne

theorem tidy (h : MembersSaved n st a a' st') (hst' : st'.Consistent) : a.Tidy where
  positions := by
    have hrows : (trackRows n a'.tracks).map TrackRow.position =
        (a'.tracks.map (·.position)).map (n, ·) := by
      rw [trackRows, List.map_filterMap, List.map_map, ← List.filterMap_eq_map]
      refine List.filterMap_congr fun t ht => ?_
      obtain ⟨u, -, k, rfl⟩ := h.tracks.exists_of_mem ht
      rfl
    rw [← h.tracks.map_eq fun _ _ => rfl]
    refine List.Nodup.of_map (n, ·) ?_
    rw [← hrows, ← ((h.perm_tracks hst').map _).nodup_iff]
    exact (hst'.tracks.filter _).keys
  names := by
    have hrows : (extraRows n a'.extras).map ExtraRow.position =
        (a'.extras.map (·.filename)).map (n, ·) := by
      rw [extraRows, List.map_filterMap, List.map_map, ← List.filterMap_eq_map]
      refine List.filterMap_congr fun e he => ?_
      obtain ⟨f, -, k, rfl⟩ := h.extras.exists_of_mem he
      rfl
    rw [← h.extras.map_eq fun _ _ => rfl]
    refine List.Nodup.of_map (n, ·) ?_
    rw [← hrows, ← ((h.perm_extras hst').map _).nodup_iff]
    exact (hst'.extras.filter _).keys

/-- If a source has been absorbed by what was saved, it is absorbed by what is loaded. -/
theorem absorbs (h : MembersSaved n st a a' st') {overwrite : Bool} {source : Album}
    (habs : a.Absorbs overwrite source) (place : Handle) :
    (st'.albumAt n place).Absorbs overwrite source where
  tracks u hu := by
    obtain ⟨t, ht, hpos, htu⟩ := habs.tracks u hu
    obtain ⟨v, hv, hvt⟩ := h.exists_track ht place
    exact ⟨v, hv, hvt.position_eq.trans hpos, htu.of_alike hvt⟩
  extras := habs.extras.of_alike (fun e he => h.exists_extra he place) fun f hf =>
    h.exists_saved_extra hf

end MembersSaved

end Store

end MusicLibrary

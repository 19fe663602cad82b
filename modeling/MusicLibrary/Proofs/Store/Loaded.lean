import MusicLibrary.Proofs.Album.MergeTracks
import MusicLibrary.Proofs.DateText
import MusicLibrary.Proofs.Store.Reachable
import MusicLibrary.Proofs.Store.Saved
import MusicLibrary.Store.Load

/-!
# Loading what has been saved

The rows of an album determine its value: a row holds all fields of the value it was written from,
and the members are put in order by unique keys. `AlbumSaved.loadAlbums_eq` says what loading an
album gives right after it has been saved.
-/

namespace MusicLibrary

/-! ## The order of members -/

theorem pairwise_mergeSort_isLE {α : Type} {c : α → α → Ordering} [Std.TransCmp c] (as : List α) :
    (as.mergeSort fun a b => (c a b).isLE).Pairwise fun a b => (c a b).isLE := by
  refine List.pairwise_mergeSort (fun _ _ _ => Std.TransCmp.isLE_trans) (fun a b => ?_) as
  rcases h : c a b
  · rfl
  · rfl
  · rw [Std.OrientedCmp.gt_iff_lt.1 h]
    rfl

/-- The order of tracks by disc and number. -/
def Track.Before (t u : Track) : Prop := t.disc < u.disc ∨ t.disc = u.disc ∧ t.trackNum < u.trackNum

/-- The order of extras by name. -/
def Extra.Before (e f : Extra) : Prop := e.filename < f.filename

theorem TrackRow.pairwise_mergeSort (rows : List TrackRow) :
    (rows.mergeSort TrackRow.albumOrder).Pairwise fun r q =>
      r.disc < q.disc ∨ r.disc = q.disc ∧ r.trackNum ≤ q.trackNum := by
  refine (pairwise_mergeSort_isLE (c := compareLex (compareOn TrackRow.disc)
    (compareLex (compareOn TrackRow.trackNum) (compareOn TrackRow.id))) rows).imp fun {r q} h => ?_
  have hcmp : ((compare r.disc q.disc).then
      ((compare r.trackNum q.trackNum).then (compare r.id q.id))).isLE := h
  rw [Ordering.isLE_then_iff_or, Ordering.isLE_then_iff_or, Int.compare_eq_lt, Int.compare_eq_lt,
    Int.compare_eq_eq, Int.compare_eq_eq] at hcmp
  omega

theorem ExtraRow.pairwise_mergeSort (rows : List ExtraRow) :
    (rows.mergeSort ExtraRow.albumOrder).Pairwise fun r q => r.filename ≤ q.filename := by
  refine (pairwise_mergeSort_isLE (c := compareLex (compareOn ExtraRow.filename)
    (compareOn ExtraRow.id)) rows).imp fun {r q} h => ?_
  have hcmp : ((compare r.filename q.filename).then (compare r.id q.id)).isLE := h
  exact (isLE_compareOfLessAndEq String.le_antisymm String.not_le String.le_total).1
    (Ordering.isLE_left_of_isLE_then hcmp)

/-! ## Values of rows -/

theorem bind_parse?_map_format (d? : Option Date) : (d?.map Date.format).bind Date.parse? = d? := by
  cases d? <;> simp

/-- A row holds all fields of an album. -/
theorem AlbumInfo.info_row {i : AlbumInfo} (h : i.path.IsText) (n : Int) :
    (i.row n).info = { i with id? := some n } := by
  simp only [AlbumRow.info, AlbumInfo.row, bind_parse?_map_format, Path.ofText_text h]

/-- A row and the links to its genres hold all fields of a track. -/
theorem Track.track_row {t : Track} (h : t.path.IsText) {names : List String}
    (hnames : ∀ g, g ∈ names ↔ g ∈ t.genres.names) (k n : Int) (place : Handle) :
    (t.row k n).track place names = (t.numbered k).on place := by
  have hgenres : GenreSet.ofList names = t.genres :=
    GenreSet.ext fun g => GenreSet.mem_ofList.trans (hnames g)
  simp only [TrackRow.track, Track.row, Track.numbered, Track.on, hgenres, Path.ofText_text h]

theorem Extra.extra_row {e : Extra} (h : e.path.IsText) (k n : Int) (place : Handle) :
    (e.row k n).extra place = (e.numbered k).on place := by
  simp only [ExtraRow.extra, Extra.row, Extra.numbered, Extra.on, Path.ofText_text h]

namespace Store

variable {st st' : Store} {n : Int}

/-! ## Loading an album -/

/-- The number of a row leads to it. -/
theorem album?_eq_some (h : st.Consistent) {r : AlbumRow} (hr : r ∈ st.albums) :
    st.album? r.id = some r := by
  rcases hf : st.album? r.id with _ | q
  · have hno := List.find?_eq_none.1 hf r hr
    simp at hno
  · rw [h.albums.eq_of_num (List.mem_of_find?_eq_some hf) hr (by simpa using List.find?_some hf)]

theorem loadAlbums_singleton {r : AlbumRow} (hr : st.album? n = some r) (s : Shelf) (hid : r.id = n) :
    st.loadAlbums [n] s = ([st.albumAt n (s.add r.info).1], (s.add r.info).2) := by
  subst hid
  have hrows : ([r.id] : List Int).eraseDups.filterMap st.album? = [r] := by
    simp [List.eraseDups_cons, hr]
  simp only [loadAlbums, place, hrows]
  rfl

/-- The tracks of a loaded album are in strict order. -/
theorem Consistent.before_tracks (h : st.Consistent) (place : Handle) :
    (st.albumAt n place).tracks.Pairwise Track.Before := by
  have hnodup : ((st.tracks.filter (·.albumId = n)).mergeSort TrackRow.albumOrder).Nodup :=
    (List.mergeSort_perm _ _).nodup_iff.2 (h.tracks.filter _).nodup_nums.of_map
  refine List.pairwise_map.2 (((TrackRow.pairwise_mergeSort _).and hnodup).imp_of_mem ?_)
  rintro r q hr hq ⟨hle, hne⟩
  obtain ⟨hr, hrn⟩ := List.mem_filter.1 ((List.mergeSort_perm _ _).mem_iff.1 hr)
  obtain ⟨hq, hqn⟩ := List.mem_filter.1 ((List.mergeSort_perm _ _).mem_iff.1 hq)
  rcases hle with hlt | ⟨hdisc, hle⟩
  · exact .inl hlt
  · have hnum : r.trackNum ≠ q.trackNum := fun hnum => hne (h.tracks.eq_of_key hr hq (by
      rw [TrackRow.position, TrackRow.position, of_decide_eq_true hrn, of_decide_eq_true hqn, hnum,
        hdisc]))
    exact .inr ⟨hdisc, Int.not_le.1 fun hge => hnum (Int.le_antisymm hle hge)⟩

theorem Consistent.filename_extra (h : st.Consistent) {r : ExtraRow} (hr : r ∈ st.extras)
    (place : Handle) : (r.extra place).filename = r.filename := (h.named r hr).symm

theorem Consistent.before_extras (h : st.Consistent) (place : Handle) :
    (st.albumAt n place).extras.Pairwise Extra.Before := by
  have hnodup : ((st.extras.filter (·.albumId = n)).mergeSort ExtraRow.albumOrder).Nodup :=
    (List.mergeSort_perm _ _).nodup_iff.2 (h.extras.filter _).nodup_nums.of_map
  refine List.pairwise_map.2 (((ExtraRow.pairwise_mergeSort _).and hnodup).imp_of_mem ?_)
  rintro r q hr hq ⟨hle, hne⟩
  obtain ⟨hr, hrn⟩ := List.mem_filter.1 ((List.mergeSort_perm _ _).mem_iff.1 hr)
  obtain ⟨hq, hqn⟩ := List.mem_filter.1 ((List.mergeSort_perm _ _).mem_iff.1 hq)
  rw [Extra.Before, h.filename_extra hr, h.filename_extra hq]
  refine String.not_le.1 fun hge => hne (h.extras.eq_of_key hr hq ?_)
  rw [ExtraRow.position, ExtraRow.position, of_decide_eq_true hrn, of_decide_eq_true hqn,
    String.le_antisymm hle hge]

theorem whole_albumAt (place : Handle) : (st.albumAt n place).Whole := by
  constructor
  · intro t ht
    obtain ⟨r, -, rfl⟩ := List.mem_map.1 ht
    rfl
  · intro e he
    obtain ⟨r, -, rfl⟩ := List.mem_map.1 he
    rfl

/-! ## Right after a save -/

theorem AlbumSaved.album? {s s' : Shelf} {a a' : Album} (h : AlbumSaved n st s a st' s' a')
    (hst' : st'.Consistent) : st'.album? n = some ((a.info s).row n) :=
  album?_eq_some hst' ((h.albums _).2 (.inl (List.mem_singleton_self _)))

namespace MembersSaved

variable {a a' : Album}

/-- The track rows of an album that has been saved are those of its tracks. -/
theorem perm_tracks (h : MembersSaved n st a a' st') (hst' : st'.Consistent) :
    (st'.tracks.filter (·.albumId = n)).Perm (trackRows n a'.tracks) := by
  have hnodup : ((trackRows n a'.tracks).map (·.id)).Nodup := map_id_trackRows n _ ▸ h.trackIds
  refine (List.perm_ext_iff_of_nodup (hst'.tracks.filter _).nodup_nums.of_map hnodup.of_map).2
    fun r => ?_
  rw [List.mem_filter, h.tracksAfter r, List.mem_filter, decide_eq_true_eq, decide_eq_true_eq]
  constructor
  · rintro ⟨hr | ⟨⟨-, hne⟩, -⟩, hrn⟩
    · exact hr
    · exact absurd hrn hne
  · intro hr
    obtain ⟨t, -, ht⟩ := mem_trackRows.1 hr
    exact ⟨.inl hr, (Track.row?_eq_some ht).2⟩

theorem perm_extras (h : MembersSaved n st a a' st') (hst' : st'.Consistent) :
    (st'.extras.filter (·.albumId = n)).Perm (extraRows n a'.extras) := by
  have hnodup : ((extraRows n a'.extras).map (·.id)).Nodup := map_id_extraRows n _ ▸ h.extraIds
  refine (List.perm_ext_iff_of_nodup (hst'.extras.filter _).nodup_nums.of_map hnodup.of_map).2
    fun r => ?_
  rw [List.mem_filter, h.extrasAfter r, List.mem_filter, decide_eq_true_eq, decide_eq_true_eq]
  constructor
  · rintro ⟨hr | ⟨⟨-, hne⟩, -⟩, hrn⟩
    · exact hr
    · exact absurd hrn hne
  · intro hr
    obtain ⟨e, -, he⟩ := mem_extraRows.1 hr
    exact ⟨.inl hr, (Extra.row?_eq_some he).2⟩

/-- The genres of a saved track are linked to its row. -/
theorem mem_genresOf (h : MembersSaved n st a a' st') {t : Track} {k : Int} (ht : t ∈ a'.tracks)
    (hk : t.id? = some k) {g : String} : g ∈ st'.genresOf k ↔ g ∈ t.genres.names := by
  rw [Store.mem_genresOf, h.links]
  constructor
  · rintro (⟨u, hu, huk, hg⟩ | ⟨-, hno⟩)
    · rwa [eq_of_nodup_filterMap h.trackIds ht hu hk huk]
    · exact absurd hk (hno t ht)
  · exact fun hg => .inl ⟨t, ht, hk, hg⟩

/-- A track of a loaded album is the one that was saved. -/
theorem perm_loaded_tracks (h : MembersSaved n st a a' st') (hst' : st'.Consistent)
    (htext : ∀ t ∈ a.tracks, t.path.IsText) (place : Handle) :
    (st'.albumAt n place).tracks.Perm (a'.tracks.map (·.on place)) := by
  have hmap : (trackRows n a'.tracks).map (fun r => r.track place (st'.genresOf r.id)) =
      a'.tracks.map (·.on place) := by
    rw [trackRows, List.map_filterMap, ← List.filterMap_eq_map]
    refine List.filterMap_congr fun t ht => ?_
    obtain ⟨u, hu, k, rfl⟩ := h.tracks.exists_of_mem ht
    exact congrArg some (Track.track_row (htext u hu) (fun g => h.mem_genresOf ht rfl) k n place)
  exact hmap ▸ ((List.mergeSort_perm _ _).trans (h.perm_tracks hst')).map _

theorem perm_loaded_extras (h : MembersSaved n st a a' st') (hst' : st'.Consistent)
    (htext : ∀ e ∈ a.extras, e.path.IsText) (place : Handle) :
    (st'.albumAt n place).extras.Perm (a'.extras.map (·.on place)) := by
  have hmap : (extraRows n a'.extras).map (·.extra place) = a'.extras.map (·.on place) := by
    rw [extraRows, List.map_filterMap, ← List.filterMap_eq_map]
    refine List.filterMap_congr fun e he => ?_
    obtain ⟨f, hf, k, rfl⟩ := h.extras.exists_of_mem he
    exact congrArg some (Extra.extra_row (htext f hf) k n place)
  exact hmap ▸ ((List.mergeSort_perm _ _).trans (h.perm_extras hst')).map _

end MembersSaved

/-! ## The round trip -/

/-- An album as it is loaded after it has been saved: the same fields, and the same members in
order, which share its place of the shelf. -/
structure LoadedAs (s' : Shelf) (a' : Album) (s : Shelf) (a : Album) : Prop where
  info : a.info s = a'.info s'
  tracks : a.tracks.Perm (a'.tracks.map ({ · with album := a.handle }))
  trackOrder : a.tracks.Pairwise fun t u =>
    t.disc < u.disc ∨ t.disc = u.disc ∧ t.trackNum < u.trackNum
  extras : a.extras.Perm (a'.extras.map ({ · with album := a.handle }))
  extraOrder : a.extras.Pairwise fun e f => e.filename < f.filename
  whole : a.Whole

/-- All rows but those of an album, of its former members and of the members it lists are as they
were. -/
structure SparesOthers (n : Int) (a : Album) (st st' : Store) : Prop where
  albums : ∀ r, r.id ≠ n → (r ∈ st'.albums ↔ r ∈ st.albums)
  tracks : ∀ r ∈ st.tracks, r.albumId ≠ n → r.id ∉ a.tracks.filterMap (·.id?) →
    r ∈ st'.tracks ∧ ∀ g, g ∈ st'.genresOf r.id ↔ g ∈ st.genresOf r.id
  noOtherTracks : ∀ r ∈ st'.tracks, r.albumId ≠ n → r ∈ st.tracks
  extras : ∀ r ∈ st.extras, r.albumId ≠ n → r.id ∉ a.extras.filterMap (·.id?) → r ∈ st'.extras
  noOtherExtras : ∀ r ∈ st'.extras, r.albumId ≠ n → r ∈ st.extras

/-- An album under the number `n` is what it was before it was saved, apart from the numbers that
were missing, it is loaded as it has been saved, and all else is as it was. -/
structure RoundTrip (n : Int) (st : Store) (s : Shelf) (a : Album) (p : Progress (Album × Shelf)) :
    Prop where
  number : (a.info s).id? = some n ∨ ¬ st.HasAlbum n
  info : p.value.1.info p.value.2 = { a.info s with id? := some n }
  tracks : List.Forall₂ (fun t t' => ∃ k, t' = { t with id? := some k } ∧
    ∀ k', t.id? = some k' → k' = k) a.tracks p.value.1.tracks
  extras : List.Forall₂ (fun e e' => ∃ k, e' = { e with id? := some k } ∧
    ∀ k', e.id? = some k' → k' = k) a.extras p.value.1.extras
  loaded : ∀ s₁, ∃ l s₂, p.store.loadAlbums [n] s₁ = ([l], s₂) ∧ LoadedAs p.value.2 p.value.1 s₂ l
  others : SparesOthers n a st p.store

namespace AlbumSaved

variable {s s' : Shelf} {a a' : Album}

theorem info_eq (h : AlbumSaved n st s a st' s' a') (hs : s.Holds a.handle) :
    a'.info s' = { a.info s with id? := some n } := by
  rw [Album.info, h.members.handle, h.shelf]
  exact Shelf.read_write hs _

theorem loadedAs (h : AlbumSaved n st s a st' s' a') (hst' : st'.Consistent)
    (hs : s.Holds a.handle) (hpath : (a.info s).path.IsText)
    (htracks : ∀ t ∈ a.tracks, t.path.IsText) (hextras : ∀ e ∈ a.extras, e.path.IsText)
    (s₁ : Shelf) : ∃ l s₂, st'.loadAlbums [n] s₁ = ([l], s₂) ∧ LoadedAs s' a' s₂ l := by
  refine ⟨_, _, loadAlbums_singleton (h.album? hst') s₁ rfl, ?_⟩
  exact {
    info := by
      rw [h.info_eq hs]
      exact (Shelf.read_add s₁ _).trans (AlbumInfo.info_row hpath n)
    tracks := h.members.perm_loaded_tracks hst' htracks _
    trackOrder := hst'.before_tracks _
    extras := h.members.perm_loaded_extras hst' hextras _
    extraOrder := hst'.before_extras _
    whole := whole_albumAt _ }

theorem sparesOthers (h : AlbumSaved n st s a st' s' a') : SparesOthers n a st st' where
  albums r hr := by
    have hmem : r ∈ st'.albums ↔ r = (a.info s).row n ∨ r ∈ st.albums ∧ n ≠ r.id := by
      rw [h.albums r, List.mem_singleton]
      exact or_congr_right (and_congr_right fun _ => List.forall_mem_singleton)
    rw [hmem]
    refine ⟨?_, fun hmem => .inr ⟨hmem, hr.symm⟩⟩
    rintro (rfl | ⟨hmem, -⟩)
    · exact absurd rfl hr
    · exact hmem
  tracks r hr hn hid := by
    have hunlisted : ∀ t ∈ a'.tracks, t.id? ≠ some r.id := fun t ht hk =>
      hid (h.members.newTracks r hr hn (List.mem_filterMap.2 ⟨t, ht, hk⟩))
    have hnew : ∀ q ∈ trackRows n a'.tracks, q.id ≠ r.id := fun q hq he => by
      obtain ⟨t, ht, hq⟩ := mem_trackRows.1 hq
      exact hunlisted t ht (he ▸ (Track.row?_eq_some hq).1)
    refine ⟨(h.members.tracksAfter r).2 (.inr ⟨List.mem_filter.2 ⟨hr, by simpa using hn⟩, hnew⟩),
      fun g => ?_⟩
    rw [mem_genresOf, mem_genresOf, h.members.links]
    constructor
    · rintro (⟨t, ht, hk, -⟩ | ⟨⟨hl, -⟩, -⟩)
      · exact absurd hk (hunlisted t ht)
      · exact hl
    · exact fun hl => .inr ⟨⟨hl, r, hr, rfl, hn⟩, hunlisted⟩
  noOtherTracks r hr hn := by
    rcases (h.members.tracksAfter r).1 hr with hr | ⟨hr, -⟩
    · obtain ⟨t, -, ht⟩ := mem_trackRows.1 hr
      exact absurd (Track.row?_eq_some ht).2 hn
    · exact List.mem_of_mem_filter hr
  extras r hr hn hid := by
    have hnew : ∀ q ∈ extraRows n a'.extras, q.id ≠ r.id := fun q hq he => by
      have hk : r.id ∈ a'.extras.filterMap (·.id?) := (mem_filterMap_extraId? n).2 ⟨q, hq, he⟩
      exact hid (h.members.newExtras r hr hn hk)
    exact (h.members.extrasAfter r).2 (.inr ⟨List.mem_filter.2 ⟨hr, by simpa using hn⟩, hnew⟩)
  noOtherExtras r hr hn := by
    rcases (h.members.extrasAfter r).1 hr with hr | ⟨hr, -⟩
    · obtain ⟨e, -, he⟩ := mem_extraRows.1 hr
      exact absurd (Extra.row?_eq_some he).2 hn
    · exact List.mem_of_mem_filter hr

end AlbumSaved

/-- An album whose paths are texts and whose members have numbers of their own, each of some row, is
loaded as it has been saved if the save succeeds, and the save leaves everything else alone. -/
theorem roundTrip_of_saveAlbum (h : st.Reachable) {s : Shelf} {a : Album} (hs : s.Holds a.handle)
    (hpath : (a.info s).path.IsText) (htracks : ∀ t ∈ a.tracks, t.path.IsText)
    (hextras : ∀ e ∈ a.extras, e.path.IsText) (ha : st.Lists a)
    (hok : (st.saveAlbum s a).fault? = none) : ∃ n, RoundTrip n st s a (st.saveAlbum s a) := by
  obtain ⟨n, hsaved⟩ := saveAlbum_of_ok h.consistent ha hok
  have hst' := h.consistent.saveAlbum s a
  exact ⟨n, {
    number := hsaved.own.imp And.left fun hnew ⟨r, hr, hrn⟩ => absurd (hnew.2 r hr) (by omega)
    info := hsaved.info_eq hs
    tracks := hsaved.members.tracks
    extras := hsaved.members.extras
    loaded := hsaved.loadedAs hst' hs hpath htracks hextras
    others := hsaved.sparesOthers }⟩

/-- The fields of two albums on a shelf. -/
def nightAndDay : Shelf :=
  ⟨#[.create "Nina" "Night" 1970 (.ofText "/night"), .create "Nina" "Day" (-1) (.ofText "/day")]⟩

/-- An album with a track and an extra. -/
def night : Album where
  handle := ⟨0⟩
  tracks := [.create nightAndDay ⟨0⟩ 1 "One" (.ofText "/night/1.flac")]
  extras := [.create ⟨0⟩ (.ofText "/night/cover.jpg")]

/-- An album that lists the track of another one, which has the number 1, besides a new one. -/
def day : Album where
  handle := ⟨1⟩
  tracks := [.create nightAndDay ⟨1⟩ 2 "Two" (.ofText "/day/2.flac"),
    { Track.create nightAndDay ⟨1⟩ 1 "One" (.ofText "/night/1.flac") with id? := some 1 }]
  extras := []

/-- A track that is listed by another album than the one it is stored with goes over to that. -/
theorem roundTrip_day : ∃ n, RoundTrip n (Session.after [.saveAlbum nightAndDay night]).working
    nightAndDay day ((Session.after [.saveAlbum nightAndDay night]).working.saveAlbum nightAndDay day) := by
  refine roundTrip_of_saveAlbum ⟨_, rfl⟩ Nat.one_lt_two (Path.isText_ofText "/day") ?_ ?_ ?_
    (by decide +kernel)
  · simp [day, Track.create, Path.isText_ofText]
  · simp [day]
  · have htrack : (Session.after [.saveAlbum nightAndDay night]).working.HasTrack 1 :=
      any_track_iff.1 (by decide +kernel)
    exact ⟨by decide, by decide, by simpa [day, Track.create] using htrack, by simp [day]⟩

end Store

end MusicLibrary

import MusicLibrary.Proofs.Store.Added

/-!
# Filling blanks

Adding an album without `overwrite` writes all rows of the stored album anew that it is merged into.
What comes of this is `Store.BlanksFilled`: every row is still there under its number, only blanks
of that one album and of its tracks have been filled, and further rows belong to that album.
-/

namespace MusicLibrary

/-! ## Columns -/

/-- A column is what it was, unless it was blank. -/
def FillsBlank {α : Type} (x x' : Option α) : Prop := x = none ∨ x' = x

theorem fillsBlank_or {α : Type} (x y : Option α) : FillsBlank x (x.or y) := by
  cases x
  · exact .inl rfl
  · exact .inr rfl

theorem FillsBlank.eq_of_isSome {α : Type} {x x' : Option α} (h : FillsBlank x x')
    (hx : x.isSome = true) : x' = x := by
  rcases h with rfl | h
  · cases hx
  · exact h

/-- A date that is written is read back, so it is not blank for a merge. -/
theorem fillsBlank_date {text? : Option String} (h : WrittenDate text?) (d? : Option Date) :
    FillsBlank text? (((text?.bind Date.parse?).or d?).map Date.format) := by
  rcases text? with _ | text
  · exact .inl rfl
  · obtain ⟨d, rfl⟩ := h text rfl
    right
    simp

/-! ## Rows -/

/-- The row of an album with blanks filled, and all else as it was, the number included. -/
structure AlbumRow.FilledAs (r r' : AlbumRow) : Prop where
  kept : r' = { r with
    date? := r'.date?
    originalDate? := r'.originalDate?
    label? := r'.label?
    mbAlbumId? := r'.mbAlbumId?
    trackTotal? := r'.trackTotal? }
  date : FillsBlank r.date? r'.date?
  originalDate : FillsBlank r.originalDate? r'.originalDate?
  label : FillsBlank r.label? r'.label?
  mbAlbumId : FillsBlank r.mbAlbumId? r'.mbAlbumId?
  trackTotal : FillsBlank r.trackTotal? r'.trackTotal?

/-- The row of a track with a blank filled, and all else as it was, the number included. -/
structure TrackRow.FilledAs (r r' : TrackRow) : Prop where
  kept : r' = { r with mbTrackId? := r'.mbTrackId? }
  mbTrackId : FillsBlank r.mbTrackId? r'.mbTrackId?

theorem AlbumRow.filledAs_refl (r : AlbumRow) : r.FilledAs r :=
  ⟨rfl, .inr rfl, .inr rfl, .inr rfl, .inr rfl, .inr rfl⟩

theorem TrackRow.filledAs_refl (r : TrackRow) : r.FilledAs r := ⟨rfl, .inr rfl⟩

theorem AlbumRow.FilledAs.keys {r r' : AlbumRow} (h : r.FilledAs r') :
    r'.id = r.id ∧ r'.path = r.path ∧ r'.identity = r.identity := by
  rw [h.kept]
  exact ⟨rfl, rfl, rfl⟩

theorem TrackRow.FilledAs.keys {r r' : TrackRow} (h : r.FilledAs r') :
    r'.id = r.id ∧ r'.path = r.path ∧ r'.position = r.position := by
  rw [h.kept]
  exact ⟨rfl, rfl, rfl⟩

/-- Merging into a stored album without `overwrite` fills blanks of its row. -/
theorem AlbumRow.filledAs_merge {r : AlbumRow} (h : r.Dated) (i : AlbumInfo) :
    r.FilledAs ((r.info.merge false i).row r.id) where
  kept := by simp [AlbumInfo.row, AlbumInfo.merge, AlbumRow.info, Path.text_ofText]
  date := fillsBlank_date h.1 _
  originalDate := fillsBlank_date h.2 _
  label := fillsBlank_or _ _
  mbAlbumId := fillsBlank_or _ _
  trackTotal := fillsBlank_or _ _

theorem TrackRow.filledAs_merge (r : TrackRow) (place : Handle) (names : List String) (u : Track) :
    r.FilledAs (((r.track place names).merge false u).row r.id r.albumId) where
  kept := by simp [Track.row, Track.merge, TrackRow.track, Path.text_ofText]
  mbTrackId := fillsBlank_or _ _

/-- Genres stay as they are where there are any. -/
theorem GenreSet.ofList_orElse (names : List String) (t : GenreSet) :
    names = [] ∨ ∀ g, g ∈ ((ofList names).orElse t).names ↔ g ∈ names := by
  by_cases hnames : names = []
  · exact .inl hnames
  · right
    have hne : (ofList names).isEmpty = false := by
      obtain ⟨g, hg⟩ := List.exists_mem_of_ne_nil names hnames
      rw [isEmpty, List.isEmpty_eq_false_iff]
      exact List.ne_nil_of_mem (mem_ofList.2 hg)
    intro g
    rw [orElse, hne]
    exact mem_ofList

/-! ## Merged albums -/

namespace Album

variable {a : Album}

/-- Every track of an album is in the merged album under its number, as it was or with the blanks
filled that a source track can fill. -/
theorem exists_merged_track (threshold : Score) (source : Album) (s : Shelf)
    {t : Track} (ht : t ∈ a.tracks) :
    ∃ v ∈ (a.merge false threshold source s).1.tracks,
      v = t ∨ ∃ u ∈ source.tracks, v = t.merge false u := by
  obtain ⟨i, hi, rfl⟩ := List.mem_iff_getElem.1 ht
  rw [merge_tracks]
  refine ⟨_, mem_mergeTracks.2 (.inl ⟨i, hi, rfl⟩), ?_⟩
  rcases mergedTrack_cases (Track.pairing a.tracks source.tracks threshold) i a.tracks[i] with
    ⟨j, hj, -, hm⟩ | hm
  · exact .inr ⟨source.tracks[j], List.getElem_mem hj, hm⟩
  · exact .inl hm

/-- Without `overwrite`, the extras of an album are left as they are. -/
theorem mem_merge_extras (threshold : Score) (source : Album) (s : Shelf)
    {e : Extra} (he : e ∈ a.extras) : e ∈ (a.merge false threshold source s).1.extras := by
  obtain ⟨new, hnew, -⟩ :=
    exists_extras_foldl_mergeExtra (a.mergeTracks false threshold source.tracks) source.extras
  rw [merge, hnew, mergeTracks_eq]
  exact List.mem_append_left _ he

end Album

namespace Store

variable {st st' : Store} {n k : Int} {place : Handle}

/-- The genres of a track are what they were, unless it had none. -/
def GenresFilled (st st' : Store) (k : Int) : Prop :=
  st.genresOf k = [] ∨ ∀ g, g ∈ st'.genresOf k ↔ g ∈ st.genresOf k

/-- All rows are where they were. Those of other albums are as they were; those of the album `n`
are so, too, but for blanks of its own row and of its tracks. Further rows belong to the album. -/
structure BlanksFilled (n : Int) (st st' : Store) : Prop where
  albums : ∀ r ∈ st.albums, ∃ r' ∈ st'.albums, r.FilledAs r' ∧ (r.id ≠ n → r' = r)
  tracks : ∀ r ∈ st.tracks, ∃ r' ∈ st'.tracks, r.FilledAs r' ∧ st.GenresFilled st' r.id ∧
    (r.albumId ≠ n → r' = r ∧ ∀ g, g ∈ st'.genresOf r.id ↔ g ∈ st.genresOf r.id)
  extras : ∀ r ∈ st.extras, r ∈ st'.extras
  newAlbums : ∀ r' ∈ st'.albums, r'.id = n ∨ r' ∈ st.albums
  newTracks : ∀ r' ∈ st'.tracks, r'.albumId = n ∨ r' ∈ st.tracks
  newExtras : ∀ r' ∈ st'.extras, r'.albumId = n ∨ r' ∈ st.extras

/-! ## Albums in memory -/

/-- An album in memory has what is stored of it, with blanks filled, and lists no stored member of
another album. -/
structure FilledBy (st : Store) (n : Int) (i : AlbumInfo) (a : Album) : Prop where
  row : ∀ r ∈ st.albums, r.id = n → r.FilledAs (i.row n)
  tracks : ∀ r ∈ st.tracks, r.albumId = n → ∃ t ∈ a.tracks, t.id? = some r.id ∧
    r.FilledAs (t.row r.id n) ∧ (st.genresOf r.id = [] ∨ ∀ g, g ∈ t.genres.names ↔ g ∈ st.genresOf r.id)
  extras : ∀ r ∈ st.extras, r.albumId = n → ∃ e ∈ a.extras, e.id? = some r.id ∧ e.row r.id n = r
  noOtherTracks : ∀ r ∈ st.tracks, r.albumId ≠ n → r.id ∉ a.tracks.filterMap (·.id?)
  noOtherExtras : ∀ r ∈ st.extras, r.albumId ≠ n → r.id ∉ a.extras.filterMap (·.id?)

/-- Saving such an album fills blanks. -/
theorem AlbumSaved.blanksFilled {s s' : Shelf} {a a' : Album}
    (hsaved : AlbumSaved n st s a st' s' a') (h : st.FilledBy n (a.info s) a) :
    BlanksFilled n st st' where
  albums r hr := by
    by_cases hrn : r.id = n
    · exact ⟨(a.info s).row n, (hsaved.albums _).2 (.inl (List.mem_singleton_self _)),
        h.row r hr hrn, fun hne => absurd hrn hne⟩
    · exact ⟨r, (hsaved.sparesOthers.albums r hrn).2 hr, r.filledAs_refl, fun _ => rfl⟩
  tracks r hr := by
    by_cases hrn : r.albumId = n
    · obtain ⟨t, ht, hid, hfilled, hgenres⟩ := h.tracks r hr hrn
      obtain ⟨hmem, hnames⟩ := hsaved.members.row_mem_tracks ht hid
      refine ⟨t.row r.id n, hmem, hfilled, hgenres.imp_right fun hg g => ?_, fun hne => absurd hrn hne⟩
      rw [hnames, hg]
    · obtain ⟨hmem, hnames⟩ := hsaved.sparesOthers.tracks r hr hrn (h.noOtherTracks r hr hrn)
      exact ⟨r, hmem, r.filledAs_refl, .inr hnames, fun _ => ⟨rfl, hnames⟩⟩
  extras r hr := by
    by_cases hrn : r.albumId = n
    · obtain ⟨e, he, hid, hrow⟩ := h.extras r hr hrn
      exact hrow ▸ hsaved.members.row_mem_extras he hid
    · exact hsaved.sparesOthers.extras r hr hrn (h.noOtherExtras r hr hrn)
  newAlbums r' hr' := by
    by_cases hrn : r'.id = n
    · exact .inl hrn
    · exact .inr ((hsaved.sparesOthers.albums r' hrn).1 hr')
  newTracks r' hr' := by
    by_cases hrn : r'.albumId = n
    · exact .inl hrn
    · exact .inr (hsaved.sparesOthers.noOtherTracks r' hr' hrn)
  newExtras r' hr' := by
    by_cases hrn : r'.albumId = n
    · exact .inl hrn
    · exact .inr (hsaved.sparesOthers.noOtherExtras r' hr' hrn)

/-- Nothing is stored yet of an album with a number above all others. -/
theorem filledBy_of_new (h : st.Consistent) (hlt : ∀ r ∈ st.albums, r.id < n) (i : AlbumInfo)
    {a : Album} (ha : a.New) : st.FilledBy n i a := by
  have hnone := not_hasAlbum_of_above hlt
  obtain ⟨hnoTracks, hnoExtras⟩ := h.noMembers hnone
  have htracks := List.filterMap_eq_nil_iff.2 ha.tracks
  have hextras := List.filterMap_eq_nil_iff.2 ha.extras
  refine ⟨?_, ?_, ?_, ?_, ?_⟩
  · intro r hr hrn
    exact absurd ⟨r, hr, hrn⟩ hnone
  · intro r hr hrn
    exact absurd hrn (hnoTracks r hr)
  · intro r hr hrn
    exact absurd hrn (hnoExtras r hr)
  · intro r _ _
    rw [htracks]
    exact List.not_mem_nil
  · intro r _ _
    rw [hextras]
    exact List.not_mem_nil

/-- The members that a loaded album lists are its own, whatever new album has been merged into
it. -/
theorem Consistent.not_mem_ids_merge (h : st.Consistent) {overwrite : Bool} {threshold : Score}
    {a : Album} {s : Shelf} {m : Int} (hnew : a.New) (hm : m ≠ n) :
    (∀ r ∈ st.tracks, r.albumId = m → r.id ∉
      ((st.albumAt n place).merge overwrite threshold a s).1.tracks.filterMap (·.id?)) ∧
    ∀ r ∈ st.extras, r.albumId = m → r.id ∉
      ((st.albumAt n place).merge overwrite threshold a s).1.extras.filterMap (·.id?) := by
  obtain ⟨htracks, hextras⟩ := Album.filterMap_id?_merge overwrite threshold s
    (h.tidy_albumAt n place).names hnew
  rw [htracks, hextras]
  refine ⟨fun r hr hrm hk => ?_, fun r hr hrm hk => ?_⟩
  · obtain ⟨t, ht, hid⟩ := List.mem_filterMap.1 hk
    obtain ⟨q, hq, hqn, rfl⟩ := mem_albumAt_tracks.1 ht
    cases h.tracks.eq_of_num hq hr (Option.some.inj hid)
    exact hm (hrm.symm.trans hqn)
  · obtain ⟨e, he, hid⟩ := List.mem_filterMap.1 hk
    obtain ⟨q, hq, hqn, rfl⟩ := mem_albumAt_extras.1 he
    cases h.extras.eq_of_num hq hr (Option.some.inj hid)
    exact hm (hrm.symm.trans hqn)

/-- A stored album is filled by what a new album that is merged into it makes of it. -/
theorem filledBy_merge (h : st.Consistent) {threshold : Score} {s s₁ : Shelf} {a : Album}
    {r : AlbumRow} (hr : r ∈ st.albums) (hnew : a.New) :
    st.FilledBy r.id (r.info.merge false (a.info s))
      ((st.albumAt r.id place).merge false threshold a s₁).1 := by
  refine ⟨?_, ?_, ?_, fun q hq hne => (h.not_mem_ids_merge hnew hne).1 q hq rfl,
    fun q hq hne => (h.not_mem_ids_merge hnew hne).2 q hq rfl⟩
  · intro q hq hqr
    obtain rfl := h.albums.eq_of_num hq hr hqr
    exact AlbumRow.filledAs_merge (h.dated q hq) _
  · intro q hq hqr
    obtain ⟨v, hv, hcase⟩ := Album.exists_merged_track threshold a s₁
      (mem_albumAt_tracks.2 ⟨q, hq, hqr, rfl⟩)
    rcases hcase with rfl | ⟨u, -, rfl⟩
    · refine ⟨_, hv, rfl, ?_, .inr fun g => GenreSet.mem_ofList⟩
      rw [← hqr, TrackRow.row_track]
      exact q.filledAs_refl
    · refine ⟨_, hv, rfl, ?_, GenreSet.ofList_orElse _ u.genres⟩
      rw [← hqr]
      exact q.filledAs_merge place _ u
  · intro q hq hqr
    refine ⟨_, Album.mem_merge_extras threshold a s₁
      (mem_albumAt_extras.2 ⟨q, hq, hqr, rfl⟩), rfl, ?_⟩
    rw [← hqr]
    exact ExtraRow.row_extra (h.named q hq) place

/-! ## Adding -/

/-- The number under which an album is added: that of the first row it collides with, or else one
above all others. -/
def AddedUnder (st : Store) (i : AlbumInfo) (n : Int) : Prop :=
  match st.colliding? i with
  | some r => r.id = n
  | none => ∀ r ∈ st.albums, r.id < n

/-- When a new album is added without `overwrite`, what is saved under the number it is added under
fills blanks of what is stored. -/
theorem filledBy_of_addAlbum (h : st.Consistent) {threshold : Score} {s : Shelf} {a : Album}
    (hs : s.Holds a.handle) (hid : (a.info s).id? = none) (hnew : a.New)
    (hok : (st.addAlbum ⟨threshold, false⟩ s a).fault? = none) :
    let p := st.addAlbum ⟨threshold, false⟩ s a
    ∃ n s₁ m, s₁.Holds m.handle ∧ AlbumSaved n st s₁ m p.store p.value.2 p.value.1 ∧
      st.AddedUnder (a.info s) n ∧ st.FilledBy n (m.info s₁) m := by
  intro p
  obtain ⟨n, s₁, m, hs₁, hsaved, ⟨hc, rfl, rfl⟩ | ⟨r, place, hc, rfl, hinfo⟩⟩ :=
    addAlbum_of_ok h hs hnew hok
  · have hlt := above_of_unnumbered hid hsaved.own
    refine ⟨n, s₁, m, hs₁, hsaved, ?_, filledBy_of_new h hlt _ hnew⟩
    unfold AddedUnder
    rw [hc]
    exact hlt
  · have hr := ((colliding?_eq_some h).1 hc).1
    obtain rfl := hsaved.number_eq (hinfo ▸ AlbumInfo.merge_id?) ⟨r, hr, rfl⟩
    refine ⟨r.id, s₁, _, hs₁, hsaved, ?_, ?_⟩
    · unfold AddedUnder
      rw [hc]
    · rw [hinfo]
      exact filledBy_merge h hr hnew

/-- Whatever the threshold, adding a new album without `overwrite` leaves all rows in their places,
changes none but those of the album it is merged into, and of these fills blanks only. -/
theorem addAlbum_fills_blanks (h : st.Reachable) {threshold : Score} {s : Shelf} {a : Album}
    (hs : s.Holds a.handle) (hid : (a.info s).id? = none) (hnew : a.New)
    (hok : (st.addAlbum ⟨threshold, false⟩ s a).fault? = none) :
    let p := st.addAlbum ⟨threshold, false⟩ s a
    ∃ n, (p.value.1.info p.value.2).id? = some n ∧ st.AddedUnder (a.info s) n ∧
      BlanksFilled n st p.store := by
  intro p
  obtain ⟨n, s₁, m, hs₁, hsaved, hunder, hfilled⟩ :=
    filledBy_of_addAlbum h.consistent hs hid hnew hok
  refine ⟨n, ?_, hunder, hsaved.blanksFilled hfilled⟩
  rw [hsaved.info_eq hs₁]

/-- A later issue of an album, whose track has a genre and which has a second extra. -/
def longerNight : Album where
  handle := ⟨0⟩
  tracks := [{ Track.create ⟨#[laterNight]⟩ ⟨0⟩ 1 "One" (.ofText "/later/1.flac") with
    genres := .ofList ["jazz"] }]
  extras := [.create ⟨0⟩ (.ofText "/later/cover.jpg"), .create ⟨0⟩ (.ofText "/later/rip.log")]

/-- The stored issue gets a release number, a genre and an extra, and keeps its paths. -/
theorem addAlbum_fills_blanks_longerNight :
    let st := (Session.after [.saveAlbum nightAndDay night]).working
    let p := st.addAlbum ⟨.one, false⟩ ⟨#[laterNight]⟩ longerNight
    ∃ n, (p.value.1.info p.value.2).id? = some n ∧ st.AddedUnder laterNight n ∧
      BlanksFilled n st p.store :=
  addAlbum_fills_blanks ⟨_, rfl⟩ Nat.one_pos rfl
    ⟨by simp [longerNight, Track.create], by simp [longerNight, Extra.create]⟩ (by decide +kernel)

end Store

end MusicLibrary

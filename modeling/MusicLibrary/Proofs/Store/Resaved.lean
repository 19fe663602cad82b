import MusicLibrary.Proofs.Store.Saved
import MusicLibrary.Store.Load

/-!
# Saving what is stored

A store may hold an album as it is in memory: its row, and exactly its members with their genres
(`Store.HoldsAlbum`). Saving such an album succeeds and leaves all rows as they are
(`saveAlbum_of_holdsAlbum`). The links to genres are written anew, so their order may change.
-/

namespace MusicLibrary

open Progress

namespace Store

variable {st st' st₁ : Store} {n k : Int}

/-- Two stores have the same rows, whatever the order of the links to genres. -/
structure SameRows (st st' : Store) : Prop where
  albums : st'.albums = st.albums
  tracks : st'.tracks = st.tracks
  extras : st'.extras = st.extras
  genres : st'.genres = st.genres
  links : st'.trackGenres.Perm st.trackGenres

theorem sameRows_refl (st : Store) : SameRows st st := ⟨rfl, rfl, rfl, rfl, .refl _⟩

theorem SameRows.trans (h : SameRows st st₁) (h₁ : SameRows st₁ st') : SameRows st st' :=
  ⟨h₁.albums.trans h.albums, h₁.tracks.trans h.tracks, h₁.extras.trans h.extras,
    h₁.genres.trans h.genres, h₁.links.trans h.links⟩

theorem SameRows.mem_genresOf (h : SameRows st st') {g : String} :
    g ∈ st'.genresOf k ↔ g ∈ st.genresOf k := by
  rw [Store.mem_genresOf, Store.mem_genresOf, h.links.mem_iff]

theorem SameRows.albumAt_eq (h : SameRows st st') (n : Int) (place : Handle) :
    st'.albumAt n place = st.albumAt n place := by
  have hgenres : ∀ k, GenreSet.ofList (st'.genresOf k) = .ofList (st.genresOf k) := fun k =>
    GenreSet.ext fun g => by rw [GenreSet.mem_ofList, GenreSet.mem_ofList, h.mem_genresOf]
  simp only [albumAt, TrackRow.track, h.tracks, h.extras, hgenres]

/-! ## Writing stored rows -/

theorem updateAlbum_of_mem (h : st.Consistent) {r : AlbumRow} (hr : r ∈ st.albums) :
    st.updateAlbum r = .ok (true, st) := by
  have hrows : st.albums.map (fun q => if q.id = r.id then r else q) = st.albums :=
    h.albums.replaceRow_eq hr
  rw [updateAlbum, if_pos (any_album_iff.2 ⟨r, hr, rfl⟩),
    AlbumRow.conflict?_eq_none.2 (h.albums.free hr)]
  simp only [hrows]

/-- An album that keeps its number and its fields is saved to the row it has. -/
theorem writeAlbum_of_row (h : st.Consistent) {i : AlbumInfo} (hid : i.id? = some n)
    (hrow : i.row n ∈ st.albums) : st.writeAlbum i = .ok (n, st) := by
  unfold writeAlbum
  rw [hid]
  simp only [updateAlbum_of_mem h hrow]

/-- A row takes the place of the one of its number if it is free. -/
theorem updateTrack_of_free {r : TrackRow} (hr : st.HasTrack r.id)
    (hfree : Free TrackRow.id TrackRow.position TrackRow.path st.tracks r) :
    st.updateTrack r = .ok { st with tracks := replaceRow TrackRow.id r st.tracks } := by
  rw [updateTrack, if_pos (any_track_iff.2 hr), TrackRow.conflict?_eq_none.2 hfree]
  rfl

theorem updateTrack_of_mem (h : st.Consistent) {r : TrackRow} (hr : r ∈ st.tracks) :
    st.updateTrack r = .ok st := by
  rw [updateTrack_of_free ⟨r, hr, rfl⟩ (h.tracks.free hr), h.tracks.replaceRow_eq hr]

theorem updateExtra_of_mem (h : st.Consistent) {r : ExtraRow} (hr : r ∈ st.extras) :
    st.updateExtra r = .ok st := by
  have hrows : st.extras.map (fun q => if q.id = r.id then r else q) = st.extras :=
    h.extras.replaceRow_eq hr
  rw [updateExtra, if_pos (any_extra_iff.2 ⟨r, hr, rfl⟩),
    ExtraRow.conflict?_eq_none.2 (h.extras.free hr)]
  simp only [hrows]

/-! ## Members -/

/-- A track is stored as it is in memory, as a member of an album. -/
def HoldsTrack (st : Store) (n : Int) (t : Track) : Prop :=
  ∃ k, t.id? = some k ∧ t.row k n ∈ st.tracks ∧ ∀ g, g ∈ st.genresOf k ↔ g ∈ t.genres.names

/-- An extra is stored as it is in memory, as a member of an album. -/
def HoldsExtra (st : Store) (n : Int) (e : Extra) : Prop :=
  ∃ k, e.id? = some k ∧ e.row k n ∈ st.extras

theorem HoldsTrack.of_sameRows (h : SameRows st st') {t : Track} (ht : st.HoldsTrack n t) :
    st'.HoldsTrack n t := by
  obtain ⟨k, hk, hr, hg⟩ := ht
  exact ⟨k, hk, h.tracks ▸ hr, fun g => h.mem_genresOf.trans (hg g)⟩

theorem HoldsExtra.of_sameRows (h : SameRows st st') {e : Extra} (he : st.HoldsExtra n e) :
    st'.HoldsExtra n e := by
  obtain ⟨k, hk, hr⟩ := he
  exact ⟨k, hk, h.extras ▸ hr⟩

/-- A track is held as before if only rows and links of another number have changed. -/
theorem HoldsTrack.frame {t : Track} (ht : st.HoldsTrack n t) (hne : t.id? ≠ some k)
    (hrows : ∀ r ∈ st.tracks, r.id ≠ k → r ∈ st'.tracks)
    (hlinks : ∀ l : GenreLink, l.trackId ≠ k → (l ∈ st'.trackGenres ↔ l ∈ st.trackGenres)) :
    st'.HoldsTrack n t := by
  obtain ⟨j, hj, hrow, hgenres⟩ := ht
  have hjk : j ≠ k := by
    rintro rfl
    exact hne hj
  refine ⟨j, hj, hrows _ hrow hjk, ?_⟩
  intro g
  rw [← hgenres g, mem_genresOf, mem_genresOf]
  exact hlinks _ hjk

/-- A track whose row is stored is held once it has been linked to its genres. -/
theorem holdsTrack_relink {t : Track} (hrow : t.row k n ∈ st.tracks) :
    (st.relink k t.genres.names).HoldsTrack n (t.numbered k) := by
  refine ⟨k, rfl, hrow, fun g => ?_⟩
  rw [mem_genresOf]
  simp [relink, Track.numbered]

/-- Linking a track to the genres it has makes no difference. -/
theorem sameRows_relink (h : st.Consistent) {names : List String} (hk : st.HasTrack k)
    (hnodup : names.Nodup) (hnames : ∀ g, g ∈ st.genresOf k ↔ g ∈ names) :
    SameRows st (st.relink k names) where
  albums := rfl
  tracks := rfl
  extras := rfl
  genres := foldl_addName_of_subset fun g hg =>
    h.linkedGenre ⟨k, g⟩ (mem_genresOf.1 ((hnames g).2 hg))
  links := by
    refine (List.perm_ext_iff_of_nodup (h.relink hk hnodup).links h.links).2 fun l => ?_
    have hnew : l ∈ names.map (GenreLink.mk k) ↔ l.trackId = k ∧ l ∈ st.trackGenres := by
      rw [List.mem_map]
      constructor
      · rintro ⟨g, hg, rfl⟩
        exact ⟨rfl, mem_genresOf.1 ((hnames g).2 hg)⟩
      · rintro ⟨rfl, hl⟩
        exact ⟨l.genre, (hnames _).1 (mem_genresOf.2 hl), rfl⟩
    show l ∈ st.trackGenres.filter (·.trackId ≠ k) ++ names.map (⟨k, ·⟩) ↔ _
    rw [List.mem_append, hnew, List.mem_filter, decide_eq_true_eq]
    by_cases hl : l.trackId = k <;> simp [hl]

/-- Writing a track that is stored as it is leaves all rows as they are. -/
theorem writeTrack_of_holdsTrack (h : st.Consistent) {t : Track} (ht : st.HoldsTrack n t) :
    (writeTrack n st t).fault? = none ∧ t = (writeTrack n st t).value ∧
      SameRows st (writeTrack n st t).store := by
  obtain ⟨k, hid, hr, hg⟩ := ht
  have hk : st.HasTrack k := ⟨_, hr, rfl⟩
  have hvalue : t.numbered k = t := by rw [Track.numbered, ← hid]
  rw [writeTrack_of_update hid hk (updateTrack_of_mem h hr), hvalue]
  exact ⟨rfl, rfl, sameRows_relink h hk t.genres.nodup_names hg⟩

theorem writeExtra_of_holdsExtra (h : st.Consistent) {e : Extra} (he : st.HoldsExtra n e) :
    (writeExtra n st e).fault? = none ∧ e = (writeExtra n st e).value ∧
      SameRows st (writeExtra n st e).store := by
  obtain ⟨k, hid, hr⟩ := he
  have hvalue : e.numbered k = e := by rw [Extra.numbered, ← hid]
  rw [writeExtra_of_update hid (updateExtra_of_mem h hr), hvalue]
  exact ⟨rfl, rfl, sameRows_refl st⟩

end Store

/-- If each run succeeds on what the store holds and leaves the rows, so do the runs on a list. -/
theorem Progress.each_of_sameRows {α : Type} (f : Store → α → Progress α) (Inv : Store → Prop)
    (Held : Store → α → Prop) (Became : α → α → Prop) {as : List α} {st : Store} (h : Inv st)
    (has : ∀ a ∈ as, Held st a)
    (hf : ∀ st a, Inv st → Held st a → (f st a).fault? = none ∧ Became a (f st a).value ∧
      Store.SameRows st (f st a).store)
    (hinv : ∀ st a, Inv st → Inv (f st a).store)
    (hheld : ∀ st st' a, Store.SameRows st st' → Held st a → Held st' a) :
    (each f st as).fault? = none ∧ List.Forall₂ Became as (each f st as).value ∧
      Store.SameRows st (each f st as).store ∧ Inv (each f st as).store :=
  each_of_kept f Inv Held Became Store.SameRows Store.sameRows_refl Store.SameRows.trans h has hf hinv
    hheld

namespace Store

variable {st st' : Store} {n : Int}

/-! ## Albums -/

/-- A store holds an album as it is in memory, under the number `n` and with no other members. -/
structure HoldsAlbum (st : Store) (n : Int) (i : AlbumInfo) (a : Album) : Prop where
  id : i.id? = some n
  row : i.row n ∈ st.albums
  tracks : ∀ t ∈ a.tracks, st.HoldsTrack n t
  extras : ∀ e ∈ a.extras, st.HoldsExtra n e
  allTracks : ∀ r ∈ st.tracks, r.albumId = n → r.id ∈ a.tracks.filterMap (·.id?)
  allExtras : ∀ r ∈ st.extras, r.albumId = n → r.id ∈ a.extras.filterMap (·.id?)

/-- If all stored members of an album are listed, none is dropped. -/
theorem deleteDropped_eq {a : Album}
    (htracks : ∀ r ∈ st.tracks, r.albumId = n → r.id ∈ a.tracks.filterMap (·.id?))
    (hextras : ∀ r ∈ st.extras, r.albumId = n → r.id ∈ a.extras.filterMap (·.id?)) :
    st.deleteDropped n a = st := by
  have hgone : st.tracks.filter
      (fun r => r.albumId = n && !(a.tracks.filterMap (·.id?)).contains r.id) = [] :=
    List.filter_eq_nil_iff.2 fun r hr => by simpa using htracks r hr
  have htracks' : st.tracks.filter
      (fun r => !(r.albumId = n && !(a.tracks.filterMap (·.id?)).contains r.id)) = st.tracks :=
    List.filter_eq_self.2 fun r hr => by simpa [← imp_iff_not_or] using htracks r hr
  have hextras' : st.extras.filter
      (fun r => !(r.albumId = n && !(a.extras.filterMap (·.id?)).contains r.id)) = st.extras :=
    List.filter_eq_self.2 fun r hr => by simpa [← imp_iff_not_or] using hextras r hr
  simp only [deleteDropped, deleteTracks, deleteExtras, hgone, htracks', hextras']
  simp

/-- Writing the members of an album that is stored as it is leaves all rows as they are. -/
theorem writeMembers_of_holdsAlbum (h : st.Consistent) {i : AlbumInfo} {a : Album}
    (ha : st.HoldsAlbum n i a) :
    (st.writeMembers n a).fault? = none ∧ (st.writeMembers n a).value = a ∧
      SameRows st (st.writeMembers n a).store := by
  obtain ⟨hok₁, hvalue₁, hsame₁, hst₁⟩ := each_of_sameRows (writeTrack n)
    (fun st => st.Consistent ∧ st.HasAlbum n) (HoldsTrack · n ·) (· = ·) ⟨h, _, ha.row, rfl⟩ ha.tracks
    (fun st t hst ht => writeTrack_of_holdsTrack hst.1 ht)
    (fun st t hst => Consistent.writeTrack_hasAlbum hst t) fun st st' t hsame ht => ht.of_sameRows hsame
  obtain ⟨hok₂, hvalue₂, hsame₂, -⟩ := each_of_sameRows (writeExtra n)
    (fun st => st.Consistent ∧ st.HasAlbum n) (HoldsExtra · n ·) (· = ·) hst₁
    (fun e he => (ha.extras e he).of_sameRows hsame₁)
    (fun st e hst he => writeExtra_of_holdsExtra hst.1 he)
    (fun st e hst => Consistent.writeExtra_hasAlbum hst e) fun st st' e hsame he => he.of_sameRows hsame
  have hdrop := deleteDropped_eq ha.allTracks ha.allExtras
  have hm := writeMembers_eq (hdrop.symm ▸ hok₁)
  rw [hdrop] at hm
  rw [hm]
  refine ⟨hok₂, ?_, hsame₁.trans hsame₂⟩
  show { a with tracks := (each (writeTrack n) st a.tracks).value, extras := _ } = a
  rw [List.forall₂_eq_eq_eq] at hvalue₁ hvalue₂
  rw [← hvalue₁, ← hvalue₂]

/-- Saving an album that is stored as it is succeeds and leaves the value and all rows as they
are. -/
theorem saveAlbum_of_holdsAlbum (h : st.Consistent) {s : Shelf} {a : Album}
    (ha : st.HoldsAlbum n (a.info s) a) :
    (st.saveAlbum s a).fault? = none ∧
      (st.saveAlbum s a).value = (a, s.modify a.handle ({ · with id? := some n })) ∧
      SameRows st (st.saveAlbum s a).store := by
  obtain ⟨hok, hvalue, hsame⟩ := writeMembers_of_holdsAlbum h ha
  rw [saveAlbum_of_writeAlbum (writeAlbum_of_row h ha.id ha.row)]
  exact ⟨hok, congrArg (·, _) hvalue, hsame⟩

end Store

end MusicLibrary

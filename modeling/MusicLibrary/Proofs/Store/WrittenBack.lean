import MusicLibrary.Proofs.Store.LoadedRows

/-!
# Saving what has been loaded

A value that has been loaded is what the store holds, and its album on the shelf has the fields of a stored
row. So saving it back writes each row over itself (`saveLoaded_sameRows`).
-/

namespace MusicLibrary.Store

variable {st : Store} {s : Shelf} {n : Int} {place : Handle}

/-! ## Loaded values are held -/

/-- A track that is loaded from a row is held by the album of the row. -/
theorem holdsTrack_track {r : TrackRow} (hr : r ∈ st.tracks) (place : Handle) :
    st.HoldsTrack r.albumId (r.track place (st.genresOf r.id)) := by
  refine ⟨r.id, rfl, ?_, ?_⟩
  · rw [TrackRow.row_track]
    exact hr
  · intro g
    exact GenreSet.mem_ofList.symm

/-- An extra that is loaded from a row is held by the album of the row. -/
theorem holdsExtra_extra (h : st.Consistent) {r : ExtraRow} (hr : r ∈ st.extras) (place : Handle) :
    st.HoldsExtra r.albumId (r.extra place) := by
  refine ⟨r.id, rfl, ?_⟩
  rw [ExtraRow.row_extra (h.named r hr)]
  exact hr

/-- The fields that a handle leads to are written over the row that they are from. -/
theorem PlacedAt.writeAlbum (h : st.Consistent) (hplaced : st.PlacedAt s n place) :
    (s.read place).id? = some n ∧ st.writeAlbum (s.read place) = .ok (n, st) := by
  obtain ⟨q, hq, rfl, hread⟩ := hplaced
  have hid : (s.read place).id? = some q.id := by
    rw [hread]
    rfl
  refine ⟨hid, writeAlbum_of_row h hid ?_⟩
  rw [hread, AlbumRow.row_info (h.dated q hq)]
  exact hq

/-! ## Saving one value -/

/-- Saving a track that is held, of an album that has not been changed, leaves all rows as they are. -/
theorem saveTrack_of_holdsTrack (h : st.Consistent) {t : Track} (hplaced : st.PlacedAt s n t.album)
    (ht : st.HoldsTrack n t) :
    (st.saveTrack s t).fault? = none ∧ SameRows st (st.saveTrack s t).store := by
  obtain ⟨hid, hw⟩ := hplaced.writeAlbum h
  obtain ⟨hok, -, hsame⟩ := writeTrack_of_holdsTrack h ht
  rw [saveTrack_of_writeAlbum hid hw]
  exact ⟨hok, hsame⟩

/-- Saving an extra that is held, of an album that has not been changed, leaves all rows as they are. -/
theorem saveExtra_of_holdsExtra (h : st.Consistent) {e : Extra} (hplaced : st.PlacedAt s n e.album)
    (he : st.HoldsExtra n e) :
    (st.saveExtra s e).fault? = none ∧ SameRows st (st.saveExtra s e).store := by
  obtain ⟨hid, hw⟩ := hplaced.writeAlbum h
  obtain ⟨hok, -, hsame⟩ := writeExtra_of_holdsExtra h he
  rw [saveExtra_of_writeAlbum hid hw]
  exact ⟨hok, hsame⟩

/-! ## Loading one row and saving it back -/

theorem exists_eq_singleton {α β : Type} {R : α → β → Prop} {a : α} {bs : List β}
    (h : List.Forall₂ R [a] bs) : ∃ b, bs = [b] ∧ R a b := by
  cases h with
  | cons hab hnil =>
    cases hnil
    exact ⟨_, rfl, hab⟩

/-- Every stored album, track and extra is loaded by its number, and saving what has been loaded succeeds
and leaves the rows of all tables as they are. -/
theorem saveLoaded_sameRows (h : st.Reachable) (s : Shelf) :
    (∀ r ∈ st.albums, ∃ a s', st.loadAlbums [r.id] s = ([a], s') ∧ (a.info s').id? = some r.id ∧
      (st.saveAlbum s' a).fault? = none ∧ SameRows st (st.saveAlbum s' a).store) ∧
    (∀ r ∈ st.tracks, ∃ t s', st.loadTracks [r.id] s = ([t], s') ∧ t.id? = some r.id ∧
      (st.saveTrack s' t).fault? = none ∧ SameRows st (st.saveTrack s' t).store) ∧
    ∀ r ∈ st.extras, ∃ e s', st.loadExtras [r.id] s = ([e], s') ∧ e.id? = some r.id ∧
      (st.saveExtra s' e).fault? = none ∧ SameRows st (st.saveExtra s' e).store := by
  have hcon := h.consistent
  refine ⟨?_, ?_, ?_⟩
  · intro r hr
    have hrows : ∀ q ∈ [r], q ∈ st.albums := by simpa using hr
    obtain ⟨a, hload, k, hread, rfl⟩ :=
      exists_eq_singleton (loadAlbums_rows hcon hrows (List.nodup_singleton _) s)
    have hheld := holdsAlbum_albumAt hcon hr k
    rw [← hread] at hheld
    obtain ⟨hok, -, hsame⟩ := saveAlbum_of_holdsAlbum hcon (a := st.albumAt r.id k) hheld
    exact ⟨_, _, Prod.ext hload rfl, hheld.id, hok, hsame⟩
  · intro r hr
    have hrows : ∀ q ∈ [r], q ∈ st.tracks := by simpa using hr
    obtain ⟨t, hload, k, hplaced, rfl⟩ :=
      exists_eq_singleton (loadTracks_rows hcon hrows (List.nodup_singleton _) s)
    exact ⟨_, _, Prod.ext hload rfl, rfl, saveTrack_of_holdsTrack hcon hplaced (holdsTrack_track hr k)⟩
  · intro r hr
    have hrows : ∀ q ∈ [r], q ∈ st.extras := by simpa using hr
    obtain ⟨e, hload, k, hplaced, rfl⟩ :=
      exists_eq_singleton (loadExtras_rows hcon hrows (List.nodup_singleton _) s)
    exact ⟨_, _, Prod.ext hload rfl, rfl,
      saveExtra_of_holdsExtra hcon hplaced (holdsExtra_extra hcon hr k)⟩

/-- An album whose track has two genres. -/
def jazzNight : Album :=
  { night with tracks := night.tracks.map ({ · with genres := .ofList ["jazz", "ballad"] }) }

theorem saveLoaded_jazzNight :
    let st := (Session.after [.saveAlbum nightAndDay jazzNight]).working
    (∃ a s', st.loadAlbums [1] .empty = ([a], s') ∧ (a.info s').id? = some 1 ∧
      (st.saveAlbum s' a).fault? = none ∧ SameRows st (st.saveAlbum s' a).store) ∧
    (∃ t s', st.loadTracks [1] .empty = ([t], s') ∧ t.id? = some 1 ∧
      (st.saveTrack s' t).fault? = none ∧ SameRows st (st.saveTrack s' t).store) ∧
    ∃ e s', st.loadExtras [1] .empty = ([e], s') ∧ e.id? = some 1 ∧
      (st.saveExtra s' e).fault? = none ∧ SameRows st (st.saveExtra s' e).store := by
  intro st
  have hst : st.Reachable := ⟨_, rfl⟩
  obtain ⟨halbums, htracks, hextras⟩ := saveLoaded_sameRows hst .empty
  refine ⟨?_, ?_, ?_⟩
  · exact halbums ((nightAndDay.read ⟨0⟩).row 1) (by decide +kernel)
  · exact htracks ((Track.create nightAndDay ⟨0⟩ 1 "One" (.ofText "/night/1.flac")).row 1 1)
      (by decide +kernel)
  · exact hextras ((Extra.create ⟨0⟩ (.ofText "/night/cover.jpg")).row 1 1) (by decide +kernel)

end MusicLibrary.Store

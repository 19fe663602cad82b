import MusicLibrary.Proofs.Store.Consistent
import MusicLibrary.Store.Import

/-!
# What keeps a store consistent

Every statement keeps a store consistent, and so does every operation, wherever it stops: the
lemmas on `Progress` are about the store that is left, with or without a fault.
-/

namespace MusicLibrary.Store

variable {st st' : Store} {id : Int}

namespace Consistent

/-! ## Writing a row -/

theorem insertAlbum (h : st.Consistent) {r : AlbumRow} (hr : r.Dated)
    (he : st.insertAlbum r = .ok (id, st')) : st'.Consistent := by
  obtain ⟨rfl, hfree, rfl⟩ := insertAlbum_eq_ok he
  have hmono : ∀ k, st.HasAlbum k → ∃ q ∈ st.albums ++ [{ r with id := st.lastAlbum + 1 }], q.id = k :=
    fun k ⟨q, hq, hk⟩ => ⟨q, List.mem_append_left _ hq, hk⟩
  exact { h with
    albums := h.albums.append rfl hfree
    trackOwner := fun q hq => hmono _ (h.trackOwner q hq)
    extraOwner := fun q hq => hmono _ (h.extraOwner q hq)
    linkedTrack := h.linkedTrack
    dated := fun q hq => by
      rcases List.mem_append.1 hq with hq | hq
      · exact h.dated q hq
      · rw [List.mem_singleton.1 hq]
        exact hr }

theorem updateAlbum (h : st.Consistent) {r : AlbumRow} {found : Bool} (hr : r.Dated)
    (he : st.updateAlbum r = .ok (found, st')) : st'.Consistent := by
  by_cases hid : st.HasAlbum r.id
  · obtain ⟨-, hfree, rfl⟩ := updateAlbum_eq_ok hid he
    have hw := written_replaceRow hid
    exact { h with
      albums := h.albums.replaceRow hfree
      trackOwner := fun q hq => hw.exists_num (h.trackOwner q hq)
      extraOwner := fun q hq => hw.exists_num (h.extraOwner q hq)
      linkedTrack := h.linkedTrack
      dated := fun q hq => by
        rcases mem_replaceRow.1 hq with ⟨hq, -⟩ | ⟨rfl, -⟩
        · exact h.dated q hq
        · exact hr }
  · rw [updateAlbum_of_not_hasAlbum hid] at he
    cases he
    exact h

theorem insertTrack (h : st.Consistent) {r : TrackRow} (hr : st.HasAlbum r.albumId)
    (he : st.insertTrack r = .ok (id, st')) : st'.Consistent := by
  obtain ⟨rfl, hfree, rfl⟩ := insertTrack_eq_ok he
  exact { h with
    tracks := h.tracks.append rfl hfree
    trackOwner := fun q hq => by
      rcases List.mem_append.1 hq with hq | hq
      · exact h.trackOwner q hq
      · rw [List.mem_singleton.1 hq]
        exact hr
    extraOwner := h.extraOwner
    linkedTrack := fun l hl =>
      let ⟨q, hq, hk⟩ := h.linkedTrack l hl
      ⟨q, List.mem_append_left _ hq, hk⟩ }

theorem updateTrack (h : st.Consistent) {r : TrackRow} (hr : st.HasAlbum r.albumId)
    (he : st.updateTrack r = .ok st') : st'.Consistent := by
  by_cases hid : st.HasTrack r.id
  · obtain ⟨hfree, rfl⟩ := updateTrack_eq_ok hid he
    exact { h with
      tracks := h.tracks.replaceRow hfree
      trackOwner := fun q hq => by
        rcases mem_replaceRow.1 hq with ⟨hq, -⟩ | ⟨rfl, -⟩
        · exact h.trackOwner q hq
        · exact hr
      extraOwner := h.extraOwner
      linkedTrack := fun l hl => (written_replaceRow hid).exists_num (h.linkedTrack l hl) }
  · rw [updateTrack_of_not_hasTrack hid] at he
    cases he
    exact h

theorem insertExtra (h : st.Consistent) {r : ExtraRow} (hr : st.HasAlbum r.albumId)
    (hn : ∀ id, { r with id := id }.Named) (he : st.insertExtra r = .ok (id, st')) :
    st'.Consistent := by
  obtain ⟨rfl, hfree, rfl⟩ := insertExtra_eq_ok he
  exact { h with
    extras := h.extras.append rfl hfree
    trackOwner := h.trackOwner
    extraOwner := fun q hq => by
      rcases List.mem_append.1 hq with hq | hq
      · exact h.extraOwner q hq
      · rw [List.mem_singleton.1 hq]
        exact hr
    linkedTrack := h.linkedTrack
    named := fun q hq => by
      rcases List.mem_append.1 hq with hq | hq
      · exact h.named q hq
      · rw [List.mem_singleton.1 hq]
        exact hn _ }

theorem updateExtra (h : st.Consistent) {r : ExtraRow} (hr : st.HasAlbum r.albumId) (hn : r.Named)
    (he : st.updateExtra r = .ok st') : st'.Consistent := by
  by_cases hid : st.HasExtra r.id
  · obtain ⟨hfree, rfl⟩ := updateExtra_eq_ok hid he
    exact { h with
      extras := h.extras.replaceRow hfree
      trackOwner := h.trackOwner
      extraOwner := fun q hq => by
        rcases mem_replaceRow.1 hq with ⟨hq, -⟩ | ⟨rfl, -⟩
        · exact h.extraOwner q hq
        · exact hr
      linkedTrack := h.linkedTrack
      named := fun q hq => by
        rcases mem_replaceRow.1 hq with ⟨hq, -⟩ | ⟨rfl, -⟩
        · exact h.named q hq
        · exact hn }
  · rw [updateExtra_of_not_hasExtra hid] at he
    cases he
    exact h

/-! ## Genres -/

theorem addGenre (h : st.Consistent) (g : String) : (st.addGenre g).Consistent := by
  rw [addGenre_eq]
  exact { h with
    trackOwner := h.trackOwner
    extraOwner := h.extraOwner
    linkedTrack := h.linkedTrack
    linkedGenre := fun l hl => mem_addName.2 (.inl (h.linkedGenre l hl)) }

theorem unlinkGenres (h : st.Consistent) (id : Int) : (st.unlinkGenres id).Consistent :=
  { h with
    trackOwner := h.trackOwner
    extraOwner := h.extraOwner
    linkedTrack := fun l hl => h.linkedTrack l (List.mem_of_mem_filter hl)
    linkedGenre := fun l hl => h.linkedGenre l (List.mem_of_mem_filter hl)
    links := h.links.filter _ }

theorem relink (h : st.Consistent) (hid : st.HasTrack id) {names : List String}
    (hn : names.Nodup) : (st.relink id names).Consistent where
  albums := h.albums
  tracks := h.tracks
  extras := h.extras
  trackOwner := h.trackOwner
  extraOwner := h.extraOwner
  linkedTrack l hl := by
    rcases List.mem_append.1 hl with hl | hl
    · exact h.linkedTrack l (List.mem_of_mem_filter hl)
    · obtain ⟨g, -, rfl⟩ := List.mem_map.1 hl
      exact hid
  linkedGenre l hl := by
    rcases List.mem_append.1 hl with hl | hl
    · exact mem_foldl_addName.2 (.inl (h.linkedGenre l (List.mem_of_mem_filter hl)))
    · obtain ⟨g, hg, rfl⟩ := List.mem_map.1 hl
      exact mem_foldl_addName.2 (.inr hg)
  links := by
    refine List.nodup_append.2 ⟨h.links.filter _, hn.map fun g g' he => ?_, ?_⟩
    · simpa using he
    · rintro l hl l' hl' rfl
      obtain ⟨g, -, rfl⟩ := List.mem_map.1 hl'
      simp at hl
  dated := h.dated
  named := h.named

/-- Writing the genres of a track keeps a store consistent, also if the track is not stored. -/
theorem writeGenres (h : st.Consistent) (t : Track) (id : Int) :
    (st.writeGenres t id).store.Consistent := by
  by_cases hid : st.HasTrack id
  · rw [writeGenres_of_hasTrack hid]
    exact h.relink hid t.genres.nodup_names
  · rcases writeGenres_of_not_hasTrack hid t with heq | ⟨g, heq⟩
    · rw [heq]
      exact h.unlinkGenres id
    · rw [heq]
      exact (h.unlinkGenres id).addGenre g

/-! ## Deleting rows -/

theorem deleteTracks (h : st.Consistent) (gone : TrackRow → Bool) :
    (st.deleteTracks gone).Consistent where
  albums := h.albums
  tracks := h.tracks.filter _
  extras := h.extras
  trackOwner r hr := h.trackOwner r (List.mem_of_mem_filter hr)
  extraOwner := h.extraOwner
  linkedTrack l hl := by
    obtain ⟨hl, hgone⟩ := List.mem_filter.1 hl
    obtain ⟨r, hr, hk⟩ := h.linkedTrack l hl
    refine ⟨r, List.mem_filter.2 ⟨hr, ?_⟩, hk⟩
    rw [Bool.not_eq_true', List.contains_eq_mem, decide_eq_false_iff_not] at hgone
    rw [Bool.not_eq_true', ← Bool.not_eq_true]
    exact fun hg => hgone (hk ▸ List.mem_map_of_mem (List.mem_filter.2 ⟨hr, hg⟩))
  linkedGenre l hl := h.linkedGenre l (List.mem_of_mem_filter hl)
  links := h.links.filter _
  dated := h.dated
  named := h.named

theorem deleteExtras (h : st.Consistent) (gone : ExtraRow → Bool) :
    (st.deleteExtras gone).Consistent :=
  { h with
    extras := h.extras.filter _
    trackOwner := h.trackOwner
    extraOwner := fun r hr => h.extraOwner r (List.mem_of_mem_filter hr)
    linkedTrack := h.linkedTrack
    named := fun r hr => h.named r (List.mem_of_mem_filter hr) }

theorem deleteDropped (h : st.Consistent) (n : Int) (a : Album) :
    (st.deleteDropped n a).Consistent :=
  (h.deleteTracks _).deleteExtras _

theorem deleteAlbum (h : st.Consistent) (id : Int) : (st.deleteAlbum id).Consistent := by
  have hd := (h.deleteTracks (·.albumId = id)).deleteExtras (·.albumId = id)
  have hkeep : ∀ k, st.HasAlbum k → k ≠ id → ∃ q ∈ st.albums.filter (·.id ≠ id), q.id = k :=
    fun k ⟨q, hq, hk⟩ hne => ⟨q, List.mem_filter.2 ⟨hq, by simpa [hk] using hne⟩, hk⟩
  exact { hd with
    albums := h.albums.filter _
    trackOwner := fun r hr => by
      obtain ⟨hr, hne⟩ := List.mem_filter.1 hr
      exact hkeep _ (h.trackOwner r hr) (by simpa using hne)
    extraOwner := fun r hr => by
      obtain ⟨hr, hne⟩ := List.mem_filter.1 hr
      exact hkeep _ (h.extraOwner r hr) (by simpa using hne)
    linkedTrack := hd.linkedTrack
    dated := fun r hr => h.dated r (List.mem_of_mem_filter hr) }

/-! ## Saving -/

/-- Writing an album keeps a store consistent, and the album is there. -/
theorem writeAlbum (h : st.Consistent) {i : AlbumInfo} (he : st.writeAlbum i = .ok (id, st')) :
    st'.Consistent ∧ st'.HasAlbum id := by
  rcases writeAlbum_eq_ok he with ⟨-, hid, hu⟩ | ⟨-, hins⟩
  · refine ⟨h.updateAlbum (i.dated_row id) hu, ?_⟩
    obtain ⟨-, -, rfl⟩ := updateAlbum_eq_ok (r := i.row id) hid hu
    have hrow : ∃ q ∈ st.albums, q.id = (i.row id).id := hid
    exact (written_replaceRow hrow).exists_num hid
  · refine ⟨h.insertAlbum (i.dated_row 0) hins, ?_⟩
    obtain ⟨rfl, -, rfl⟩ := insertAlbum_eq_ok hins
    exact ⟨_, List.mem_append_right _ (List.mem_singleton_self _), rfl⟩

theorem writeTrack (h : st.Consistent) {n : Int} (hn : st.HasAlbum n) (t : Track) :
    (Store.writeTrack n st t).store.Consistent := by
  rw [Store.writeTrack]
  split
  · split
    · exact h
    · rename_i he
      exact (h.updateTrack (r := t.row _ n) hn he).writeGenres t _
  · split
    · exact h
    · rename_i he
      exact (h.insertTrack (r := t.row 0 n) hn he).writeGenres t _

theorem writeExtra (h : st.Consistent) {n : Int} (hn : st.HasAlbum n) (e : Extra) :
    (Store.writeExtra n st e).store.Consistent := by
  rw [Store.writeExtra]
  split
  · split
    · exact h
    · rename_i he
      exact h.updateExtra (r := e.row _ n) hn (e.named_row _ n) he
  · split
    · exact h
    · rename_i he
      exact h.insertExtra (r := e.row 0 n) hn (fun id => e.named_row id n) he

end Consistent

/-- Writing the genres of a track writes no row of an album or a track. -/
theorem writeGenres_rows (t : Track) (id : Int) :
    (st.writeGenres t id).store.albums = st.albums ∧
      (st.writeGenres t id).store.tracks = st.tracks := by
  by_cases hid : st.HasTrack id
  · rw [writeGenres_of_hasTrack hid]
    exact ⟨rfl, rfl⟩
  · rcases writeGenres_of_not_hasTrack hid t with heq | ⟨g, heq⟩
    · rw [heq]
      exact ⟨rfl, rfl⟩
    · rw [heq, addGenre_eq]
      exact ⟨rfl, rfl⟩

theorem writeTrack_albums (n : Int) (t : Track) : (writeTrack n st t).store.albums = st.albums := by
  rw [writeTrack]
  split
  · split
    · rfl
    · rename_i he
      rw [(writeGenres_rows t _).1]
      simp only [updateTrack] at he
      grind
  · split
    · rfl
    · rename_i he
      obtain ⟨-, -, rfl⟩ := insertTrack_eq_ok he
      exact (writeGenres_rows t _).1

theorem writeExtra_albums (n : Int) (e : Extra) : (writeExtra n st e).store.albums = st.albums := by
  rw [writeExtra]
  split
  · split
    · rfl
    · rename_i he
      simp only [updateExtra] at he
      grind
  · split
    · rfl
    · rename_i he
      obtain ⟨-, -, rfl⟩ := insertExtra_eq_ok he
      rfl

end MusicLibrary.Store

namespace MusicLibrary.Progress

/-- What every single run keeps is kept by the runs on all members of a list, wherever they stop. -/
theorem each_store {α : Type} {P : Store → Prop} {f : Store → α → Progress α}
    (hf : ∀ st a, P st → P (f st a).store) (as : List α) {st : Store} (h : P st) :
    P (each f st as).store := by
  induction as generalizing st with
  | nil => exact h
  | cons a as ih =>
    simp only [each]
    split
    · exact hf st a h
    · exact ih (hf st a h)

end MusicLibrary.Progress

namespace MusicLibrary.Store

variable {st : Store}

namespace Consistent

/-- Writing a member of an album leaves the album there. -/
theorem writeTrack_hasAlbum {n : Int} (h : st.Consistent ∧ st.HasAlbum n) (t : Track) :
    (Store.writeTrack n st t).store.Consistent ∧ (Store.writeTrack n st t).store.HasAlbum n := by
  refine ⟨h.1.writeTrack h.2 t, ?_⟩
  rw [HasAlbum, writeTrack_albums]
  exact h.2

theorem writeExtra_hasAlbum {n : Int} (h : st.Consistent ∧ st.HasAlbum n) (e : Extra) :
    (Store.writeExtra n st e).store.Consistent ∧ (Store.writeExtra n st e).store.HasAlbum n := by
  refine ⟨h.1.writeExtra h.2 e, ?_⟩
  rw [HasAlbum, writeExtra_albums]
  exact h.2

theorem writeMembers (h : st.Consistent) {n : Int} (hn : st.HasAlbum n) (a : Album) :
    (st.writeMembers n a).store.Consistent := by
  have htracks := Progress.each_store (f := Store.writeTrack n)
    (P := fun st => st.Consistent ∧ st.HasAlbum n) (fun st t hst => writeTrack_hasAlbum hst t)
    a.tracks (⟨h.deleteDropped n a, hn⟩ :
      (st.deleteDropped n a).Consistent ∧ (st.deleteDropped n a).HasAlbum n)
  rw [Store.writeMembers]
  split
  · exact htracks.1
  · exact (Progress.each_store (f := Store.writeExtra n)
      (P := fun st => st.Consistent ∧ st.HasAlbum n) (fun st e hst => writeExtra_hasAlbum hst e)
      a.extras htracks).1

theorem saveAlbum (h : st.Consistent) (s : Shelf) (a : Album) :
    (st.saveAlbum s a).store.Consistent := by
  rw [Store.saveAlbum]
  split
  · exact h
  · rename_i he
    obtain ⟨hst, hn⟩ := h.writeAlbum he
    exact hst.writeMembers hn a

theorem saveTrack (h : st.Consistent) (s : Shelf) (t : Track) :
    (st.saveTrack s t).store.Consistent := by
  simp only [Store.saveTrack]
  split
  · exact h
  · split
    · exact h
    · rename_i he
      obtain ⟨hst, hn⟩ := h.writeAlbum he
      exact hst.writeTrack hn t

theorem saveExtra (h : st.Consistent) (s : Shelf) (e : Extra) :
    (st.saveExtra s e).store.Consistent := by
  simp only [Store.saveExtra]
  split
  · exact h
  · split
    · exact h
    · rename_i he
      obtain ⟨hst, hn⟩ := h.writeAlbum he
      exact hst.writeExtra hn e

theorem addAlbum (h : st.Consistent) (settings : ImportSettings) (s : Shelf) (a : Album) :
    (st.addAlbum settings s a).store.Consistent := by
  rw [Store.addAlbum]
  split
  · exact h.saveAlbum _ _
  · exact h.saveAlbum _ _

/-! ## Removing -/

theorem removeAlbum (h : st.Consistent) (s : Shelf) (a : Album) : (st.removeAlbum s a).Consistent := by
  rw [Store.removeAlbum]
  split
  · exact h.deleteAlbum _
  · exact h

theorem removeTrack (h : st.Consistent) (t : Track) : (st.removeTrack t).Consistent := by
  rw [Store.removeTrack]
  split
  · exact h.deleteTracks _
  · exact h

theorem removeExtra (h : st.Consistent) (e : Extra) : (st.removeExtra e).Consistent := by
  rw [Store.removeExtra]
  split
  · exact h.deleteExtras _
  · exact h

end Consistent

end MusicLibrary.Store

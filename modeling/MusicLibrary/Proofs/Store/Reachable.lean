import MusicLibrary.Proofs.Store.Preservation
import MusicLibrary.Store.Session

/-!
# Reachable stores

A session is asked to save, remove and add values, to commit and to roll back, one request after
the other; a request that fails leaves what it has done so far. A store is `Reachable` if a session
on an empty library can come to work in it. Every reachable store is consistent
(`Reachable.consistent`).
-/

namespace MusicLibrary

/-- What a session may be asked to do, with values on a shelf. -/
inductive Request where
  | saveAlbum (s : Shelf) (a : Album)
  | saveTrack (s : Shelf) (t : Track)
  | saveExtra (s : Shelf) (e : Extra)
  | removeAlbum (s : Shelf) (a : Album)
  | removeTrack (t : Track)
  | removeExtra (e : Extra)
  | addAlbum (settings : ImportSettings) (s : Shelf) (a : Album)
  | commit
  | rollback

namespace Session

/-- The session after a request, whether it was carried out or failed midway. -/
def perform (s : Session) : Request → Session
  | .saveAlbum shelf a => { s with working := (s.working.saveAlbum shelf a).store }
  | .saveTrack shelf t => { s with working := (s.working.saveTrack shelf t).store }
  | .saveExtra shelf e => { s with working := (s.working.saveExtra shelf e).store }
  | .removeAlbum shelf a => { s with working := s.working.removeAlbum shelf a }
  | .removeTrack t => { s with working := s.working.removeTrack t }
  | .removeExtra e => { s with working := s.working.removeExtra e }
  | .addAlbum settings shelf a => { s with working := (s.working.addAlbum settings shelf a).store }
  | .commit => s.commit
  | .rollback => s.rollback

/-- The session on an empty library after a list of requests. -/
def after (requests : List Request) : Session := requests.foldl perform (.start .empty)

/-- Both stores of a session are consistent. -/
def Consistent (s : Session) : Prop := s.committed.Consistent ∧ s.working.Consistent

theorem consistent_start : (start .empty).Consistent :=
  ⟨Store.consistent_empty, Store.consistent_empty⟩

theorem Consistent.perform {s : Session} (h : s.Consistent) (r : Request) :
    (s.perform r).Consistent := by
  obtain ⟨hc, hw⟩ := h
  cases r with
  | saveAlbum shelf a => exact ⟨hc, hw.saveAlbum shelf a⟩
  | saveTrack shelf t => exact ⟨hc, hw.saveTrack shelf t⟩
  | saveExtra shelf e => exact ⟨hc, hw.saveExtra shelf e⟩
  | removeAlbum shelf a => exact ⟨hc, hw.removeAlbum shelf a⟩
  | removeTrack t => exact ⟨hc, hw.removeTrack t⟩
  | removeExtra e => exact ⟨hc, hw.removeExtra e⟩
  | addAlbum settings shelf a => exact ⟨hc, hw.addAlbum settings shelf a⟩
  | commit => exact ⟨hw, hw⟩
  | rollback => exact ⟨hc, hc⟩

theorem consistent_after (requests : List Request) : (after requests).Consistent := by
  have hrun : ∀ s : Session, s.Consistent → (requests.foldl Session.perform s).Consistent := by
    induction requests with
    | nil => exact fun _ h => h
    | cons r requests ih => exact fun s h => ih _ (h.perform r)
  exact hrun _ consistent_start

end Session

namespace Store

/-- Whether a session on an empty library can come to work in a store. -/
def Reachable (st : Store) : Prop := ∃ requests, (Session.after requests).working = st

theorem Reachable.consistent {st : Store} (h : st.Reachable) : st.Consistent := by
  obtain ⟨requests, rfl⟩ := h
  exact (Session.consistent_after requests).2

/-- Whatever a session is asked to do, its store has no two rows of a table with a common key, no
row that refers to a row that is not there, no date but in its one form, and no extra whose name is
not that of the file at its path. -/
theorem keys_and_references_after (requests : List Request) :
    let st := (Session.after requests).working
    ((st.albums.map (·.path)).Nodup ∧ (st.albums.map fun r => (r.artist, r.title, r.year)).Nodup) ∧
    ((st.tracks.map (·.path)).Nodup ∧
      (st.tracks.map fun r => (r.albumId, r.trackNum, r.disc)).Nodup) ∧
    ((st.extras.map (·.path)).Nodup ∧ (st.extras.map fun r => (r.albumId, r.filename)).Nodup) ∧
    (∀ r ∈ st.tracks, ∃ a ∈ st.albums, a.id = r.albumId) ∧
    (∀ r ∈ st.extras, ∃ a ∈ st.albums, a.id = r.albumId) ∧
    (∀ l ∈ st.trackGenres, (∃ r ∈ st.tracks, r.id = l.trackId) ∧ l.genre ∈ st.genres) ∧
    (∀ r ∈ st.albums, ∀ text, r.date? = some text ∨ r.originalDate? = some text →
      ∃ d : Date, text = d.format) ∧
    ∀ r ∈ st.extras, ∀ h, r.filename = (Extra.create h (.ofText r.path)).filename := by
  intro st
  have h : st.Consistent := (Session.consistent_after requests).2
  refine ⟨⟨h.albums.paths, h.albums.keys⟩, ⟨h.tracks.paths, h.tracks.keys⟩,
    ⟨h.extras.paths, h.extras.keys⟩, h.trackOwner, h.extraOwner,
    fun l hl => ⟨h.linkedTrack l hl, h.linkedGenre l hl⟩, ?_, fun r hr _ => h.named r hr⟩
  rintro r hr text (hd | hd)
  · exact (h.dated r hr).1 text hd
  · exact (h.dated r hr).2 text hd

end Store

end MusicLibrary

import MusicLibrary.Album.Basic
import MusicLibrary.Store.Basic

/-!
# Saving and removing

A value without a number is inserted and told its number; a value with one has its row replaced.
Saving takes several statements. If one of them is refused, what those before it did stays: a
`Progress` holds the store and the value as they are then, with the fault.
-/

namespace MusicLibrary

/-- What an operation of several statements has come to. -/
structure Progress (α : Type) where
  store : Store
  value : α
  fault? : Option Fault

namespace Progress

variable {α β : Type}

def map (f : α → β) (p : Progress α) : Progress β := ⟨p.store, f p.value, p.fault?⟩

/-- Runs an operation on the members of a list, one after the other, up to the first fault. -/
def each (f : Store → α → Progress α) (st : Store) : List α → Progress (List α)
  | [] => ⟨st, [], none⟩
  | a :: rest =>
    let p := f st a
    if p.fault?.isSome then ⟨p.store, p.value :: rest, p.fault?⟩
    else (each f p.store rest).map (p.value :: ·)

end Progress

/-! ## Rows of values -/

/-- The row of an album. -/
def AlbumInfo.row (i : AlbumInfo) (id : Int) : AlbumRow where
  id := id
  artist := i.artist
  title := i.title
  year := i.year
  date? := i.date?.map Date.format
  originalDate? := i.originalDate?.map Date.format
  path := i.path.text
  label? := i.label?
  mbAlbumId? := i.mbAlbumId?
  trackTotal? := i.trackTotal?
  discTotal := i.discTotal

/-- The row of a track. -/
def Track.row (t : Track) (id albumId : Int) : TrackRow where
  id := id
  albumId := albumId
  title := t.title
  artist := t.artist
  trackNum := t.trackNum
  disc := t.disc
  path := t.path.text
  mbTrackId? := t.mbTrackId?

/-- The row of an extra. -/
def Extra.row (e : Extra) (id albumId : Int) : ExtraRow where
  id := id
  albumId := albumId
  path := e.path.text
  filename := e.filename

namespace Store

/-! ## Writing rows -/

/-- Writes the row of an album and returns its number. An album whose row is gone is inserted. -/
def writeAlbum (st : Store) (i : AlbumInfo) : Except UniqueKey (Int × Store) :=
  match i.id? with
  | none => st.insertAlbum (i.row 0)
  | some id =>
    match st.updateAlbum (i.row id) with
    | .error k => .error k
    | .ok (true, st) => .ok (id, st)
    | .ok (false, st) => st.insertAlbum (i.row 0)

/-- Links a track to genres, one after the other. -/
def linkGenres (st : Store) (trackId : Int) : List String → Store × Option Fault
  | [] => (st, none)
  | g :: rest =>
    match (st.addGenre g).linkGenre trackId g with
    | .error f => (st.addGenre g, some (.database f))
    | .ok st => st.linkGenres trackId rest

/-- Replaces the genres of a track that has a number. -/
def writeGenres (st : Store) (t : Track) (id : Int) : Progress Track :=
  let (st, fault?) := (st.unlinkGenres id).linkGenres id t.genres.names
  ⟨st, { t with id? := some id }, fault?⟩

/-- Writes a track of an album. -/
def writeTrack (albumId : Int) (st : Store) (t : Track) : Progress Track :=
  match t.id? with
  | some id =>
    match st.updateTrack (t.row id albumId) with
    | .error k => ⟨st, t, some (.duplicate k)⟩
    | .ok st => st.writeGenres t id
  | none =>
    match st.insertTrack (t.row 0 albumId) with
    | .error k => ⟨st, t, some (.duplicate k)⟩
    | .ok (id, st) => st.writeGenres t id

/-- Writes an extra of an album. -/
def writeExtra (albumId : Int) (st : Store) (e : Extra) : Progress Extra :=
  match e.id? with
  | some id =>
    match st.updateExtra (e.row id albumId) with
    | .error k => ⟨st, e, some (.duplicate k)⟩
    | .ok st => ⟨st, e, none⟩
  | none =>
    match st.insertExtra (e.row 0 albumId) with
    | .error k => ⟨st, e, some (.duplicate k)⟩
    | .ok (id, st) => ⟨st, { e with id? := some id }, none⟩

/-- Deletes the stored members of an album that are no longer among its members. -/
def deleteDropped (st : Store) (albumId : Int) (a : Album) : Store :=
  let tracks := a.tracks.filterMap (·.id?)
  let extras := a.extras.filterMap (·.id?)
  (st.deleteTracks fun r => r.albumId = albumId && !tracks.contains r.id).deleteExtras
    fun r => r.albumId = albumId && !extras.contains r.id

/-! ## Saving -/

/-- Writes the members of an album whose row has been written. -/
def writeMembers (st : Store) (albumId : Int) (a : Album) : Progress Album :=
  let p := Progress.each (writeTrack albumId) (st.deleteDropped albumId a) a.tracks
  let a := { a with tracks := p.value }
  if p.fault?.isSome then ⟨p.store, a, p.fault?⟩
  else (Progress.each (writeExtra albumId) p.store a.extras).map ({ a with extras := · })

/-- Saves an album with its members. Members that are stored but no longer listed are deleted
before any is written, so that their places are free. -/
def saveAlbum (st : Store) (s : Shelf) (a : Album) : Progress (Album × Shelf) :=
  match st.writeAlbum (a.info s) with
  | .error k => ⟨st, (a, s), some (.duplicate k)⟩
  | .ok (id, st) =>
    (st.writeMembers id a).map (·, s.modify a.handle ({ · with id? := some id }))

/-- Saves a track of a saved album, and the album's fields with it. -/
def saveTrack (st : Store) (s : Shelf) (t : Track) : Progress Track :=
  let i := s.read t.album
  if i.id?.isNone then ⟨st, t, some (.unsaved t.path)⟩
  else
    match st.writeAlbum i with
    | .error k => ⟨st, t, some (.duplicate k)⟩
    | .ok (id, st) => st.writeTrack id t

/-- Saves an extra of a saved album, and the album's fields with it. -/
def saveExtra (st : Store) (s : Shelf) (e : Extra) : Progress Extra :=
  let i := s.read e.album
  if i.id?.isNone then ⟨st, e, some (.unsaved e.path)⟩
  else
    match st.writeAlbum i with
    | .error k => ⟨st, e, some (.duplicate k)⟩
    | .ok (id, st) => st.writeExtra id e

/-! ## Removing -/

/-- Removes an album with its members; without a number there is nothing to remove. -/
def removeAlbum (st : Store) (s : Shelf) (a : Album) : Store :=
  match (a.info s).id? with
  | some id => st.deleteAlbum id
  | none => st

def removeTrack (st : Store) (t : Track) : Store :=
  match t.id? with
  | some id => st.deleteTracks (·.id = id)
  | none => st

def removeExtra (st : Store) (e : Extra) : Store :=
  match e.id? with
  | some id => st.deleteExtras (·.id = id)
  | none => st

end Store

end MusicLibrary

import MusicLibrary.Fault

/-!
# The store

A store has a table for albums, tracks and extras each, the vocabulary of genres, and the links from
tracks to genres. The rows of a table stand in ascending order of their numbers. A number is given
to one row only, even after that row is gone.

Every operation here is one statement: it is refused as a whole or carried out as a whole. It keeps
keys unique and references alive; the rows that refer to a row go with it.
-/

namespace MusicLibrary

structure AlbumRow where
  id : Int
  artist : String
  title : String
  year : Int
  date? : Option String
  originalDate? : Option String
  path : String
  label? : Option String
  mbAlbumId? : Option String
  trackTotal? : Option Int
  discTotal : Int
deriving DecidableEq, Inhabited, Repr

structure TrackRow where
  id : Int
  albumId : Int
  title : String
  artist : String
  trackNum : Int
  disc : Int
  path : String
  mbTrackId? : Option String
deriving DecidableEq, Inhabited, Repr

structure ExtraRow where
  id : Int
  albumId : Int
  path : String
  filename : String
deriving DecidableEq, Inhabited, Repr

/-- A genre of a track. -/
structure GenreLink where
  trackId : Int
  genre : String
deriving DecidableEq, Inhabited, Repr

/-- The tables of a library. -/
structure Store where
  albums : List AlbumRow
  tracks : List TrackRow
  extras : List ExtraRow
  genres : List String
  trackGenres : List GenreLink
  /-- the last number given to an album -/
  lastAlbum : Int
  /-- the last number given to a track -/
  lastTrack : Int
  /-- the last number given to an extra -/
  lastExtra : Int
deriving DecidableEq, Inhabited, Repr

/-! ## Keys -/

namespace AlbumRow

/-- An album is known by its artist, its title and its year. -/
def identity (r : AlbumRow) : String × String × Int := (r.artist, r.title, r.year)

/-- The key that a row would share with another row of a table. -/
def conflict? (rows : List AlbumRow) (r : AlbumRow) : Option UniqueKey :=
  let others := rows.filter (·.id ≠ r.id)
  if others.any (·.identity = r.identity) then some .albumIdentity
  else if others.any (·.path = r.path) then some .albumPath
  else none

end AlbumRow

namespace TrackRow

/-- The place of a track: its album, its number and its disc. -/
def position (r : TrackRow) : Int × Int × Int := (r.albumId, r.trackNum, r.disc)

/-- The key that a row would share with another row of a table. -/
def conflict? (rows : List TrackRow) (r : TrackRow) : Option UniqueKey :=
  let others := rows.filter (·.id ≠ r.id)
  if others.any (·.position = r.position) then some .trackPosition
  else if others.any (·.path = r.path) then some .trackPath
  else none

end TrackRow

namespace ExtraRow

/-- The place of an extra: its album and its name. -/
def position (r : ExtraRow) : Int × String := (r.albumId, r.filename)

/-- The key that a row would share with another row of a table. -/
def conflict? (rows : List ExtraRow) (r : ExtraRow) : Option UniqueKey :=
  let others := rows.filter (·.id ≠ r.id)
  if others.any (·.position = r.position) then some .extraFilename
  else if others.any (·.path = r.path) then some .extraPath
  else none

end ExtraRow

/-! ## Statements -/

namespace Store

def empty : Store := ⟨[], [], [], [], [], 0, 0, 0⟩

/-- Inserts a row under a new number, which is returned. -/
def insertAlbum (st : Store) (r : AlbumRow) : Except UniqueKey (Int × Store) :=
  let id := st.lastAlbum + 1
  let r := { r with id := id }
  match r.conflict? st.albums with
  | some k => .error k
  | none => .ok (id, { st with albums := st.albums ++ [r], lastAlbum := id })

/-- Replaces the row of the same number; returns whether there is one. -/
def updateAlbum (st : Store) (r : AlbumRow) : Except UniqueKey (Bool × Store) :=
  if st.albums.any (·.id = r.id) then
    match r.conflict? st.albums with
    | some k => .error k
    | none => .ok (true, { st with albums := st.albums.map fun q => if q.id = r.id then r else q })
  else .ok (false, st)

/-- Inserts a row under a new number, which is returned. -/
def insertTrack (st : Store) (r : TrackRow) : Except UniqueKey (Int × Store) :=
  let id := st.lastTrack + 1
  let r := { r with id := id }
  match r.conflict? st.tracks with
  | some k => .error k
  | none => .ok (id, { st with tracks := st.tracks ++ [r], lastTrack := id })

/-- Replaces the row of the same number, if there is one. -/
def updateTrack (st : Store) (r : TrackRow) : Except UniqueKey Store :=
  if st.tracks.any (·.id = r.id) then
    match r.conflict? st.tracks with
    | some k => .error k
    | none => .ok { st with tracks := st.tracks.map fun q => if q.id = r.id then r else q }
  else .ok st

/-- Inserts a row under a new number, which is returned. -/
def insertExtra (st : Store) (r : ExtraRow) : Except UniqueKey (Int × Store) :=
  let id := st.lastExtra + 1
  let r := { r with id := id }
  match r.conflict? st.extras with
  | some k => .error k
  | none => .ok (id, { st with extras := st.extras ++ [r], lastExtra := id })

/-- Replaces the row of the same number, if there is one. -/
def updateExtra (st : Store) (r : ExtraRow) : Except UniqueKey Store :=
  if st.extras.any (·.id = r.id) then
    match r.conflict? st.extras with
    | some k => .error k
    | none => .ok { st with extras := st.extras.map fun q => if q.id = r.id then r else q }
  else .ok st

/-- Deletes tracks, and their links to genres with them. -/
def deleteTracks (st : Store) (gone : TrackRow → Bool) : Store :=
  let ids := (st.tracks.filter gone).map (·.id)
  { st with
    tracks := st.tracks.filter fun r => !gone r
    trackGenres := st.trackGenres.filter fun l => !ids.contains l.trackId }

def deleteExtras (st : Store) (gone : ExtraRow → Bool) : Store :=
  { st with extras := st.extras.filter fun r => !gone r }

/-- Deletes an album, and its members with it. -/
def deleteAlbum (st : Store) (id : Int) : Store :=
  let st := (st.deleteTracks (·.albumId = id)).deleteExtras (·.albumId = id)
  { st with albums := st.albums.filter (·.id ≠ id) }

/-- Deletes the links of a track. -/
def unlinkGenres (st : Store) (trackId : Int) : Store :=
  { st with trackGenres := st.trackGenres.filter (·.trackId ≠ trackId) }

/-- Adds a name to the vocabulary, unless it is there. -/
def addGenre (st : Store) (genre : String) : Store :=
  if st.genres.contains genre then st else { st with genres := st.genres ++ [genre] }

/-- Links a track to a genre; the track has to be stored. -/
def linkGenre (st : Store) (trackId : Int) (genre : String) : Except DatabaseFault Store :=
  if st.tracks.any (·.id = trackId) then
    .ok { st with trackGenres := st.trackGenres ++ [⟨trackId, genre⟩] }
  else .error .danglingReference

/-! ## Views -/

def album? (st : Store) (id : Int) : Option AlbumRow := st.albums.find? (·.id = id)

def track? (st : Store) (id : Int) : Option TrackRow := st.tracks.find? (·.id = id)

def extra? (st : Store) (id : Int) : Option ExtraRow := st.extras.find? (·.id = id)

/-- The genres linked to a track. -/
def genresOf (st : Store) (trackId : Int) : List String :=
  (st.trackGenres.filter (·.trackId = trackId)).map (·.genre)

end Store

end MusicLibrary

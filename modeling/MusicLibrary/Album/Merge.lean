import MusicLibrary.Album.Pairing

/-!
# Merging albums

Merging takes the members of a source album into a target album. Tracks at the same position count
as the same track, extras of the same name as the same extra; all others are added. Without
`overwrite` the target keeps what it has and only gaps are filled; with it the source's fields and
paths are taken, and the target's only where the source has none. The target's numbers stay.
-/

namespace MusicLibrary

/-- The fields of a target album merged with those of a source album. -/
def AlbumInfo.merge (overwrite : Bool) (target source : AlbumInfo) : AlbumInfo :=
  if overwrite then
    { source with
      id? := target.id?
      date? := source.date?.or target.date?
      originalDate? := source.originalDate?.or target.originalDate?
      label? := source.label?.or target.label?
      mbAlbumId? := source.mbAlbumId?.or target.mbAlbumId?
      trackTotal? := source.trackTotal?.or target.trackTotal? }
  else
    { target with
      date? := target.date?.or source.date?
      originalDate? := target.originalDate?.or source.originalDate?
      label? := target.label?.or source.label?
      mbAlbumId? := target.mbAlbumId?.or source.mbAlbumId?
      trackTotal? := target.trackTotal?.or source.trackTotal? }

namespace GenreSet

/-- The first of two sets, unless it is empty. -/
def orElse (s t : GenreSet) : GenreSet := if s.isEmpty then t else s

end GenreSet

/-- A track of the target merged with its partner of the source. -/
def Track.merge (overwrite : Bool) (target source : Track) : Track :=
  if overwrite then
    { source with
      id? := target.id?
      album := target.album
      genres := source.genres.orElse target.genres
      mbTrackId? := source.mbTrackId?.or target.mbTrackId? }
  else
    { target with
      genres := target.genres.orElse source.genres
      mbTrackId? := target.mbTrackId?.or source.mbTrackId? }

/-- The right partner of a left item. -/
def partner? (pairs : List (Pair Nat Nat)) (i : Nat) : Option Nat :=
  pairs.findSome? fun
    | .both a b => if a = i then some b else none
    | _ => none

/-- The right items without a partner. -/
def newcomers (pairs : List (Pair Nat Nat)) : List Nat :=
  pairs.filterMap fun
    | .right b => some b
    | _ => none

namespace Album

/-- Merges tracks into an album: partners are merged in place and all others are added. -/
def mergeTracks (overwrite : Bool) (threshold : Score) (a : Album) (source : List Track) : Album :=
  let pairs := Track.pairing a.tracks source threshold
  let merged := a.tracks.mapIdx fun i t =>
    match (partner? pairs i).bind (source[·]?) with
    | some u => t.merge overwrite u
    | none => t
  ((newcomers pairs).filterMap (source[·]?)).foldl addTrack { a with tracks := merged }

/-- Replaces the path of the first extra with a given name. -/
def redirectExtra (filename : String) (path : Path) : List Extra → List Extra
  | [] => []
  | e :: rest =>
    if e.filename = filename then { e with path := path } :: rest
    else e :: redirectExtra filename path rest

/-- Merges one extra into an album. -/
def mergeExtra (overwrite : Bool) (a : Album) (e : Extra) : Album :=
  match a.findExtra? e.filename with
  | some _ =>
    if overwrite then { a with extras := redirectExtra e.filename e.path a.extras } else a
  | none => a.addExtra e

/-- Merges an album into another one. -/
def merge (overwrite : Bool) (threshold : Score) (target source : Album) (s : Shelf) :
    Album × Shelf :=
  let s' := s.write target.handle ((target.info s).merge overwrite (source.info s))
  let a := target.mergeTracks overwrite threshold source.tracks
  (source.extras.foldl (mergeExtra overwrite) a, s')

end Album

end MusicLibrary

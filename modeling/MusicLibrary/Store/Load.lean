import MusicLibrary.Album.Basic
import MusicLibrary.Store.Basic

/-!
# Loading

Rows are turned into values by their numbers, in the order of the first occurrence of each number.
Numbers that no row has are left out. Each load puts each album on the shelf once, so that the
tracks or extras of one result share their album if their rows name the same one.
-/

namespace MusicLibrary

/-- The album fields that a row holds. -/
def AlbumRow.info (r : AlbumRow) : AlbumInfo where
  id? := some r.id
  artist := r.artist
  title := r.title
  year := r.year
  date? := r.date?.bind Date.parse?
  originalDate? := r.originalDate?.bind Date.parse?
  path := .ofText r.path
  label? := r.label?
  mbAlbumId? := r.mbAlbumId?
  trackTotal? := r.trackTotal?
  discTotal := r.discTotal

/-- The track that a row holds. -/
def TrackRow.track (r : TrackRow) (album : Handle) (genres : List String) : Track where
  id? := some r.id
  album := album
  title := r.title
  artist := r.artist
  trackNum := r.trackNum
  disc := r.disc
  path := .ofText r.path
  genres := .ofList genres
  mbTrackId? := r.mbTrackId?

/-- The extra that a row holds. -/
def ExtraRow.extra (r : ExtraRow) (album : Handle) : Extra := ⟨some r.id, album, .ofText r.path⟩

namespace TrackRow

/-- The order of the tracks of an album: by disc, then by number. -/
def albumOrder (r q : TrackRow) : Bool :=
  ((compare r.disc q.disc).then ((compare r.trackNum q.trackNum).then (compare r.id q.id))).isLE

end TrackRow

namespace ExtraRow

/-- The order of the extras of an album: by name. -/
def albumOrder (r q : ExtraRow) : Bool :=
  ((compare r.filename q.filename).then (compare r.id q.id)).isLE

end ExtraRow

namespace Store

/-- Puts albums on the shelf, each at a place of its own. -/
def place (st : Store) (albumIds : List Int) (s : Shelf) : List (Int × Handle) × Shelf :=
  (albumIds.eraseDups.filterMap st.album?).foldl
    (fun (places, s) r => let (h, s) := s.add r.info; (places ++ [(r.id, h)], s)) ([], s)

/-- Loads tracks by their numbers. -/
def loadTracks (st : Store) (ids : List Int) (s : Shelf) : List Track × Shelf :=
  let rows := ids.eraseDups.filterMap st.track?
  let (places, s) := st.place (rows.map (·.albumId)) s
  (rows.filterMap fun r => (places.lookup r.albumId).map fun h => r.track h (st.genresOf r.id), s)

/-- Loads extras by their numbers. -/
def loadExtras (st : Store) (ids : List Int) (s : Shelf) : List Extra × Shelf :=
  let rows := ids.eraseDups.filterMap st.extra?
  let (places, s) := st.place (rows.map (·.albumId)) s
  (rows.filterMap fun r => (places.lookup r.albumId).map r.extra, s)

/-- The album of a row, at a place of the shelf, with its members in order. -/
def albumAt (st : Store) (id : Int) (h : Handle) : Album where
  handle := h
  tracks := ((st.tracks.filter (·.albumId = id)).mergeSort TrackRow.albumOrder).map
    fun r => r.track h (st.genresOf r.id)
  extras := ((st.extras.filter (·.albumId = id)).mergeSort ExtraRow.albumOrder).map (·.extra h)

/-- Loads albums with their members by their numbers. -/
def loadAlbums (st : Store) (ids : List Int) (s : Shelf) : List Album × Shelf :=
  let (places, s) := st.place ids s
  (places.map fun p => st.albumAt p.1 p.2, s)

end Store

end MusicLibrary

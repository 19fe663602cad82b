import MusicLibrary.Album.Shelf
import MusicLibrary.Genres
import MusicLibrary.Path.Extension

/-!
# Albums, tracks and extras

An album owns its tracks and its extras, which are files that are no audio. Every member holds the
album's handle, so that album fields are read and written through any of them.
-/

namespace MusicLibrary

/-- An audio file of an album. -/
structure Track where
  /-- the number of its row, once it has been saved -/
  id? : Option Int
  album : Handle
  title : String
  artist : String
  trackNum : Int
  disc : Int
  path : Path
  genres : GenreSet
  mbTrackId? : Option String
deriving DecidableEq

/-- A file of an album that is no audio. -/
structure Extra where
  /-- the number of its row, once it has been saved -/
  id? : Option Int
  album : Handle
  path : Path
deriving DecidableEq

/-- An album with its members. -/
structure Album where
  handle : Handle
  tracks : List Track
  extras : List Extra
deriving DecidableEq

namespace Track

/-- A new track of an album; its artist is the album's. -/
def create (s : Shelf) (album : Handle) (trackNum : Int) (title : String) (path : Path) : Track where
  id? := none
  album := album
  title := title
  artist := (s.read album).artist
  trackNum := trackNum
  disc := 1
  path := path
  genres := .empty
  mbTrackId? := none

/-- The place of a track within its album: number and disc. -/
def position (t : Track) : Int × Int := (t.trackNum, t.disc)

/-- Whether two tracks hold the same album fields. -/
def sharesAlbum (t u : Track) : Bool := t.album = u.album

/-- Sets the title of a track's album, for all that share it. -/
def setAlbumTitle (t : Track) (title : String) (s : Shelf) : Shelf :=
  s.modify t.album ({ · with title := title })

/-- Sets the artist of a track's album, for all that share it. -/
def setAlbumArtist (t : Track) (artist : String) (s : Shelf) : Shelf :=
  s.modify t.album ({ · with artist := artist })

/-- Sets the year of a track's album, for all that share it. -/
def setAlbumYear (t : Track) (year : Int) (s : Shelf) : Shelf :=
  s.modify t.album ({ · with year := year })

/-- The extension of the file's name in lower case. -/
def extension? (t : Track) : Option String := t.path.lowerExtension?

/-- How a track is displayed. -/
def shown (s : Shelf) (t : Track) : String := s!"{t.artist} - {(s.read t.album).title} - {t.title}"

end Track

namespace Extra

/-- A new extra of an album. -/
def create (album : Handle) (path : Path) : Extra := ⟨none, album, path⟩

/-- The name of the file without its directory. -/
def filename (e : Extra) : String := e.path.fileName?.getD ""

/-- How an extra is displayed. -/
def shown (s : Shelf) (e : Extra) : String :=
  s!"{(s.read e.album).artist} - {(s.read e.album).title} - {e.filename}"

end Extra

namespace Album

/-- An album without members, at a new place of the shelf. -/
def create (i : AlbumInfo) (s : Shelf) : Album × Shelf :=
  let (h, s) := s.add i
  (⟨h, [], []⟩, s)

def info (s : Shelf) (a : Album) : AlbumInfo := s.read a.handle

/-- Adds a track, which from now on is one of this album. -/
def addTrack (a : Album) (t : Track) : Album :=
  { a with tracks := a.tracks ++ [{ t with album := a.handle }] }

/-- Adds an extra, which from now on is one of this album. -/
def addExtra (a : Album) (e : Extra) : Album :=
  { a with extras := a.extras ++ [{ e with album := a.handle }] }

/-- The first extra with a given name. -/
def findExtra? (a : Album) (filename : String) : Option Extra :=
  a.extras.find? (·.filename = filename)

/-- The same album at a new place of the shelf. -/
def deepCopy (s : Shelf) (a : Album) : Album × Shelf :=
  let (h, s) := s.add (a.info s)
  (⟨h, a.tracks.map ({ · with album := h }), a.extras.map ({ · with album := h })⟩, s)

/-- How an album is displayed. -/
def shown (s : Shelf) (a : Album) : String := (a.info s).shown

/-- Whether every member holds the album's handle. -/
def Whole (a : Album) : Prop :=
  (∀ t ∈ a.tracks, t.album = a.handle) ∧ ∀ e ∈ a.extras, e.album = a.handle

instance (a : Album) : Decidable a.Whole := inferInstanceAs (Decidable (_ ∧ _))

theorem Whole.addTrack {a : Album} (h : a.Whole) (t : Track) : (a.addTrack t).Whole := by
  refine ⟨fun u hu => ?_, h.2⟩
  rcases List.mem_append.1 hu with hu | hu
  · exact h.1 u hu
  · simp_all [Album.addTrack]

theorem Whole.addExtra {a : Album} (h : a.Whole) (e : Extra) : (a.addExtra e).Whole := by
  refine ⟨h.1, fun u hu => ?_⟩
  rcases List.mem_append.1 hu with hu | hu
  · exact h.2 u hu
  · simp_all [Album.addExtra]

theorem whole_deepCopy (s : Shelf) (a : Album) : (a.deepCopy s).1.Whole := by
  constructor <;> simp [deepCopy]

end Album

end MusicLibrary

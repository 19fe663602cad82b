import MusicLibrary.Album.Basic
import MusicLibrary.Fault
import MusicLibrary.Text.Blank

/-!
# Tags

What an audio file says about itself, and the album that a list of tags makes up. The fields of the
album come from the first track that has them. How the tag of a file is found in its bytes is left to a
`TagReader`.
-/

namespace MusicLibrary

/-- The tags of an audio file. -/
structure TrackTags where
  path : Path
  title? : Option String
  artist? : Option String
  albumArtist? : Option String
  album? : Option String
  year? : Option Int
  date? : Option Date
  originalDate? : Option Date
  trackNum? : Option Int
  trackTotal? : Option Int
  disc? : Option Int
  discTotal? : Option Int
  genres : List String
  label? : Option String
  mbAlbumId? : Option String
  mbTrackId? : Option String

/-- The items of the tag of an audio file, with their texts as they stand there. -/
structure TagItems where
  title? : Option String := none
  artist? : Option String := none
  albumArtist? : Option String := none
  album? : Option String := none
  genre? : Option String := none
  year? : Option UInt32 := none
  recordingDate? : Option String := none
  originalDate? : Option String := none
  track? : Option UInt32 := none
  trackTotal? : Option UInt32 := none
  disc? : Option UInt32 := none
  discTotal? : Option UInt32 := none
  label? : Option String := none
  mbReleaseId? : Option String := none
  mbRecordingId? : Option String := none

/-- Reads the tag of a file from its extension in lower case, which tells the format, and its bytes. A
file that can be read may have no tag; of one that cannot be read it says why. -/
abbrev TagReader := String → List UInt8 → Except String (Option TagItems)

namespace TagItems

/-- The text of an item without blanks at its ends, if anything is left of it. -/
def trimmed? (text? : Option String) : Option String := do
  let cs := Text.trim (← text?).toList
  if cs.isEmpty then none else some (.ofList cs)

/-- The number of an item. -/
def number? (n? : Option UInt32) : Option Int := n?.map fun n => (n.toNat : Int)

/-- The tags that the items of a file amount to. Without a year of its own it has that of its date. -/
def tags (path : Path) (items : TagItems) : TrackTags where
  path := path
  title? := items.title?
  artist? := items.artist?
  albumArtist? := trimmed? items.albumArtist?
  album? := items.album?
  year? := (number? items.year?).or (date?.map (·.year))
  date? := date?
  originalDate? := (trimmed? items.originalDate?).bind Date.parse?
  trackNum? := number? items.track?
  trackTotal? := number? items.trackTotal?
  disc? := number? items.disc?
  discTotal? := number? items.discTotal?
  genres := (items.genre?.map splitGenres).getD []
  label? := trimmed? items.label?
  mbAlbumId? := trimmed? items.mbReleaseId?
  mbTrackId? := trimmed? items.mbRecordingId?
where
  date? : Option Date := (trimmed? items.recordingDate?).bind Date.parse?

end TagItems

namespace TrackTags

/-- The tags of a file that has none. -/
def none (path : Path) : TrackTags :=
  ⟨path, .none, .none, .none, .none, .none, .none, .none, .none, .none, .none, .none, [], .none,
    .none, .none⟩

/-- The tags of a file whose tag, if it has one, holds some items. -/
def ofItems (path : Path) : Option TagItems → TrackTags
  | .none => .none path
  | some items => items.tags path

@[simp] theorem path_ofItems (path : Path) (items? : Option TagItems) : (ofItems path items?).path = path := by
  cases items? <;> rfl

/-- The track of a file which stands at a place in the list of its album's files. Without a title it
is named for its file, without a number it is numbered by its place. -/
def track (s : Shelf) (album : Handle) (index : Nat) (tags : TrackTags) : Track :=
  let title := tags.title?.getD ((tags.path.stem?.map Path.text).getD "")
  let t := Track.create s album (tags.trackNum?.getD (index + 1)) title tags.path
  { t with
    artist := tags.artist?.getD t.artist
    disc := tags.disc?.getD 1
    genres := .ofList tags.genres
    mbTrackId? := tags.mbTrackId? }

/-- The fields of the album that tags make up, for files of a directory. -/
def albumInfo (dir : Path) (tags : List TrackTags) : AlbumInfo where
  id? := .none
  artist :=
    ((tags.findSome? (·.albumArtist?)).or (tags.findSome? (·.artist?))).getD "Unknown Artist"
  title := ((tags.findSome? (·.album?)).or dir.fileName?).getD "Unknown Album"
  year := (tags.findSome? (·.year?)).getD 0
  date? := tags.findSome? (·.date?)
  originalDate? := tags.findSome? (·.originalDate?)
  path := dir
  label? := tags.findSome? (·.label?)
  mbAlbumId? := tags.findSome? (·.mbAlbumId?)
  trackTotal? := tags.findSome? (·.trackTotal?)
  discTotal := (tags.findSome? (·.discTotal?)).getD 1

end TrackTags

/-- What is reported for a directory without audio files. -/
def Fault.noAudio (dir : Path) : Fault := .metadata dir "no audio files found"

/-- The album of a directory, made up from the tags of its audio files and the paths of its other
files. -/
def Album.ofTags (dir : Path) (tags : List TrackTags) (extras : List Path) (s : Shelf) :
    Except Fault (Album × Shelf) :=
  if tags.isEmpty then .error (.noAudio dir)
  else
    let (a, s) := Album.create (TrackTags.albumInfo dir tags) s
    .ok (⟨a.handle, tags.mapIdx (TrackTags.track s a.handle), extras.map (.create a.handle)⟩, s)

end MusicLibrary

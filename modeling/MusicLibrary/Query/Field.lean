import MusicLibrary.Kind
import MusicLibrary.Store.Basic
import MusicLibrary.Text.Numeral

/-!
# Fields of queries

The fields that a query may ask about, each with the column of the store it stands for. A query for
tracks or albums sees the fields of tracks and albums, a query for extras those of extras and
albums. On a row of the store a field has no value, one value, or, for genres, several.
-/

namespace MusicLibrary

/-- How the values of a field are stored. -/
inductive ValueKind where
  | text
  | integer
  | date
deriving DecidableEq, Inhabited, Repr

namespace ValueKind

def name : ValueKind → String
  | text => "Text"
  | integer => "Integer"
  | date => "Date"

end ValueKind

/-- What a field stands for. -/
inductive Column where
  | trackTitle
  | trackArtist
  | trackNum
  | trackDisc
  | trackPath
  | trackGenres
  | trackRecording
  | albumTitle
  | albumArtist
  | albumPath
  | albumYear
  | albumDate
  | albumOriginalDate
  | albumLabel
  | albumRelease
  | albumTrackTotal
  | albumDiscTotal
  | extraPath
  | extraFilename
deriving DecidableEq, Inhabited, Repr

/-- A field of a query. -/
structure Field where
  name : String
  column : Column
deriving DecidableEq, Inhabited, Repr

/-- The rows of the store that a query looks at together. -/
structure JoinedRow where
  album : AlbumRow
  track? : Option TrackRow
  extra? : Option ExtraRow
deriving DecidableEq, Inhabited

namespace Column

/-- The name of a column in a statement; the genres of a track are no single column. -/
def name? : Column → Option String
  | trackTitle => some "t.title"
  | trackArtist => some "t.artist"
  | trackNum => some "t.track_num"
  | trackDisc => some "t.disc"
  | trackPath => some "t.path"
  | trackGenres => none
  | trackRecording => some "t.mb_track_id"
  | albumTitle => some "a.title"
  | albumArtist => some "a.artist"
  | albumPath => some "a.path"
  | albumYear => some "a.year"
  | albumDate => some "a.date"
  | albumOriginalDate => some "a.original_date"
  | albumLabel => some "a.label"
  | albumRelease => some "a.mb_album_id"
  | albumTrackTotal => some "a.track_total"
  | albumDiscTotal => some "a.disc_total"
  | extraPath => some "e.path"
  | extraFilename => some "e.filename"

/-- How the values of a column are stored. -/
def kind : Column → ValueKind
  | trackNum | trackDisc | albumYear | albumTrackTotal | albumDiscTotal => .integer
  | albumDate | albumOriginalDate => .date
  | _ => .text

/-- The values of a column on joined rows, as texts. -/
def values (st : Store) (j : JoinedRow) : Column → List String
  | trackTitle => (j.track?.map (·.title)).toList
  | trackArtist => (j.track?.map (·.artist)).toList
  | trackNum => (j.track?.map fun r => Text.showInt r.trackNum).toList
  | trackDisc => (j.track?.map fun r => Text.showInt r.disc).toList
  | trackPath => (j.track?.map (·.path)).toList
  | trackGenres => ((j.track?.map fun r => st.genresOf r.id).getD [])
  | trackRecording => (j.track?.bind (·.mbTrackId?)).toList
  | albumTitle => [j.album.title]
  | albumArtist => [j.album.artist]
  | albumPath => [j.album.path]
  | albumYear => [Text.showInt j.album.year]
  | albumDate => j.album.date?.toList
  | albumOriginalDate => j.album.originalDate?.toList
  | albumLabel => j.album.label?.toList
  | albumRelease => j.album.mbAlbumId?.toList
  | albumTrackTotal => (j.album.trackTotal?.map Text.showInt).toList
  | albumDiscTotal => [Text.showInt j.album.discTotal]
  | extraPath => (j.extra?.map (·.path)).toList
  | extraFilename => (j.extra?.map (·.filename)).toList

end Column

namespace Field

def trackFields : List Field :=
  [⟨"title", .trackTitle⟩, ⟨"artist", .trackArtist⟩, ⟨"track_num", .trackNum⟩,
   ⟨"disc", .trackDisc⟩, ⟨"path", .trackPath⟩, ⟨"genre", .trackGenres⟩,
   ⟨"mb_track_id", .trackRecording⟩]

def albumFields : List Field :=
  [⟨"album", .albumTitle⟩, ⟨"albumartist", .albumArtist⟩, ⟨"album_path", .albumPath⟩,
   ⟨"year", .albumYear⟩, ⟨"date", .albumDate⟩, ⟨"original_date", .albumOriginalDate⟩,
   ⟨"label", .albumLabel⟩, ⟨"mb_album_id", .albumRelease⟩, ⟨"track_total", .albumTrackTotal⟩,
   ⟨"disc_total", .albumDiscTotal⟩]

def extraFields : List Field := [⟨"path", .extraPath⟩, ⟨"filename", .extraFilename⟩]

/-- The fields that a query for a kind may ask about. -/
def table : Kind → List Field
  | .track | .album => trackFields ++ albumFields
  | .extra => extraFields ++ albumFields

/-- The field of a name. -/
def find? (kind : Kind) (name : String) : Option Field := (table kind).find? (·.name = name)

end Field

end MusicLibrary

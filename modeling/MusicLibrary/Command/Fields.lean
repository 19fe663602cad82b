import MusicLibrary.Item

/-!
# Fields of items

All fields of an item, by name, in the order in which they are listed.
-/

namespace MusicLibrary

/-- Names with the texts of values. -/
abbrev FieldList := List (String × String)

/-- The text of an integer that may be missing. -/
def optionalText (n? : Option Int) : String := (n?.map Text.showInt).getD ""

/-- The text of a date that may be missing. -/
def optionalDateText (d? : Option Date) : String := (d?.map Date.format).getD ""

def AlbumInfo.fields (i : AlbumInfo) : FieldList :=
  [("album", i.title), ("albumartist", i.artist), ("album_path", i.path.text),
   ("year", Text.showInt i.year), ("date", optionalDateText i.date?),
   ("original_date", optionalDateText i.originalDate?), ("label", i.label?.getD ""),
   ("mb_album_id", i.mbAlbumId?.getD ""), ("track_total", optionalText i.trackTotal?),
   ("disc_total", Text.showInt i.discTotal)]

def Track.fields (t : Track) : FieldList :=
  [("title", t.title), ("artist", t.artist), ("track_num", Text.showInt t.trackNum),
   ("disc", Text.showInt t.disc), ("path", t.path.text), ("format", t.extension?.getD ""),
   ("genre", t.genres.shown), ("mb_track_id", t.mbTrackId?.getD "")]

def Extra.fields (e : Extra) : FieldList := [("path", e.path.text), ("filename", e.filename)]

/-- The fields of an item, with those of its album. -/
def Item.fields (s : Shelf) : Item → FieldList
  | .track t => t.fields ++ (s.read t.album).fields
  | .album a =>
    (a.info s).fields ++ [("tracks", s!"{a.tracks.length}"), ("extras", s!"{a.extras.length}")]
  | .extra e => e.fields ++ (s.read e.album).fields

end MusicLibrary

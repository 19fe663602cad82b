import MusicLibrary.Album.Basic
import MusicLibrary.Kind

/-!
# Items

What a query finds: a track, an album or an extra.
-/

namespace MusicLibrary

/-- An item of a library. -/
inductive Item where
  | track (t : Track)
  | album (a : Album)
  | extra (e : Extra)
deriving DecidableEq

namespace Item

def kind : Item → Kind
  | track _ => .track
  | album _ => .album
  | extra _ => .extra

/-- The path of a file, or of an album's directory. -/
def path (s : Shelf) : Item → Path
  | track t => t.path
  | album a => (a.info s).path
  | extra e => e.path

/-- How an item is displayed. -/
def shown (s : Shelf) : Item → String
  | track t => t.shown s
  | album a => a.shown s
  | extra e => e.shown s

end Item

end MusicLibrary

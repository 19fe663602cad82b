/-!
# Kinds of items
-/

namespace MusicLibrary

/-- The kinds of items of a library. -/
inductive Kind where
  | track
  | album
  | extra
deriving DecidableEq, Inhabited, Repr

/-- The name of a kind. -/
def Kind.name : Kind → String
  | track => "track"
  | album => "album"
  | extra => "extra"

end MusicLibrary

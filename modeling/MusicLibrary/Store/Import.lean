import MusicLibrary.Album.Merge
import MusicLibrary.Store.Load
import MusicLibrary.Store.Save

/-!
# Adding albums

An album that is added is merged into a stored album it collides with, or else inserted. Albums
collide if they have the same path, the same artist, title and year, or the same release number.
-/

namespace MusicLibrary

/-- Settings for adding albums. -/
structure ImportSettings where
  /-- the least score at which two tracks count as the same track -/
  threshold : Score
  /-- whether the added album's fields and paths replace the stored ones -/
  overwrite : Bool
deriving DecidableEq, Repr

instance : Inhabited ImportSettings := ⟨⟨defaultThreshold, false⟩⟩

/-- Whether an album collides with a row; its own row never counts. -/
def AlbumInfo.collides (i : AlbumInfo) (r : AlbumRow) : Bool :=
  (r.path = i.path.text || r.identity = (i.artist, i.title, i.year) ||
    (i.mbAlbumId?.isSome && r.mbAlbumId? = i.mbAlbumId?)) && i.id? ≠ some r.id

namespace Store

/-- The first stored album that an album collides with. -/
def colliding? (st : Store) (i : AlbumInfo) : Option AlbumRow := st.albums.find? i.collides

/-- Loads the first stored album that an album collides with. -/
def findExisting (st : Store) (a : Album) (s : Shelf) : Option Album × Shelf :=
  match st.colliding? (a.info s) with
  | none => (none, s)
  | some r =>
    let (albums, s) := st.loadAlbums [r.id] s
    (albums.head?, s)

/-- Adds an album, merging it into a stored one it collides with; the value is the album as
saved. -/
def addAlbum (st : Store) (settings : ImportSettings) (s : Shelf) (a : Album) :
    Progress (Album × Shelf) :=
  match st.findExisting a s with
  | (none, s) => st.saveAlbum s a
  | (some old, s) =>
    let (merged, s) := old.merge settings.overwrite settings.threshold a s
    st.saveAlbum s merged

end Store

end MusicLibrary

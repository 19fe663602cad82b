import MusicLibrary.Date
import MusicLibrary.Path.Basic

/-!
# Album fields and the shelf

The scalar fields of an album are shared by the album and all its members. They stand on a `Shelf`,
and whoever shares them holds a `Handle`, their place on it. What is written through one handle is
read through every equal one, and through no other.
-/

namespace MusicLibrary

/-- The scalar fields of an album. -/
structure AlbumInfo where
  /-- the number of its row, once it has been saved -/
  id? : Option Int
  artist : String
  title : String
  year : Int
  date? : Option Date
  originalDate? : Option Date
  path : Path
  label? : Option String
  mbAlbumId? : Option String
  trackTotal? : Option Int
  discTotal : Int
deriving DecidableEq

namespace AlbumInfo

/-- The fields of an album that has not been saved. -/
def create (artist title : String) (year : Int) (path : Path) : AlbumInfo where
  id? := none
  artist := artist
  title := title
  year := year
  date? := none
  originalDate? := none
  path := path
  label? := none
  mbAlbumId? := none
  trackTotal? := none
  discTotal := 1

instance : Inhabited AlbumInfo := ⟨create "" "" 0 ⟨[]⟩⟩

/-- How an album is displayed. -/
def shown (i : AlbumInfo) : String := s!"{i.artist} - {i.title} ({Text.showInt i.year})"

end AlbumInfo

/-- A place on a shelf. -/
structure Handle where
  index : Nat
deriving DecidableEq, Inhabited, Repr

/-- Album fields at their places. -/
structure Shelf where
  infos : Array AlbumInfo
deriving Inhabited

namespace Shelf

def empty : Shelf := ⟨#[]⟩

/-- Whether a handle is a place of a shelf. -/
def Holds (s : Shelf) (h : Handle) : Prop := h.index < s.infos.size

/-- The fields at a place. -/
def read (s : Shelf) (h : Handle) : AlbumInfo := s.infos[h.index]?.getD default

/-- Puts fields at a place. -/
def write (s : Shelf) (h : Handle) (i : AlbumInfo) : Shelf := ⟨s.infos.setIfInBounds h.index i⟩

/-- Changes the fields at a place. -/
def modify (s : Shelf) (h : Handle) (f : AlbumInfo → AlbumInfo) : Shelf := s.write h (f (s.read h))

/-- Puts fields at a new place. -/
def add (s : Shelf) (i : AlbumInfo) : Handle × Shelf := (⟨s.infos.size⟩, ⟨s.infos.push i⟩)

theorem read_write {s : Shelf} {h : Handle} (hs : s.Holds h) (i : AlbumInfo) :
    (s.write h i).read h = i := by
  have : h.index < s.infos.size := hs
  simp [read, write, this]

theorem read_write_of_ne {s : Shelf} {h k : Handle} (hk : k ≠ h) (i : AlbumInfo) :
    (s.write h i).read k = s.read k := by
  have : h.index ≠ k.index := fun e => hk (by cases h; cases k; simp_all)
  simp [read, write, this]

@[simp] theorem holds_write {s : Shelf} {h k : Handle} {i : AlbumInfo} :
    (s.write h i).Holds k ↔ s.Holds k := by
  simp [Holds, write]

theorem not_holds_add (s : Shelf) (i : AlbumInfo) : ¬ s.Holds (s.add i).1 := by
  simp [Holds, add]

theorem holds_add (s : Shelf) (i : AlbumInfo) : (s.add i).2.Holds (s.add i).1 := by
  simp [Holds, add]

theorem Holds.of_add {s : Shelf} {h : Handle} (hs : s.Holds h) (i : AlbumInfo) :
    (s.add i).2.Holds h := by
  have : h.index < s.infos.size := hs
  simp only [Holds, add, Array.size_push]
  omega

@[simp] theorem read_add (s : Shelf) (i : AlbumInfo) : (s.add i).2.read (s.add i).1 = i := by
  simp [read, add]

theorem read_add_of_holds {s : Shelf} {h : Handle} (hs : s.Holds h) (i : AlbumInfo) :
    (s.add i).2.read h = s.read h := by
  have hlt : h.index < s.infos.size := hs
  simp [read, add, Array.getElem?_push, Nat.ne_of_lt hlt]

end Shelf

end MusicLibrary

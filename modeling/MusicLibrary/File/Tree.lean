import MusicLibrary.Path.Component

/-!
# Trees of files

Directories and regular files, each at its place, which is the list of the names that lead to it
from the root. A directory is there if it has been made, or if something is in it. Paths are
followed name by name: a single dot stays where it is and two dots lead back.
-/

namespace MusicLibrary

/-- The names that lead from the root to a file or directory. -/
abbrev Place := List (List PathUnit)

/-- What stands at a place. -/
inductive Entry where
  | file (bytes : List UInt8)
  | directory
deriving DecidableEq, Inhabited, Repr

/-- Why a path leads to nothing that can be read. -/
inductive PathFault where
  | missing
  /-- something in front of a slash is no directory -/
  | notDirectory
  | fileExists
  | isDirectory
  | nameTooLong
  | nullCharacter
deriving DecidableEq, Inhabited, Repr

/-- The words for a path that cannot be followed. -/
def PathFault.message : PathFault → String
  | missing => "No such file or directory (os error 2)"
  | notDirectory => "Not a directory (os error 20)"
  | fileExists => "File exists (os error 17)"
  | isDirectory => "Is a directory (os error 21)"
  | nameTooLong => "File name too long (os error 36)"
  | nullCharacter => "file name contained an unexpected NUL byte"

/-- Files and directories by their places, with the directory that relative paths start from. -/
structure FileTree where
  entries : List (Place × Entry)
  current : Place
deriving Inhabited

namespace FileTree

/-- What stands at a place. -/
def entry? (t : FileTree) (place : Place) : Option Entry :=
  match t.entries.find? (·.1 = place) with
  | some e => some e.2
  | none =>
    if place.isEmpty || t.entries.any (fun e => place.isPrefixOf e.1) then some .directory else none

/-- Takes away what stands at a place itself. -/
def erase (t : FileTree) (place : Place) : FileTree :=
  { t with entries := t.entries.filter (·.1 ≠ place) }

/-- Puts a file or a directory at a place. -/
def put (t : FileTree) (place : Place) (e : Entry) : FileTree :=
  { t with entries := t.entries.filter (·.1 ≠ place) ++ [(place, e)] }

/-- The greatest number of bytes in a name. -/
def nameLimit : Nat := 255

/-- The place that one part of a path leads to from a directory. -/
def step (t : FileTree) (place : Place) (part : List PathUnit) : Except PathFault Place :=
  if t.entry? place = some .directory then
    if PathUnit.idle part then .ok place
    else if part = [.dot, .dot] then .ok place.dropLast
    else if nameLimit < (part.flatMap PathUnit.bytes).length then .error .nameTooLong
    else
      let next := place ++ [part]
      if (t.entry? next).isSome then .ok next else .error .missing
  else .error .notDirectory

/-- The place that a path leads to. -/
def resolve (t : FileTree) (p : Path) : Except PathFault Place :=
  if p.units.contains (.char '\x00') then .error .nullCharacter
  else if p.units.isEmpty then .error .missing
  else
    (PathUnit.split p.units).foldlM (t.step · ·) (if p.isAbsolute then [] else t.current)

/-- The place that a path names for a new file, which need not be there yet. -/
def placeOf (t : FileTree) (p : Path) : Place :=
  p.components.foldl
    (fun place c =>
      match c with
      | .root => []
      | .here => place
      | .up => place.dropLast
      | .name us => place ++ [us])
    t.current

/-- Reads the bytes of the file that a path leads to. -/
def readFile (t : FileTree) (p : Path) : Except PathFault (List UInt8) := do
  let place ← t.resolve p
  match t.entry? place with
  | some (.file bytes) => return bytes
  | some .directory => throw .isDirectory
  | none => throw .missing

/-- Makes the directories that a path leads through, as far as they are missing. -/
def makeDirectories (t : FileTree) (p : Path) : Except PathFault FileTree := do
  let (t, place) ← (PathUnit.split p.units).foldlM
    (fun (t, place) part =>
      match t.step place part with
      | .ok next => .ok (t, next)
      | .error .missing => .ok (t.put (place ++ [part]) .directory, place ++ [part])
      | .error f => .error f)
    (t, if p.isAbsolute then [] else t.current)
  if t.entry? place = some .directory then return t else throw .fileExists

/-- The bytes of the file that a path leads to. -/
def file? (t : FileTree) (p : Path) : Option (List UInt8) := (t.readFile p).toOption

def isFile (t : FileTree) (p : Path) : Bool := (t.file? p).isSome

/-- Whether a path leads to a directory. -/
def isDirectory (t : FileTree) (p : Path) : Bool :=
  (t.resolve p).toOption.bind t.entry? = some .directory

/-- The regular files at or below the place that a path leads to, each as the names that lead to it
from there. -/
def filesBelow (t : FileTree) (p : Path) : List Place :=
  match t.resolve p with
  | .error _ => []
  | .ok top =>
    t.entries.filterMap fun (place, e) =>
      match e with
      | .file _ => if top.isPrefixOf place then some (place.drop top.length) else none
      | .directory => none

/-- The path that leads from another path by names. -/
def extend (p : Path) (names : Place) : Path := names.foldl Path.child p

/-- The directory that relative paths start from, as a path. -/
def currentPath (t : FileTree) : Path := extend ⟨[.slash]⟩ t.current

/-- The order of names: by their bytes. -/
def compareNames (a b : List PathUnit) : Ordering :=
  compare (a.flatMap PathUnit.bytes) (b.flatMap PathUnit.bytes)

end FileTree

end MusicLibrary

import MusicLibrary.Path.Basic

/-!
# Components of a path

A path names a file by components between slashes. Empty components count for nothing, and so do
single dots but for one at the very start. Paths are ordered by their components.
-/

namespace MusicLibrary

/-- A component of a path. -/
inductive Component where
  /-- the root, in front of an absolute path -/
  | root
  /-- a single dot in front -/
  | here
  /-- two dots -/
  | up
  | name (units : List PathUnit)
deriving DecidableEq, Inhabited, Repr

namespace PathUnit

/-- The parts of a list of units between slashes. -/
def split (us : List PathUnit) : List (List PathUnit) := us.splitOn slash

/-- Whether a part between slashes counts for nothing. -/
def idle (part : List PathUnit) : Bool := part.isEmpty || part == [dot]

end PathUnit

namespace Component

/-- The component of a part between slashes. -/
def ofPart (part : List PathUnit) : Component :=
  if part = [.dot, .dot] then up else name part

def units : Component → List PathUnit
  | root => [.slash]
  | here => [.dot]
  | up => [.dot, .dot]
  | name us => us

/-- The kinds of components in their order. -/
def rank : Component → Nat
  | root => 0
  | here => 1
  | up => 2
  | name _ => 3

/-- The order of components: by kind, then by the bytes of the name. -/
def compare (a b : Component) : Ordering :=
  (Ord.compare a.rank b.rank).then
    (Ord.compare (a.units.flatMap PathUnit.bytes) (b.units.flatMap PathUnit.bytes))

end Component

namespace Path

/-- Whether a path starts at the root. -/
def isAbsolute (p : Path) : Bool := p.units.head? == some .slash

/-- Whether a path starts with a single dot as its first component. -/
def startsHere (p : Path) : Bool := (PathUnit.split p.units).head? == some [.dot]

/-- The components of a path. -/
def components (p : Path) : List Component :=
  (if p.isAbsolute then [.root] else if p.startsHere then [.here] else []) ++
    ((PathUnit.split p.units).filter fun part => !PathUnit.idle part).map Component.ofPart

/-- The order of lists of components. -/
def compareComponents : List Component → List Component → Ordering
  | [], [] => .eq
  | [], _ :: _ => .lt
  | _ :: _, [] => .gt
  | a :: as, b :: bs => (a.compare b).then (compareComponents as bs)

/-- Paths are ordered by their components. -/
def compare (p q : Path) : Ordering := compareComponents p.components q.components

/-- The units of the last component, if it is a name. -/
def fileUnits? (p : Path) : Option (List PathUnit) :=
  match p.components.getLast? with
  | some (.name us) => some us
  | _ => none

/-- The text of the last component, if it is a name. -/
def fileName? (p : Path) : Option String := p.fileUnits?.map fun us => (⟨us⟩ : Path).text

/-! ## Stem and extension -/

/-- The units before and after the last dot, if there is a dot. -/
def cutLastDot? (us : List PathUnit) : Option (List PathUnit × List PathUnit) :=
  let after := (us.reverse.takeWhile (· ≠ .dot)).reverse
  if after.length = us.length then none else some (us.take (us.length - after.length - 1), after)

/-- The extension of the last component: what follows its last dot, unless that stands in front. -/
def extension? (p : Path) : Option (List PathUnit) := do
  let us ← p.fileUnits?
  let (before, after) ← cutLastDot? us
  if before.isEmpty then none else some after

/-- The last component without its extension. -/
def stem? (p : Path) : Option Path := do
  let us ← p.fileUnits?
  match cutLastDot? us with
  | none => some ⟨us⟩
  | some (before, _) => some ⟨if before.isEmpty then us else before⟩

/-! ## The path of the directory -/

/-- Drops what counts for nothing from the end; the units are in reverse. -/
def dropIdle (us : List PathUnit) : List PathUnit :=
  let part := us.takeWhile (· ≠ .slash)
  if PathUnit.idle part then
    match _h : us.drop part.length with
    | [] => []
    | _ :: rest => dropIdle rest
  else us
termination_by us.length
decreasing_by
  have := congrArg List.length _h
  simp at this
  omega

/-- Drops the last part and the slash before it; the units are in reverse. -/
def dropPart (us : List PathUnit) : List PathUnit := (us.dropWhile (· ≠ .slash)).drop 1

/-- The length of what stands in front of the parts: the first slash or the first dot. -/
def frontLength (p : Path) : Nat := if p.isAbsolute || p.startsHere then 1 else 0

/-- The path without its last component; nothing for the root and for the empty path. -/
def parent? (p : Path) : Option Path :=
  let front := p.units.take p.frontLength
  let body := dropIdle (p.units.drop p.frontLength).reverse
  if body.isEmpty then (if p.startsHere then some ⟨[]⟩ else none)
  else some ⟨front ++ (dropIdle (dropPart body)).reverse⟩

/-- A path from within a directory. -/
def join (p q : Path) : Path :=
  if q.isAbsolute || p.units.isEmpty then q
  else if p.units.getLast? = some .slash then ⟨p.units ++ q.units⟩
  else ⟨p.units ++ .slash :: q.units⟩

/-- A name within a directory. -/
def child (p : Path) (name : List PathUnit) : Path := p.join ⟨name⟩

/-- A path as seen from the root, given the current directory; a dot in front is dropped, two dots
are kept. The empty path has none. -/
def absolute? (p current : Path) : Option Path :=
  if p.units.isEmpty then none
  else
    let parts := p.components.filter fun c => c ≠ .here && c ≠ .root
    let start : Path :=
      if !p.isAbsolute then current
      else if p.units.take 2 = [.slash, .slash] && p.units.take 3 ≠ [.slash, .slash, .slash] then
        ⟨[.slash, .slash]⟩
      else ⟨[.slash]⟩
    let whole := parts.foldl (fun q c => q.child c.units) start
    some (if p.units.getLast? = some .slash then whole.join ⟨[]⟩ else whole)

end Path

end MusicLibrary

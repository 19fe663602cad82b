import MusicLibrary.Command.Run

/-!
# Machines

A `Machine` has files, some of which hold libraries. Carrying out an invocation loads the
configuration, opens the library and works in a session on it; what the session has not committed
when the work ends is lost.
-/

namespace MusicLibrary.Command

/-- A machine on which commands are run. -/
structure Machine where
  files : FileTree
  /-- the libraries that files hold -/
  libraries : List (Place × Store)
  dirs : UserDirs

/-- What a command shows. -/
structure Report where
  output : String
  failure? : Option Failure

/-- An open library: where it is kept, if it is kept at all, and what is in it. -/
structure Opened where
  files : FileTree
  place? : Option Place
  store : Store

namespace Machine

/-- What follows the name of a library's file in the names of the files beside it that are there
while the library is open. -/
def besides : List String := ["-shm", "-wal"]

/-- The places of the files beside a library. -/
def placesBeside (place : Place) : List Place :=
  besides.map fun ending =>
    place.dropLast ++ [place.getLast?.getD [] ++ (Path.ofText ending).units]

/-- A path under which a library is kept for one session only. -/
def isVolatile (p : Path) : Bool := p.units.isEmpty || p.text = ":memory:"

/-- Makes the directory for a library. -/
def prepare (t : FileTree) (p : Path) : Except Fault FileTree :=
  match p.parent? with
  | some dir =>
    if dir.units.isEmpty then .ok t
    else
      match t.makeDirectories dir with
      | .ok t => .ok t
      | .error f => .error (.within ("creating " ++ dir.text) (.io f.message))
  | none => .ok t

/-- The library at a path; a file that is missing or empty is a new library. -/
def contents (m : Machine) (t : FileTree) (p : Path) : Except Fault Opened :=
  if isVolatile p then .ok ⟨t, none, .empty⟩
  else
    match t.resolve p with
    | .error .missing =>
      let place := t.placeOf p
      .ok ⟨(place :: placesBeside place).foldl (·.put · (.file [])) t, some place, .empty⟩
    | .error _ => .error (.database .cannotOpen)
    | .ok place =>
      match m.libraries.lookup place, t.entry? place with
      | _, some .directory => .error (.database .cannotOpen)
      | none, some (.file (_ :: _)) => .error (.migration .notADatabase)
      | st?, _ =>
        .ok ⟨(placesBeside place).foldl (·.put · (.file [])) t, some place, st?.getD .empty⟩

/-- Opens the library at a path. -/
def openLibrary (m : Machine) (p : Path) : Except Fault Opened := do
  let t ← prepare m.files p
  (m.contents t p).mapError (.within ("opening library " ++ p.text))

/-- Keeps what is left of a library when it is closed. -/
def close (m : Machine) (o : Opened) (st : Store) : Machine :=
  match o.place? with
  | none => { m with files := o.files }
  | some place =>
    { m with
      files := (placesBeside place).foldl FileTree.erase o.files
      libraries := (place, st) :: m.libraries.filter (·.1 ≠ place) }

/-- Carries out an invocation. -/
def run (m : Machine) (i : Invocation) : Report × Machine :=
  let prepared : Except Failure (Work Unit × Opened) := do
    let c ← (Config.load m.files m.dirs i.config?).mapError .config
    let plan ← i.action.plan c
    let o ← (m.openLibrary c.database).mapError .fault
    return (plan, o)
  match prepared with
  | .error f => (⟨"", some f⟩, m)
  | .ok (plan, o) =>
    let (result, d) := (plan.run ⟨o.files, .start o.store, .empty, ""⟩).run
    let failure? :=
      match result with
      | .ok () => none
      | .error f => some f
    (⟨d.output, failure?⟩, m.close o d.session.committed)

end Machine

end MusicLibrary.Command

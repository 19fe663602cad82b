import MusicLibrary.Config
import MusicLibrary.Query.Basic
import MusicLibrary.Store.Session

/-!
# The desk of a command

A command works at a `Desk`: it reads files, has a session on a library and prints lines. What is
printed stays also if the command fails; what it does to the library stays if it commits.
-/

namespace MusicLibrary.Command

/-- Why a command fails. -/
inductive Failure where
  | fault (f : Fault)
  | config (f : ConfigFault)
  /-- a query finds nothing -/
  | noMatch (kind : Kind) (query : String)
  /-- nothing is named to be added -/
  | nothingToAdd
  /-- a word that holds the null character cannot be quoted -/
  | unquotable
  /-- the empty path names no file -/
  | emptyPath

/-- The words for a failure, followed by those for each of its causes. -/
def Failure.chain : Failure → List String
  | fault f => f.chain
  | config f => [f.message]
  | noMatch kind query => [s!"No {kind.name}s matching: {query}"]
  | nothingToAdd => ["No paths given and no library_dir configured"]
  | unquotable => ["cannot shell-quote string containing nul byte"]
  | emptyPath => ["cannot make an empty path absolute"]

/-- What a command has in front of it. -/
structure Desk where
  files : FileTree
  session : Session
  shelf : Shelf
  output : String

/-- Work at a desk, which may fail. -/
abbrev Work := ExceptT Failure (StateM Desk)

namespace Work

/-- Prints a line. -/
def say (line : String) : Work Unit := modify fun d => { d with output := d.output ++ line ++ "\n" }

/-- Takes a result, or fails. -/
def take {α : Type} : Except Fault α → Work α
  | .ok a => return a
  | .error f => throw (.fault f)

/-- Names a context in front of each fault. -/
def within {α : Type} (context : String) (w : Work α) : Work α :=
  tryCatch w fun
    | .fault f => throw (.fault (.within context f))
    | failure => throw failure

/-- Runs an operation on the working store, which keeps what was done before a fault. -/
def attempt {α : Type} (f : Store → Shelf → Progress α) : Work α := do
  let d ← get
  let p := f d.session.working d.shelf
  set { d with session := { d.session with working := p.store } }
  match p.fault? with
  | none => return p.value
  | some fault => throw (.fault fault)

def setShelf (s : Shelf) : Work Unit := modify fun d => { d with shelf := s }

/-- Runs an operation on the working store that cannot fail. -/
def alter (f : Store → Shelf → Store) : Work Unit :=
  modify fun d => { d with session := { d.session with working := f d.session.working d.shelf } }

/-- Makes the work on the library last. -/
def commit : Work Unit := modify fun d => { d with session := d.session.commit }

/-- Runs a query, which has to find something. -/
def find (query : String) (kind : Kind) : Work (List Item) := do
  let d ← get
  let (items, shelf) := Query.execute query kind d.session.working d.shelf
  setShelf shelf
  if items.isEmpty then throw (.noMatch kind query) else return items

end Work

end MusicLibrary.Command

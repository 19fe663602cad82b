import MusicLibrary.File.Tree
import MusicLibrary.Store.Import
import MusicLibrary.Toml.Document

/-!
# Configuration

Where the library is kept and how albums are added, as told by a TOML file. Keys that are not known
are passed over, and what a file does not set keeps its default. A file that is named has to be
there and in order; the one at the usual place may be missing, and counts for nothing if it is not
in order.
-/

namespace MusicLibrary

/-- The settings of a library. -/
structure Config where
  /-- the file of the database -/
  database : Path
  /-- the directory that is added if none is named -/
  musicDir? : Option Path
  importing : ImportSettings

/-- Directories of the user, for files at their usual places. -/
structure UserDirs where
  config : Path
  data : Path

namespace UserDirs

/-- The name of the directory for this program within the directories of the user. -/
def programName : Path := .ofText "tunekeeper"

/-- The usual place of the configuration. -/
def configFile (dirs : UserDirs) : Path := (dirs.config.join programName).join (.ofText "config.toml")

/-- The usual place of the database. -/
def databaseFile (dirs : UserDirs) : Path := (dirs.data.join programName).join (.ofText "library.db")

end UserDirs

/-- Why a configuration cannot be loaded. -/
inductive ConfigFault where
  | unreadable (path : Path) (cause : String)
  | malformed (path : Path) (cause : String)
deriving DecidableEq, Inhabited, Repr

/-- The words for a configuration that cannot be loaded. -/
def ConfigFault.message : ConfigFault → String
  | unreadable path cause => s!"Failed to read config file {path.text}: {cause}"
  | malformed path cause => s!"Failed to parse config file {path.text}: {cause}"

namespace Config

def defaults (dirs : UserDirs) : Config := ⟨dirs.databaseFile, none, default⟩

/-- The address under which a database is opened; without a path it is one in the current
directory. -/
def databaseAddress (p? : Option Path) : String :=
  "sqlite:" ++ (p?.map Path.text).getD "tunekeeper.db"

/-! ## Settings from values -/

/-- A section of settings: by key, or, in an array, by place. A date counts as a section that sets
nothing. -/
inductive Section where
  | byKey (entries : Toml.Entries)
  | byPlace (items : List Toml.Value)

namespace Section

def of? : Toml.Value → Option Section
  | .table _ entries => some (.byKey entries)
  | .tables elements => some (.byPlace (elements.map (.table .header)))
  | .array items => some (.byPlace items)
  | .date => some (.byKey [])
  | _ => none

/-- The value of a setting. -/
def value? (key : String) (index : Nat) : Section → Option Toml.Value
  | byKey entries => entries.lookup key
  | byPlace items => items[index]?

/-- Reads a setting, if it is set. -/
def read? {α : Type} (s : Section) (key : String) (index : Nat) (fallback : α)
    (f : Toml.Value → Option α) : Option α :=
  match s.value? key index with
  | none => some fallback
  | some v => f v

end Section

def pathOf? : Toml.Value → Option Path
  | .text s => some (.ofText s)
  | _ => none

def scoreOf? : Toml.Value → Option Score
  | .float x => some x
  | .integer n => some (.ofInt n)
  | _ => none

def booleanOf? : Toml.Value → Option Bool
  | .boolean b => some b
  | _ => none

/-- The configuration that the table of a document describes. -/
def ofTable? (dirs : UserDirs) (table : Toml.Entries) : Option Config := do
  let defaults := Config.defaults dirs
  let sections := Section.byKey table
  let library ← sections.read? "library" 0 (.byKey []) Section.of?
  let importing ← sections.read? "import" 1 (.byKey []) Section.of?
  return {
    database := ← library.read? "db_path" 0 defaults.database pathOf?
    musicDir? := ← library.read? "library_dir" 1 none fun v => (pathOf? v).map some
    importing := {
      threshold := ← importing.read? "match_threshold" 0 defaults.importing.threshold scoreOf?
      overwrite := ← importing.read? "overwrite_album_info" 1 defaults.importing.overwrite booleanOf?
    }
  }

/-- The configuration that a text describes. -/
def parse? (dirs : UserDirs) (text : String) : Option Config :=
  (Toml.parse? text).bind (ofTable? dirs)

/-! ## Loading -/

/-- What is said of a file whose bytes are no text. -/
def notText : String := "stream did not contain valid UTF-8"

/-- What is said of a text that describes no configuration. -/
def notConfig : String := "not a configuration in TOML"

/-- Loads the configuration of a file. -/
def loadFile (t : FileTree) (dirs : UserDirs) (p : Path) : Except ConfigFault Config :=
  match t.readFile p with
  | .error f => .error (.unreadable p f.message)
  | .ok bytes =>
    match (PathUnit.decode bytes).mapM PathUnit.char? with
    | none => .error (.unreadable p notText)
    | some cs =>
      match parse? dirs (.ofList cs) with
      | none => .error (.malformed p notConfig)
      | some c => .ok c

/-- Loads the configuration of a file that is named, or else of the one at the usual place. -/
def load (t : FileTree) (dirs : UserDirs) : Option Path → Except ConfigFault Config
  | some p => loadFile t dirs p
  | none => .ok (((loadFile t dirs dirs.configFile).toOption).getD (defaults dirs))

end Config

end MusicLibrary

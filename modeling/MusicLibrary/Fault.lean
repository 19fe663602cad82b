import MusicLibrary.Path.Basic

/-!
# Faults

What can go wrong in a library, and how it is put into words. A fault may be reported within a
context, which is named in front of it.
-/

namespace MusicLibrary

/-- Keys that no two rows of a table may share. -/
inductive UniqueKey where
  | albumPath
  | albumIdentity
  | trackPath
  | trackPosition
  | extraPath
  | extraFilename
deriving DecidableEq, Inhabited, Repr

namespace UniqueKey

/-- The columns of a key. -/
def columns : UniqueKey → String
  | albumPath => "albums.path"
  | albumIdentity => "albums.artist, albums.title, albums.year"
  | trackPath => "tracks.path"
  | trackPosition => "tracks.album_id, tracks.track_num, tracks.disc"
  | extraPath => "extras.path"
  | extraFilename => "extras.album_id, extras.filename"

/-- Whether a key is one of the album table. -/
def isAlbumKey : UniqueKey → Bool
  | albumPath | albumIdentity => true
  | _ => false

def message (k : UniqueKey) : String := "UNIQUE constraint failed: " ++ k.columns

end UniqueKey

/-- What a database refuses to do, apart from keys that are taken. -/
inductive DatabaseFault where
  /-- a query that should have found a row found none -/
  | noRow
  /-- a statement was refused with a code -/
  | refused (code : Nat) (text : String)
deriving DecidableEq, Inhabited, Repr

namespace DatabaseFault

/-- A row refers to a row that does not exist. -/
def danglingReference : DatabaseFault := refused 787 "FOREIGN KEY constraint failed"

/-- The file of a database cannot be opened. -/
def cannotOpen : DatabaseFault := refused 14 "unable to open database file"

/-- The file of a database holds something else. -/
def notADatabase : DatabaseFault := refused 26 "file is not a database"

def message : DatabaseFault → String
  | noRow => "no rows returned by a query that expected to return at least one row"
  | refused code text => s!"error returned from database: (code: {code}) {text}"

/-- The words for a fault, followed by those for its cause. -/
def chain : DatabaseFault → List String
  | noRow => [noRow.message]
  | refused code text => [(refused code text).message, s!"(code: {code}) {text}"]

end DatabaseFault

/-- What can go wrong in a library. -/
inductive Fault where
  | io (text : String)
  | database (cause : DatabaseFault)
  /-- the tables of a database cannot be made -/
  | migration (cause : DatabaseFault)
  /-- an album with the same path or identity is stored -/
  | duplicateAlbum (text : String)
  /-- another key is taken -/
  | duplicateItem (text : String)
  | metadata (path : Path) (text : String)
  | edit (text : String)
  /-- a track or extra whose album has not been saved -/
  | unsaved (path : Path)
  | notFound (path : Path)
  | config (text : String)
  | within (context : String) (fault : Fault)
deriving DecidableEq, Inhabited, Repr

namespace Fault

/-- What is said of a database whose tables cannot be made. -/
def migrationText (cause : DatabaseFault) : String :=
  "while executing migrations: " ++ cause.message

/-- The fault of a key that is taken. -/
def duplicate (k : UniqueKey) : Fault :=
  if k.isAlbumKey then duplicateAlbum k.message else duplicateItem k.message

/-- The words for a fault. -/
def message : Fault → String
  | io text => "IO error: " ++ text
  | database cause => "Database error: " ++ cause.message
  | migration cause => "Migration error: " ++ migrationText cause
  | duplicateAlbum text => "Duplicate album: " ++ text
  | duplicateItem text => "Duplicate item: " ++ text
  | metadata path text => "Metadata error for " ++ path.text ++ ": " ++ text
  | edit text => "Edit error: " ++ text
  | unsaved path => path.text ++ " does not belong to a saved album"
  | notFound path => "File not found: " ++ path.text
  | config text => "Configuration error: " ++ text
  | within context fault => context ++ ": " ++ fault.message

/-- The words for a fault, followed by those for each of its causes. -/
def chain : Fault → List String
  | io text => [(io text).message, text]
  | migration cause => (migration cause).message :: migrationText cause :: cause.chain
  | within context fault => (within context fault).message :: fault.chain
  | fault => [fault.message]

/-- Whether a fault is, in whatever context, that of an album stored already. -/
def isDuplicateAlbum : Fault → Bool
  | duplicateAlbum _ => true
  | within _ fault => fault.isDuplicateAlbum
  | _ => false

end Fault

end MusicLibrary

import MusicLibrary.Command.Desk
import MusicLibrary.Command.Fields
import MusicLibrary.Command.Invocation
import MusicLibrary.Edit
import MusicLibrary.File.Scan
import MusicLibrary.Tags.Format
import MusicLibrary.Text.Quoting

/-!
# The commands

What each command does, in one session. Whatever can be refused without the library is refused
before the library is opened. Files are read with the reader of tags for FLAC and WAVE.
-/

namespace MusicLibrary

namespace FileTree

/-- The tags of the file that a path leads to, as the commands read them. -/
def readTags (t : FileTree) (p : Path) : Except Fault TrackTags := Tags.readSound.readTags t p

/-- Reads a directory as an album for a command. -/
def readAlbum (t : FileTree) (dir : Path) (s : Shelf) : Except Fault (Album × Shelf) :=
  Tags.readSound.readAlbum t dir s

/-- Reads a file as an album of one track for a command. -/
def readSingle (t : FileTree) (p : Path) (s : Shelf) : Except Fault (Album × Shelf) :=
  Tags.readSound.readSingle t p s

end FileTree

namespace Command

/-- The items of a list in words. -/
def counted (n : Nat) (kind : Kind) : String := s!"{n} {kind.name}s"

/-! ## Adding -/

/-- Reads an album from a path and adds it. -/
def addRead (settings : ImportSettings) (read : Path → Shelf → Except Fault (Album × Shelf))
    (p : Path) : Work Album := do
  let (a, s) ← Work.take (read p (← get).shelf)
  let (a, s) ← Work.within ("adding " ++ p.text)
    (Work.attempt fun st _ => st.addAlbum settings s a)
  Work.setShelf s
  return a

/-- Adds what a path leads to: a file as an album of one track, and of a directory each album
directory in it. -/
def addPath (settings : ImportSettings) (p : Path) : Work (List Album) := do
  let files := (← get).files
  if files.isDirectory p then
    match files.albumDirs p with
    | [] => throw (.fault (.noAudio p))
    | dirs => dirs.mapM (addRead settings files.readAlbum)
  else return [← addRead settings files.readSingle p]

/-- How an album that has been added is reported. -/
def addedLine (s : Shelf) (a : Album) : String := s!"Added: {a.shown s} ({a.tracks.length} tracks)"

/-- Adds what paths lead to, from the current directory. -/
def addAll (settings : ImportSettings) (paths : List Path) : Work Unit := do
  let albums ← paths.mapM fun p => do
    let some p := p.absolute? (← get).files.currentPath | throw .emptyPath
    let albums ← addPath settings p
    let s := (← get).shelf
    albums.forM fun a => Work.say (addedLine s a)
    return albums
  Work.commit
  let albums := albums.flatten
  let tracks := albums.foldl (fun n a => n + a.tracks.length) 0
  Work.say s!"\nCompleted: {albums.length} albums, {tracks} tracks"

/-! ## Listing -/

/-- Lists the items that a query finds, or their paths. -/
def listItems (query : String) (kind : Kind) (pathsOnly : Bool) : Work Unit := do
  let items ← Work.find query kind
  let s := (← get).shelf
  items.forM fun item => Work.say (if pathsOnly then (item.path s).text else item.shown s)
  Work.commit

/-- A text moved to the right of a column. -/
def alignRight (width : Nat) (s : String) : String :=
  .ofList (List.replicate (width - s.length) ' ') ++ s

/-- All fields of an item, one in a line. -/
def fieldLines (s : Shelf) (item : Item) : List String :=
  (item.fields s).map fun (name, value) => alignRight 14 name ++ ": " ++ value

/-- Lists all fields of the items that a query finds. -/
def listFields (query : String) (kind : Kind) : Work Unit := do
  let items ← Work.find query kind
  let s := (← get).shelf
  ([""].intercalate (items.map (fieldLines s))).forM Work.say
  Work.commit

/-! ## Changing -/

/-- Takes the result of an edit, or fails. -/
def takeEdited {α : Type} (r : Except EditFault α) : Work α :=
  Work.take (r.mapError fun f => .edit f.message)

/-- Applies edits to an item and saves it. -/
def editItem (edits : List FieldEdit) : Item → Work Item
  | .track t => do
    let t ← edits.foldlM (fun t e => do
      let (t, s) ← takeEdited (e.applyToTrack t (← get).shelf)
      Work.setShelf s
      return t) t
    return .track (← Work.attempt fun st s => st.saveTrack s t)
  | .album a => do
    edits.forM fun e => do Work.setShelf (← takeEdited (e.applyToAlbum a (← get).shelf))
    let (a, s) ← Work.attempt fun st s => st.saveAlbum s a
    Work.setShelf s
    return .album a
  | .extra e => do
    edits.forM fun edit => takeEdited (.error edit.refusalByExtra)
    return .extra (← Work.attempt fun st s => st.saveExtra s e)

/-- Edits the items that a query finds. -/
def editItems (query : String) (edits : List FieldEdit) (kind : Kind) : Work Unit := do
  let items ← Work.find query kind
  items.forM fun item => do
    let item ← editItem edits item
    Work.say ("Modified: " ++ item.shown (← get).shelf)
  Work.commit
  Work.say s!"\nCompleted: {counted items.length kind} modified"

/-- A store without an item. -/
def without (item : Item) (st : Store) (s : Shelf) : Store :=
  match item with
  | .track t => st.removeTrack t
  | .album a => st.removeAlbum s a
  | .extra e => st.removeExtra e

/-- Removes the items that a query finds; files are kept. -/
def removeItems (query : String) (kind : Kind) : Work Unit := do
  let items ← Work.find query kind
  items.forM fun item => do
    Work.alter (without item)
    Work.say ("Removed: " ++ item.shown (← get).shelf)
  Work.commit
  Work.say s!"\nCompleted: {counted items.length kind} removed"

/-! ## Plans -/

/-- The text of a query, each word of which is one term. -/
def queryText (words : List Word) : Except Failure String :=
  match Text.quoteAll? words with
  | some cs => .ok (.ofList cs)
  | none => .error .unquotable

/-- The work that an action comes to, once the library is open. -/
def Action.plan (c : Config) : Action → Except Failure (Work Unit)
  | .add [] =>
    match c.musicDir? with
    | none => .error .nothingToAdd
    | some dir => .ok (addAll c.importing [dir])
  | .add paths => .ok (addAll c.importing paths)
  | .list words kind pathsOnly => do return listItems (← queryText words) kind pathsOnly
  | .info words kind => do return listFields (← queryText words) kind
  | .edit words edits kind => do
    let query ← queryText words
    let edits ← (edits.mapM fun w => FieldEdit.parse (.ofList w)).mapError
      fun f => .fault (.edit f.message)
    return editItems query edits kind
  | .remove words kind => do return removeItems (← queryText words) kind

end Command

end MusicLibrary

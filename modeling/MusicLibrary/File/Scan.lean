import MusicLibrary.File.Tree
import MusicLibrary.Tags.Basic

/-!
# Finding albums in a tree of files

An album directory is one that directly holds audio files, which are known by their extensions. Its
audio files become tracks and its other files extras; audio files that cannot be read are passed
over. Albums are read with any reader of tags.
-/

namespace MusicLibrary

namespace FileTree

/-- Puts a path in its place of a list in ascending order, unless an equal one is there. -/
def placePath (p : Path) : List Path → List Path
  | [] => [p]
  | q :: rest =>
    match p.compare q with
    | .lt => p :: q :: rest
    | .eq => q :: rest
    | .gt => q :: placePath p rest

/-- The directories at or below a path that directly hold audio files, in ascending order. -/
def albumDirs (t : FileTree) (root : Path) : List Path :=
  let audio := ((t.filesBelow root).map (extend root)).filter Path.isAudio
  (audio.filterMap Path.parent?).foldl (fun dirs p => placePath p dirs) []

/-- The paths of the regular files directly in a directory, by name. -/
def filesIn (t : FileTree) (dir : Path) : List Path :=
  let names := (t.filesBelow dir).filterMap fun names => if names.length = 1 then names.head? else none
  (names.mergeSort fun a b => (compareNames a b).isLE).map dir.child

end FileTree

namespace TagReader

/-- The tags of the file that a path leads to. -/
def readTags (r : TagReader) (t : FileTree) (p : Path) : Except Fault TrackTags :=
  match t.file? p, p.lowerExtension? with
  | some bytes, some extension =>
    match r extension bytes with
    | .ok items? => .ok (.ofItems p items?)
    | .error message => .error (.metadata p message)
  | _, _ => .error (.metadata p "not an audio file")

/-- Reads a directory as an album. -/
def readAlbum (r : TagReader) (t : FileTree) (dir : Path) (s : Shelf) : Except Fault (Album × Shelf) :=
  if t.isDirectory dir then
    let (audio, others) := (t.filesIn dir).partition Path.isAudio
    Album.ofTags dir (audio.filterMap fun p => (r.readTags t p).toOption) others s
  else .error (.notFound dir)

/-- Reads a file as an album of one track, in the directory of the file. -/
def readSingle (r : TagReader) (t : FileTree) (p : Path) (s : Shelf) : Except Fault (Album × Shelf) :=
  if t.isFile p then do
    let tags ← r.readTags t p
    Album.ofTags (p.parent?.getD (.ofText "/")) [tags] [] s
  else .error (.notFound p)

end TagReader

end MusicLibrary

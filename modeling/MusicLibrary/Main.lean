import MusicLibrary.Command.Arguments
import MusicLibrary.Command.Machine

/-!
# The program

Reads command lines from standard input, splits each into words as a shell does, and carries it out
on a machine that has the files below the current directory. Libraries live as long as the program.
-/

namespace MusicLibrary.Program

open Command

/-- Reads a file or directory at a place, with all that is below it. -/
partial def readBelow (place : Place) (e : IO.FS.DirEntry) : IO (List (Place × Entry)) := do
  let place := place ++ [(Path.ofText e.fileName).units]
  match (← e.path.symlinkMetadata).type with
  | .dir =>
    let below ← (← e.path.readDir).toList.mapM (readBelow place)
    return (place, .directory) :: below.flatten
  | .file => return [(place, .file (← IO.FS.readBinFile e.path).toList)]
  | _ => return []

/-- The files below the current directory. -/
def readFiles : IO FileTree := do
  let dir ← IO.currentDir
  let empty : FileTree := ⟨[], []⟩
  let place := empty.placeOf (.ofText dir.toString)
  let below ← (← dir.readDir).toList.mapM (readBelow place)
  return ⟨below.flatten, place⟩

/-- A directory of the user: one named in the environment, or else one in the home directory. -/
def userDir (name fallback : String) : IO Path := do
  match ← IO.getEnv name with
  | some dir => return .ofText dir
  | none => return (Path.ofText ((← IO.getEnv "HOME").getD "/")).join (.ofText fallback)

/-- Carries out a command line. -/
def runLine (m : Machine) (line : String) : IO Machine := do
  match Text.words? line.toList with
  | none => IO.eprintln "a quote is left open"; return m
  | some words =>
    match Invocation.parse words with
    | .error f => IO.eprintln f.message; return m
    | .ok i =>
      let (r, m) := m.run i
      IO.print r.output
      if let some f := r.failure? then IO.eprintln (": ".intercalate f.chain)
      return m

/-- Carries out the command lines of a stream. -/
partial def runLines (m : Machine) (input : IO.FS.Stream) : IO Unit := do
  let line ← input.getLine
  if line.isEmpty then return
  runLines (← runLine m line) input

end MusicLibrary.Program

def main : IO Unit := do
  let dirs : MusicLibrary.UserDirs :=
    ⟨← MusicLibrary.Program.userDir "XDG_CONFIG_HOME" ".config",
      ← MusicLibrary.Program.userDir "XDG_DATA_HOME" ".local/share"⟩
  let files ← MusicLibrary.Program.readFiles
  MusicLibrary.Program.runLines ⟨files, [], dirs⟩ (← IO.getStdin)

import MusicLibrary.Path.Component
import MusicLibrary.Unicode.LowerCase

/-!
# Extensions of files

The extension of a file tells its format, whatever the case of its letters.
-/

namespace MusicLibrary

/-- The extensions of audio files. -/
def audioExtensions : List String := ["mp3", "flac", "ogg", "wav", "m4a"]

namespace Path

/-- The extension in lower case, if it is text. -/
def lowerExtension? (p : Path) : Option String := do
  let cs ← (← p.extension?).mapM PathUnit.char?
  return lowerCase (.ofList cs)

/-- Whether a path has the extension of an audio file. -/
def isAudio (p : Path) : Bool := p.lowerExtension?.any audioExtensions.contains

end Path

end MusicLibrary

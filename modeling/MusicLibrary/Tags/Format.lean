import MusicLibrary.Tags.Comments

/-!
# Formats of audio files

Files of the formats FLAC and WAVE, as far as their tags go. A FLAC file is a mark followed by
blocks of metadata, one of which may hold comments. A WAVE file is a list of chunks; it is read as a
file without tags. `readSound` is the reader of tags for these two formats; it refuses all others.
-/

namespace MusicLibrary.Tags

/-! ## FLAC -/

/-- The mark in front of the blocks. -/
def flacMark : List UInt8 := [0x66, 0x4C, 0x61, 0x43]

/-- A block of metadata, as far as the file reaches. -/
structure FlacBlock where
  last : Bool
  type : UInt8
  size : Nat
  content : List UInt8
  /-- the bytes after the block; none if the file ends within it -/
  rest? : Option (List UInt8)

/-- Reads a block with its head of four bytes. -/
def readFlacBlock? : List UInt8 → Option FlacBlock
  | head :: a :: b :: c :: rest =>
    let size := 0x10000 * a.toNat + 0x100 * b.toNat + c.toNat
    some ⟨0x80 ≤ head, head % 0x80, size, rest.take size, (takeExact? size rest).map (·.2)⟩
  | _ => none

/-- Whether a block of a type may be empty. -/
def mayBeEmpty (type : UInt8) : Bool := type = 1 || type = 3

/-- Reads blocks up to the last one; the comments are those of the last block that holds any. -/
def readFlacBlocks? (found : Comments) (bytes : List UInt8) : Option Comments :=
  match readFlacBlock? bytes with
  | none => none
  | some b =>
    if b.size = 0 && !mayBeEmpty b.type then none
    else
      match b.rest? with
      | none => none
      | some rest =>
        match if b.type = 4 then readComments? b.content else some found with
        | none => none
        | some found =>
          if b.last then some found
          else if rest.length < bytes.length then readFlacBlocks? found rest
          else none
termination_by bytes.length

/-- The size of the description of the sound, which the first block has to hold. -/
def leastFlacStart : Nat := 34

/-- The comments of a FLAC file. -/
def readFlac? (bytes : List UInt8) : Option Comments := do
  let (mark, rest) ← takeExact? 4 bytes
  if mark ≠ flacMark then none
  else
    let start ← readFlacBlock? rest
    let rest ← start.rest?
    if start.type ≠ 0 || start.size < leastFlacStart then none
    else if start.last then some []
    else readFlacBlocks? [] rest

/-! ## WAVE -/

/-- Whether chunks hold a description of the sound and the sound. -/
def soundChunks (described sounding : Bool) (bytes : List UInt8) : Bool :=
  match takeExact? 4 bytes with
  | none => described && sounding
  | some (name, more) =>
    match readLength? more with
    | none => described && sounding
    | some (size, rest) =>
      let described := described || (name = [0x66, 0x6D, 0x74, 0x20] && 16 ≤ size)
      let sounding := sounding || (name = [0x64, 0x61, 0x74, 0x61] && 0 < size)
      if h : (rest.drop (size + size % 2)).length < bytes.length then
        soundChunks described sounding (rest.drop (size + size % 2))
      else false
termination_by bytes.length
decreasing_by exact h

/-- Whether bytes are those of a WAVE file. -/
def isWave (bytes : List UInt8) : Bool :=
  bytes.take 4 = [0x52, 0x49, 0x46, 0x46] && (bytes.drop 8).take 4 = [0x57, 0x41, 0x56, 0x45] &&
    soundChunks false false (bytes.drop 12)

/-! ## Files -/

/-- Reads the comments of FLAC files, and takes WAVE files for ones without a tag. -/
def readSound : TagReader := fun extension bytes =>
  if extension = "flac" then
    match readFlac? bytes with
    | some fields => .ok (some fields.items)
    | none => .error "no tags can be read"
  else if (extension = "wav" || extension = "wave") && isWave bytes then .ok none
  else .error "no tags can be read"

end MusicLibrary.Tags

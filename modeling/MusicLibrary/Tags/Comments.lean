import MusicLibrary.Tags.Basic
import MusicLibrary.Text.Blank
import MusicLibrary.Text.Numeral

/-!
# Comments of audio files

A block of comments holds the name of the program that wrote it and a list of fields, each a name
and a value with an equals sign between them. All lengths are numbers of four bytes, the lowest byte
first. Names are compared without regard to case, and the first field of a name counts.
-/

namespace MusicLibrary.Tags

/-- The fields of a block of comments, with names in upper case. -/
abbrev Comments := List (String × String)

/-- The text that bytes encode, if they encode one; null characters at its end are left out. -/
def text? (bytes : List UInt8) : Option String := do
  let cs ← (PathUnit.decode bytes).mapM PathUnit.char?
  return .ofList (cs.reverse.dropWhile (· = '\x00')).reverse

/-- The number in the first four bytes, and the bytes after them. -/
def readLength? : List UInt8 → Option (Nat × List UInt8)
  | a :: b :: c :: d :: rest =>
    some (a.toNat + 0x100 * b.toNat + 0x10000 * c.toNat + 0x1000000 * d.toNat, rest)
  | _ => none

/-- Takes a number of bytes off the front, if there are so many. -/
def takeExact? (n : Nat) (bytes : List UInt8) : Option (List UInt8 × List UInt8) :=
  if n ≤ bytes.length then some (bytes.take n, bytes.drop n) else none

/-- A block of bytes with its length in front. -/
def readBlock? (bytes : List UInt8) : Option (List UInt8 × List UInt8) := do
  let (n, rest) ← readLength? bytes
  takeExact? n rest

/-- Whether a byte may stand in the name of a field. -/
def fitsKey (b : UInt8) : Bool := 0x20 ≤ b && b ≤ 0x7D && b ≠ 0x3D

/-- The number and the total of a text such as `3/12`. -/
def splitTotal (value : String) : Option Nat × Option Nat :=
  let (front, back?) :=
    match Text.cut? '/' value.toList with
    | some (front, back) => (front, some back)
    | none => (value.toList, none)
  (Text.nat32? front, back?.bind Text.nat32?)

/-- The fields of a comment. A number of a track may come with the total number of tracks. -/
def fieldsOf (key value : String) : Comments :=
  if key = "TRACKNUMBER" then
    let (number?, total?) := splitTotal value
    (key, (number?.map fun n => Text.showInt n).getD value) ::
      (total?.map fun n => ("TRACKTOTAL", Text.showInt n)).toList
  else [(key, value)]

/-- The fields of the bytes of a comment: none if it has no equals sign or no proper name, or if its
value is no text. -/
def readComment (bytes : List UInt8) : Comments :=
  let key := bytes.takeWhile (· ≠ 0x3D)
  match bytes.drop key.length with
  | [] => []
  | _ :: value =>
    if key.all fitsKey then
      match text? value with
      | some v => fieldsOf (.ofList (key.map fun b => (Char.ofNat b.toNat).toUpper)) v
      | none => []
    else []

/-- Reads a number of comments. `room` bounds the lengths of those that are left. -/
def readFields? : Nat → Nat → List UInt8 → Option Comments
  | 0, _, _ => some []
  | k + 1, room, bytes => do
    let (n, rest) ← readLength? bytes
    if room < n then none
    else
      let (comment, rest) ← takeExact? n rest
      let fields ← readFields? k (room - n) rest
      return readComment comment ++ fields

/-- The fields of a block of comments. -/
def readComments? (bytes : List UInt8) : Option Comments := do
  let (writer, rest) ← readBlock? bytes
  let (count, rest) ← readLength? rest
  let room := bytes.length - writer.length
  if room / 4 < count then none else readFields? count room rest

/-! ## The items of comments -/

namespace Comments

/-- The value of the first field with one of some names. -/
def value? (names : List String) (fields : Comments) : Option String :=
  (fields.find? fun f => names.contains f.1).map (·.2)

/-- The value as a number. -/
def number? (names : List String) (fields : Comments) : Option UInt32 := do
  let n ← Text.nat32? (← fields.value? names).toList
  return .ofNat n

/-- The four digits at the front of a text, as a number. -/
def leadingYear? (value : String) : Option UInt32 :=
  let digits := ((Text.trimLeft value.toList).take 4).takeWhile Char.isDigit
  if digits.length = 4 then some (.ofNat (Text.digitsValue digits)) else none

/-- The items of a tag that comments make up. -/
def items (fields : Comments) : TagItems where
  title? := fields.value? ["TITLE"]
  artist? := fields.value? ["ARTIST"]
  albumArtist? := fields.value? ["ALBUMARTIST"]
  album? := fields.value? ["ALBUM"]
  genre? := fields.value? ["GENRE"]
  year? := ((fields.value? ["DATE"]).or (fields.value? ["YEAR"])).bind leadingYear?
  recordingDate? := fields.value? ["DATE"]
  originalDate? := fields.value? ["ORIGINALDATE"]
  track? := fields.number? ["TRACKNUMBER"]
  trackTotal? := fields.number? ["TRACKTOTAL", "TOTALTRACKS"]
  disc? := fields.number? ["DISCNUMBER"]
  discTotal? := fields.number? ["DISCTOTAL", "TOTALDISCS"]
  label? := fields.value? ["LABEL", "ORGANIZATION"]
  mbReleaseId? := fields.value? ["MUSICBRAINZ_ALBUMID"]
  mbRecordingId? := fields.value? ["MUSICBRAINZ_TRACKID"]

end Comments

end MusicLibrary.Tags

import MusicLibrary.Album.Basic
import MusicLibrary.Kind
import MusicLibrary.Text.Blank
import MusicLibrary.Text.Numeral

/-!
# Edits

An edit assigns a value to a named field of an item. Fields of an album may be edited through the
album or through any of its tracks, with the same effect. Paths are never edited. An edit that is
refused changes nothing.
-/

namespace MusicLibrary

/-- Why an edit is refused. -/
inductive EditFault where
  /-- the text holds no equals sign -/
  | noAssignment (text : String)
  | noField (text : String)
  | notInteger (field value : String)
  | notDate (field value : String)
  | fixed (field : String)
  | unknownField (kind : Kind) (field : String)
deriving DecidableEq, Inhabited, Repr

/-- The words for a refused edit. -/
def EditFault.message : EditFault → String
  | noAssignment text => s!"expected <field>=<value>, got '{text}'"
  | noField text => s!"missing field name in '{text}'"
  | notInteger field value => s!"{field} expects an integer, got '{value}'"
  | notDate field value => s!"{field} expects a date (%Y-%m-%d), got '{value}'"
  | fixed field => s!"{field} cannot be edited"
  | unknownField kind field => s!"unknown {kind.name} field '{field}'"

/-- The assignment of a value to a field. -/
structure FieldEdit where
  field : String
  value : String
deriving DecidableEq, Inhabited, Repr

namespace FieldEdit

/-- Reads an edit: the name of the field goes up to the first equals sign. -/
def parse (text : String) : Except EditFault FieldEdit :=
  match Text.cut? '=' text.toList with
  | none => .error (.noAssignment text)
  | some (front, value) =>
    let field := lowerCase (.ofList (Text.trim front))
    if field = "" then .error (.noField text) else .ok ⟨field, .ofList value⟩

/-- The text of an edit. -/
def shown (e : FieldEdit) : String := e.field ++ "=" ++ e.value

/-! ## Values -/

/-- The value without the blanks at its ends, unless nothing else is in it. -/
def optional? (e : FieldEdit) : Option String :=
  let cs := Text.trim e.value.toList
  if cs.isEmpty then none else some (.ofList cs)

/-- The value as an integer. -/
def integer (e : FieldEdit) : Except EditFault Int :=
  match Text.int64? (Text.trim e.value.toList) with
  | some n => .ok n
  | none => .error (.notInteger e.field e.value)

/-- The value as an integer, or nothing if it is blank. -/
def optionalInteger (e : FieldEdit) : Except EditFault (Option Int) :=
  match e.optional? with
  | none => .ok none
  | some text =>
    match Text.int64? text.toList with
    | some n => .ok (some n)
    | none => .error (.notInteger e.field text)

/-- The value as a date, or nothing if it is blank. -/
def optionalDate (e : FieldEdit) : Except EditFault (Option Date) :=
  match e.optional? with
  | none => .ok none
  | some text =>
    match Date.parse? text with
    | some d => .ok (some d)
    | none => .error (.notDate e.field e.value)

/-! ## Applying edits -/

/-- Applies an edit to the fields of an album that is reached through an item of a kind. -/
def applyToInfo (kind : Kind) (e : FieldEdit) (i : AlbumInfo) : Except EditFault AlbumInfo :=
  match e.field with
  | "album" => .ok { i with title := e.value }
  | "albumartist" => .ok { i with artist := e.value }
  | "year" => e.integer.map ({ i with year := · })
  | "date" => e.optionalDate.map ({ i with date? := · })
  | "original_date" => e.optionalDate.map ({ i with originalDate? := · })
  | "label" => .ok { i with label? := e.optional? }
  | "mb_album_id" => .ok { i with mbAlbumId? := e.optional? }
  | "track_total" => e.optionalInteger.map ({ i with trackTotal? := · })
  | "disc_total" => e.integer.map ({ i with discTotal := · })
  | "album_path" => .error (.fixed e.field)
  | _ => .error (.unknownField kind e.field)

/-- Applies an edit to an album. -/
def applyToAlbum (e : FieldEdit) (a : Album) (s : Shelf) : Except EditFault Shelf :=
  (e.applyToInfo .album (a.info s)).map (s.write a.handle)

/-- Applies an edit to a track; fields of the album are changed for all that share them. -/
def applyToTrack (e : FieldEdit) (t : Track) (s : Shelf) : Except EditFault (Track × Shelf) :=
  match e.field with
  | "title" => .ok ({ t with title := e.value }, s)
  | "artist" => .ok ({ t with artist := e.value }, s)
  | "track_num" => e.integer.map fun n => ({ t with trackNum := n }, s)
  | "disc" => e.integer.map fun n => ({ t with disc := n }, s)
  | "genre" => .ok ({ t with genres := .ofList (splitGenres e.value) }, s)
  | "mb_track_id" => .ok ({ t with mbTrackId? := e.optional? }, s)
  | "album" => .ok (t, t.setAlbumTitle e.value s)
  | "albumartist" => .ok (t, t.setAlbumArtist e.value s)
  | "year" => e.integer.map fun n => (t, t.setAlbumYear n s)
  | "path" => .error (.fixed e.field)
  | _ => (e.applyToInfo .track (s.read t.album)).map fun i => (t, s.write t.album i)

/-- An extra has no field that could be edited. -/
def refusalByExtra (e : FieldEdit) : EditFault :=
  if e.field = "path" ∨ e.field = "filename" then .fixed e.field else .unknownField .extra e.field

end FieldEdit

end MusicLibrary

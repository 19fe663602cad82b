import MusicLibrary.Pattern.Expression
import MusicLibrary.Query.Field
import MusicLibrary.Query.Term
import MusicLibrary.Text.Wildcard

/-!
# Predicates

A predicate is a term whose field is known and whose value can be compared with. It holds on rows if
some value of the field there matches; a field without a value matches nothing.

A predicate is also written as a condition of a statement. The text of the condition depends on the
field and on the kind of comparison alone: the value is bound to a mark in it.
-/

namespace MusicLibrary

/-- What the values of a field are compared with. -/
inductive Comparison where
  | like (pattern : String)
  /-- a regular expression with its text -/
  | regex (text : String) (r : Pattern.Regex)

namespace Comparison

/-- Whether a value matches. -/
def accepts (c : Comparison) (value : String) : Bool :=
  match c with
  | like pattern => Text.like pattern value
  | regex _ r => r.foundIn value

/-- The text that is bound in a statement. A regular expression ignores case. -/
def bound : Comparison → String
  | like pattern => pattern
  | regex text _ => "(?i)" ++ text

end Comparison

/-- A condition on one field. -/
structure Predicate where
  field : Field
  comparison : Comparison

/-- A piece of a statement. -/
inductive Piece where
  | text (s : String)
  /-- a value that is bound -/
  | bind (s : String)
deriving DecidableEq, Inhabited, Repr

namespace Piece

/-- The text of a statement, with a mark for each bound value. -/
def render (pieces : List Piece) : String :=
  String.join (pieces.map fun
    | text s => s
    | bind _ => "?")

/-- The values bound in a statement, in order. -/
def bindings (pieces : List Piece) : List String :=
  pieces.filterMap fun
    | text _ => none
    | bind s => some s

end Piece

namespace Predicate

/-- The predicate of a term. -/
def ofTerm (kind : Kind) (t : Term) : Except QueryFault Predicate :=
  match Field.find? kind t.field with
  | none => .error (.unknownField t.field kind)
  | some field =>
    match t.separator with
    | .like =>
      if Text.danglingEscape t.value.toList then .error (.danglingEscape t.value)
      else .ok ⟨field, .like t.value⟩
    | .regex =>
      match Pattern.Regex.parse? t.value with
      | none => .error (.invalidRegex t.value)
      | some r => .ok ⟨field, .regex t.value r⟩

/-- Whether a predicate holds on joined rows. -/
def holds (st : Store) (j : JoinedRow) (p : Predicate) : Bool :=
  (p.field.column.values st j).any p.comparison.accepts

/-- A column as text in a statement. -/
def expression (column : Column) (name : String) : String :=
  if column.kind = .integer then s!"CAST({name} AS TEXT)" else name

/-- The condition of a statement. -/
def pieces (p : Predicate) : List Piece :=
  let bound := Piece.bind p.comparison.bound
  match p.field.column.name?, p.comparison with
  | some name, .like _ =>
    [.text (expression p.field.column name ++ " LIKE "), bound, .text " ESCAPE '/'"]
  | some name, .regex _ _ =>
    [.text s!"({name} IS NOT NULL AND {expression p.field.column name} REGEXP ", bound, .text ")"]
  | none, .like _ =>
    [.text "EXISTS (SELECT 1 FROM track_genres tg WHERE tg.track_id = t.id AND tg.genre LIKE ",
      bound, .text " ESCAPE '/')"]
  | none, .regex _ _ =>
    [.text "EXISTS (SELECT 1 FROM track_genres tg WHERE tg.track_id = t.id AND tg.genre REGEXP ",
      bound, .text ")"]

/-- The condition as a text. -/
def sql (p : Predicate) : String := Piece.render p.pieces

end Predicate

end MusicLibrary

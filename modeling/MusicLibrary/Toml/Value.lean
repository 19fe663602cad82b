import MusicLibrary.Score

/-!
# Values of TOML

A document is a table of keys and values. A table is made in one of several ways, and the way it was
made says what may be added to it later: a table is given a header only once, and keys with dots
reach only into tables that were made by such keys.
-/

namespace MusicLibrary.Toml

/-- How a table was made. -/
inductive Style where
  /-- by a header of its own, or as the document -/
  | header
  /-- on the way to a table with a header -/
  | implied
  /-- by a key with dots -/
  | dotted
  /-- within braces -/
  | inline
deriving DecidableEq, Inhabited, Repr

/-- A value; of a date it is only known that it is one. -/
inductive Value where
  | text (s : String)
  | integer (n : Int)
  | float (x : Score)
  | boolean (b : Bool)
  | date
  | array (items : List Value)
  | table (style : Style) (entries : List (String × Value))
  /-- the tables made by doubled headers -/
  | tables (elements : List (List (String × Value)))
deriving Inhabited

/-- The keys of a table with their values. -/
abbrev Entries := List (String × Value)

namespace Entries

/-- Replaces the value of a key. -/
def set (entries : Entries) (key : String) (v : Value) : Entries :=
  entries.map fun e => if e.1 = key then (key, v) else e

/-- Changes the table that keys lead to, making the tables on the way that are missing. The keys are
those of a header, or of a key with dots. -/
def change? (byDots : Bool) (f : Style → Entries → Option Entries) :
    List String → Style → Entries → Option Entries
  | [], style, entries => f style entries
  | key :: path, _, entries =>
    match entries.lookup key with
    | none =>
      let style := if byDots then .dotted else .implied
      (change? byDots f path style []).map fun inner => entries ++ [(key, .table style inner)]
    | some (.table style inner) =>
      if style = .inline || (byDots && style = .header) then none
      else (change? byDots f path style inner).map fun inner => entries.set key (.table style inner)
    | some (.tables elements) =>
      (change? byDots f path .header (elements.getLast?.getD [])).map fun inner =>
        entries.set key (.tables (elements.dropLast ++ [inner]))
    | some _ => none

/-- Adds a value under a key, which may have dots in front of its last part. -/
def insert? (path : List String) (key : String) (v : Value) (style : Style) (entries : Entries) :
    Option Entries :=
  change? true
    (fun style entries =>
      if (style = .dotted) = path.isEmpty || (entries.lookup key).isSome then none
      else some (entries ++ [(key, v)]))
    path style entries

/-- Makes the table of a header. -/
def openTable? (path : List String) (key : String) (entries : Entries) : Option Entries :=
  change? false
    (fun _ entries =>
      match entries.lookup key with
      | none => some (entries ++ [(key, .table .header [])])
      | some (.table .implied inner) => some (entries.set key (.table .header inner))
      | some _ => none)
    path .header entries

/-- Makes a further table of a doubled header. -/
def openElement? (path : List String) (key : String) (entries : Entries) : Option Entries :=
  change? false
    (fun _ entries =>
      match entries.lookup key with
      | none => some (entries ++ [(key, .tables [[]])])
      | some (.tables elements) => some (entries.set key (.tables (elements ++ [[]])))
      | some _ => none)
    path .header entries

end Entries

end MusicLibrary.Toml

import MusicLibrary.Pattern.Bracket
import MusicLibrary.Pattern.Weight

/-!
# The text of expressions

Reading an expression from its text. Alternatives, sequences, groups, repetitions and sets may not
be nested deeper than `depthLimit`, and the expression may not be heavier than `weightLimit`.
-/

namespace MusicLibrary.Pattern

open Unicode

/-- How deep the parts of an expression may be nested. -/
def depthLimit : Nat := 250

/-- A part of an expression that has been read. -/
structure Part where
  regex : Regex
  depth : Nat
  /-- a change of flags is a part that cannot be repeated -/
  repeatable : Bool

namespace Part

/-- A part that nests nothing. -/
def plain (r : Regex) : Part := ⟨r, 0, true⟩

/-- The sequence of parts, the last one first. -/
def sequence : List Part → Part
  | [] => plain .empty
  | [p] => p
  | p :: ps =>
    ⟨ps.foldl (fun r q => .cat q.regex r) p.regex, ps.foldl (fun d q => max d q.depth) p.depth + 1,
      true⟩

/-- The choice between parts, the last one first. -/
def choice : List Part → Part
  | [] => plain .empty
  | [p] => p
  | p :: ps =>
    ⟨ps.foldl (fun r q => .alt q.regex r) p.regex, ps.foldl (fun d q => max d q.depth) p.depth + 1,
      true⟩

/-- A part repeated between a least and a largest number of times. -/
def repeated (p : Part) (counts : Nat × Option Nat) : Part :=
  ⟨.times counts.1 counts.2 p.regex, p.depth + 1, true⟩

end Part

/-- An open group: what to return to when it is closed. -/
structure Group where
  /-- the flags outside -/
  flags : Flags
  captures : Bool
  branches : List Part
  parts : List Part

/-- How far an expression has been read. Alternatives and parts stand in reverse. -/
structure Reading where
  flags : Flags
  /-- the names of groups so far -/
  names : List (List Char)
  open_ : List Group
  branches : List Part
  parts : List Part

namespace Reading

def start : Reading := ⟨.initial, [], [], [], []⟩

def add (s : Reading) (p : Part) : Reading := { s with parts := p :: s.parts }

/-- The choice between the alternatives read on this level. -/
def value (s : Reading) : Part := .choice (.sequence s.parts :: s.branches)

/-- Opens a group whose parts are read with given flags. -/
def enter (s : Reading) (captures : Bool) (flags : Flags) : Reading :=
  { s with
    flags := flags
    open_ := ⟨s.flags, captures, s.branches, s.parts⟩ :: s.open_
    branches := []
    parts := [] }

/-- Closes the innermost group. -/
def leave? (s : Reading) : Option Reading :=
  match s.open_ with
  | [] => none
  | g :: outer =>
    let inner := s.value
    let regex := if g.captures then .capture inner.regex else inner.regex
    some
      { s with
        flags := g.flags
        open_ := outer
        branches := g.branches
        parts := ⟨regex, inner.depth + 1, true⟩ :: g.parts }

/-- Repeats the last part. -/
def repeat? (s : Reading) (counts : Nat × Option Nat) : Option Reading :=
  match s.parts with
  | p :: rest => if p.repeatable then some { s with parts := p.repeated counts :: rest } else none
  | [] => none

end Reading

/-- A question mark after a repetition changes no search. -/
def skipLazy : List Char → List Char
  | '?' :: rest => rest
  | rest => rest

/-- Whether a character may stand in the name of a group. -/
def fitsName (first : Bool) (c : Char) : Bool :=
  c = '_' || alphabetic.has c ||
    (!first && (c = '.' || c = '[' || c = ']' || categoryNd.has c || categoryNl.has c ||
      categoryNo.has c))

/-- Reads the name of a group up to its closing angle bracket. -/
def readName? (cs : List Char) : Option (List Char × List Char) :=
  let name := cs.takeWhile (· ≠ '>')
  match name, cs.drop name.length with
  | c :: more, '>' :: rest =>
    if fitsName true c && more.all (fitsName false) then some (name, rest) else none
  | _, _ => none

/-- Reads the front of a group after its opening bracket, or a change of flags. -/
def readGroup? (s : Reading) (cs : List Char) : Option (Reading × List Char) :=
  match skip s.flags.spaced cs with
  | '?' :: '=' :: _ | '?' :: '!' :: _ | '?' :: '<' :: '=' :: _ | '?' :: '<' :: '!' :: _ => none
  | '?' :: 'P' :: '<' :: rest | '?' :: '<' :: rest => do
    let (name, rest) ← readName? rest
    if s.names.contains name then none
    else return ({ s with names := name :: s.names }.enter true s.flags, rest)
  | '?' :: rest => do
    let (flags, seen, stop, rest) ← readFlags? s.flags true [] rest
    if stop = ':' then return (s.enter false flags, rest)
    else if seen.isEmpty then none
    else return ({ s with flags := flags, parts := ⟨.empty, 0, false⟩ :: s.parts }, rest)
  | rest => some (s.enter true s.flags, rest)

/-- The part for a character of the text. -/
def charPart? (f : Flags) (c : Char) (byte : Bool) : Option Part :=
  if !f.unicode && byte && 0x80 ≤ c.toNat then none
  else some (.plain (.chars (f.fold (.single c.toNat))))

/-- The part for a dot. -/
def dotPart? (f : Flags) : Option Part :=
  if !f.unicode then none
  else
    some (.plain (.chars
      (if f.dotAll then everything
      else if f.crlf then CodeSet.compl ⟨[(0xA, 0xA), (0xD, 0xD)]⟩
      else (CodeSet.single 0xA).compl)))

/-- The conditions of a circumflex and a dollar sign. -/
def anchor (f : Flags) (start : Bool) : Look :=
  if f.multiLine then
    if f.crlf then (if start then .returnStart else .returnEnd)
    else if start then .lineStart else .lineEnd
  else if start then .textStart else .textEnd

/-- Reads the next piece of an expression. -/
def readPiece? (s : Reading) (c : Char) (rest : List Char) : Option (Reading × List Char) :=
  let spaced := s.flags.spaced
  match c with
  | '(' => readGroup? s rest
  | ')' => s.leave?.map (·, rest)
  | '|' => some ({ s with branches := .sequence s.parts :: s.branches, parts := [] }, rest)
  | '[' => (readSet? s.flags rest).map fun p => (s.add ⟨.chars p.1.set, p.1.depth, true⟩, p.2)
  | '?' => (s.repeat? (0, some 1)).map (·, skipLazy rest)
  | '*' => (s.repeat? (0, none)).map (·, skipLazy rest)
  | '+' => (s.repeat? (1, none)).map (·, skipLazy rest)
  | '\x7b' => do
    let (counts, rest) ← readCounts? spaced rest
    return (← s.repeat? counts, skipLazy (skip spaced rest))
  | '.' => (dotPart? s.flags).map fun p => (s.add p, rest)
  | '^' => some (s.add (.plain (.look (anchor s.flags true))), rest)
  | '$' => some (s.add (.plain (.look (anchor s.flags false))), rest)
  | '\\' => do
    let (escape, rest) ← readEscape? s.flags rest
    match escape with
    | .char c byte => return (s.add (← charPart? s.flags c byte), rest)
    | .set set => return (s.add (.plain (.chars set)), rest)
    | .look l => return (s.add (.plain (.look l)), rest)
  | c => (charPart? s.flags c false).map fun p => (s.add p, rest)

/-- Reads the rest of an expression. -/
def readFrom? (s : Reading) (cs : List Char) : Option Part :=
  match skip s.flags.spaced cs with
  | [] => if s.open_.isEmpty then some s.value else none
  | c :: rest =>
    match readPiece? s c rest with
    | none => none
    | some (s, more) => if more.length < cs.length then readFrom? s more else none
termination_by cs.length

namespace Regex

/-- The expression that a text denotes, for a search in either case. -/
def parse? (text : String) : Option Regex :=
  match readFrom? .start text.toList with
  | none => none
  | some p => if p.depth ≤ depthLimit ∧ p.regex.weight ≤ weightLimit then some p.regex else none

end Regex

end MusicLibrary.Pattern

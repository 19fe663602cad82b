import MusicLibrary.Pattern.Escape

/-!
# Sets in brackets

A set of characters in square brackets is a union of characters, ranges, classes and further sets
in brackets. Unions may be joined by `&&` (in both), `--` (in the first alone) and `~~` (in one
alone), from left to right. How deep brackets, unions and joins are nested is counted on the way.
-/

namespace MusicLibrary.Pattern

open Unicode

/-- How two unions are joined. -/
inductive Join where
  | both
  | first
  | one
deriving DecidableEq, Repr

/-- A set with the depth to which it is nested. -/
structure Nested where
  set : CodeSet
  depth : Nat

/-- The members of a union that have been read. -/
structure Members where
  count : Nat
  all : Nested

namespace Members

def none : Members := ⟨0, .empty, 0⟩

def add (m : Members) (n : Nested) : Members :=
  ⟨m.count + 1, m.all.set.union n.set, max m.all.depth n.depth⟩

def addSet (m : Members) (s : CodeSet) : Members := m.add ⟨s, 0⟩

/-- The union of all members; of two or more it is one level deeper than they. -/
def union (m : Members) : Nested := ⟨m.all.set, if m.count ≤ 1 then m.all.depth else m.all.depth + 1⟩

end Members

/-- An open bracket. -/
structure Bracket where
  negated : Bool
  /-- what stands before the last join, with the join -/
  before? : Option (Nested × Join)
  members : Members

namespace Bracket

/-- The set in an open bracket up to here. -/
def value (f : Flags) (b : Bracket) : Nested :=
  let right := b.members.union
  match b.before? with
  | none => right
  | some (left, join) =>
    let s := f.fold left.set
    let t := f.fold right.set
    ⟨match join with
      | .both => s.inter t
      | .first => s.diff t
      | .one => s.symmDiff t,
      max left.depth right.depth + 1⟩

/-- Goes on after a join. -/
def join (f : Flags) (j : Join) (b : Bracket) : Bracket :=
  { b with before? := some (b.value f, j), members := .none }

def add (b : Bracket) (n : Nested) : Bracket := { b with members := b.members.add n }

/-- The set of a bracket that is closed. -/
def close? (f : Flags) (b : Bracket) : Option Nested := do
  let value := b.value f
  return ⟨← f.classSet? b.negated (f.fold value.set), value.depth + 1⟩

end Bracket

/-- A character as a set; as a byte it has to be one of ASCII. -/
def charSet? (f : Flags) (c : Char) : Option CodeSet :=
  if f.unicode || c.toNat < 0x80 then some (.single c.toNat) else none

/-- Reads a character or an escape. -/
def readUnit? (f : Flags) : List Char → Option (Escape × List Char)
  | [] => none
  | '\\' :: rest => readEscape? f rest
  | c :: rest => some (.char c false, rest)

/-- Reads a member of a union: a character, a range or a class. -/
def readMember? (f : Flags) (cs : List Char) : Option (CodeSet × List Char) := do
  let (unit, rest) ← readUnit? f cs
  match skip f.spaced rest with
  | [] => none
  | '-' :: more =>
    let next := glance? f.spaced more
    if next = some ']' ∨ next = some '-' then ending unit ('-' :: more)
    else
      let (other, rest) ← readUnit? f (skip f.spaced more)
      match unit, other with
      | .char c _, .char d _ =>
        let _ ← charSet? f c
        let _ ← charSet? f d
        if c ≤ d then return (.range c.toNat d.toNat, rest) else none
      | _, _ => none
  | rest => ending unit rest
where
  /-- A member that is no range. -/
  ending (unit : Escape) (rest : List Char) : Option (CodeSet × List Char) :=
    match unit with
    | .char c _ => (charSet? f c).map (·, rest)
    | .set s => some (s, rest)
    | .look _ => none

/-- Reads a class of ASCII characters after its bracket, such as `:alpha:]`. -/
def readAscii? (cs : List Char) : Option (Bool × CodeSet × List Char) :=
  match cs with
  | ':' :: rest =>
    let negated := rest.head? = some '^'
    let rest := if negated then rest.drop 1 else rest
    match rest.dropWhile (· ≠ ':') with
    | ':' :: ']' :: more => (asciiClass? (rest.takeWhile (· ≠ ':'))).map (negated, ·, more)
    | _ => none
  | _ => none

/-- Reads what may stand only at the front of a set in brackets: a circumflex, hyphens, or a closing
bracket as a member. -/
def openBracket? (f : Flags) (cs : List Char) : Option (Bracket × List Char) :=
  let cs := skip f.spaced cs
  let negated := cs.head? = some '^'
  let (hyphens, cs) := readHyphens f.spaced false 0 (if negated then cs.drop 1 else cs)
  let members := (List.replicate hyphens (CodeSet.single 0x2D)).foldl Members.addSet .none
  match cs with
  | [] => none
  | ']' :: rest =>
    if hyphens = 0 then
      match skip f.spaced rest with
      | [] => none
      | rest => some (⟨negated, none, .addSet .none (.single 0x5D)⟩, rest)
    else some (⟨negated, none, members⟩, ']' :: rest)
  | cs => some (⟨negated, none, members⟩, cs)

/-- What the next step in a set in brackets leads to. -/
inductive BracketStep where
  | goOn (b : Bracket) (outer : List Bracket) (rest : List Char)
  | done (n : Nested) (rest : List Char)

/-- Makes a step within an open bracket, `outer` being the brackets around it. -/
def bracketStep? (f : Flags) (b : Bracket) (outer : List Bracket) (cs : List Char) :
    Option BracketStep :=
  match skip f.spaced cs with
  | [] => none
  | '[' :: rest =>
    match readAscii? rest with
    | some (negated, s, more) =>
      (f.classSet? negated (f.fold s)).map fun s => .goOn (b.add ⟨s, 0⟩) outer more
    | none => (openBracket? f rest).map fun p => .goOn p.1 (b :: outer) p.2
  | ']' :: rest => do
    let n ← b.close? f
    match outer with
    | [] => return .done n rest
    | o :: outer => return .goOn (o.add n) outer rest
  | '&' :: '&' :: rest => some (.goOn (b.join f .both) outer rest)
  | '-' :: '-' :: rest => some (.goOn (b.join f .first) outer rest)
  | '~' :: '~' :: rest => some (.goOn (b.join f .one) outer rest)
  | cs => (readMember? f cs).map fun p => .goOn (b.add ⟨p.1, 0⟩) outer p.2

/-- Reads on in an open bracket up to the end of the outermost one. -/
def readBracket? (f : Flags) (b : Bracket) (outer : List Bracket) (cs : List Char) :
    Option (Nested × List Char) :=
  match bracketStep? f b outer cs with
  | none => none
  | some (.done n rest) => some (n, rest)
  | some (.goOn b outer rest) =>
    if rest.length < cs.length then readBracket? f b outer rest else none
termination_by cs.length

/-- Reads a set in brackets after its opening bracket. -/
def readSet? (f : Flags) (cs : List Char) : Option (Nested × List Char) := do
  let (b, rest) ← openBracket? f cs
  readBracket? f b [] rest

end MusicLibrary.Pattern

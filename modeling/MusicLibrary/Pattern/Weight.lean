import MusicLibrary.Pattern.Regex

/-!
# The weight of expressions

An expression is searched for by an automaton that reads the bytes of a text. Its `weight` is the
memory in bytes that the states of this automaton take. Expressions beyond `weightLimit` are
refused.
-/

namespace MusicLibrary.Pattern

open Unicode

/-- The largest weight of an expression. -/
def weightLimit : Nat := 10 <<< 20

/-- The weight of a state. -/
def stateWeight : Nat := 32

/-- The weight of a transition of a state that has several. -/
def transitionWeight : Nat := 8

/-- The weight of an alternative of a state that branches. -/
def branchWeight : Nat := 4

/-! ## Sets of characters -/

/-- Cuts a range of numbers into boxes: the digits of a number to the base 64, of which the first
one may be larger, run independently of each other through the ranges of a box. -/
def boxes : Nat → Nat → Nat → List (List (Nat × Nat))
  | 0, lo, hi => [[(lo, hi)]]
  | depth + 1, lo, hi =>
    let size := Nat.pow 64 (depth + 1)
    let full := List.replicate (depth + 1) (0, 63)
    let a := lo / size
    let b := hi / size
    if a = b then (boxes depth (lo % size) (hi % size)).map ((a, a) :: ·)
    else
      let front := if lo % size = 0 then [] else (boxes depth (lo % size) (size - 1)).map ((a, a) :: ·)
      let back := if hi % size = size - 1 then [] else (boxes depth 0 (hi % size)).map ((b, b) :: ·)
      let first := if front.isEmpty then a else a + 1
      let last := if back.isEmpty then b + 1 else b
      front ++ (if first < last then [(first, last - 1) :: full] else []) ++ back

/-- The largest characters of one, two, three and four bytes. The surrogates, which are no
characters, part those of three bytes. -/
def lengthBounds : List (Nat × Nat × Nat) :=
  [(0, 0, 0x7F), (1, 0x80, 0x7FF), (2, 0x800, 0xD7FF), (2, 0xE000, 0xFFFF), (3, 0x10000, 0x10FFFF)]

/-- The boxes of the characters in a range, each with the number of bytes after the first one. -/
def rangeBoxes (r : Nat × Nat) : List (Nat × List (Nat × Nat)) :=
  lengthBounds.flatMap fun (tail, lo, hi) =>
    if max r.1 lo ≤ min r.2 hi then (boxes tail (max r.1 lo) (min r.2 hi)).map (tail, ·) else []

/-- The length of the common part at the front of two lists. -/
def commonFront {α : Type} [DecidableEq α] : List α → List α → Nat
  | a :: as, b :: bs => if a = b then commonFront as bs + 1 else 0
  | _, _ => 0

/-- The number of states for boxes that share their fronts. -/
def boxStates : List (Nat × List (Nat × Nat)) → Nat
  | [] => 0
  | [b] => b.2.length
  | b :: c :: rest =>
    b.2.length - (if b.1 = c.1 then commonFront b.2 c.2 else 0) + boxStates (c :: rest)

/-- The weight of the states that read one character of a set. -/
def setWeight (s : CodeSet) : Nat :=
  let ranges := s.normal.ranges
  if s.isAscii then 2 * stateWeight + transitionWeight * ranges.length
  else
    let all := ranges.flatMap rangeBoxes
    (2 + boxStates all) * stateWeight + all.length * branchWeight

/-- The number of bytes of a character. -/
def byteCount (n : Nat) : Nat :=
  if n < 0x80 then 1 else if n < 0x800 then 2 else if n < 0x10000 then 3 else 4

namespace Regex

/-- Whether an expression matches the empty text alone. -/
def onlyEmpty : Regex → Bool
  | empty | look _ => true
  | chars _ => false
  | cat r s | alt r s => r.onlyEmpty && s.onlyEmpty
  | times _ most? r => most? = some 0 || r.onlyEmpty
  | capture r => r.onlyEmpty

/-- The weight of an expression. -/
def weight : Regex → Nat
  | empty | look _ => stateWeight
  | chars s =>
    match s.ranges with
    | [(lo, hi)] => if lo = hi then byteCount lo * stateWeight else setWeight s
    | _ => setWeight s
  | cat r s => r.weight + s.weight
  | alt r s => r.weight + s.weight + 2 * stateWeight + 2 * branchWeight
  | times least most? r =>
    let least := if r.onlyEmpty then min least 1 else least
    let optional := stateWeight + 2 * branchWeight
    match most? with
    | none => if r.onlyEmpty then r.weight + optional else max least 1 * r.weight + 2 * optional
    | some most =>
      let most := if r.onlyEmpty then min most 1 else most
      least * r.weight + (most - least) * (r.weight + optional) + stateWeight
  | capture r => r.weight + 2 * stateWeight

end Regex

end MusicLibrary.Pattern

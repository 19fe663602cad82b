import MusicLibrary.Unicode.CodeSet
import MusicLibrary.Unicode.Property
import MusicLibrary.Unicode.Category

/-!
# Regular expressions

The expressions that texts are searched for, and the search. A set of positions of a text is a
number with one bit for each position; an expression turns the set of the positions where a match
may begin into the set of those where it may end. A text holds a match if some position remains of
all of them.
-/

namespace MusicLibrary.Pattern

open Unicode

/-- The characters of words. -/
def wordSet : CodeSet :=
  (CodeSet.unions [alphabetic, categoryMn, categoryMc, categoryMe, categoryNd, categoryPc,
    joinControl]).normal

/-- The ASCII characters of words. -/
def asciiWordSet : CodeSet := ⟨[(0x30, 0x39), (0x41, 0x5A), (0x5F, 0x5F), (0x61, 0x7A)]⟩

/-- A condition on the border of words at a position. -/
inductive Border where
  | edge
  | inner
  | opening
  | closing
  /-- no word ends here or goes on -/
  | afterGap
  /-- no word begins here or goes on -/
  | beforeGap
deriving DecidableEq, Inhabited, Repr

/-- Whether a condition holds, given whether the characters around the position are of a word. -/
def Border.holds : Border → Bool → Bool → Bool
  | edge, a, b => a != b
  | inner, a, b => a == b
  | opening, a, b => !a && b
  | closing, a, b => a && !b
  | afterGap, a, _ => !a
  | beforeGap, _, b => !b

/-- A condition on a position of a text. -/
inductive Look where
  | textStart
  | textEnd
  | lineStart
  | lineEnd
  /-- the start of a line, where lines may also end in a carriage return -/
  | returnStart
  /-- the end of a line, where lines may also end in a carriage return -/
  | returnEnd
  | border (b : Border) (unicode : Bool)
deriving DecidableEq, Inhabited, Repr

/-- Whether a condition holds between two characters, either of which may be missing. -/
def Look.holds (l : Look) (before after : Option Char) : Bool :=
  match l with
  | textStart => before.isNone
  | textEnd => after.isNone
  | lineStart => before.isNone || before == some '\n'
  | lineEnd => after.isNone || after == some '\n'
  | returnStart =>
    before.isNone || before == some '\n' || (before == some '\r' && after != some '\n')
  | returnEnd =>
    after.isNone || after == some '\r' || (after == some '\n' && before != some '\r')
  | border b unicode =>
    let set := if unicode then wordSet else asciiWordSet
    b.holds (before.any set.has) (after.any set.has)

/-- An expression. -/
inductive Regex where
  /-- the empty text -/
  | empty
  /-- one character of a set -/
  | chars (set : CodeSet)
  | look (l : Look)
  | cat (r s : Regex)
  | alt (r s : Regex)
  /-- a repetition, without limit if there is no largest number -/
  | times (least : Nat) (most? : Option Nat) (r : Regex)
  /-- a part in brackets whose match can be told apart -/
  | capture (r : Regex)
deriving DecidableEq, Inhabited, Repr

/-! ## Searching -/

/-- What an expression does to a set of positions. -/
structure Move where
  apply : Nat → Nat

namespace Move

/-- Makes a move a number of times. -/
def iterate (m : Move) : Nat → Nat → Nat
  | 0, set => set
  | k + 1, set => if set = 0 then 0 else iterate m k (m.apply set)

/-- Makes a move at most a number of times. -/
def upTo (m : Move) : Nat → Nat → Nat
  | 0, set => set
  | k + 1, set =>
    let grown := set ||| m.apply set
    if grown = set then set else upTo m k grown

end Move

/-- The set of the positions at which the characters of a text fulfil a condition. -/
def positions (text : List Char) (p : Char → Bool) : Nat :=
  text.foldr (fun c set => 2 * set + if p c then 1 else 0) 0

/-- The set of the positions of a text at which a condition holds, its end included. -/
def lookPositions (l : Look) (before : Option Char) : List Char → Nat
  | [] => if l.holds before none then 1 else 0
  | c :: rest => 2 * lookPositions l (some c) rest + if l.holds before (some c) then 1 else 0

namespace Regex

/-- The move that an expression makes on a text. -/
def move (text : List Char) : Regex → Move
  | empty => ⟨fun set => set⟩
  | chars s =>
    let here := positions text s.has
    ⟨fun set => (set &&& here) <<< 1⟩
  | look l =>
    let here := lookPositions l none text
    ⟨fun set => set &&& here⟩
  | cat r s =>
    let a := r.move text
    let b := s.move text
    ⟨fun set => b.apply (a.apply set)⟩
  | alt r s =>
    let a := r.move text
    let b := s.move text
    ⟨fun set => a.apply set ||| b.apply set⟩
  | times least most? r =>
    let a := r.move text
    ⟨fun set => a.upTo ((most?.map (· - least)).getD (text.length + 1)) (a.iterate least set)⟩
  | capture r => r.move text

/-- Whether a text holds a match of an expression. -/
def foundIn (r : Regex) (text : String) : Bool :=
  (r.move text.toList).apply ((1 <<< (text.length + 1)) - 1) ≠ 0

end Regex

end MusicLibrary.Pattern

import MusicLibrary.Album.Basic
import MusicLibrary.Score

/-!
# Pairing two versions of an album

Every pair of a left and a right item has a score. Pairs are visited from the highest score down,
and a pair is accepted if its score reaches the threshold and neither item has been used. Ties are
visited in the order of the left items, then of the right ones. The choice is greedy: a pair with a
high score may take the items that two other pairs needed.
-/

namespace MusicLibrary

/-- What stands in one line of a pairing: two partners, or an item of one side without partner. -/
inductive Pair (α β : Type) where
  | both (a : α) (b : β)
  | left (a : α)
  | right (b : β)
deriving DecidableEq, Repr

namespace Pair

variable {α β : Type}

def left? : Pair α β → Option α
  | both a _ | left a => some a
  | right _ => none

def right? : Pair α β → Option β
  | both _ b | right b => some b
  | left _ => none

end Pair

/-- A pair of a left and a right item, by their numbers, with its score. -/
structure Candidate where
  left : Nat
  right : Nat
  score : Score
deriving DecidableEq, Repr

namespace Candidate

/-- Whether a candidate is visited before another one of a later number, or with it. -/
def precedes (c d : Candidate) : Bool := d.score.rank ≤ c.score.rank

/-- Whether two candidates need the same item. -/
def clashes (c d : Candidate) : Bool := c.left = d.left || c.right = d.right

/-- All candidates of `n` left and `m` right items, by left number, then by right number. -/
def all (n m : Nat) (score : Nat → Nat → Score) : List Candidate :=
  (List.range n).flatMap fun i => (List.range m).map fun j => ⟨i, j, score i j⟩

/-- The candidates in the order in which they are visited. -/
def visits (n m : Nat) (score : Nat → Nat → Score) : List Candidate :=
  (all n m score).mergeSort precedes

/-- The candidates accepted from a list, when those in `taken` have been accepted before. -/
def accept (threshold : Score) (taken : List Candidate) : List Candidate → List Candidate
  | [] => []
  | c :: rest =>
    if c.score.Reaches threshold ∧ taken.all (fun d => !c.clashes d) then
      c :: accept threshold (c :: taken) rest
    else accept threshold taken rest

end Candidate

/-- The accepted candidates of `n` left and `m` right items, in the order of acceptance. -/
def accepted (n m : Nat) (threshold : Score) (score : Nat → Nat → Score) : List Candidate :=
  Candidate.accept threshold [] (Candidate.visits n m score)

/-- The numbers below `n` that are not in a list. -/
def leftOver (n : Nat) (used : List Nat) : List Nat := (List.range n).filter fun i => !used.contains i

/-- The pairing of `n` left and `m` right items: accepted pairs in the order of acceptance, then the
remaining left items, then the remaining right items. -/
def pairing (n m : Nat) (threshold : Score) (score : Nat → Nat → Score) : List (Pair Nat Nat) :=
  let chosen := accepted n m threshold score
  chosen.map (fun c => .both c.left c.right) ++
    (leftOver n (chosen.map (·.left))).map .left ++ (leftOver m (chosen.map (·.right))).map .right

/-- The least score at which two tracks count as the same track. -/
def defaultThreshold : Score := .one

namespace Track

/-- The score of two tracks: 1 at the same position and 0 otherwise. -/
def score (t u : Track) : Score := if t.position = u.position then .one else .zero

/-- The score of the tracks with two numbers. -/
def scoreAt (ts us : List Track) (i j : Nat) : Score :=
  match ts[i]?, us[j]? with
  | some t, some u => t.score u
  | _, _ => .zero

/-- The pairing of two lists of tracks, by their numbers. -/
def pairing (ts us : List Track) (threshold : Score) : List (Pair Nat Nat) :=
  MusicLibrary.pairing ts.length us.length threshold (scoreAt ts us)

end Track

end MusicLibrary

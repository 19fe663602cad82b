/-!
# Patterns with wildcards

In a pattern `%` stands for any run of characters and `_` for any one character; a slash takes away
the meaning of the character after it. Letters of the ASCII alphabet match in either case. A text
ends at its first null character, in patterns too.
-/

namespace MusicLibrary.Text

/-- One element of a pattern. -/
inductive Wild where
  /-- any run of characters -/
  | run
  /-- any one character -/
  | one
  /-- a character, in either case if it is an ASCII letter -/
  | lit (c : Char)
deriving DecidableEq, Inhabited, Repr

/-- What takes away the meaning of the next character. -/
def wildEscape : Char := '/'

/-- The elements of a pattern; none if an escape ends it. -/
def wilds? : List Char → Option (List Wild)
  | [] => some []
  | '/' :: [] => none
  | '/' :: c :: rest => (wilds? rest).map (.lit c :: ·)
  | c :: rest =>
    (wilds? rest).map ((if c = '%' then .run else if c = '_' then .one else .lit c) :: ·)

/-- Whether two characters are the same but for the case of ASCII letters. -/
def sameFolded (c d : Char) : Bool := c.toLower == d.toLower

/-- Whether an entry or one to its right is true, for each entry. -/
def anyRight (bs : List Bool) : List Bool :=
  bs.foldr (fun b right => (b || right.headD false) :: right) []

/-- For each suffix of a text, from the whole down to the empty one, whether the pattern matches
it. -/
def wildTable (text : List Char) : List Wild → List Bool
  | [] => text.map (fun _ => false) ++ [true]
  | .run :: p => anyRight (wildTable text p)
  | .one :: p => (wildTable text p).tail ++ [false]
  | .lit c :: p =>
    List.zipWith (fun d b => sameFolded c d && b) text (wildTable text p).tail ++ [false]

/-- Whether a list of elements matches a whole text. -/
def wildMatches (p : List Wild) (text : List Char) : Bool := (wildTable text p).headD false

/-- A text up to its first null character. -/
def beforeNull (cs : List Char) : List Char := cs.takeWhile (· ≠ '\x00')

/-- Whether a pattern matches a text. -/
def like (pattern text : String) : Bool :=
  match wilds? (beforeNull pattern.toList) with
  | some p => wildMatches p (beforeNull text.toList)
  | none => false

/-- Whether a pattern ends in an escape that has nothing to act on. -/
def danglingEscape : List Char → Bool
  | [] => false
  | '/' :: [] => true
  | '/' :: _ :: rest => danglingEscape rest
  | _ :: rest => danglingEscape rest

theorem wilds?_eq_none {cs : List Char} : wilds? cs = none ↔ danglingEscape cs = true := by
  fun_induction wilds? cs with
  | case1 => simp [danglingEscape]
  | case2 => simp [danglingEscape]
  | case3 c rest ih => simp [danglingEscape, ih]
  | case4 c rest h₁ h₂ ih =>
    rw [Option.map_eq_none_iff, ih]
    by_cases hc : c = '/'
    · subst hc
      cases rest with
      | nil => exact absurd rfl (h₁ rfl)
      | cons d rest => exact absurd rfl (h₂ d rest rfl)
    · rw [danglingEscape.eq_def (c :: rest)]
      split <;> simp_all

end MusicLibrary.Text

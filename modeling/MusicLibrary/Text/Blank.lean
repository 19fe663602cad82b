/-!
# Blanks

White space in the sense of Unicode, and texts without the blanks at their ends.
-/

namespace MusicLibrary.Text

/-- Whether a character is white space in the sense of Unicode. -/
def isBlank (c : Char) : Bool :=
  let n := c.toNat
  (0x9 ≤ n && n ≤ 0xD) || n == 0x20 || n == 0x85 || n == 0xA0 || n == 0x1680 ||
    (0x2000 ≤ n && n ≤ 0x200A) || n == 0x2028 || n == 0x2029 || n == 0x202F || n == 0x205F ||
    n == 0x3000

/-- A text without its leading blanks. -/
def trimLeft (cs : List Char) : List Char := cs.dropWhile isBlank

/-- A text without its trailing blanks. -/
def trimRight (cs : List Char) : List Char := (cs.reverse.dropWhile isBlank).reverse

/-- A text without the blanks at its ends. -/
def trim (cs : List Char) : List Char := trimRight (trimLeft cs)

/-- The parts of a text before and after the first occurrence of `c`. -/
def cut? (c : Char) : List Char → Option (List Char × List Char)
  | [] => none
  | d :: rest =>
    if d = c then some ([], rest)
    else (cut? c rest).map fun p => (d :: p.1, p.2)

theorem cut?_eq_some {c : Char} {cs a b : List Char} (h : cut? c cs = some (a, b)) :
    cs = a ++ c :: b ∧ c ∉ a := by
  induction cs generalizing a with
  | nil => simp [cut?] at h
  | cons d rest ih =>
    by_cases hd : d = c
    · simp only [cut?, hd, if_true, Option.some.injEq, Prod.mk.injEq] at h
      obtain ⟨rfl, rfl⟩ := h
      simp [hd]
    · simp only [cut?, hd, if_false, Option.map_eq_some_iff] at h
      obtain ⟨⟨a', b'⟩, hab, heq⟩ := h
      simp only [Prod.mk.injEq] at heq
      obtain ⟨rfl, rfl⟩ := heq
      obtain ⟨rfl, hn⟩ := ih hab
      exact ⟨rfl, by simp [hn, Ne.symm hd]⟩

theorem cut?_append {c : Char} {a b : List Char} (h : c ∉ a) :
    cut? c (a ++ c :: b) = some (a, b) := by
  induction a with
  | nil => simp [cut?]
  | cons d a ih =>
    have hd : d ≠ c := fun e => h (by simp [e])
    have ha : c ∉ a := fun e => h (by simp [e])
    simp [cut?, hd, ih ha]

theorem cut?_eq_none {c : Char} {cs : List Char} : cut? c cs = none ↔ c ∉ cs := by
  induction cs with
  | nil => simp [cut?]
  | cons d rest ih =>
    by_cases hd : d = c
    · simp [cut?, hd]
    · simp [cut?, hd, ih, Ne.symm hd]

end MusicLibrary.Text

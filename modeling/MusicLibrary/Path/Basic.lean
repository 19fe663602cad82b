/-!
# Paths

The name of a file is a sequence of bytes, which need not be UTF-8 throughout. A `Path` holds
characters where the bytes are UTF-8, and the bytes themselves where they are not: a stray unit is
the longest run of bytes that begins a character without completing it, or a single byte that
begins none. Its text shows each stray unit as one replacement character.
-/

namespace MusicLibrary

/-- A unit of a path. -/
inductive PathUnit where
  | char (c : Char)
  | stray (bytes : List UInt8)
deriving DecidableEq, Inhabited, Repr

/-- The name of a file or directory. -/
structure Path where
  units : List PathUnit
deriving DecidableEq, Inhabited, Repr

namespace PathUnit

/-- A slash, which separates the components of a path. -/
def slash : PathUnit := .char '/'

def dot : PathUnit := .char '.'

/-- What a text shows for a unit. -/
def shown : PathUnit → Char
  | char c => c
  | stray _ => '\uFFFD'

def bytes : PathUnit → List UInt8
  | char c => String.utf8EncodeChar c
  | stray bs => bs

/-- The character of a unit, if it is one. -/
def char? : PathUnit → Option Char
  | char c => some c
  | stray _ => none

/-! ## Decoding -/

/-- Whether a byte carries on a character. -/
def continues (b : UInt8) : Bool := 0x80 ≤ b && b ≤ 0xBF

/-- The bytes that may follow the first byte of a character of three or four bytes. -/
def secondFits (first b : UInt8) : Bool :=
  if first = 0xE0 then 0xA0 ≤ b && b ≤ 0xBF
  else if first = 0xED then 0x80 ≤ b && b ≤ 0x9F
  else if first = 0xF0 then 0x90 ≤ b && b ≤ 0xBF
  else if first = 0xF4 then 0x80 ≤ b && b ≤ 0x8F
  else continues b

/-- The character of a first byte's low bits and the bits of the bytes that carry it on. -/
def assemble (lead : Nat) (tail : List UInt8) : PathUnit :=
  char (Char.ofNat (tail.foldl (fun n b => 64 * n + b.toNat % 64) lead))

/-- The units of a sequence of bytes. -/
def decode : List UInt8 → List PathUnit
  | [] => []
  | a :: rest =>
    if a < 0x80 then char (Char.ofNat a.toNat) :: decode rest
    else if 0xC2 ≤ a && a ≤ 0xDF then
      match rest with
      | b :: rest₁ =>
        if continues b then assemble (a.toNat % 32) [b] :: decode rest₁
        else stray [a] :: decode (b :: rest₁)
      | [] => [stray [a]]
    else if 0xE0 ≤ a && a ≤ 0xEF then
      match rest with
      | b :: rest₁ =>
        if secondFits a b then
          match rest₁ with
          | c :: rest₂ =>
            if continues c then assemble (a.toNat % 16) [b, c] :: decode rest₂
            else stray [a, b] :: decode (c :: rest₂)
          | [] => [stray [a, b]]
        else stray [a] :: decode (b :: rest₁)
      | [] => [stray [a]]
    else if 0xF0 ≤ a && a ≤ 0xF4 then
      match rest with
      | b :: rest₁ =>
        if secondFits a b then
          match rest₁ with
          | c :: rest₂ =>
            if continues c then
              match rest₂ with
              | d :: rest₃ =>
                if continues d then assemble (a.toNat % 8) [b, c, d] :: decode rest₃
                else stray [a, b, c] :: decode (d :: rest₃)
              | [] => [stray [a, b, c]]
            else stray [a, b] :: decode (c :: rest₂)
          | [] => [stray [a, b]]
        else stray [a] :: decode (b :: rest₁)
      | [] => [stray [a]]
    else stray [a] :: decode rest
termination_by bytes => bytes.length
decreasing_by all_goals simp_all <;> omega

end PathUnit

namespace Path

/-- The path of a text. -/
def ofText (s : String) : Path := ⟨s.toList.map .char⟩

/-- The path of a sequence of bytes. -/
def ofBytes (bytes : List UInt8) : Path := ⟨PathUnit.decode bytes⟩

/-- The text of a path, with a replacement character for each stray unit. -/
def text (p : Path) : String := .ofList (p.units.map PathUnit.shown)

/-- Whether a path has no stray unit. -/
def IsText (p : Path) : Prop := ∀ u ∈ p.units, ∃ c, u = .char c

@[simp] theorem text_ofText (s : String) : (ofText s).text = s := by
  simp [text, ofText, Function.comp_def, PathUnit.shown]

theorem isText_ofText (s : String) : (ofText s).IsText := by
  intro u hu
  obtain ⟨c, _, rfl⟩ := List.mem_map.1 hu
  exact ⟨c, rfl⟩

theorem ofText_text {p : Path} (h : p.IsText) : ofText p.text = p := by
  obtain ⟨us⟩ := p
  simp only [ofText, text, String.toList_ofList, List.map_map]
  congr 1
  induction us with
  | nil => rfl
  | cons u us ih =>
    obtain ⟨c, rfl⟩ := h u (by simp)
    simp [PathUnit.shown, ih fun v hv => h v (by simp [hv])]

end Path

end MusicLibrary

import MusicLibrary.Path.Component

/-!
# File names of texts

The text of a path shows each stray unit as one replacement character, which is neither a slash nor
a dot. So the text has the components of the path, and the same name of a file
(`fileName?_ofText_text`).
-/

namespace MusicLibrary

namespace PathUnit

/-- A unit as the text of a path shows it. -/
def blur (u : PathUnit) : PathUnit := .char u.shown

@[simp] theorem shown_blur (u : PathUnit) : u.blur.shown = u.shown := rfl

@[simp] theorem blur_dot : dot.blur = dot := rfl

theorem blur_eq_char {u : PathUnit} {c : Char} (hc : c ≠ '\uFFFD') : u.blur = .char c ↔ u = .char c := by
  cases u with
  | char d => rfl
  | stray bytes => simp [blur, shown, Ne.symm hc]

theorem blur_eq_slash {u : PathUnit} : u.blur = slash ↔ u = slash := blur_eq_char (by decide)

theorem blur_eq_dot {u : PathUnit} : u.blur = dot ↔ u = dot := blur_eq_char (by decide)

theorem split_map_blur (us : List PathUnit) : split (us.map blur) = (split us).map (·.map blur) := by
  unfold split
  induction us with
  | nil => rfl
  | cons u us ih =>
    rw [List.map_cons, List.splitOn_cons_eq_if_modifyHead, List.splitOn_cons_eq_if_modifyHead, ih]
    by_cases h : u = slash
    · subst h
      rfl
    · have hb : ¬ u.blur = slash := fun e => h (blur_eq_slash.1 e)
      simp only [beq_iff_eq, h, hb, if_false]
      cases us.splitOn slash <;> rfl

theorem idle_map_blur (part : List PathUnit) : idle (part.map blur) = idle part := by
  rcases part with _ | ⟨u, _ | ⟨v, part⟩⟩
  · rfl
  · simp only [idle, List.map_cons, List.map_nil, List.isEmpty_cons, Bool.false_or]
    rw [Bool.eq_iff_iff, beq_iff_eq, beq_iff_eq, List.cons.injEq, List.cons.injEq, blur_eq_dot]
  · simp [idle]

end PathUnit

namespace Component

/-- A component as the text of a path shows it. -/
def blur : Component → Component
  | name us => name (us.map PathUnit.blur)
  | c => c

theorem ofPart_map_blur (part : List PathUnit) : ofPart (part.map .blur) = (ofPart part).blur := by
  have h : part.map PathUnit.blur = [.dot, .dot] ↔ part = [.dot, .dot] := by
    rcases part with _ | ⟨u, _ | ⟨v, _ | ⟨w, part⟩⟩⟩ <;> simp [PathUnit.blur_eq_dot]
  by_cases hp : part = [.dot, .dot]
  · simp [ofPart, hp, blur]
  · simp [ofPart, hp, mt h.1 hp, blur]

end Component

namespace Path

theorem ofText_text_units (p : Path) : (ofText p.text).units = p.units.map PathUnit.blur := by
  simp [ofText, text, PathUnit.blur]

theorem isAbsolute_ofText_text (p : Path) : (ofText p.text).isAbsolute = p.isAbsolute := by
  rw [isAbsolute, isAbsolute, ofText_text_units, List.head?_map, Bool.eq_iff_iff]
  simp only [beq_iff_eq, Option.map_eq_some_iff, PathUnit.blur_eq_slash, exists_eq_right]

theorem startsHere_ofText_text (p : Path) : (ofText p.text).startsHere = p.startsHere := by
  rw [startsHere, startsHere, ofText_text_units, PathUnit.split_map_blur, List.head?_map,
    Bool.eq_iff_iff]
  have h (part : List PathUnit) : part.map PathUnit.blur = [.dot] ↔ part = [.dot] := by
    rcases part with _ | ⟨u, _ | ⟨v, part⟩⟩ <;> simp [PathUnit.blur_eq_dot]
  simp only [beq_iff_eq, Option.map_eq_some_iff, h, exists_eq_right]

theorem components_ofText_text (p : Path) :
    (ofText p.text).components = p.components.map Component.blur := by
  have hparts : (PathUnit.split (ofText p.text).units).filter (fun part => !PathUnit.idle part) =
      ((PathUnit.split p.units).filter fun part => !PathUnit.idle part).map (·.map .blur) := by
    rw [ofText_text_units, PathUnit.split_map_blur, List.filter_map]
    simp only [Function.comp_def, PathUnit.idle_map_blur]
  rw [components, components, hparts, isAbsolute_ofText_text, startsHere_ofText_text,
    List.map_append, List.map_map, List.map_map]
  congr 1
  · by_cases ha : p.isAbsolute
    · simp [ha, Component.blur]
    · by_cases hs : p.startsHere <;> simp [ha, hs, Component.blur]
  · exact List.map_congr_left fun part _ => Component.ofPart_map_blur part

/-- The name of the file that the text of a path leads to is that of the path. -/
theorem fileName?_ofText_text (p : Path) : (ofText p.text).fileName? = p.fileName? := by
  rw [fileName?, fileName?, fileUnits?, fileUnits?, components_ofText_text, List.getLast?_map]
  rcases p.components.getLast? with _ | (_ | _ | _ | us)
  · rfl
  · rfl
  · rfl
  · rfl
  · simp [Component.blur, text, Function.comp_def]

end Path

end MusicLibrary

import MusicLibrary.Proofs.Path.Child

/-!
# Paths that are followed

Parts that count for nothing lead from a directory to itself. So paths with the same components lead to
the same directory (`resolve_congr`), and a name behind any of them to what has that name in the
directory (`resolve_child`).
-/

namespace MusicLibrary

open PathUnit (slash dot idle split parts)

namespace Component

theorem ofPart_injective : Function.Injective ofPart := by
  intro part part' h
  unfold ofPart at h
  split_ifs at h with hpart hpart'
  · rw [hpart, hpart']
  · exact Component.name.inj h

theorem ofPart_ne (part : List PathUnit) : ofPart part ≠ root ∧ ofPart part ≠ here := by
  unfold ofPart
  split_ifs <;> simp

end Component

/-- A unit that is neither a slash nor a dot stands in a part that counts. -/
theorem PathUnit.mem_parts_iff {u : PathUnit} (hslash : u ≠ slash) (hdot : u ≠ dot)
    (us : List PathUnit) : (∃ part ∈ parts us, u ∈ part) ↔ u ∈ us := by
  have hpart : ∀ part, slash ∉ part → ((∃ p ∈ parts part, u ∈ p) ↔ u ∈ part) := by
    intro part h
    rw [parts_of_not_mem h]
    split_ifs with hidle
    · simp only [idle, Bool.or_eq_true, List.isEmpty_iff, beq_iff_eq] at hidle
      rcases hidle with rfl | rfl <;> simp [hdot]
    · simp
  induction us using part_induction with
  | last part h => exact hpart part h
  | cons part rest h ih =>
    simp only [parts_append, List.mem_append, or_and_right, exists_or, hpart part h, ih, List.mem_cons,
      hslash, false_or]

namespace Path

variable {p q : Path}

theorem isAbsolute_iff (p : Path) : p.isAbsolute = true ↔ p.components.head? = some .root := by
  rw [components_eq]
  split_ifs with habsolute hhere
  · simp [habsolute]
  · simp [habsolute]
  · rcases parts p.units with _ | ⟨part, ps⟩
    · simp [habsolute]
    · simp [habsolute, (Component.ofPart_ne part).1]

theorem filter_components (p : Path) : p.components.filter (fun c => decide (c ≠ .root ∧ c ≠ .here)) =
    (parts p.units).map .ofPart := by
  have hparts : ((parts p.units).map Component.ofPart).filter (fun c => decide (c ≠ .root ∧ c ≠ .here)) =
      (parts p.units).map .ofPart := by
    refine List.filter_eq_self.2 fun c hc => ?_
    obtain ⟨part, -, rfl⟩ := List.mem_map.1 hc
    exact decide_eq_true (Component.ofPart_ne part)
  rw [components_eq, List.filter_append, hparts]
  split_ifs <;> rfl

/-- The components of a path tell whether it starts at the root, and its parts that count. -/
theorem parts_of_components (h : p.components = q.components) :
    p.isAbsolute = q.isAbsolute ∧ parts p.units = parts q.units := by
  constructor
  · rw [Bool.eq_iff_iff, isAbsolute_iff, isAbsolute_iff, h]
  · refine (List.map_inj_right fun _ _ hpart => Component.ofPart_injective hpart).1 ?_
    rw [← filter_components, ← filter_components, h]

theorem components_ne_nil (hp : p.units ≠ []) : p.components ≠ [] := by
  obtain ⟨us⟩ := p
  obtain ⟨part, rest, hpart, hrest, rfl⟩ := PathUnit.exists_part us
  by_cases hne : part = []
  · subst hne
    rcases hrest with rfl | ⟨rest, rfl⟩
    · exact absurd rfl hp
    · exact List.cons_ne_nil _ _
  · obtain ⟨habsolute, hhere⟩ := start_of_part hne hpart hrest
    rw [components_eq, habsolute, hhere, PathUnit.parts_append_of_follows hrest,
      PathUnit.parts_of_not_mem hpart]
    by_cases hdot : part = [dot] <;> simp [hdot, hne, idle]

theorem units_ne_nil_of_components (h : p.components = q.components) (hp : p.units ≠ []) :
    q.units ≠ [] := by
  intro hq
  have hempty : q.components = [] := by rw [show q = ⟨[]⟩ from congrArg Path.mk hq]; rfl
  exact components_ne_nil hp (h.trans hempty)

end Path

namespace FileTree

variable {t : FileTree} {p q : Path} {place top : Place} {name part : List PathUnit}
  {ps : List (List PathUnit)}

/-- The place that a path starts from. -/
def start (t : FileTree) (p : Path) : Place := if p.isAbsolute then [] else t.current

theorem resolve_eq_ok_iff : t.resolve p = .ok top ↔
    .char '\x00' ∉ p.units ∧ p.units ≠ [] ∧ (split p.units).foldlM t.step (t.start p) = .ok top := by
  unfold resolve start
  split_ifs with hnull hempty hempty <;> simp_all

/-- A part leads on from directories only. -/
theorem directory_of_step (h : t.step place part = .ok top) : t.entry? place = some .directory := by
  unfold step at h
  split_ifs at h with hdir <;> exact hdir

theorem step_idle (hidle : idle part = true) (hdir : t.entry? place = some .directory) :
    t.step place part = .ok place := by
  rw [step, if_pos hdir, if_pos hidle]

theorem directory_of_foldlM (htop : t.entry? top = some .directory)
    (h : ps.foldlM t.step place = .ok top) : t.entry? place = some .directory := by
  rcases ps with _ | ⟨part, ps⟩
  · obtain rfl : place = top := Except.ok.inj h
    exact htop
  · rw [List.foldlM_cons] at h
    rcases hstep : t.step place part with f | next
    · rw [hstep] at h
      cases h
    · exact directory_of_step hstep

/-- Parts that count for nothing may be left out on the way to a directory. -/
theorem foldlM_filter_idle (htop : t.entry? top = some .directory) :
    (ps.filter fun part => !idle part).foldlM t.step place = .ok top ↔
      ps.foldlM t.step place = .ok top := by
  induction ps generalizing place with
  | nil => rfl
  | cons part ps ih =>
    cases hidle : idle part with
    | false =>
      rw [List.filter_cons_of_pos (by simp [hidle]), List.foldlM_cons, List.foldlM_cons]
      rcases t.step place part with f | next
      · rfl
      · exact ih
    | true =>
      rw [List.filter_cons_of_neg (by simp [hidle]), ih, List.foldlM_cons]
      constructor
      · intro h
        rw [step_idle hidle (directory_of_foldlM htop h)]
        exact h
      · intro h
        rcases hstep : t.step place part with f | next
        · rw [hstep] at h
          cases h
        · have hdir := directory_of_step hstep
          rw [step_idle hidle hdir] at h
          exact h

/-- Paths with the same components lead to the same directory. -/
theorem resolve_congr (hpq : p.components = q.components) (htop : t.entry? top = some .directory)
    (hp : t.resolve p = .ok top) : t.resolve q = .ok top := by
  obtain ⟨habsolute, hparts⟩ := Path.parts_of_components hpq
  obtain ⟨hnull, hne, hwalk⟩ := resolve_eq_ok_iff.1 hp
  refine resolve_eq_ok_iff.2 ⟨?_, Path.units_ne_nil_of_components hpq hne, ?_⟩
  · rwa [← PathUnit.mem_parts_iff (by decide) (by decide), ← hparts,
      PathUnit.mem_parts_iff (by decide) (by decide)]
  · have hwalk : (parts p.units).foldlM t.step (t.start p) = .ok top := (foldlM_filter_idle htop).2 hwalk
    rw [hparts, start, habsolute] at hwalk
    exact (foldlM_filter_idle htop).1 hwalk

/-- A name in a directory leads to what stands there. -/
theorem resolve_child (hp : t.resolve p = .ok top) (htop : t.entry? top = some .directory)
    (hname : IsFileName name) (hthere : (t.entry? (top ++ [name])).isSome) :
    t.resolve (p.child name) = .ok (top ++ [name]) := by
  obtain ⟨hnull, hne, hwalk⟩ := resolve_eq_ok_iff.1 hp
  obtain ⟨front, hfront, hunits⟩ := Path.units_child hne hname
  have hstep : t.step top name = .ok (top ++ [name]) := by
    rw [step, ← nameBytes, if_pos htop, hname.not_idle, if_neg Bool.false_ne_true, if_neg hname.ne_up,
      if_neg (Nat.not_lt.2 hname.length_le), if_pos hthere]
  have hdir : (split front).foldlM t.step (t.start p) = .ok top := by
    have hwalk : (parts p.units).foldlM t.step (t.start p) = .ok top := (foldlM_filter_idle htop).2 hwalk
    have hparts : parts p.units = parts front := by
      rcases hfront with hfront | hfront
      · rw [hfront]
      · rw [hfront, PathUnit.parts_append, PathUnit.parts_nil, List.append_nil]
    rw [hparts] at hwalk
    exact (foldlM_filter_idle htop).1 hwalk
  refine resolve_eq_ok_iff.2 ⟨?_, Path.units_child_ne_nil hne hname, ?_⟩
  · have hnullFront : .char '\x00' ∉ front := by
      rcases hfront with hfront | hfront <;> simp_all
    have hnullSlash : .char '\x00' ≠ slash := by decide
    simp [hunits, hnullFront, hnullSlash, hname.not_mem_null]
  · rw [hunits, PathUnit.split_append, PathUnit.split_of_not_mem hname.not_mem_slash, start,
      Path.isAbsolute_child hne hname, List.foldlM_append, ← start, hdir]
    show (t.step top name >>= pure) = _
    rw [hstep]
    rfl

end FileTree

end MusicLibrary

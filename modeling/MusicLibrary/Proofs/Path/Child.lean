import Mathlib.Data.List.TakeWhile
import Mathlib.Tactic.SplitIfs
import MusicLibrary.File.Tree

/-!
# Names within a directory

A name that is put behind the path of a directory is one more component of it
(`Path.components_child`). The path of the directory is had back from it but for the slashes and single
dots at its end (`Path.parent?_child`), which have no part in the components
(`Path.components_shorten`).
-/

namespace MusicLibrary

open PathUnit (slash dot idle split)

/-- The bytes of a name. -/
def nameBytes (name : List PathUnit) : List UInt8 := name.flatMap PathUnit.bytes

/-- A name that a file or a directory may have. -/
structure IsFileName (name : List PathUnit) : Prop where
  not_idle : idle name = false
  ne_up : name ≠ [dot, dot]
  not_mem_slash : slash ∉ name
  not_mem_null : .char '\x00' ∉ name
  length_le : (nameBytes name).length ≤ FileTree.nameLimit

instance (name : List PathUnit) : Decidable (IsFileName name) :=
  decidable_of_iff (idle name = false ∧ name ≠ [dot, dot] ∧ slash ∉ name ∧ .char '\x00' ∉ name ∧
      (nameBytes name).length ≤ FileTree.nameLimit)
    ⟨fun ⟨h₁, h₂, h₃, h₄, h₅⟩ => ⟨h₁, h₂, h₃, h₄, h₅⟩, fun ⟨h₁, h₂, h₃, h₄, h₅⟩ => ⟨h₁, h₂, h₃, h₄, h₅⟩⟩

theorem IsFileName.ne_nil {name : List PathUnit} (h : IsFileName name) : name ≠ [] := by
  rintro rfl
  exact absurd h.not_idle (by decide)

namespace PathUnit

/-! ## Parts between slashes -/

/-- The parts between slashes that count. -/
def parts (us : List PathUnit) : List (List PathUnit) := (split us).filter fun part => !idle part

variable {us part rest name : List PathUnit}

theorem split_append (us rest : List PathUnit) : split (us ++ slash :: rest) = split us ++ split rest :=
  List.splitOn_append_cons_self us rest

theorem split_of_not_mem (h : slash ∉ us) : split us = [us] := List.splitOn_eq_singleton h

theorem split_ne_nil (us : List PathUnit) : split us ≠ [] := List.splitOn_ne_nil _ us

@[simp] theorem parts_nil : parts [] = [] := rfl

theorem parts_append (us rest : List PathUnit) : parts (us ++ slash :: rest) = parts us ++ parts rest := by
  rw [parts, split_append, List.filter_append]
  rfl

theorem parts_of_not_mem (h : slash ∉ us) : parts us = if idle us then [] else [us] := by
  rw [parts, split_of_not_mem h]
  cases hidle : idle us <;> simp [hidle]

/-- What may follow on a part: nothing, or a slash and more. -/
def FollowsPart (us : List PathUnit) : Prop := us = [] ∨ ∃ rest, us = slash :: rest

theorem exists_part (us : List PathUnit) :
    ∃ part rest, slash ∉ part ∧ FollowsPart rest ∧ us = part ++ rest := by
  by_cases h : slash ∈ us
  · obtain ⟨part, rest, rfl, hpart⟩ := List.eq_append_cons_of_mem h
    exact ⟨part, slash :: rest, hpart, .inr ⟨rest, rfl⟩, rfl⟩
  · exact ⟨us, [], h, .inl rfl, (List.append_nil us).symm⟩

theorem parts_append_of_follows (hrest : FollowsPart rest) : parts (us ++ rest) = parts us ++ parts rest := by
  rcases hrest with rfl | ⟨rest, rfl⟩
  · simp
  · rw [parts_append, show parts (slash :: rest) = parts rest from parts_append [] rest]

theorem idle_reverse (us : List PathUnit) : idle us.reverse = idle us := by
  rw [Bool.eq_iff_iff]
  simp [idle, List.reverse_eq_iff]

/-- Units are gone through part by part. -/
@[elab_as_elim]
theorem part_induction {motive : List PathUnit → Prop} (us : List PathUnit)
    (last : ∀ part, slash ∉ part → motive part)
    (cons : ∀ part rest, slash ∉ part → motive rest → motive (part ++ slash :: rest)) : motive us := by
  by_cases h : slash ∈ us
  · obtain ⟨part, rest, rfl, hpart⟩ := List.eq_append_cons_of_mem h
    exact cons part rest hpart (part_induction rest last cons)
  · exact last us h
termination_by us.length

end PathUnit

namespace Path

open PathUnit (FollowsPart)

variable {us part rest name : List PathUnit} {p q : Path}

theorem forall_ne_slash (h : slash ∉ part) : ∀ u ∈ part, decide (u ≠ slash) = true := by
  intro u hu
  exact decide_eq_true fun hs => h (hs ▸ hu)

theorem dropIdle_of_not_mem (h : slash ∉ part) : dropIdle part = if idle part then [] else part := by
  have hrun : part.takeWhile (· ≠ slash) = part := List.takeWhile_eq_self_iff.2 (forall_ne_slash h)
  rw [dropIdle, hrun]
  split_ifs with hidle
  · split
    · rfl
    · rename_i heq
      simp at heq
  · rfl

theorem takeWhile_part (h : slash ∉ part) (rest : List PathUnit) :
    (part ++ slash :: rest).takeWhile (· ≠ slash) = part := by
  rw [List.takeWhile_append_of_pos (forall_ne_slash h)]
  simp

theorem dropIdle_append (h : slash ∉ part) (rest : List PathUnit) :
    dropIdle (part ++ slash :: rest) = if idle part then dropIdle rest else part ++ slash :: rest := by
  rw [dropIdle, takeWhile_part h]
  split_ifs with hidle
  · split
    · rename_i heq
      simp at heq
    · rename_i heq
      simp at heq
      rw [heq.2]
  · rfl

theorem dropPart_append (h : slash ∉ part) (rest : List PathUnit) :
    dropPart (part ++ slash :: rest) = rest := by
  rw [dropPart, List.dropWhile_append_of_pos (forall_ne_slash h)]
  simp

theorem dropPart_of_not_mem (h : slash ∉ part) : dropPart part = [] := by
  have hall : part.dropWhile (· ≠ slash) = [] := List.dropWhile_eq_nil_iff.2 (forall_ne_slash h)
  rw [dropPart, hall, List.drop_nil]

/-- What is dropped stands behind the rest, which starts with the same units. -/
theorem dropIdle_suffix (us : List PathUnit) : dropIdle us <:+ us := by
  induction us using PathUnit.part_induction with
  | last part h =>
    rw [dropIdle_of_not_mem h]
    split_ifs
    · exact List.nil_suffix
    · exact List.suffix_refl part
  | cons part rest h ih =>
    rw [dropIdle_append h]
    split_ifs
    · exact ih.trans ((List.suffix_cons slash rest).trans (List.suffix_append part _))
    · exact List.suffix_refl _

/-- The parts that count stay. -/
theorem parts_dropIdle (us : List PathUnit) :
    PathUnit.parts (dropIdle us).reverse = PathUnit.parts us.reverse := by
  induction us using PathUnit.part_induction with
  | last part h =>
    rw [dropIdle_of_not_mem h]
    split_ifs with hidle
    · rw [PathUnit.parts_of_not_mem (fun hs => h (List.mem_reverse.1 hs)), PathUnit.idle_reverse, if_pos hidle]
      rfl
    · rfl
  | cons part rest h ih =>
    rw [dropIdle_append h]
    split_ifs with hidle
    · rw [ih, List.reverse_append, List.reverse_cons, List.append_assoc, List.singleton_append,
        PathUnit.parts_append, PathUnit.parts_of_not_mem (fun hs => h (List.mem_reverse.1 hs)),
        PathUnit.idle_reverse, if_pos hidle, List.append_nil]
    · rfl

/-! ## Components -/

theorem components_eq (p : Path) : p.components =
    (if p.isAbsolute then [.root] else if p.startsHere then [.here] else []) ++
      (PathUnit.parts p.units).map Component.ofPart := rfl

theorem components_congr (habsolute : p.isAbsolute = q.isAbsolute) (hhere : p.startsHere = q.startsHere)
    (hparts : PathUnit.parts p.units = PathUnit.parts q.units) : p.components = q.components := by
  rw [components_eq, components_eq, habsolute, hhere, hparts]

theorem startsHere_append (front rest : List PathUnit) :
    startsHere ⟨front ++ slash :: rest⟩ = startsHere ⟨front⟩ := by
  obtain ⟨first, others, h⟩ := List.exists_cons_of_ne_nil (PathUnit.split_ne_nil front)
  rw [startsHere, startsHere, PathUnit.split_append, h]
  rfl

/-- How a path starts that has something in front of its first slash. -/
theorem start_of_part (hne : part ≠ []) (hpart : slash ∉ part) (hrest : FollowsPart rest) :
    isAbsolute ⟨part ++ rest⟩ = false ∧ startsHere ⟨part ++ rest⟩ = (part == [dot]) := by
  constructor
  · obtain ⟨u, us, rfl⟩ := List.exists_cons_of_ne_nil hne
    have hu : u ≠ slash := fun hs => hpart (hs ▸ .head _)
    simp [isAbsolute, hu]
  · have hhere : startsHere ⟨part⟩ = (part == [dot]) := by
      rw [startsHere, PathUnit.split_of_not_mem hpart]
      rfl
    rcases hrest with rfl | ⟨rest, rfl⟩
    · rwa [List.append_nil]
    · rwa [startsHere_append]

/-! ## The end of a path -/

/-- A path without what counts for nothing at its end. -/
def shorten (p : Path) : Path :=
  ⟨p.units.take p.frontLength ++ (dropIdle (p.units.drop p.frontLength).reverse).reverse⟩

theorem reverse_dropIdle_prefix (us : List PathUnit) : (dropIdle us.reverse).reverse <+: us := by
  rw [← List.reverse_suffix, List.reverse_reverse]
  exact dropIdle_suffix _

theorem follows_dropIdle (hrest : FollowsPart rest) : FollowsPart (dropIdle rest.reverse).reverse := by
  have hfirst := reverse_dropIdle_prefix rest
  rcases hrest with rfl | ⟨us, rfl⟩
  · exact .inl (List.prefix_nil.1 hfirst)
  · exact (List.prefix_cons_iff.1 hfirst).imp_right fun ⟨vs, hvs, _⟩ => ⟨vs, hvs⟩

/-- The first part stays if it counts. -/
theorem dropIdle_first (hpart : slash ∉ part) (hidle : idle part = false) (hrest : FollowsPart rest) :
    ∃ rest', FollowsPart rest' ∧ (dropIdle (part ++ rest).reverse).reverse = part ++ rest' := by
  have hslash : slash ∉ part.reverse := fun h => hpart (List.mem_reverse.1 h)
  have hself : dropIdle part.reverse = part.reverse := by
    rw [dropIdle_of_not_mem hslash, PathUnit.idle_reverse, hidle]
    rfl
  rcases hrest with rfl | ⟨rest, rfl⟩
  · exact ⟨[], .inl rfl, by rw [List.append_nil, hself, List.reverse_reverse]⟩
  rw [List.reverse_append, List.reverse_cons, List.append_assoc, List.singleton_append]
  -- the parts behind the first one are gone through from the end
  induction rest.reverse using PathUnit.part_induction with
  | last last h =>
    rw [dropIdle_append h]
    split_ifs
    · exact ⟨[], .inl rfl, by rw [hself, List.reverse_reverse, List.append_nil]⟩
    · exact ⟨slash :: last.reverse, .inr ⟨_, rfl⟩, by simp⟩
  | cons last us h ih =>
    rw [List.append_assoc, List.cons_append, dropIdle_append h]
    split_ifs
    · exact ih
    · exact ⟨slash :: (last ++ slash :: us).reverse, .inr ⟨_, rfl⟩, by simp⟩

/-- A path with something in front of its first slash keeps that. -/
theorem shorten_of_part (hne : part ≠ []) (hpart : slash ∉ part) (hrest : FollowsPart rest) :
    ∃ rest', FollowsPart rest' ∧ shorten ⟨part ++ rest⟩ = ⟨part ++ rest'⟩ ∧
      PathUnit.parts (part ++ rest') = PathUnit.parts (part ++ rest) := by
  obtain ⟨habsolute, hhere⟩ := start_of_part hne hpart hrest
  by_cases hdot : part = [dot]
  · subst hdot
    have hfollows := follows_dropIdle hrest
    refine ⟨_, hfollows, ?_, ?_⟩
    · rw [shorten, frontLength, habsolute, hhere]
      rfl
    · rw [PathUnit.parts_append_of_follows hfollows, PathUnit.parts_append_of_follows hrest,
        parts_dropIdle, List.reverse_reverse]
  · have hidle : idle part = false := by simp [idle, hne, hdot]
    obtain ⟨rest', hfollows, hrest'⟩ := dropIdle_first hpart hidle hrest
    refine ⟨rest', hfollows, ?_, ?_⟩
    · rw [shorten, frontLength, habsolute, hhere, beq_eq_false_iff_ne.2 hdot, ← hrest']
      rfl
    · rw [← hrest', parts_dropIdle, List.reverse_reverse]

theorem components_shorten_absolute (rest : List PathUnit) :
    (shorten ⟨slash :: rest⟩).components = components ⟨slash :: rest⟩ := by
  have hparts : PathUnit.parts (dropIdle rest.reverse).reverse = PathUnit.parts rest := by
    rw [parts_dropIdle, List.reverse_reverse]
  refine components_congr rfl ?_ ?_
  · exact (startsHere_append [] _).trans (startsHere_append [] _).symm
  · exact (PathUnit.parts_append [] _).trans
      ((congrArg _ hparts).trans (PathUnit.parts_append [] rest).symm)

/-- What counts for nothing at the end of a path has no part in its components. -/
theorem components_shorten (p : Path) : p.shorten.components = p.components := by
  obtain ⟨us⟩ := p
  obtain ⟨part, rest, hpart, hrest, rfl⟩ := PathUnit.exists_part us
  by_cases hne : part = []
  · subst hne
    rcases hrest with rfl | ⟨rest, rfl⟩
    · have hempty : dropIdle [] = [] := dropIdle_of_not_mem List.not_mem_nil
      rw [shorten, List.append_nil, List.take_nil, List.drop_nil, List.reverse_nil, hempty]
      rfl
    · exact components_shorten_absolute rest
  · obtain ⟨rest', hfollows, hshorten, hparts⟩ := shorten_of_part hne hpart hrest
    obtain ⟨habsolute, hhere⟩ := start_of_part hne hpart hrest
    obtain ⟨habsolute', hhere'⟩ := start_of_part hne hpart hfollows
    rw [hshorten]
    exact components_congr (habsolute'.trans habsolute.symm) (hhere'.trans hhere.symm) hparts

/-! ## Names within a directory -/

/-- A name is put behind the units of a directory and a slash, which may stand there already. -/
theorem units_child (hp : p.units ≠ []) (hname : IsFileName name) :
    ∃ front, (p.units = front ∨ p.units = front ++ [slash]) ∧
      (p.child name).units = front ++ slash :: name := by
  have habsolute : isAbsolute ⟨name⟩ = false := by
    have hstart := (start_of_part hname.ne_nil hname.not_mem_slash (.inl rfl)).1
    rwa [List.append_nil] at hstart
  have hempty : p.units.isEmpty = false := by simpa using hp
  simp only [child, join, habsolute, hempty, Bool.or_self, Bool.false_eq_true, if_false]
  split_ifs with hlast
  · obtain ⟨front, hfront⟩ := List.getLast?_eq_some_iff.1 hlast
    exact ⟨front, .inr hfront, by simp [hfront]⟩
  · exact ⟨p.units, .inl rfl, rfl⟩

theorem units_child_ne_nil (hp : p.units ≠ []) (hname : IsFileName name) : (p.child name).units ≠ [] := by
  obtain ⟨front, -, hunits⟩ := units_child hp hname
  simp [hunits]

theorem isAbsolute_child (hp : p.units ≠ []) (hname : IsFileName name) :
    (p.child name).isAbsolute = p.isAbsolute := by
  obtain ⟨front, hfront, hunits⟩ := units_child hp hname
  rw [isAbsolute, isAbsolute, hunits]
  rcases front with _ | ⟨u, front⟩
  · rw [hfront.resolve_left hp]
    rfl
  · rcases hfront with hfront | hfront <;> rw [hfront] <;> rfl

theorem startsHere_child (hp : p.units ≠ []) (hname : IsFileName name) :
    (p.child name).startsHere = p.startsHere := by
  obtain ⟨front, hfront, hunits⟩ := units_child hp hname
  obtain ⟨us⟩ := p
  rw [show (child ⟨us⟩ name) = ⟨front ++ slash :: name⟩ from congrArg Path.mk hunits, startsHere_append]
  rcases hfront with rfl | rfl
  · rfl
  · exact (startsHere_append _ _).symm

theorem parts_child (hp : p.units ≠ []) (hname : IsFileName name) :
    PathUnit.parts (p.child name).units = PathUnit.parts p.units ++ [name] := by
  obtain ⟨front, hfront, hunits⟩ := units_child hp hname
  have hlast : PathUnit.parts name = [name] := by
    rw [PathUnit.parts_of_not_mem hname.not_mem_slash, hname.not_idle]
    rfl
  rw [hunits, PathUnit.parts_append, hlast]
  rcases hfront with hfront | hfront
  · rw [hfront]
  · rw [hfront, PathUnit.parts_append, PathUnit.parts_nil, List.append_nil]

/-- A name within a directory is one more component. -/
theorem components_child (hp : p.units ≠ []) (hname : IsFileName name) :
    (p.child name).components = p.components ++ [.name name] := by
  rw [components_eq, components_eq, isAbsolute_child hp hname, startsHere_child hp hname,
    parts_child hp hname, List.map_append, List.append_assoc, List.map_singleton, Component.ofPart,
    if_neg hname.ne_up]

theorem dropIdle_reverse_name (hname : IsFileName name) (front : List PathUnit) :
    dropIdle (front ++ slash :: name).reverse = name.reverse ++ slash :: front.reverse := by
  have hslash : slash ∉ name.reverse := fun h => hname.not_mem_slash (List.mem_reverse.1 h)
  rw [List.reverse_append, List.reverse_cons, List.append_assoc, List.singleton_append,
    dropIdle_append hslash, PathUnit.idle_reverse, hname.not_idle]
  rfl

theorem frontLength_child (hp : p.units ≠ []) (hname : IsFileName name) :
    (p.child name).frontLength = p.frontLength := by
  rw [frontLength, frontLength, isAbsolute_child hp hname, startsHere_child hp hname]

/-- Behind the front a name follows on the units of the directory, or is all that there is. -/
theorem drop_units_child (hp : p.units ≠ []) (hname : IsFileName name) :
    let k := p.frontLength
    (p.child name).units.take k = p.units.take k ∧
      (((p.child name).units.drop k = name ∧ p.units.drop k = []) ∨
        ∃ back, (p.child name).units.drop k = back ++ slash :: name ∧
          (p.units.drop k = back ∨ p.units.drop k = back ++ [slash])) := by
  intro k
  obtain ⟨front, hfront, hunits⟩ := units_child hp hname
  have hk : k = 0 ∨ k = 1 := by
    simp only [k, frontLength]
    split_ifs
    · exact .inr rfl
    · exact .inl rfl
  rw [hunits]
  rcases hk with hk | hk
  · rw [hk]
    exact ⟨rfl, .inr ⟨front, rfl, hfront⟩⟩
  · rw [hk]
    rcases front with _ | ⟨u, back⟩
    · have hroot : p.units = [slash] := hfront.resolve_left hp
      rw [hroot]
      exact ⟨rfl, .inl ⟨rfl, rfl⟩⟩
    · rcases hfront with hfront | hfront
      · rw [hfront]
        exact ⟨rfl, .inr ⟨back, rfl, .inl rfl⟩⟩
      · rw [hfront]
        exact ⟨rfl, .inr ⟨back, rfl, .inr rfl⟩⟩

/-- The directory of a name within a directory is that, without what counts for nothing at its end. -/
theorem parent?_child (hp : p.units ≠ []) (hname : IsFileName name) :
    (p.child name).parent? = some p.shorten := by
  obtain ⟨htake, hdrop⟩ := drop_units_child hp hname
  have hslash : slash ∉ name.reverse := fun h => hname.not_mem_slash (List.mem_reverse.1 h)
  have hbody : dropIdle name.reverse = name.reverse := by
    rw [dropIdle_of_not_mem hslash, PathUnit.idle_reverse, hname.not_idle]
    rfl
  rw [parent?, frontLength_child hp hname, htake, shorten]
  rcases hdrop with ⟨hchild, hdir⟩ | ⟨back, hchild, hdir⟩
  · simp only [hchild, hdir, hbody, dropPart_of_not_mem hslash]
    simp [hname.ne_nil]
  · have hback : dropIdle (p.units.drop p.frontLength).reverse = dropIdle back.reverse := by
      rcases hdir with hdir | hdir
      · rw [hdir]
      · rw [hdir, List.reverse_append]
        exact @dropIdle_append [] List.not_mem_nil back.reverse
    simp only [hchild, dropIdle_reverse_name hname, dropPart_append hslash, hback]
    simp

end Path

namespace FileTree

variable {p : Path} {names : Place}

theorem units_extend_ne_nil (hp : p.units ≠ []) (hnames : ∀ name ∈ names, IsFileName name) :
    (extend p names).units ≠ [] := by
  induction names generalizing p with
  | nil => exact hp
  | cons name names ih =>
    obtain ⟨hname, hnames⟩ := List.forall_mem_cons.1 hnames
    exact ih (Path.units_child_ne_nil hp hname) hnames

/-- Names that lead on from a path are the further components. -/
theorem components_extend (hp : p.units ≠ []) (hnames : ∀ name ∈ names, IsFileName name) :
    (extend p names).components = p.components ++ names.map .name := by
  induction names generalizing p with
  | nil => exact (List.append_nil _).symm
  | cons name names ih =>
    obtain ⟨hname, hnames⟩ := List.forall_mem_cons.1 hnames
    rw [List.map_cons, List.append_cons, ← Path.components_child hp hname]
    exact ih (Path.units_child_ne_nil hp hname) hnames

end FileTree

end MusicLibrary

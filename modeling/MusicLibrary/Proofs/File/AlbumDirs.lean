import Mathlib.Data.List.Induction
import Mathlib.Data.List.Nodup
import MusicLibrary.File.Scan
import MusicLibrary.Proofs.File.Followed
import MusicLibrary.Proofs.Path.Order

/-!
# Album directories

A tree holds each file and directory at one place, and nothing below a file. In such a tree the walk below
a directory meets each regular file once, by the names that lead to it, and the directories that directly
hold audio files are found in the order of paths, each of them once (`pairwise_albumDirs`,
`Proper.mem_albumDirs`, `Proper.exists_mem_albumDirs`).
-/

namespace MusicLibrary

namespace FileTree

open Std

/-! ## Trees -/

/-- What a tree of directories and regular files is like: a place has one entry at most, nothing is
below a file, and names are those of files, which are told apart by their bytes. -/
structure Proper (t : FileTree) : Prop where
  distinct : (t.entries.map Prod.fst).Nodup
  nothing_below : ∀ x ∈ t.entries, x.2 ≠ .directory → ∀ y ∈ t.entries, x.1 <+: y.1 → y.1 = x.1
  names : ∀ x ∈ t.entries, ∀ name ∈ x.1, IsFileName name
  bytes : ∀ x ∈ t.entries, ∀ y ∈ t.entries, ∀ m ∈ x.1, ∀ n ∈ y.1,
    nameBytes m = nameBytes n → m = n

/-- Whether a regular file stands at a place. -/
def HasFile (t : FileTree) (place : Place) : Prop := ∃ bytes, t.entry? place = some (.file bytes)

variable {t : FileTree} {p q root : Path} {place top names rest : Place} {e : Entry}
  {bytes : List UInt8} {name : List PathUnit}

/-- The entry that is found for a place is one of the place. -/
theorem mem_of_find? {x : Place × Entry} (h : t.entries.find? (·.1 = place) = some x) :
    (place, x.2) ∈ t.entries := by
  have hplace : x.1 = place := by simpa using List.find?_some h
  exact hplace ▸ List.mem_of_find?_eq_some h

theorem Proper.entry?_of_mem (ht : t.Proper) (h : (place, e) ∈ t.entries) : t.entry? place = some e := by
  unfold entry?
  split
  · rename_i x hfind
    have hsame := List.inj_on_of_nodup_map ht.distinct (mem_of_find? hfind) h rfl
    exact congrArg (fun x : Place × Entry => some x.2) hsame
  · rename_i hfind
    exact absurd rfl (of_decide_eq_false (Bool.eq_false_iff.2 (List.find?_eq_none.1 hfind _ h)))

theorem mem_of_entry?_file (h : t.entry? place = some (.file bytes)) : (place, .file bytes) ∈ t.entries := by
  unfold entry? at h
  split at h
  · rename_i x hfind
    rw [← Option.some.inj h]
    exact mem_of_find? hfind
  · split_ifs at h
    cases h

theorem Proper.hasFile_iff (ht : t.Proper) :
    t.HasFile place ↔ ∃ bytes, (place, .file bytes) ∈ t.entries :=
  ⟨fun ⟨bytes, h⟩ => ⟨bytes, mem_of_entry?_file h⟩, fun ⟨bytes, h⟩ => ⟨bytes, ht.entry?_of_mem h⟩⟩

/-- What leads to an entry is a directory. -/
theorem Proper.directory_above (ht : t.Proper) (h : (place ++ rest, e) ∈ t.entries) (hrest : rest ≠ []) :
    t.entry? place = some .directory := by
  have hprefix : place <+: place ++ rest := List.prefix_append _ _
  unfold entry?
  split
  · rename_i x hfind
    have hx := mem_of_find? hfind
    rcases he : x.2 with bytes | _
    · have hfile : x.2 ≠ .directory := fun hd => nomatch he.symm.trans hd
      have hsame := ht.nothing_below (place, x.2) hx hfile _ h hprefix
      simp [hrest] at hsame
    · rfl
  · have hsome : t.entries.any (fun e => place.isPrefixOf e.1) = true :=
      List.any_eq_true.2 ⟨_, h, List.isPrefixOf_iff_prefix.2 hprefix⟩
    simp [hsome]

/-! ## The walk below a directory -/

/-- The names that lead on from a place to a regular file. -/
def below? (top : Place) (x : Place × Entry) : Option Place :=
  match x.2 with
  | .file _ => if top.isPrefixOf x.1 then some (x.1.drop top.length) else none
  | .directory => none

theorem below?_eq_some {x : Place × Entry} : below? top x = some names ↔
    x.1 = top ++ names ∧ ∃ bytes, x.2 = .file bytes := by
  obtain ⟨place, e⟩ := x
  cases e with
  | directory => simp [below?]
  | file bytes =>
    simp only [below?, List.isPrefixOf_iff_prefix]
    constructor
    · intro h
      split_ifs at h with hprefix
      obtain ⟨rest, rfl⟩ := hprefix
      rw [List.drop_left] at h
      exact ⟨by rw [Option.some.inj h], bytes, rfl⟩
    · rintro ⟨rfl, -⟩
      rw [if_pos (List.prefix_append _ _), List.drop_left]

theorem filesBelow_eq (hp : t.resolve p = .ok top) : t.filesBelow p = t.entries.filterMap (below? top) := by
  rw [filesBelow, hp]
  rfl

theorem mem_filesBelow (hp : t.resolve p = .ok top) :
    names ∈ t.filesBelow p ↔ ∃ bytes, (top ++ names, .file bytes) ∈ t.entries := by
  rw [filesBelow_eq hp, List.mem_filterMap]
  constructor
  · rintro ⟨⟨place, e⟩, hx, hnames⟩
    obtain ⟨rfl, bytes, rfl⟩ := below?_eq_some.1 hnames
    exact ⟨bytes, hx⟩
  · rintro ⟨bytes, hx⟩
    exact ⟨_, hx, below?_eq_some.2 ⟨rfl, bytes, rfl⟩⟩

theorem Proper.nodup_filesBelow (ht : t.Proper) (hp : t.resolve p = .ok top) : (t.filesBelow p).Nodup := by
  rw [filesBelow_eq hp]
  refine List.pairwise_filterMap.2 ((List.pairwise_map.1 ht.distinct).imp fun hne => ?_)
  rintro names hnames names' hnames' rfl
  exact hne ((below?_eq_some.1 hnames).1.trans (below?_eq_some.1 hnames').1.symm)

/-- A directory is reached from another one above it by the names that lead to it. -/
theorem Proper.resolve_extend (ht : t.Proper) (hp : t.resolve p = .ok top)
    (h : (top ++ names ++ rest, e) ∈ t.entries) (hrest : rest ≠ []) :
    t.resolve (extend p names) = .ok (top ++ names) := by
  induction names generalizing p top with
  | nil => rwa [List.append_nil]
  | cons name names ih =>
    have hnext : (top ++ [name] ++ (names ++ rest), e) ∈ t.entries := by simpa using h
    have htop : t.entry? top = some .directory := by
      rw [List.append_assoc] at hnext
      exact ht.directory_above hnext (by simp)
    have hname : IsFileName name := ht.names _ hnext name (by simp)
    have hthere := ht.directory_above hnext (by simp [hrest])
    rw [List.append_cons]
    exact ih (resolve_child hp htop hname (by rw [hthere]; rfl)) (by simpa using h)

/-! ## Paths in order -/

/-- Whether a path stands before another one in the order of paths. -/
def Precedes (p q : Path) : Prop := p.compare q = .lt

section PlacePath

variable {d : Path} {dirs ps : List Path}

theorem mem_of_mem_placePath (h : d ∈ placePath p dirs) : d = p ∨ d ∈ dirs := by
  induction dirs with
  | nil => exact .inl (List.mem_singleton.1 h)
  | cons q rest ih =>
    unfold placePath at h
    split at h
    · exact List.mem_cons.1 h
    · exact .inr h
    · rcases List.mem_cons.1 h with rfl | h
      · exact .inr (.head _)
      · exact (ih h).imp_right (.tail _)

theorem mem_placePath_of_mem (h : d ∈ dirs) : d ∈ placePath p dirs := by
  induction dirs with
  | nil => cases h
  | cons q rest ih =>
    unfold placePath
    split
    · exact .tail _ h
    · exact h
    · rcases List.mem_cons.1 h with rfl | h
      · exact .head _
      · exact .tail _ (ih h)

/-- A path or its equal is among those where it has been put. -/
theorem exists_eq_mem_placePath (p : Path) (dirs : List Path) :
    ∃ d ∈ placePath p dirs, p.compare d = .eq := by
  have hself : p.compare p = .eq := Path.compare_eq_of_components rfl
  induction dirs with
  | nil => exact ⟨p, .head _, hself⟩
  | cons q rest ih =>
    unfold placePath
    split
    · exact ⟨p, .head _, hself⟩
    · rename_i heq
      exact ⟨q, .head _, heq⟩
    · obtain ⟨d, hd, heq⟩ := ih
      exact ⟨d, .tail _ hd, heq⟩

theorem pairwise_placePath (h : dirs.Pairwise Precedes) : (placePath p dirs).Pairwise Precedes := by
  induction dirs with
  | nil => exact List.pairwise_singleton _ _
  | cons q rest ih =>
    obtain ⟨hq, hrest⟩ := List.pairwise_cons.1 h
    unfold placePath
    split
    · rename_i hlt
      refine List.pairwise_cons.2 ⟨fun d hd => ?_, h⟩
      rcases List.mem_cons.1 hd with rfl | hd
      · exact hlt
      · exact TransCmp.lt_trans hlt (hq d hd)
    · exact h
    · rename_i hgt
      refine List.pairwise_cons.2 ⟨fun d hd => ?_, ih hrest⟩
      rcases mem_of_mem_placePath hd with rfl | hd
      · exact OrientedCmp.gt_iff_lt.1 hgt
      · exact hq d hd

/-- The paths of a list in order, without repeats. -/
def placeAll (ps : List Path) : List Path := ps.foldl (fun dirs p => placePath p dirs) []

theorem placeAll_concat (ps : List Path) (p : Path) :
    placeAll (ps ++ [p]) = placePath p (placeAll ps) := by
  rw [placeAll, List.foldl_append]
  rfl

theorem pairwise_placeAll (ps : List Path) : (placeAll ps).Pairwise Precedes := by
  induction ps using List.reverseRecOn with
  | nil => exact .nil
  | append_singleton ps p ih => exact placeAll_concat ps p ▸ pairwise_placePath ih

theorem mem_of_mem_placeAll (h : d ∈ placeAll ps) : d ∈ ps := by
  induction ps using List.reverseRecOn with
  | nil => cases h
  | append_singleton ps p ih =>
    rw [placeAll_concat] at h
    rcases mem_of_mem_placePath h with rfl | h
    · simp
    · exact List.mem_append_left _ (ih h)

theorem exists_eq_mem_placeAll (h : p ∈ ps) : ∃ d ∈ placeAll ps, p.compare d = .eq := by
  induction ps using List.reverseRecOn with
  | nil => cases h
  | append_singleton ps q ih =>
    rw [placeAll_concat]
    rcases List.mem_append.1 h with h | h
    · obtain ⟨d, hd, heq⟩ := ih h
      exact ⟨d, mem_placePath_of_mem hd, heq⟩
    · obtain rfl := List.mem_singleton.1 h
      exact exists_eq_mem_placePath p _

end PlacePath

/-! ## Album directories -/

/-- Whether names lead from a root, which stands at the place `top`, to a directory that directly holds an
audio file. -/
def HoldsAudio (t : FileTree) (root : Path) (top names : Place) : Prop :=
  ∃ name, t.HasFile (top ++ names ++ [name]) ∧ (extend root (names ++ [name])).isAudio = true

theorem extend_concat (p : Path) (names : Place) (name : List PathUnit) :
    extend p (names ++ [name]) = (extend p names).child name := by
  rw [extend, List.foldl_append]
  rfl

/-- The directories of the audio files below a root. -/
def audioParents (t : FileTree) (root : Path) : List Path :=
  (((t.filesBelow root).map (extend root)).filter Path.isAudio).filterMap Path.parent?

theorem pairwise_albumDirs (t : FileTree) (root : Path) : (t.albumDirs root).Pairwise Precedes :=
  pairwise_placeAll (t.audioParents root)

section Root

variable (ht : t.Proper) (hroot : t.resolve root = .ok top) (htop : t.entry? top = some .directory)
include ht hroot htop

theorem Proper.mem_audioParents_iff :
    p ∈ t.audioParents root ↔ ∃ names, t.HoldsAudio root top names ∧ p = (extend root names).shorten := by
  obtain ⟨-, hne, -⟩ := resolve_eq_ok_iff.1 hroot
  have hparent : ∀ {names name bytes}, (top ++ (names ++ [name]), Entry.file bytes) ∈ t.entries →
      (extend root (names ++ [name])).parent? = some (extend root names).shorten := by
    intro names name bytes h
    have hnames := ht.names _ h
    rw [extend_concat]
    exact Path.parent?_child
      (units_extend_ne_nil hne fun n hn => hnames n (by simp [hn])) (hnames name (by simp))
  constructor
  · intro h
    obtain ⟨q, hq, hparentQ⟩ := List.mem_filterMap.1 h
    obtain ⟨hmem, haudio⟩ := List.mem_filter.1 hq
    obtain ⟨names, hnames, rfl⟩ := List.mem_map.1 hmem
    obtain ⟨bytes, hbytes⟩ := (mem_filesBelow hroot).1 hnames
    rcases List.eq_nil_or_concat' names with rfl | ⟨init, name, rfl⟩
    · rw [List.append_nil] at hbytes
      cases htop.symm.trans (ht.entry?_of_mem hbytes)
    · rw [hparent hbytes] at hparentQ
      refine ⟨init, ⟨name, ?_, haudio⟩, (Option.some.inj hparentQ).symm⟩
      rw [List.append_assoc]
      exact ⟨bytes, ht.entry?_of_mem hbytes⟩
  · rintro ⟨names, ⟨name, hfile, haudio⟩, rfl⟩
    rw [List.append_assoc] at hfile
    obtain ⟨bytes, hbytes⟩ := ht.hasFile_iff.1 hfile
    have hmem := List.mem_map_of_mem (f := extend root) ((mem_filesBelow hroot).2 ⟨bytes, hbytes⟩)
    exact List.mem_filterMap.2 ⟨_, List.mem_filter.2 ⟨hmem, haudio⟩, hparent hbytes⟩

omit hroot htop in
theorem Proper.directory_of_holdsAudio (h : t.HoldsAudio root top names) :
    t.entry? (top ++ names) = some .directory := by
  obtain ⟨name, hfile, -⟩ := h
  obtain ⟨bytes, hmem⟩ := ht.hasFile_iff.1 hfile
  exact ht.directory_above hmem (List.cons_ne_nil _ _)

omit htop in
theorem Proper.resolve_shorten_extend (h : t.HoldsAudio root top names) :
    t.resolve (extend root names).shorten = .ok (top ++ names) := by
  have hdir := ht.directory_of_holdsAudio h
  obtain ⟨name, hfile, -⟩ := h
  obtain ⟨bytes, hmem⟩ := ht.hasFile_iff.1 hfile
  exact resolve_congr (Path.components_shorten _).symm hdir
    (ht.resolve_extend hroot hmem (List.cons_ne_nil _ _))

omit htop in
/-- Directories below a root with equal paths in the order of paths are the same. -/
theorem Proper.eq_of_compare {names' : Place} (h : t.HoldsAudio root top names)
    (h' : t.HoldsAudio root top names')
    (heq : (extend root names).shorten.compare (extend root names').shorten = .eq) : names = names' := by
  obtain ⟨-, hne, -⟩ := resolve_eq_ok_iff.1 hroot
  obtain ⟨name, hfile, -⟩ := h
  obtain ⟨name', hfile', -⟩ := h'
  obtain ⟨bytes, hmem⟩ := ht.hasFile_iff.1 hfile
  obtain ⟨bytes', hmem'⟩ := ht.hasFile_iff.1 hfile'
  have hcomponents : ∀ {names name bytes}, (top ++ names ++ [name], Entry.file bytes) ∈ t.entries →
      (extend root names).shorten.components = root.components ++ names.map .name := by
    intro names name bytes hmem
    rw [Path.components_shorten, components_extend hne fun n hn => ht.names _ hmem n (by simp [hn])]
  rw [Path.compare, hcomponents hmem, hcomponents hmem', Path.compareComponents_append] at heq
  exact Path.eq_of_compareComponents_names
    (fun m hm n hn => ht.bytes _ hmem _ hmem' m (by simp [hm]) n (by simp [hn])) heq

/-- An album directory is a directory below the root that directly holds an audio file. -/
theorem Proper.mem_albumDirs {d : Path} (h : d ∈ t.albumDirs root) : ∃ names,
    t.HoldsAudio root top names ∧ d.components = (extend root names).components ∧
      t.resolve d = .ok (top ++ names) ∧ t.entry? (top ++ names) = some .directory := by
  obtain ⟨names, hholds, rfl⟩ := (ht.mem_audioParents_iff hroot htop).1 (mem_of_mem_placeAll h)
  exact ⟨names, hholds, Path.components_shorten _, ht.resolve_shorten_extend hroot hholds,
    ht.directory_of_holdsAudio hholds⟩

/-- Each directory below the root that directly holds an audio file is an album directory. -/
theorem Proper.exists_mem_albumDirs (h : t.HoldsAudio root top names) :
    ∃ d ∈ t.albumDirs root,
      d.components = (extend root names).components ∧ t.resolve d = .ok (top ++ names) := by
  have hparent := (ht.mem_audioParents_iff hroot htop).2 ⟨names, h, rfl⟩
  obtain ⟨d, hd, heq⟩ := exists_eq_mem_placeAll hparent
  obtain ⟨names', h', rfl⟩ := (ht.mem_audioParents_iff hroot htop).1 (mem_of_mem_placeAll hd)
  obtain rfl := ht.eq_of_compare hroot h h' heq
  exact ⟨_, hd, Path.components_shorten _, ht.resolve_shorten_extend hroot h⟩

end Root

end FileTree

end MusicLibrary

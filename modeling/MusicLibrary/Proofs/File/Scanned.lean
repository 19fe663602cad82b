import MusicLibrary.Proofs.File.AlbumDirs
import MusicLibrary.Tags.Format

/-!
# Albums of a tree of files

If each album directory below a root can be read as an album, then the tracks of all these albums are the
audio files below the root whose tags can be read, and their extras are the other files that lie directly in
an album directory. Each of these files is found once (`Proper.scan_exact`), although an album
directory may lie within another one. All of it holds of every reader of tags, which sees the extension and
the bytes of a file and nothing else.
-/

namespace MusicLibrary

namespace Path

variable {p q : Path}

/-- The extension of a file stands in the last component of its path. -/
theorem lowerExtension?_congr (h : p.components = q.components) : p.lowerExtension? = q.lowerExtension? := by
  have hunits : p.fileUnits? = q.fileUnits? := by rw [fileUnits?, fileUnits?, h]
  rw [lowerExtension?, lowerExtension?, extension?, extension?, hunits]

theorem isAudio_congr (h : p.components = q.components) : p.isAudio = q.isAudio := by
  rw [isAudio, isAudio, lowerExtension?_congr h]

end Path

/-! ## Reading tags -/

theorem toOption_eq_some_iff {ε α : Type} {e : Except ε α} {a : α} : e.toOption = some a ↔ e = .ok a := by
  cases e <;> simp [Except.toOption]

namespace TagReader

variable {r : TagReader} {t : FileTree} {p q : Path} {tags : TrackTags}

theorem readTags_eq_ok_iff : r.readTags t p = .ok tags ↔
    ∃ bytes extension items?, t.file? p = some bytes ∧ p.lowerExtension? = some extension ∧
      r extension bytes = .ok items? ∧ tags = .ofItems p items? := by
  unfold readTags
  rcases t.file? p with _ | bytes
  · simp
  rcases p.lowerExtension? with _ | extension
  · simp
  rcases hread : r extension bytes with message | items?
  · simp [hread]
  · simp [hread, eq_comm]

theorem path_of_readTags (h : r.readTags t p = .ok tags) : tags.path = p := by
  obtain ⟨-, -, items?, -, -, -, rfl⟩ := readTags_eq_ok_iff.1 h
  exact TrackTags.path_ofItems p items?

/-- Whether a path is that of an audio file whose tags can be read. -/
def isTrack (r : TagReader) (t : FileTree) (p : Path) : Bool :=
  p.isAudio && (r.readTags t p).toOption.isSome

theorem isTrack_iff : r.isTrack t p = true ↔ p.isAudio = true ∧ ∃ tags, r.readTags t p = .ok tags := by
  simp only [isTrack, Bool.and_eq_true, Option.isSome_iff_exists, toOption_eq_some_iff]

theorem isTrack_congr (h : p.components = q.components) (hfile : t.file? p = t.file? q) :
    r.isTrack t p = r.isTrack t q := by
  rw [Bool.eq_iff_iff, isTrack_iff, isTrack_iff, Path.isAudio_congr h]
  refine and_congr_right fun _ => ?_
  -- both paths lead to the same bytes with the same extension; the tags differ in the path alone
  simp only [readTags_eq_ok_iff, hfile, Path.lowerExtension?_congr h]
  constructor <;>
  · rintro ⟨-, bytes, extension, items?, hbytes, hextension, hread, -⟩
    exact ⟨_, bytes, extension, items?, hbytes, hextension, hread, rfl⟩

end TagReader

namespace FileTree

variable {r : TagReader} {t : FileTree} {p q d root : Path} {place top names : Place}
  {name : List PathUnit} {s s' : Shelf} {a : Album}

/-! ## The files of a directory -/

/-- The names of the regular files directly in a directory. -/
def namesIn (t : FileTree) (d : Path) : List (List PathUnit) :=
  (t.filesBelow d).filterMap fun names => if names.length = 1 then names.head? else none

theorem perm_filesIn (t : FileTree) (d : Path) : (t.filesIn d).Perm ((t.namesIn d).map d.child) :=
  (List.mergeSort_perm _ _).map _

theorem only_eq_some : (if names.length = 1 then names.head? else none) = some name ↔ names = [name] := by
  constructor
  · intro h
    split_ifs at h with hlength
    obtain ⟨only, rfl⟩ := List.length_eq_one_iff.1 hlength
    exact congrArg (fun n => [n]) (Option.some.inj h)
  · rintro rfl
    rfl

theorem Proper.mem_namesIn_iff (ht : t.Proper) (hd : t.resolve d = .ok place) :
    name ∈ t.namesIn d ↔ t.HasFile (place ++ [name]) := by
  rw [ht.hasFile_iff, ← mem_filesBelow hd, namesIn, List.mem_filterMap]
  simp only [only_eq_some, exists_eq_right]

theorem Proper.nodup_namesIn (ht : t.Proper) (hd : t.resolve d = .ok place) : (t.namesIn d).Nodup := by
  refine (ht.nodup_filesBelow hd).filterMap fun names names' name h h' => ?_
  exact (only_eq_some.1 h).trans (only_eq_some.1 h').symm

theorem Proper.isFileName_of_hasFile (ht : t.Proper) (h : t.HasFile (place ++ [name])) : IsFileName name := by
  obtain ⟨bytes, hmem⟩ := ht.hasFile_iff.1 h
  exact ht.names _ hmem name (by simp)

theorem Proper.nodup_filesIn (ht : t.Proper) (hd : t.resolve d = .ok place) :
    ((t.filesIn d).map Path.components).Nodup := by
  obtain ⟨-, hne, -⟩ := resolve_eq_ok_iff.1 hd
  refine ((perm_filesIn t d).map _).nodup_iff.2 ?_
  rw [List.map_map]
  refine List.Nodup.map_on (fun m hm n hn h => ?_) (ht.nodup_namesIn hd)
  have hname : ∀ n ∈ t.namesIn d, IsFileName n := fun n hn =>
    ht.isFileName_of_hasFile ((ht.mem_namesIn_iff hd).1 hn)
  simp only [Function.comp_apply, Path.components_child hne (hname m hm),
    Path.components_child hne (hname n hn)] at h
  simpa using h

theorem map_path_filterMap (r : TagReader) (t : FileTree) (ps : List Path) :
    (ps.filterMap fun p => (r.readTags t p).toOption).map (·.path) =
      ps.filter fun p => (r.readTags t p).toOption.isSome := by
  induction ps with
  | nil => rfl
  | cons p ps ih =>
    rcases htags : (r.readTags t p).toOption with _ | tags
    · rw [List.filter_cons_of_neg (by simp [htags]), ← ih]
      simp only [List.filterMap_cons, htags]
    · have hpath := TagReader.path_of_readTags (toOption_eq_some_iff.1 htags)
      rw [List.filter_cons_of_pos (by simp [htags]), ← ih]
      simp only [List.filterMap_cons, htags, List.map_cons, hpath]

/-- The tracks and the extras of a directory that has been read as an album. -/
theorem paths_of_readAlbum (h : r.readAlbum t d s = .ok (a, s')) :
    a.tracks.map (·.path) = (t.filesIn d).filter (r.isTrack t) ∧
      a.extras.map (·.path) = (t.filesIn d).filter fun p => !p.isAudio := by
  unfold TagReader.readAlbum at h
  split_ifs at h with hdir
  rw [List.partition_eq_filter_filter] at h
  unfold Album.ofTags at h
  dsimp only at h
  split_ifs at h with hempty
  cases h
  constructor
  · have hpaths : ∀ (tags : List TrackTags) (s : Shelf) (h : Handle),
        (tags.mapIdx (TrackTags.track s h)).map (·.path) = tags.map (·.path) := by
      intro tags s h
      refine List.ext_getElem? fun i => ?_
      simp only [List.getElem?_map, List.getElem?_mapIdx, Option.map_map]
      rfl
    rw [hpaths, map_path_filterMap, List.filter_filter]
    exact List.filter_congr fun p _ => Bool.and_comm _ _
  · rw [List.map_map]
    exact List.map_id _

/-- A directory can be read as an album if the tags of one of its audio files can be read. -/
theorem exists_readAlbum (s : Shelf) (hdir : t.isDirectory d = true) (hp : p ∈ t.filesIn d)
    (htrack : r.isTrack t p = true) : ∃ a s', r.readAlbum t d s = .ok (a, s') := by
  obtain ⟨haudio, tags, htags⟩ := TagReader.isTrack_iff.1 htrack
  have hmem : tags ∈ ((t.filesIn d).filter Path.isAudio).filterMap fun p => (r.readTags t p).toOption :=
    List.mem_filterMap.2 ⟨p, List.mem_filter.2 ⟨hp, haudio⟩, toOption_eq_some_iff.2 htags⟩
  rw [TagReader.readAlbum, if_pos hdir, List.partition_eq_filter_filter]
  dsimp only [Album.ofTags]
  rw [if_neg fun hempty => List.ne_nil_of_mem hmem (List.isEmpty_iff.1 hempty)]
  exact ⟨_, _, rfl⟩

theorem paths_of_readAlbums {dirs : List Path} {albums : List Album}
    (h : List.Forall₂ (fun d a => ∃ s s', r.readAlbum t d s = .ok (a, s')) dirs albums) :
    (albums.flatMap (·.tracks)).map (·.path) = dirs.flatMap (fun d => (t.filesIn d).filter (r.isTrack t)) ∧
      (albums.flatMap (·.extras)).map (·.path) =
        dirs.flatMap fun d => (t.filesIn d).filter fun p => !p.isAudio := by
  induction h with
  | nil => exact ⟨rfl, rfl⟩
  | cons hread _ ih =>
    obtain ⟨s, s', hread⟩ := hread
    obtain ⟨htracks, hextras⟩ := paths_of_readAlbum hread
    simp only [List.flatMap_cons, List.map_append, htracks, hextras, ih, and_self]

/-! ## The files of all album directories -/

/-- By their components, the paths of a list are those of the files to which the names in a set lead from a
root, each of them once. -/
structure ListsOnce (root : Path) (files : Place → Prop) (paths : List Path) : Prop where
  distinct : (paths.map Path.components).Nodup
  mem_iff : ∀ cs, cs ∈ paths.map Path.components ↔
    ∃ names, files names ∧ cs = (extend root names).components

theorem ListsOnce.congr {files files' : Place → Prop} {paths : List Path} (h : ListsOnce root files paths)
    (hfiles : ∀ names, files names ↔ files' names) : ListsOnce root files' paths :=
  (funext fun names => propext (hfiles names) : files = files') ▸ h

theorem file?_congr (h : t.resolve p = t.resolve q) : t.file? p = t.file? q := by
  rw [file?, file?, readFile, readFile, h]

theorem Proper.mem_map_filesIn_iff (ht : t.Proper) (hd : t.resolve d = .ok place) {kind : Path → Bool}
    {cs : List Component} : cs ∈ ((t.filesIn d).filter kind).map Path.components ↔
      ∃ name, t.HasFile (place ++ [name]) ∧ kind (d.child name) = true ∧
        cs = (d.child name).components := by
  rw [List.mem_map]
  constructor
  · rintro ⟨p, hp, rfl⟩
    obtain ⟨hmem, hkind⟩ := List.mem_filter.1 hp
    obtain ⟨name, hname, rfl⟩ := List.mem_map.1 ((perm_filesIn t d).mem_iff.1 hmem)
    exact ⟨name, (ht.mem_namesIn_iff hd).1 hname, hkind, rfl⟩
  · rintro ⟨name, hfile, hkind, rfl⟩
    have hmem := (perm_filesIn t d).mem_iff.2
      (List.mem_map_of_mem ((ht.mem_namesIn_iff hd).2 hfile))
    exact ⟨_, List.mem_filter.2 ⟨hmem, hkind⟩, rfl⟩

/-- Files in directories with different components have different ones, too. -/
theorem Proper.components_eq_of_child {d' : Path} {place' : Place} {name' : List PathUnit} (ht : t.Proper)
    (hd : t.resolve d = .ok place) (hd' : t.resolve d' = .ok place') (hfile : t.HasFile (place ++ [name]))
    (hfile' : t.HasFile (place' ++ [name'])) (h : (d.child name).components = (d'.child name').components) :
    d.components = d'.components := by
  obtain ⟨-, hne, -⟩ := resolve_eq_ok_iff.1 hd
  obtain ⟨-, hne', -⟩ := resolve_eq_ok_iff.1 hd'
  rw [Path.components_child hne (ht.isFileName_of_hasFile hfile),
    Path.components_child hne' (ht.isFileName_of_hasFile hfile')] at h
  exact (List.append_inj' h rfl).1

section Root

variable (ht : t.Proper) (hroot : t.resolve root = .ok top)
include ht hroot

/-- A file in an album directory has the components of the path from the root, and is the same file. -/
theorem Proper.child_eq_extend (hd : d.components = (extend root names).components)
    (hplace : t.resolve d = .ok (top ++ names)) (hfile : t.HasFile (top ++ names ++ [name])) :
    (d.child name).components = (extend root (names ++ [name])).components ∧
      t.file? (d.child name) = t.file? (extend root (names ++ [name])) := by
  obtain ⟨-, hne, -⟩ := resolve_eq_ok_iff.1 hplace
  obtain ⟨bytes, hmem⟩ := ht.hasFile_iff.1 hfile
  have hname := ht.isFileName_of_hasFile hfile
  have hdir := ht.directory_above hmem (List.cons_ne_nil _ _)
  have hextend := ht.resolve_extend hroot hmem (List.cons_ne_nil _ _)
  obtain ⟨-, hneExtend, -⟩ := resolve_eq_ok_iff.1 hextend
  have hthere : (t.entry? (top ++ names ++ [name])).isSome := by
    rw [ht.entry?_of_mem hmem]
    rfl
  rw [extend_concat]
  constructor
  · rw [Path.components_child hne hname, Path.components_child hneExtend hname, hd]
  · refine file?_congr ?_
    rw [resolve_child hplace hdir hname hthere, resolve_child hextend hdir hname hthere]

variable (htop : t.entry? top = some .directory)
include htop

/-- Files of a kind are found once in the album directories, if their kind is that of their components and
of what is in them. -/
theorem Proper.listsOnce_flatMap {kind : Path → Bool}
    (hkind : ∀ {p q}, p.components = q.components → t.file? p = t.file? q → kind p = kind q) :
    ListsOnce root
      (fun names => ∃ dir name, names = dir ++ [name] ∧ t.HoldsAudio root top dir ∧
        t.HasFile (top ++ names) ∧ kind (extend root names) = true)
      ((t.albumDirs root).flatMap fun d => (t.filesIn d).filter kind) := by
  constructor
  · rw [List.map_flatMap, List.nodup_flatMap]
    constructor
    · intro d hd
      obtain ⟨names, -, -, hplace, -⟩ := ht.mem_albumDirs hroot htop hd
      exact (ht.nodup_filesIn hplace).sublist (List.filter_sublist.map _)
    · refine (pairwise_albumDirs t root).imp_of_mem fun {d d'} hd hd' hlt cs hcs hcs' => ?_
      obtain ⟨names, -, -, hplace, -⟩ := ht.mem_albumDirs hroot htop hd
      obtain ⟨names', -, -, hplace', -⟩ := ht.mem_albumDirs hroot htop hd'
      obtain ⟨name, hfile, -, rfl⟩ := (ht.mem_map_filesIn_iff hplace).1 hcs
      obtain ⟨name', hfile', -, hsame⟩ := (ht.mem_map_filesIn_iff hplace').1 hcs'
      have hdirs := ht.components_eq_of_child hplace hplace' hfile hfile' hsame
      cases hlt.symm.trans (Path.compare_eq_of_components hdirs)
  · intro cs
    rw [List.map_flatMap, List.mem_flatMap]
    constructor
    · rintro ⟨d, hd, hcs⟩
      obtain ⟨dir, hholds, hsame, hplace, -⟩ := ht.mem_albumDirs hroot htop hd
      obtain ⟨name, hfile, hname, rfl⟩ := (ht.mem_map_filesIn_iff hplace).1 hcs
      obtain ⟨hcomponents, hbytes⟩ := ht.child_eq_extend hroot hsame hplace hfile
      rw [hkind hcomponents hbytes] at hname
      rw [List.append_assoc] at hfile
      exact ⟨dir ++ [name], ⟨dir, name, rfl, hholds, hfile, hname⟩, hcomponents⟩
    · rintro ⟨names, ⟨dir, name, rfl, hholds, hfile, hname⟩, rfl⟩
      obtain ⟨d, hd, hsame, hplace⟩ := ht.exists_mem_albumDirs hroot htop hholds
      rw [← List.append_assoc] at hfile
      obtain ⟨hcomponents, hbytes⟩ := ht.child_eq_extend hroot hsame hplace hfile
      rw [← hkind hcomponents hbytes] at hname
      exact ⟨d, hd, (ht.mem_map_filesIn_iff hplace).2 ⟨name, hfile, hname, hcomponents.symm⟩⟩

/-- In a tree of directories and regular files, the album directories of a root stand in the order of
paths, and are the directories at or below the root that directly hold an audio file. If each of them can
be read as an album, then of all these albums the tracks are the audio files below the root whose tags can
be read, and the extras are the other files directly in an album directory, each of them once. -/
theorem Proper.scan_exact (r : TagReader) :
    (t.albumDirs root).Pairwise Precedes ∧
    (∀ d ∈ t.albumDirs root, ∃ names, t.HoldsAudio root top names ∧
      d.components = (extend root names).components ∧
      t.resolve d = .ok (top ++ names) ∧ t.entry? (top ++ names) = some .directory) ∧
    (∀ names, t.HoldsAudio root top names →
      ∃ d ∈ t.albumDirs root, d.components = (extend root names).components) ∧
    ∀ albums,
      List.Forall₂ (fun d a => ∃ s s', r.readAlbum t d s = .ok (a, s')) (t.albumDirs root) albums →
      ListsOnce root
        (fun names => t.HasFile (top ++ names) ∧ (extend root names).isAudio = true ∧
          ∃ tags, r.readTags t (extend root names) = .ok tags)
        ((albums.flatMap (·.tracks)).map (·.path)) ∧
      ListsOnce root
        (fun names => ∃ dir name, names = dir ++ [name] ∧ t.HoldsAudio root top dir ∧
          t.HasFile (top ++ names) ∧ (extend root names).isAudio = false)
        ((albums.flatMap (·.extras)).map (·.path)) := by
  refine ⟨pairwise_albumDirs t root, fun d hd => ht.mem_albumDirs hroot htop hd, fun names h => ?_,
    fun albums halbums => ?_⟩
  · obtain ⟨d, hd, hsame, -⟩ := ht.exists_mem_albumDirs hroot htop h
    exact ⟨d, hd, hsame⟩
  obtain ⟨htracks, hextras⟩ := paths_of_readAlbums halbums
  rw [htracks, hextras]
  constructor
  · refine (ht.listsOnce_flatMap hroot htop TagReader.isTrack_congr).congr fun names => ?_
    rw [← TagReader.isTrack_iff]
    constructor
    · rintro ⟨dir, name, -, -, hfile, htrack⟩
      exact ⟨hfile, htrack⟩
    · rintro ⟨hfile, htrack⟩
      rcases List.eq_nil_or_concat' names with rfl | ⟨dir, name, rfl⟩
      · obtain ⟨bytes, hbytes⟩ := hfile
        rw [List.append_nil] at hbytes
        cases htop.symm.trans hbytes
      · refine ⟨dir, name, rfl, ⟨name, ?_, (TagReader.isTrack_iff.1 htrack).1⟩, hfile, htrack⟩
        rwa [List.append_assoc]
  · refine (ht.listsOnce_flatMap hroot htop fun h _ => ?_).congr fun names => ?_
    · rw [Path.isAudio_congr h]
    · simp only [Bool.not_eq_true']

end Root

/-- A FLAC file without comments: its only block describes one second of sound at 44100 samples, in two
channels of 16 bits. -/
def uncommented : List UInt8 :=
  [0x66, 0x4C, 0x61, 0x43, 0x80, 0, 0, 34, 0x10, 0, 0x10, 0, 0, 0, 0, 0, 0, 0, 0x0A, 0xC4, 0x42, 0xF0, 0, 0,
    0xAC, 0x44] ++ List.replicate 16 0

/-- The place to which names lead. -/
def placeAt (names : List String) : Place := names.map fun name => (Path.ofText name).units

/-- An album within the directory of another one, and one beside it with a file that cannot be read. -/
def nestedTree : FileTree where
  entries := [(placeAt ["m", "a", "1.flac"], .file uncommented), (placeAt ["m", "a", "cover.jpg"], .file []),
    (placeAt ["m", "a", "cd", "2.flac"], .file uncommented),
    (placeAt ["m", "a-b", "3.FLAC"], .file uncommented), (placeAt ["m", "a-b", "4.flac"], .file [])]
  current := []

theorem scan_exact_nestedTree :
    nestedTree.Proper ∧ nestedTree.resolve (.ofText "/m") = .ok (placeAt ["m"]) ∧
    nestedTree.entry? (placeAt ["m"]) = some .directory ∧
    nestedTree.albumDirs (.ofText "/m") = [.ofText "/m/a", .ofText "/m/a/cd", .ofText "/m/a-b"] ∧
    ∃ albums,
      List.Forall₂ (fun d a => ∃ s s', Tags.readSound.readAlbum nestedTree d s = .ok (a, s'))
        (nestedTree.albumDirs (.ofText "/m")) albums ∧
      ListsOnce (.ofText "/m")
        (fun names => nestedTree.HasFile (placeAt ["m"] ++ names) ∧
          (extend (.ofText "/m") names).isAudio = true ∧
          ∃ tags, Tags.readSound.readTags nestedTree (extend (.ofText "/m") names) = .ok tags)
        ((albums.flatMap (·.tracks)).map (·.path)) := by
  have ht : nestedTree.Proper :=
    ⟨by decide +kernel, by decide +kernel, by decide +kernel, by decide +kernel⟩
  have hroot : nestedTree.resolve (.ofText "/m") = .ok (placeAt ["m"]) := rfl
  have htop : nestedTree.entry? (placeAt ["m"]) = some .directory := by decide +kernel
  have hdirs : nestedTree.albumDirs (.ofText "/m") =
      [.ofText "/m/a", .ofText "/m/a/cd", .ofText "/m/a-b"] := by decide +kernel
  have hread : ∀ x ∈ [("/m/a", "1.flac"), ("/m/a/cd", "2.flac"), ("/m/a-b", "3.FLAC")],
      ∃ a s', Tags.readSound.readAlbum nestedTree (.ofText x.1) .empty = .ok (a, s') := by
    intro x hx
    have hfiles : ∀ x ∈ [("/m/a", "1.flac"), ("/m/a/cd", "2.flac"), ("/m/a-b", "3.FLAC")],
        nestedTree.isDirectory (.ofText x.1) = true ∧
        (Path.ofText x.2).units ∈ nestedTree.namesIn (.ofText x.1) ∧
        Tags.readSound.isTrack nestedTree ((Path.ofText x.1).child (Path.ofText x.2).units) = true := by
      decide +kernel
    obtain ⟨hdir, hname, htrack⟩ := hfiles x hx
    exact exists_readAlbum .empty hdir ((perm_filesIn _ _).mem_iff.2 (List.mem_map_of_mem hname)) htrack
  obtain ⟨a, sa, ha⟩ := hread ("/m/a", "1.flac") (by simp)
  obtain ⟨b, sb, hb⟩ := hread ("/m/a/cd", "2.flac") (by simp)
  obtain ⟨c, sc, hc⟩ := hread ("/m/a-b", "3.FLAC") (by simp)
  have hall : List.Forall₂ (fun d a => ∃ s s', Tags.readSound.readAlbum nestedTree d s = .ok (a, s'))
      (nestedTree.albumDirs (.ofText "/m")) [a, b, c] := by
    rw [hdirs]
    exact .cons ⟨_, _, ha⟩ (.cons ⟨_, _, hb⟩ (.cons ⟨_, _, hc⟩ .nil))
  exact ⟨ht, hroot, htop, hdirs, [a, b, c], hall, ((ht.scan_exact hroot htop _).2.2.2 _ hall).1⟩

end FileTree

end MusicLibrary

import MusicLibrary.Proofs.Album.MergeTracks

/-!
# Extras that are merged

Extras are merged one after the other, and a name may be repeated among those of the target as well as
among those of the source. The first source extra of a name that the target lacks is added, whether the
merge overwrites or not (`exists_extras_foldl_mergeExtra`). What a merge that overwrites does beyond that is
to redirect the first extra of a name to the path of the last source extra of that name
(`foldl_mergeExtra_eq`).
-/

namespace MusicLibrary

namespace Extra

/-! ### The last extra of a name -/

section Redirected

variable {overwrite : Bool} {es : List Extra} {e f : Extra} {name : String}

/-- The last extra of a name. -/
def lastNamed? (es : List Extra) (name : String) : Option Extra :=
  (es.filter (·.filename = name)).getLast?

theorem lastNamed?_append_singleton (es : List Extra) (e : Extra) (name : String) :
    lastNamed? (es ++ [e]) name = if e.filename = name then some e else lastNamed? es name := by
  by_cases h : e.filename = name <;> simp [lastNamed?, h]

theorem filename_of_lastNamed? (h : lastNamed? es name = some e) : e.filename = name := by
  have := List.mem_of_getLast? h
  simpa using (List.mem_filter.1 this).2

/-- An extra with the path of another one of its name. -/
def redirect (f e : Extra) : Extra := if e.filename = f.filename then { e with path := f.path } else e

/-- An extra of the target after a merge. -/
def redirected (overwrite : Bool) (source : List Extra) (e : Extra) : Extra :=
  if overwrite then ((lastNamed? source e.filename).map ({ e with path := ·.path })).getD e else e

theorem redirected_of_some (h : lastNamed? es e.filename = some f) :
    redirected true es e = { e with path := f.path } := by
  rw [redirected, if_pos rfl, h]
  rfl

theorem redirected_of_none (h : lastNamed? es e.filename = none) : redirected true es e = e := by
  rw [redirected, if_pos rfl, h]
  rfl

/-- Only the path of a redirected extra is another one. -/
theorem redirected_eq : redirected overwrite es e =
    { e with path := if overwrite then ((lastNamed? es e.filename).map (·.path)).getD e.path else e.path } := by
  cases overwrite
  · rfl
  · rcases hl : lastNamed? es e.filename with _ | f <;> simp [redirected, hl]

theorem redirected_id? : (redirected overwrite es e).id? = e.id? := by
  rw [redirected_eq]

theorem redirected_album : (redirected overwrite es e).album = e.album := by
  rw [redirected_eq]

theorem redirected_path : (redirected overwrite es e).path =
    if overwrite then ((lastNamed? es e.filename).map (·.path)).getD e.path else e.path := by
  rw [redirected_eq]

theorem redirected_filename : (redirected overwrite es e).filename = e.filename := by
  cases overwrite
  · rfl
  · rcases hl : lastNamed? es e.filename with _ | f
    · rw [redirected_of_none hl]
    · rw [redirected_of_some hl]
      show f.filename = e.filename
      exact filename_of_lastNamed? hl

/-- The last extra of a name redirects last. -/
theorem redirected_append_singleton :
    redirected true (es ++ [f]) e = redirect f (redirected true es e) := by
  have hlast := lastNamed?_append_singleton es f e.filename
  rw [redirect, redirected_filename]
  by_cases h : e.filename = f.filename
  · rw [if_pos h.symm] at hlast
    rw [redirected_of_some hlast, if_pos h]
    rcases hl : lastNamed? es e.filename with _ | g
    · rw [redirected_of_none hl]
    · rw [redirected_of_some hl]
  · rw [if_neg (Ne.symm h)] at hlast
    rw [if_neg h]
    rcases hl : lastNamed? es e.filename with _ | g
    · rw [redirected_of_none hl, redirected_of_none (hlast.trans hl)]
    · rw [redirected_of_some hl, redirected_of_some (hlast.trans hl)]

end Redirected

/-! ### The first extra of a name -/

variable {overwrite : Bool} {source es : List Extra} {e : Extra} {name : String}

/-- Whether an extra of some name stands among the first `i` ones. -/
def NamedBefore (es : List Extra) (i : Nat) (name : String) : Prop :=
  name ∈ (es.take i).map (·.filename)

instance (es : List Extra) (i : Nat) (name : String) : Decidable (NamedBefore es i name) :=
  inferInstanceAs (Decidable (_ ∈ _))

theorem namedBefore_append {fs : List Extra} {i : Nat} (hi : i ≤ es.length) :
    NamedBefore (es ++ fs) i name ↔ NamedBefore es i name := by
  rw [NamedBefore, NamedBefore, List.take_append_of_le_length hi]

/-- The extras of a target after a merge: the first one of each name has been redirected. -/
def redirectedFirsts (overwrite : Bool) (source es : List Extra) : List Extra :=
  es.mapIdx fun i e => if NamedBefore es i e.filename then e else e.redirected overwrite source

theorem getElem_redirectedFirsts {i : Nat} (hi : i < (redirectedFirsts overwrite source es).length)
    (hi' : i < es.length) : (redirectedFirsts overwrite source es)[i] =
      if NamedBefore es i es[i].filename then es[i] else es[i].redirected overwrite source :=
  List.getElem_mapIdx ..

theorem length_redirectedFirsts : (redirectedFirsts overwrite source es).length = es.length :=
  List.length_mapIdx

/-- What is the same of a redirected extra is the same of all. -/
theorem map_redirectedFirsts {β : Type} {f : Extra → β} (hf : ∀ e, f (e.redirected overwrite source) = f e) :
    (redirectedFirsts overwrite source es).map f = es.map f := by
  refine List.ext_getElem (by simp [redirectedFirsts]) fun i hi hi' => ?_
  rw [List.length_map] at hi'
  simp only [List.getElem_map, getElem_redirectedFirsts _ hi']
  split_ifs
  · rfl
  · exact hf _

theorem map_filename_redirectedFirsts :
    (redirectedFirsts overwrite source es).map (·.filename) = es.map (·.filename) :=
  map_redirectedFirsts fun _ => redirected_filename

theorem namedBefore_redirectedFirsts {i : Nat} :
    NamedBefore (redirectedFirsts overwrite source es) i name ↔ NamedBefore es i name := by
  rw [NamedBefore, NamedBefore, List.map_take, map_filename_redirectedFirsts, List.map_take]

/-- Nothing is redirected if every first extra of a name stands where it would be redirected to. -/
theorem redirectedFirsts_eq_self (h : ∀ (i : Nat) (hi : i < es.length),
    ¬ NamedBefore es i es[i].filename → es[i].redirected overwrite source = es[i]) :
    redirectedFirsts overwrite source es = es := by
  refine List.ext_getElem length_redirectedFirsts fun i hi hi' => ?_
  rw [getElem_redirectedFirsts hi hi']
  split_ifs with hbefore
  · rfl
  · exact h i hi' hbefore

theorem not_namedBefore_of_nodup (h : (es.map (·.filename)).Nodup) {i : Nat} (hi : i < es.length) :
    ¬ NamedBefore es i es[i].filename := by
  intro hbefore
  have hi' : i < (es.map (·.filename)).length := by simpa using hi
  have hname : (es.map (·.filename))[i] = es[i].filename := List.getElem_map _
  rw [NamedBefore, List.map_take] at hbefore
  obtain ⟨k, hk, hki⟩ := List.mem_take_iff_getElem.1 hbefore
  have := h.getElem_inj_iff.1 (hki.trans hname.symm)
  omega

theorem redirectedFirsts_of_nodup (h : (es.map (·.filename)).Nodup) :
    redirectedFirsts overwrite source es = es.map (redirected overwrite source) := by
  refine List.ext_getElem (by simp [redirectedFirsts]) fun i hi hi' => ?_
  rw [List.length_map] at hi'
  rw [getElem_redirectedFirsts hi hi', if_neg (not_namedBefore_of_nodup h hi'), List.getElem_map]

theorem redirectedFirsts_false : redirectedFirsts false source es = es :=
  redirectedFirsts_eq_self fun _ _ _ => rfl

theorem redirectedFirsts_nil : redirectedFirsts overwrite [] es = es :=
  redirectedFirsts_eq_self fun _ _ _ => by cases overwrite <;> rfl

theorem redirected_redirected :
    (e.redirected overwrite source).redirected overwrite source = e.redirected overwrite source := by
  cases overwrite
  · rfl
  · rcases hl : lastNamed? source e.filename with _ | f
    · rw [redirected_of_none hl, redirected_of_none hl]
    · have hl' : lastNamed? source (e.redirected true source).filename = some f := by
        rw [redirected_filename]
        exact hl
      rw [redirected_of_some hl', redirected_of_some hl]

/-- What has been redirected stays where it is. -/
theorem redirectedFirsts_redirectedFirsts :
    redirectedFirsts overwrite source (redirectedFirsts overwrite source es) =
      redirectedFirsts overwrite source es := by
  refine redirectedFirsts_eq_self fun i hi hbefore => ?_
  have hi' : i < es.length := length_redirectedFirsts ▸ hi
  rw [namedBefore_redirectedFirsts] at hbefore
  rw [getElem_redirectedFirsts hi hi'] at hbefore ⊢
  split_ifs at hbefore ⊢ with h
  · exact absurd h hbefore
  · exact redirected_redirected

theorem exists_lastNamed? (he : e ∈ source) : ∃ f, lastNamed? source e.filename = some f :=
  Option.ne_none_iff_exists'.1 fun hnone => by
    rw [lastNamed?, List.getLast?_eq_none_iff, List.filter_eq_nil_iff] at hnone
    exact hnone e he (decide_eq_true rfl)

/-! ### Names that are lacked -/

/-- The names of source extras that none of `es` has, each once, in the order of the first extras. -/
def lackedNames (es source : List Extra) : List String :=
  ((source.map (·.filename)).filter (· ∉ es.map (·.filename))).eraseDups

theorem mem_append_lackedNames : name ∈ es.map (·.filename) ++ lackedNames es source ↔
    name ∈ es.map (·.filename) ∨ name ∈ source.map (·.filename) := by
  rw [List.mem_append, lackedNames, List.mem_eraseDups, List.mem_filter, decide_eq_true_eq]
  tauto

/-- Names that are lacked repeat neither each other nor the names of `es`. -/
theorem nodup_append_lackedNames (h : (es.map (·.filename)).Nodup) :
    (es.map (·.filename) ++ lackedNames es source).Nodup := by
  refine List.nodup_append.2 ⟨h, nodup_eraseDups _, fun x hx y hy heq => ?_⟩
  rw [lackedNames, List.mem_eraseDups, List.mem_filter, decide_eq_true_eq] at hy
  exact hy.2 (heq ▸ hx)

/-- An extra with a name that is lacked is the first one of its name. -/
theorem not_namedBefore_of_lacked {new : List Extra} (hnames : new.map (·.filename) = lackedNames es source)
    {k : Nat} (hk : k < new.length) : ¬ NamedBefore (es ++ new) (es.length + k) new[k].filename := by
  rw [NamedBefore, List.take_length_add_append, List.map_append, List.mem_append, not_or]
  constructor
  · have hlacked : new[k].filename ∈ lackedNames es source := hnames ▸ List.mem_map_of_mem (List.getElem_mem hk)
    rw [lackedNames, List.mem_eraseDups, List.mem_filter, decide_eq_true_eq] at hlacked
    exact hlacked.2
  · exact not_namedBefore_of_nodup (hnames ▸ nodup_eraseDups _) hk

/-- One more source extra adds its name unless it has come up. -/
theorem lackedNames_append_singleton (es source : List Extra) (f : Extra) :
    lackedNames es (source ++ [f]) =
      if f.filename ∈ es.map (·.filename) ++ lackedNames es source then lackedNames es source
      else lackedNames es source ++ [f.filename] := by
  have hmem : f.filename ∈ es.map (·.filename) ++ lackedNames es source ↔ _ := mem_append_lackedNames
  by_cases hes : f.filename ∈ es.map (·.filename)
  · rw [if_pos (List.mem_append_left _ hes)]
    simp only [lackedNames, List.map_append, List.filter_append, List.map_singleton, List.filter_singleton, hes]
    simp
  · have hsource : f.filename ∈ es.map (·.filename) ++ lackedNames es source ↔
        f.filename ∈ (source.map (·.filename)).filter (· ∉ es.map (·.filename)) := by
      rw [hmem, List.mem_filter, decide_eq_true_eq]
      tauto
    simp only [hsource]
    simp only [lackedNames, List.map_append, List.filter_append, List.map_singleton, List.filter_singleton, hes,
      not_false_eq_true, decide_true, Bool.cond_true, eraseDups_append_singleton]

end Extra

namespace Album

variable {overwrite : Bool} {a : Album} {source es : List Extra} {e f : Extra} {name : String}

open Extra

theorem redirectExtra_eq_mapIdx (name : String) (path : Path) (es : List Extra) :
    redirectExtra name path es = es.mapIdx fun i e =>
      if e.filename = name ∧ ¬ NamedBefore es i name then { e with path := path } else e := by
  induction es with
  | nil => rfl
  | cons e es ih =>
    rw [redirectExtra, List.mapIdx_cons]
    by_cases he : e.filename = name
    · have hrest : es.mapIdx (fun _ e => e) = es := List.ext_getElem (by simp) fun i _ _ => by simp
      simp [he, NamedBefore, hrest]
    · have hrest : ∀ i, NamedBefore (e :: es) (i + 1) name ↔ NamedBefore es i name := fun i => by
        simp [NamedBefore, Ne.symm he]
      simp [he, hrest, ih]

/-- One more source extra redirects the first extra of its name. -/
theorem redirectExtra_redirectedFirsts (source : List Extra) (f : Extra) (es : List Extra) :
    redirectExtra f.filename f.path (redirectedFirsts true source es) =
      redirectedFirsts true (source ++ [f]) es := by
  rw [redirectExtra_eq_mapIdx]
  refine List.ext_getElem (by simp [redirectedFirsts]) fun i hi hi' => ?_
  have hlt : i < es.length := length_redirectedFirsts ▸ hi'
  have hi'' : i < (redirectedFirsts true source es).length := length_redirectedFirsts.symm ▸ hlt
  simp only [List.getElem_mapIdx, getElem_redirectedFirsts hi' hlt, getElem_redirectedFirsts hi'' hlt,
    namedBefore_redirectedFirsts]
  by_cases hbefore : NamedBefore es i es[i].filename
  · have hkept : ¬ (es[i].filename = f.filename ∧ ¬ NamedBefore es i f.filename) := by
      rintro ⟨hname, hno⟩
      exact hno (hname ▸ hbefore)
    rw [if_pos hbefore, if_pos hbefore, if_neg hkept]
  · rw [if_neg hbefore, if_neg hbefore, redirected_append_singleton, redirected_filename, redirect,
      redirected_filename]
    by_cases hname : es[i].filename = f.filename
    · rw [if_pos ⟨hname, hname ▸ hbefore⟩, if_pos hname]
    · rw [if_neg (fun h => hname h.1), if_neg hname]

/-- One more source extra of a new name is added, and redirects nothing. -/
theorem redirectedFirsts_append_singleton (h : f.filename ∉ es.map (·.filename)) (k : Handle) :
    redirectedFirsts true (source ++ [f]) (es ++ [f.on k]) =
      redirectedFirsts true source es ++ [f.on k] := by
  have hold : ∀ e ∈ es, e.redirected true (source ++ [f]) = e.redirected true source := fun e he => by
    have hne : (e.redirected true source).filename ≠ f.filename := by
      rw [redirected_filename]
      exact fun hname => h (hname ▸ List.mem_map_of_mem he)
    rw [redirected_append_singleton, redirect, if_neg hne]
  have hnew : (f.on k).redirected true (source ++ [f]) = f.on k := by
    have hlast : lastNamed? (source ++ [f]) (f.on k).filename = some f := by
      rw [lastNamed?_append_singleton]
      exact if_pos rfl
    rw [redirected_of_some hlast]
    rfl
  refine List.ext_getElem (by simp [redirectedFirsts]) fun i hi hi' => ?_
  have hlt : i < (es ++ [f.on k]).length := length_redirectedFirsts ▸ hi
  rw [getElem_redirectedFirsts hi hlt]
  by_cases hes : i < es.length
  · have hes' : i < (redirectedFirsts true source es).length := length_redirectedFirsts.symm ▸ hes
    simp only [List.getElem_append_left hes, List.getElem_append_left hes', getElem_redirectedFirsts hes' hes,
      hold _ (List.getElem_mem hes), namedBefore_append (Nat.le_of_lt hes)]
  · have hi : i = es.length := by
      rw [List.length_append, List.length_singleton] at hlt
      omega
    subst hi
    have hno : ¬ NamedBefore (es ++ [f.on k]) es.length (f.on k).filename := by
      rw [NamedBefore, List.take_left]
      exact h
    simp [hno, hnew, length_redirectedFirsts]

/-! ## Merging a list of extras -/

theorem findExtra?_eq_none_iff : a.findExtra? name = none ↔ name ∉ a.extras.map (·.filename) := by
  simp [findExtra?, List.find?_eq_none]

theorem mergeExtra_of_new (h : e.filename ∉ a.extras.map (·.filename)) :
    a.mergeExtra overwrite e = a.addExtra e := by
  simp only [mergeExtra, findExtra?_eq_none_iff.2 h]

theorem mergeExtra_of_named (h : e.filename ∈ a.extras.map (·.filename)) : a.mergeExtra overwrite e =
    if overwrite then { a with extras := redirectExtra e.filename e.path a.extras } else a := by
  obtain ⟨f, hf⟩ := Option.ne_none_iff_exists'.1 fun hnone => findExtra?_eq_none_iff.1 hnone h
  simp only [mergeExtra, hf]

/-- Extras that are all named in an album add nothing to it. -/
theorem foldl_mergeExtra_of_named (h : ∀ e ∈ source, e.filename ∈ a.extras.map (·.filename)) :
    source.foldl (mergeExtra false) a = a := by
  induction source with
  | nil => rfl
  | cons e source ih =>
    obtain ⟨he, hsource⟩ := List.forall_mem_cons.1 h
    rw [List.foldl_cons, mergeExtra_of_named he, if_neg Bool.false_ne_true, ih hsource]

/-- What is merged without overwriting adds the first extra of each name that the album lacks, in the
order in which the names come up. -/
theorem exists_extras_foldl_mergeExtra (a : Album) (source : List Extra) :
    ∃ new, source.foldl (mergeExtra false) a = { a with extras := a.extras ++ new } ∧
      new.map (·.filename) = lackedNames a.extras source ∧
      ∀ e ∈ new, ∃ f, source.find? (·.filename = e.filename) = some f ∧ e = f.on a.handle := by
  induction source using List.reverseRecOn with
  | nil => exact ⟨[], by simp, by simp [lackedNames], nofun⟩
  | append_singleton source f ih =>
    obtain ⟨new, heq, hnames, hfirst⟩ := ih
    have hall : (a.extras ++ new).map (·.filename) = a.extras.map (·.filename) ++ lackedNames a.extras source := by
      rw [List.map_append, hnames]
    have hlater : ∀ e ∈ new, ∃ g, (source ++ [f]).find? (·.filename = e.filename) = some g ∧
        e = g.on a.handle := fun e he => by
      obtain ⟨g, hg, heg⟩ := hfirst e he
      exact ⟨g, by rw [List.find?_append, hg]; rfl, heg⟩
    rw [List.foldl_append, heq, List.foldl_cons, List.foldl_nil]
    by_cases hnamed : f.filename ∈ (a.extras ++ new).map (·.filename)
    · refine ⟨new, mergeExtra_of_named hnamed, ?_, hlater⟩
      rw [hnames, lackedNames_append_singleton, if_pos (hall ▸ hnamed)]
    · refine ⟨new ++ [f.on a.handle], ?_, ?_, List.forall_mem_append.2 ⟨hlater, ?_⟩⟩
      · rw [mergeExtra_of_new hnamed, addExtra, List.append_assoc]
        rfl
      · rw [List.map_append, hnames, lackedNames_append_singleton, if_neg (hall ▸ hnamed)]
        rfl
      · -- no earlier source extra has the name, as the album would have it then
        have hno : source.find? (·.filename = f.filename) = none := by
          refine List.find?_eq_none.2 fun g hg hgf => hnamed ?_
          rw [hall, mem_append_lackedNames]
          exact .inr (List.mem_map.2 ⟨g, hg, of_decide_eq_true hgf⟩)
        refine List.forall_mem_singleton.2 ⟨f, ?_, rfl⟩
        show (source ++ [f]).find? (·.filename = f.filename) = some f
        rw [List.find?_append, hno]
        simp

/-- A merge that overwrites redirects the first extra of each name, and is the same otherwise. -/
theorem foldl_mergeExtra_eq (overwrite : Bool) (a : Album) (source : List Extra) :
    source.foldl (mergeExtra overwrite) a =
      { source.foldl (mergeExtra false) a with
        extras := redirectedFirsts overwrite source (source.foldl (mergeExtra false) a).extras } := by
  cases overwrite with
  | false => simp only [redirectedFirsts_false]
  | true =>
    induction source using List.reverseRecOn with
    | nil => simp only [List.foldl_nil, redirectedFirsts_nil]
    | append_singleton source f ih =>
      rw [List.foldl_append, List.foldl_append, ih]
      set b := source.foldl (mergeExtra false) a
      simp only [List.foldl_cons, List.foldl_nil]
      by_cases hnamed : f.filename ∈ b.extras.map (·.filename)
      · rw [mergeExtra_of_named hnamed, mergeExtra_of_named (map_filename_redirectedFirsts.symm ▸ hnamed)]
        simp only [if_true, Bool.false_eq_true, if_false, redirectExtra_redirectedFirsts]
      · rw [mergeExtra_of_new hnamed, mergeExtra_of_new (map_filename_redirectedFirsts.symm ▸ hnamed)]
        exact congrArg (Album.mk b.handle b.tracks) (redirectedFirsts_append_singleton hnamed b.handle).symm

theorem foldl_mergeExtra_eq_extras (overwrite : Bool) (a : Album) (source : List Extra) :
    source.foldl (mergeExtra overwrite) a =
      { a with extras := (source.foldl (mergeExtra overwrite) a).extras } := by
  obtain ⟨new, hnew, -⟩ := exists_extras_foldl_mergeExtra a source
  rw [foldl_mergeExtra_eq, hnew]

end Album

end MusicLibrary

import MusicLibrary.Proofs.Album.Redirected
import MusicLibrary.Proofs.Path.FileName

/-!
# Merging the same extras again

Where no two extras of an album share a name, a merge that overwrites redirects every extra to the last
source extra of its name. `ExtrasMerged` says what a merge of a whole list gives then, from which it follows
that extras are absorbed once they have been merged (`ExtrasMerged.absorbs`, `ExtrasMerged.alike`).
-/

namespace MusicLibrary

namespace Extra

variable {e f : Extra}

/-- A store keeps the same of two extras, but for number and album. -/
def Alike (e f : Extra) : Prop := e.path.text = f.path.text

theorem Alike.filename_eq (h : e.Alike f) : e.filename = f.filename := by
  rw [filename, filename, ← Path.fileName?_ofText_text, h, Path.fileName?_ofText_text]

end Extra

namespace Album

variable {overwrite : Bool} {a a' : Album} {source new : List Extra}

open Extra

/-- What merging extras one after the other makes of an album: its own extras are redirected, and
`new` ones are added. Names stay without repeats. -/
structure ExtrasMerged (overwrite : Bool) (a : Album) (source : List Extra) (a' : Album)
    (new : List Extra) : Prop where
  eq : a' = { a with extras := a.extras.map (redirected overwrite source) ++ new }
  names : ((a.extras ++ new).map (·.filename)).Nodup
  covered : ∀ e ∈ source, ∃ f ∈ a.extras ++ new, f.filename = e.filename
  origin : ∀ e ∈ new, ∃ f ∈ source, e.id? = f.id? ∧ e.filename = f.filename
  paths : overwrite = true → ∀ e ∈ new, ∀ f, lastNamed? source e.filename = some f → e.path = f.path

/-- The names of a merged album are its own and those of the new extras. -/
theorem ExtrasMerged.map_filename (h : ExtrasMerged overwrite a source a' new) :
    a'.extras.map (·.filename) = (a.extras ++ new).map (·.filename) := by
  rw [h.eq, List.map_append, List.map_append, List.map_map]
  congr 1
  exact List.map_congr_left fun e _ => redirected_filename

theorem exists_extrasMerged (h : (a.extras.map (·.filename)).Nodup) (source : List Extra) :
    ∃ new, ExtrasMerged overwrite a source (source.foldl (mergeExtra overwrite) a) new := by
  obtain ⟨added, hadded, hnames, hfirst⟩ := exists_extras_foldl_mergeExtra a source
  have hall : (a.extras ++ added).map (·.filename) = a.extras.map (·.filename) ++ lackedNames a.extras source := by
    rw [List.map_append, hnames]
  have hnodup : ((a.extras ++ added).map (·.filename)).Nodup := hall ▸ nodup_append_lackedNames h
  have hredirected : (added.map (redirected overwrite source)).map (·.filename) = added.map (·.filename) := by
    rw [List.map_map]
    exact List.map_congr_left fun e _ => redirected_filename
  have hresult : (a.extras ++ added.map (redirected overwrite source)).map (·.filename) =
      (a.extras ++ added).map (·.filename) := by
    rw [List.map_append, hredirected, ← List.map_append]
  refine ⟨added.map (redirected overwrite source), ?_, hresult ▸ hnodup, fun e he => ?_, ?_, ?_⟩
  · rw [foldl_mergeExtra_eq, hadded]
    simp only [redirectedFirsts_of_nodup hnodup, List.map_append]
  · refine List.mem_map.1 ?_
    rw [hresult, hall, mem_append_lackedNames]
    exact .inr (List.mem_map_of_mem he)
  · refine List.forall_mem_map.2 fun e he => ?_
    obtain ⟨f, hf, heq⟩ := hfirst e he
    refine ⟨f, List.mem_of_find?_eq_some hf, ?_, ?_⟩
    · rw [redirected_id?, heq]
      rfl
    · rw [redirected_filename, heq]
      rfl
  · rintro rfl
    refine List.forall_mem_map.2 fun e _ f hf => ?_
    rw [redirected_filename] at hf
    rw [redirected_of_some hf]

/-! ## Absorbing extras -/

/-- Merging source extras leaves all that a store keeps of extras as it is. -/
structure AbsorbsExtras (overwrite : Bool) (es source : List Extra) : Prop where
  covers : ∀ f ∈ source, ∃ e ∈ es, e.filename = f.filename
  paths : overwrite = true → ∀ e ∈ es, ∀ f, lastNamed? source e.filename = some f → e.Alike f

/-- What has been merged is absorbed. -/
theorem ExtrasMerged.absorbs (h : ExtrasMerged overwrite a source a' new) :
    AbsorbsExtras overwrite a'.extras source where
  covers f hf := by
    have hmem : f.filename ∈ (a.extras ++ new).map (·.filename) := List.mem_map.2 (h.covered f hf)
    rw [← h.map_filename] at hmem
    exact List.mem_map.1 hmem
  paths how e he f hf := by
    rw [h.eq] at he
    rcases List.mem_append.1 he with he | he
    · obtain ⟨g, hg, rfl⟩ := List.mem_map.1 he
      rw [redirected_filename] at hf
      rw [how, redirected_of_some hf]
      rfl
    · rw [Alike, h.paths how e he f hf]

theorem absorbsExtras_self {es : List Extra} (h : (es.map (·.filename)).Nodup) :
    AbsorbsExtras overwrite es es where
  covers f hf := ⟨f, hf, rfl⟩
  paths _ e he f hf := by
    have hmem := List.mem_of_mem_filter (List.mem_of_getLast? hf)
    rw [List.inj_on_of_nodup_map h hmem he (filename_of_lastNamed? hf)]
    rfl

/-- What is absorbed is a matter of what a store keeps. -/
theorem AbsorbsExtras.of_alike {es es' : List Extra} (h : AbsorbsExtras overwrite es source)
    (hkept : ∀ e ∈ es, ∃ e' ∈ es', e'.Alike e) (honly : ∀ e' ∈ es', ∃ e ∈ es, e'.Alike e) :
    AbsorbsExtras overwrite es' source where
  covers f hf := by
    obtain ⟨e, he, hef⟩ := h.covers f hf
    obtain ⟨e', he', hee'⟩ := hkept e he
    exact ⟨e', he', hee'.filename_eq.trans hef⟩
  paths how e' he' f hf := by
    obtain ⟨e, he, hee'⟩ := honly e' he'
    rw [hee'.filename_eq] at hf
    exact hee'.trans (h.paths how e he f hf)

/-- No extra is new to an album that absorbs the source. -/
theorem ExtrasMerged.new_eq_nil (h : ExtrasMerged overwrite a source a' new)
    (habs : AbsorbsExtras overwrite a.extras source) : new = [] := by
  refine List.eq_nil_iff_forall_not_mem.2 fun e he => ?_
  obtain ⟨f, hf, -, hname⟩ := h.origin e he
  obtain ⟨g, hg, hgf⟩ := habs.covers f hf
  have hnames := h.names
  rw [List.map_append, List.nodup_append] at hnames
  exact hnames.2.2 _ (List.mem_map_of_mem hg) _ (List.mem_map_of_mem he) (hgf.trans hname.symm)

/-- An album that absorbs the source keeps what a store keeps of its extras. -/
theorem ExtrasMerged.alike (h : ExtrasMerged overwrite a source a' new)
    (habs : AbsorbsExtras overwrite a.extras source) {e : Extra} (he : e ∈ a'.extras) :
    ∃ f ∈ a.extras, e.id? = f.id? ∧ e.Alike f := by
  rw [h.eq, h.new_eq_nil habs, List.append_nil] at he
  obtain ⟨f, hf, rfl⟩ := List.mem_map.1 he
  refine ⟨f, hf, redirected_id?, ?_⟩
  cases overwrite
  · rfl
  · rcases hl : lastNamed? source f.filename with _ | g
    · rw [redirected_of_none hl]
      rfl
    · rw [redirected_of_some hl]
      exact (habs.paths rfl f hf g hl).symm

/-- Extras without numbers bring no number to an album they are merged into. -/
theorem ExtrasMerged.filterMap_id? (h : ExtrasMerged overwrite a source a' new)
    (hsource : ∀ f ∈ source, f.id? = none) :
    a'.extras.filterMap (·.id?) = a.extras.filterMap (·.id?) := by
  have hnew : new.filterMap (·.id?) = [] := List.filterMap_eq_nil_iff.2 fun e he => by
    obtain ⟨f, hf, hid, -⟩ := h.origin e he
    exact hid.trans (hsource f hf)
  rw [h.eq, List.filterMap_append, hnew, List.append_nil, List.filterMap_map]
  exact List.filterMap_congr fun e _ => redirected_id?

end Album

end MusicLibrary

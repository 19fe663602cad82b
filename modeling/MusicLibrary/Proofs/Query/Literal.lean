import MusicLibrary.Proofs.Query.Found
import MusicLibrary.Proofs.Query.Language
import MusicLibrary.Proofs.Store.Rewritten
import MusicLibrary.Proofs.Text.Plain
import MusicLibrary.Proofs.Text.Wildcard

/-!
# Searching for a text

Any text can be searched for as it is: put behind the name of a field with an escape before each wildcard,
and quoted as one word, it finds the tracks or extras that have it as a value of the field, or with wildcards
around it those that have a value which contains it (`answers_literal`).
-/

namespace MusicLibrary

/-! ## Stores without null characters -/

/-- The texts of a row of the table of albums. -/
def AlbumRow.texts (r : AlbumRow) : List String :=
  [r.artist, r.title, r.path] ++ r.date?.toList ++ r.originalDate?.toList ++ r.label?.toList ++
    r.mbAlbumId?.toList

/-- The texts of a row of the table of tracks. -/
def TrackRow.texts (r : TrackRow) : List String := [r.title, r.artist, r.path] ++ r.mbTrackId?.toList

/-- The texts of a row of the table of extras. -/
def ExtraRow.texts (r : ExtraRow) : List String := [r.path, r.filename]

/-- The texts of a store. -/
def Store.texts (st : Store) : List String :=
  st.albums.flatMap AlbumRow.texts ++ st.tracks.flatMap TrackRow.texts ++
    st.extras.flatMap ExtraRow.texts ++ st.genres ++ st.trackGenres.map (·.genre)

/-- No text of a store has a null character. -/
def Store.NullFree (st : Store) : Prop := ∀ s ∈ st.texts, '\x00' ∉ s.toList

instance (st : Store) : Decidable st.NullFree := inferInstanceAs (Decidable (∀ s ∈ st.texts, _))

theorem Text.not_mem_showInt (n : Int) : '\x00' ∉ (showInt n).toList := by
  have hdigits : '\x00' ∉ digits n.natAbs := fun h => absurd (isDigit_of_mem_digits h) (by decide)
  rw [showInt, String.toList_ofList, numeral]
  split_ifs
  · simpa using hdigits
  · exact hdigits

namespace Query

variable {text : String} {kind : Kind} {st : Store} {q : Query} {j : JoinedRow} {f : Field}
  {w : List Char}

/-- The rows of an item are in the store. -/
theorem rows_of_displayed (hj : j ∈ displayed st kind) : j.album ∈ st.albums ∧
    (∀ t, j.track? = some t → t ∈ st.tracks) ∧ ∀ e, j.extra? = some e → e ∈ st.extras := by
  cases kind with
  | track =>
    obtain ⟨p, hp, rfl⟩ := List.mem_map.1 hj
    obtain ⟨ht, ha⟩ := mem_trackRows.1 ((List.mergeSort_perm _ _).mem_iff.1 hp)
    exact ⟨List.mem_of_find?_eq_some ha, fun t heq => Option.some.inj heq ▸ ht, nofun⟩
  | album =>
    obtain ⟨a, ha, rfl⟩ := List.mem_map.1 hj
    exact ⟨(List.mergeSort_perm _ _).mem_iff.1 ha, nofun, nofun⟩
  | extra =>
    obtain ⟨p, hp, rfl⟩ := List.mem_map.1 hj
    obtain ⟨he, ha⟩ := mem_extraRows.1 ((List.mergeSort_perm _ _).mem_iff.1 hp)
    exact ⟨List.mem_of_find?_eq_some ha, nofun, fun e heq => Option.some.inj heq ▸ he⟩

/-- On the rows of an item a field has values that are texts of the store, or numerals. -/
theorem mem_texts_or_numeral (hj : j ∈ displayed st kind) {c : Column} {v : String}
    (hv : v ∈ c.values st j) : v ∈ st.texts ∨ ∃ n, v = Text.showInt n := by
  obtain ⟨halbum, htrack, hextra⟩ := rows_of_displayed hj
  have halbumText : ∀ s ∈ j.album.texts, s ∈ st.texts := fun s hs => by
    simp only [Store.texts, List.mem_append, List.mem_flatMap]
    exact .inl (.inl (.inl (.inl ⟨j.album, halbum, hs⟩)))
  have htrackText : ∀ t, j.track? = some t → ∀ s ∈ t.texts, s ∈ st.texts := fun t ht s hs => by
    simp only [Store.texts, List.mem_append, List.mem_flatMap]
    exact .inl (.inl (.inl (.inr ⟨t, htrack t ht, hs⟩)))
  have hextraText : ∀ e, j.extra? = some e → ∀ s ∈ e.texts, s ∈ st.texts := fun e he s hs => by
    simp only [Store.texts, List.mem_append, List.mem_flatMap]
    exact .inl (.inl (.inr ⟨e, hextra e he, hs⟩))
  cases c with
  | trackTitle | trackArtist | trackPath =>
    obtain ⟨t, ht, rfl⟩ := Option.map_eq_some_iff.1 (Option.mem_toList.1 hv)
    exact .inl (htrackText t ht _ (by simp [TrackRow.texts]))
  | trackRecording =>
    obtain ⟨t, ht, hv⟩ := Option.bind_eq_some_iff.1 (Option.mem_toList.1 hv)
    exact .inl (htrackText t ht _ (by simp [TrackRow.texts, hv]))
  | trackGenres =>
    rcases ht : j.track? with _ | t
    · simp [Column.values, ht] at hv
    · simp only [Column.values, ht, Option.map_some, Option.getD_some] at hv
      obtain ⟨l, hl, rfl⟩ := List.mem_map.1 hv
      have hgenre := List.mem_map_of_mem (f := GenreLink.genre) (List.mem_of_mem_filter hl)
      exact .inl (List.mem_append_right _ hgenre)
  | trackNum | trackDisc =>
    obtain ⟨t, -, rfl⟩ := Option.map_eq_some_iff.1 (Option.mem_toList.1 hv)
    exact .inr ⟨_, rfl⟩
  | albumTitle | albumArtist | albumPath =>
    obtain rfl := List.mem_singleton.1 hv
    exact .inl (halbumText _ (by simp [AlbumRow.texts]))
  | albumDate | albumOriginalDate | albumLabel | albumRelease =>
    have hv := Option.mem_toList.1 hv
    exact .inl (halbumText _ (by simp [AlbumRow.texts, hv]))
  | albumYear | albumDiscTotal => exact .inr ⟨_, List.mem_singleton.1 hv⟩
  | albumTrackTotal =>
    obtain ⟨n, -, rfl⟩ := Option.map_eq_some_iff.1 (Option.mem_toList.1 hv)
    exact .inr ⟨n, rfl⟩
  | extraPath | extraFilename =>
    obtain ⟨e, he, rfl⟩ := Option.map_eq_some_iff.1 (Option.mem_toList.1 hv)
    exact .inl (hextraText e he _ (by simp [ExtraRow.texts]))

theorem not_mem_value (hnull : st.NullFree) (hj : j ∈ displayed st kind) {c : Column} {v : String}
    (hv : v ∈ c.values st j) : '\x00' ∉ v.toList := by
  rcases mem_texts_or_numeral hj hv with hmem | ⟨n, rfl⟩
  · exact hnull v hmem
  · exact Text.not_mem_showInt n

/-! ## A term that is one word -/

/-- The names of fields are of ASCII characters in lower case, without blanks and colons. -/
def IsPlainName (name : String) : Prop :=
  name.toList ≠ [] ∧ ∀ c ∈ name.toList,
    (c ≠ '\x00' ∧ c.toNat < 0x80 ∧ c.toLower = c) ∧ c ≠ ':' ∧ Text.isBlank c = false

-- the characters of the name are gone through, not all characters there are
instance (name : String) : Decidable (IsPlainName name) :=
  @instDecidableAnd _ _ inferInstance (List.decidableBAll _ _)

theorem isPlainName_of_mem_table (hf : f ∈ Field.table kind) : IsPlainName f.name := by
  revert f
  cases kind <;> decide +kernel

theorem IsPlainName.lowerCase_eq {name : String} (h : IsPlainName name) : lowerCase name = name :=
  lowerCase_eq_self fun c hc => (h.2 c hc).1.2

/-- A word is read as a term if it has the name of a field, a colon and a value that starts neither with
a blank nor with another colon. -/
theorem parse_word {name value : List Char} (hname : name ≠ [])
    (hplain : ∀ c ∈ name, c ≠ ':' ∧ Text.isBlank c = false)
    (hvalue : ∃ c, value.head? = some c ∧ c ≠ ':' ∧ Text.isBlank c = false) :
    Term.parse (.ofList (name ++ ':' :: value)) =
      .ok ⟨lowerCase (.ofList name), .like, .ofList value⟩ := by
  obtain ⟨c, hhead, hcolon, hblank⟩ := hvalue
  obtain ⟨value, rfl⟩ := List.head?_eq_some_iff.1 hhead
  let s : Spelling := {
    blanks := [], field := name, separator := .like, value := c :: value
    blanks_blank := nofun
    field_ne_nil := hname
    field_plain := fun d hd => (hplain d hd).symm
    value_starts := ⟨c, value, rfl, hblank, fun _ => hcolon⟩ }
  exact s.parse_text (by simp [s, Spelling.text, Separator.text])

/-- The text of a pattern for a field is a query of which the pattern is the one predicate. -/
theorem parse_pattern (hf : f ∈ Field.table kind) {pattern : List Char} {es : List Text.Wild}
    (hes : Text.wilds? pattern = some es) (hnull : '\x00' ∉ pattern)
    (hhead : ∃ c, pattern.head? = some c ∧ c ≠ ':' ∧ Text.isBlank c = false) :
    ∃ text, Command.queryText [f.name.toList ++ ':' :: pattern] = .ok text ∧
      parse text kind = .ok ⟨kind, [⟨f, .like (.ofList pattern)⟩]⟩ := by
  have hname := isPlainName_of_mem_table hf
  have hword : ∀ v ∈ [f.name.toList ++ ':' :: pattern], '\x00' ∉ v := by
    have hno : '\x00' ∉ f.name.toList := fun hmem => (hname.2 _ hmem).1.1 rfl
    simpa using ⟨hno, hnull⟩
  refine ⟨_, Command.queryText_eq_ok hword, ?_⟩
  have hterms : terms (.ofList ([' '].intercalate ([f.name.toList ++ ':' :: pattern].map Text.quote))) =
      .ok [⟨f.name, .like, .ofList pattern⟩] := by
    refine terms_eq_ok_iff.2 ⟨_, Command.words_intercalate_quote (List.cons_ne_nil _ _), ?_⟩
    have hparse := parse_word hname.1 (fun c hc => (hname.2 c hc).2) hhead
    rw [String.ofList_toList, hname.lowerCase_eq] at hparse
    exact .cons hparse .nil
  have hdangling : Text.danglingEscape pattern = false := by
    rw [Bool.eq_false_iff, Ne, ← Text.wilds?_eq_none, hes]
    exact Option.some_ne_none es
  refine parse_eq_ok_iff.2 ⟨rfl, _, hterms, .cons ?_ .nil⟩
  simp [Predicate.ofTerm, Field.find?_of_mem_table hf, hdangling]

/-- A pattern that matches what has a property finds the tracks or extras with a value that has it. -/
theorem answers_pattern (hst : st.Consistent) (hfree : st.NullFree) (hkind : kind ≠ .album)
    (hf : f ∈ Field.table kind) {pattern : List Char} {es : List Text.Wild}
    (hes : Text.wilds? pattern = some es) (hnull : '\x00' ∉ pattern)
    (hhead : ∃ c, pattern.head? = some c ∧ c ≠ ':' ∧ Text.isBlank c = false)
    {P : String → Prop} [DecidablePred P]
    (hP : ∀ v : String, '\x00' ∉ v.toList → (Text.like (.ofList pattern) v ↔ P v)) (s : Shelf) :
    ∃ text, Command.queryText [f.name.toList ++ ':' :: pattern] = .ok text ∧
      answers text kind st s = ((displayed st kind).filter fun j =>
        ∃ v ∈ f.column.values st j, P v).map (JoinedRow.content st) := by
  obtain ⟨text, htext, hparse⟩ := parse_pattern hf hes hnull hhead
  refine ⟨text, htext, ?_⟩
  rw [answers_eq hst hparse]
  refine congrArg (List.map _) (List.filter_congr fun j hj => ?_)
  have hfinds : finds ⟨kind, [⟨f, .like (.ofList pattern)⟩]⟩ st j =
      (f.column.values st j).any (Text.like (.ofList pattern)) := by
    cases kind with
    | album => exact absurd rfl hkind
    | track | extra => exact Bool.and_true _
  rw [hfinds, Bool.eq_iff_iff, List.any_eq_true, decide_eq_true_eq]
  exact exists_congr fun v => and_congr_right fun hv => hP v (not_mem_value hfree hj hv)

/-- Any text can be searched for as it is, in a store without null characters. Escaped and put behind the
name of a field as one word, it finds exactly the tracks or extras of which a value of the field is equal to
it but for the case of ASCII letters; with wildcards around it, those of which a value contains it. -/
theorem answers_literal (h : st.Reachable) (hfree : st.NullFree) (hkind : kind ≠ .album)
    (hf : f ∈ Field.table kind) (hnull : '\x00' ∉ w)
    (hhead : ∃ c, w.head? = some c ∧ c ≠ ':' ∧ Text.isBlank c = false) (s : Shelf) :
    (∃ text, Command.queryText [f.name.toList ++ ':' :: Text.literal w] = .ok text ∧
      answers text kind st s = ((displayed st kind).filter fun j =>
        ∃ v ∈ f.column.values st j, Text.folded v.toList = Text.folded w).map (JoinedRow.content st)) ∧
    ∃ text, Command.queryText [f.name.toList ++ ':' :: '%' :: (Text.literal w ++ ['%'])] = .ok text ∧
      answers text kind st s = ((displayed st kind).filter fun j =>
        ∃ v ∈ f.column.values st j, Text.folded w <:+: Text.folded v.toList).map
          (JoinedRow.content st) := by
  have hcon := h.consistent
  have hhead' : ∃ c, (Text.literal w).head? = some c ∧ c ≠ ':' ∧ Text.isBlank c = false := by
    obtain ⟨c, hc, hplain⟩ := hhead
    rcases Text.head?_literal hc with hc | hc
    · exact ⟨c, hc, hplain⟩
    · exact ⟨_, hc, by decide⟩
  have haround : '\x00' ∉ '%' :: (Text.literal w ++ ['%']) := by
    simp [Text.not_mem_literal hnull]
  exact ⟨answers_pattern hcon hfree hkind hf (Text.wilds?_literal w) (Text.not_mem_literal hnull) hhead'
      (fun v hv => Text.like_literal_iff hnull hv) s,
    answers_pattern hcon hfree hkind hf (Text.wilds?_around_literal w) haround
      ⟨'%', rfl, by decide⟩ (fun v hv => Text.like_around_literal_iff hnull hv) s⟩

/-- The slashes of a path are escaped, and letters are found in either case. -/
theorem answers_literal_path :
    let w := "/NIGHT/1.flac".toList
    let found := answers "path://NIGHT//1.flac" .track Store.twoStored .empty
    Store.twoStored.Reachable ∧ Store.twoStored.NullFree ∧
      Command.queryText ["path".toList ++ ':' :: Text.literal w] = .ok "path://NIGHT//1.flac" ∧
      found.length = 1 ∧
      found = ((displayed Store.twoStored .track).filter fun j =>
        ∃ v ∈ Column.trackPath.values Store.twoStored j, Text.folded v.toList = Text.folded w).map
          (JoinedRow.content Store.twoStored) := by
  intro w found
  have hreach : Store.twoStored.Reachable := ⟨_, rfl⟩
  have hfree : Store.twoStored.NullFree := by decide +kernel
  have hfield : ⟨"path", .trackPath⟩ ∈ Field.table .track := by decide
  have hhead : ∃ c, w.head? = some c ∧ c ≠ ':' ∧ Text.isBlank c = false := ⟨'/', by decide⟩
  obtain ⟨⟨text, htext, hanswers⟩, -⟩ :=
    answers_literal hreach hfree (by decide) hfield (by decide) hhead .empty
  have heq : Command.queryText ["path".toList ++ ':' :: Text.literal w] = .ok "path://NIGHT//1.flac" := by
    have hquote : Text.quoteAll? ["path".toList ++ ':' :: Text.literal w] =
        some "path://NIGHT//1.flac".toList := by decide +kernel
    rw [Command.queryText, hquote]
    simp
  obtain rfl := Except.ok.inj (heq.symm.trans htext)
  exact ⟨hreach, hfree, heq, by decide +kernel, hanswers⟩

end Query

end MusicLibrary

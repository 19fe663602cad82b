import MusicLibrary.Command.Fields
import MusicLibrary.Proofs.Album.MergedAgain
import MusicLibrary.Proofs.DateText
import MusicLibrary.Proofs.Edit
import MusicLibrary.Proofs.Text.Plain

/-!
# Fields that are shown and edited

What is shown of a track can be given back: an edit that assigns to a field the value that is shown for
it is accepted and changes nothing (`FieldEdit.applyToTrack_shown`), for each field but the two paths and
the format, which are never edited. Integers and dates are read back from their texts, a missing value is
shown as an empty text, and the names of genres, joined for display, are split into the same names
(`splitGenres_shown`).
-/

namespace MusicLibrary

/-! ## Genres -/

/-- A name that may stand in a list of genres: it is not empty, has no blanks at its ends, and no
semicolon. -/
structure IsGenreName (g : String) : Prop where
  ne_nil : g.toList ≠ []
  trimmed : Text.trim g.toList = g.toList
  plain : ';' ∉ g.toList

theorem isGenreName_of_mem_splitGenres {g text : String} (h : g ∈ splitGenres text) : IsGenreName g := by
  obtain ⟨part, hpart, rfl⟩ := List.mem_map.1 h
  obtain ⟨hmem, hne⟩ := List.mem_filter.1 hpart
  obtain ⟨cs, hcs, rfl⟩ := List.mem_map.1 hmem
  rw [Bool.not_eq_true', List.isEmpty_eq_false_iff] at hne
  constructor
  · rwa [String.toList_ofList]
  · rw [String.toList_ofList, Text.trim_trim]
  · rw [String.toList_ofList]
    exact fun hsemicolon => Text.not_mem_of_mem_splitOn hcs (Text.mem_of_mem_trim hsemicolon)

/-- Texts that are joined by semicolons and blanks are split into them, with the blanks in front of all
but the first. -/
theorem splitOn_intercalate_blank {first : List Char} {rest : List (List Char)}
    (hfirst : ';' ∉ first) (hrest : ∀ part ∈ rest, ';' ∉ part) :
    ([';', ' '].intercalate (first :: rest)).splitOn ';' = first :: rest.map (' ' :: ·) := by
  induction rest generalizing first with
  | nil => simpa using List.splitOn_eq_singleton hfirst
  | cons second rest ih =>
    obtain ⟨hsecond, hrest⟩ := List.forall_mem_cons.1 hrest
    have hblank : ' ' :: [';', ' '].intercalate (second :: rest) =
        [';', ' '].intercalate ((' ' :: second) :: rest) := by
      cases rest <;> simp
    have hjoined : [';', ' '].intercalate (first :: second :: rest) =
        first ++ ';' :: [';', ' '].intercalate ((' ' :: second) :: rest) := by
      rw [List.intercalate_cons_cons, ← hblank]
      simp
    rw [hjoined, List.splitOn_append_cons_self_of_not_mem hfirst, ih (by simpa using hsecond) hrest]
    rfl

/-- Genres that are shown are split into their names. -/
theorem splitGenres_shown {s : GenreSet} (hs : ∀ g ∈ s.names, IsGenreName g) :
    splitGenres s.shown = s.names := by
  obtain ⟨names, hsorted⟩ := s
  rcases names with _ | ⟨first, rest⟩
  · rfl
  obtain ⟨hfirst, hrest⟩ := List.forall_mem_cons.1 hs
  have hsplit : (GenreSet.shown ⟨first :: rest, hsorted⟩).toList.splitOn ';' =
      first.toList :: (rest.map String.toList).map (' ' :: ·) := by
    rw [GenreSet.shown, String.toList_intercalate, List.map_cons]
    refine splitOn_intercalate_blank hfirst.plain fun part hpart => ?_
    obtain ⟨g, hg, rfl⟩ := List.mem_map.1 hpart
    exact (hrest g hg).plain
  have htrim : (first.toList :: (rest.map String.toList).map (' ' :: ·)).map Text.trim =
      (first :: rest).map String.toList := by
    rw [List.map_cons, List.map_cons, hfirst.trimmed, List.map_map, List.map_map]
    refine congrArg _ (List.map_congr_left fun g hg => ?_)
    exact (Text.trim_cons (by decide) _).trans (hrest g hg).trimmed
  have hfilter : ((first :: rest).map String.toList).filter (fun g => !g.isEmpty) =
      (first :: rest).map String.toList := by
    refine List.filter_eq_self.2 fun part hpart => ?_
    obtain ⟨g, hg, rfl⟩ := List.mem_map.1 hpart
    simpa using (hs g hg).ne_nil
  rw [splitGenres, hsplit, htrim, hfilter, List.map_map]
  exact (List.map_congr_left fun g _ => String.ofList_toList).trans (List.map_id _)

@[simp] theorem GenreSet.ofList_names (s : GenreSet) : ofList s.names = s :=
  GenreSet.ext fun _ => GenreSet.mem_ofList

/-- The genres of a text are shown as a text of the same genres. -/
theorem ofList_splitGenres_shown (text : String) :
    GenreSet.ofList (splitGenres (GenreSet.ofList (splitGenres text)).shown) =
      .ofList (splitGenres text) := by
  rw [splitGenres_shown fun g hg => isGenreName_of_mem_splitGenres (GenreSet.mem_ofList.1 hg),
    GenreSet.ofList_names]

/-! ## Values -/

/-- A text that may be missing, and else is not empty and has no blanks at its ends. -/
def IsTrimmed (text? : Option String) : Prop :=
  ∀ text, text? = some text → text ≠ "" ∧ Text.trim text.toList = text.toList

namespace FieldEdit

variable {field : String} {n : Int}

theorem optional?_of_trimmed {text : String} (hne : text.toList ≠ [])
    (htrim : Text.trim text.toList = text.toList) :
    (⟨field, text⟩ : FieldEdit).optional? = some text := by
  simp [optional?, htrim, hne]

theorem optional?_empty : (⟨field, ""⟩ : FieldEdit).optional? = none := rfl

theorem optional?_shown {text? : Option String} (h : IsTrimmed text?) :
    (⟨field, text?.getD ""⟩ : FieldEdit).optional? = text? := by
  rcases text? with _ | text
  · exact optional?_empty
  · obtain ⟨hne, htrim⟩ := h text rfl
    exact optional?_of_trimmed (by simpa using hne) htrim

theorem optional?_showInt : (⟨field, Text.showInt n⟩ : FieldEdit).optional? = some (Text.showInt n) :=
  optional?_of_trimmed (by rw [Text.showInt, String.toList_ofList]; exact Text.numeral_ne_nil n)
    (by rw [Text.showInt, String.toList_ofList, Text.trim_numeral])

theorem integer_shown (hn : Text.FitsInt64 n) :
    (⟨field, Text.showInt n⟩ : FieldEdit).integer = .ok n := by
  simp [integer, Text.showInt, Text.trim_numeral, Text.int64?_numeral hn]

theorem optionalInteger_shown {n? : Option Int} (hn : ∀ n, n? = some n → Text.FitsInt64 n) :
    (⟨field, optionalText n?⟩ : FieldEdit).optionalInteger = .ok n? := by
  rcases n? with _ | n
  · rfl
  · have hvalue : Text.int64? (Text.showInt n).toList = some n := by
      rw [Text.showInt, String.toList_ofList, Text.int64?_numeral (hn n rfl)]
    show (⟨field, Text.showInt n⟩ : FieldEdit).optionalInteger = _
    simp only [optionalInteger, optional?_showInt, hvalue]

theorem optionalDate_shown (d? : Option Date) :
    (⟨field, optionalDateText d?⟩ : FieldEdit).optionalDate = .ok d? := by
  rcases d? with _ | d
  · rfl
  · have htrim : Text.trim d.format.toList = d.format.toList := by
      rw [Date.format, String.toList_ofList, Date.trim_chars]
    have hvalue : (⟨field, d.format⟩ : FieldEdit).optional? = some d.format :=
      optional?_of_trimmed (by simp [Date.format, Date.chars]) htrim
    show (⟨field, d.format⟩ : FieldEdit).optionalDate = _
    simp only [optionalDate, hvalue, Date.parse?_format]

/-! ## Names -/

/-- The name of a field of ASCII characters in lower case, without blanks and equals signs. -/
def IsFieldName (name : String) : Prop :=
  name.toList ≠ [] ∧ ∀ c ∈ name.toList,
    (c.toNat < 0x80 ∧ c.toLower = c) ∧ c ≠ '=' ∧ Text.isBlank c = false

instance (name : String) : Decidable (IsFieldName name) :=
  @instDecidableAnd _ _ inferInstance (List.decidableBAll _ _)

/-- An edit is read from its text, whatever its value. -/
theorem parse_shown {e : FieldEdit} (h : IsFieldName e.field) : parse e.shown = .ok e := by
  obtain ⟨field, value⟩ := e
  obtain ⟨hne, hchars⟩ := h
  have hcut : Text.cut? '=' (field ++ "=" ++ value).toList = some (field.toList, value.toList) := by
    rw [String.toList_append, String.toList_append, List.append_assoc]
    exact Text.cut?_append fun hmem => (hchars _ hmem).2.1 rfl
  have htrim : Text.trim field.toList = field.toList :=
    Text.trim_of_forall fun c hc => (hchars c hc).2.2
  have hlower : lowerCase field = field := lowerCase_eq_self fun c hc => (hchars c hc).1
  have hfield : field ≠ "" := by simpa using hne
  simp only [parse, shown, hcut, htrim, String.ofList_toList, hlower, if_neg hfield]

end FieldEdit

/-! ## Items -/

/-- The fields of an album as they may be shown without loss. -/
structure AlbumInfo.Plain (i : AlbumInfo) : Prop where
  year : Text.FitsInt64 i.year
  trackTotal : ∀ n, i.trackTotal? = some n → Text.FitsInt64 n
  discTotal : Text.FitsInt64 i.discTotal
  label : IsTrimmed i.label?
  release : IsTrimmed i.mbAlbumId?

/-- A track whose own fields may be shown without loss. -/
structure Track.Plain (t : Track) : Prop where
  trackNum : Text.FitsInt64 t.trackNum
  disc : Text.FitsInt64 t.disc
  genres : ∃ text, t.genres = .ofList (splitGenres text)
  recording : IsTrimmed t.mbTrackId?

/-- The fields that are shown but never edited. -/
def fixedFields : List String := ["path", "format", "album_path"]

namespace FieldEdit

variable {t : Track} {s : Shelf} {i : AlbumInfo} {name value : String}

theorem applyToTrack_fixed (t : Track) (s : Shelf) (h : name ∈ fixedFields) (value : String) :
    ∃ f, (⟨name, value⟩ : FieldEdit).applyToTrack t s = .error f := by
  simp only [fixedFields, List.mem_cons, List.not_mem_nil, or_false] at h
  rcases h with rfl | rfl | rfl <;> exact ⟨_, rfl⟩

/-- The value that is shown for a field of an album is assigned to no effect. -/
theorem applyToInfo_shown (kind : Kind) (hi : i.Plain) (h : (name, value) ∈ i.fields)
    (hname : name ∉ fixedFields) : (⟨name, value⟩ : FieldEdit).applyToInfo kind i = .ok i := by
  simp only [AlbumInfo.fields, List.mem_cons, List.not_mem_nil, or_false, Prod.mk.injEq] at h
  rcases h with ⟨rfl, rfl⟩ | ⟨rfl, rfl⟩ | ⟨rfl, rfl⟩ | ⟨rfl, rfl⟩ | ⟨rfl, rfl⟩ | ⟨rfl, rfl⟩ |
    ⟨rfl, rfl⟩ | ⟨rfl, rfl⟩ | ⟨rfl, rfl⟩ | ⟨rfl, rfl⟩
  · rfl
  · rfl
  · exact absurd (by decide) hname
  · simp only [applyToInfo, integer_shown hi.year]
    rfl
  · simp only [applyToInfo, optionalDate_shown]
    rfl
  · simp only [applyToInfo, optionalDate_shown]
    rfl
  · simp only [applyToInfo, optional?_shown hi.label]
  · simp only [applyToInfo, optional?_shown hi.release]
  · simp only [applyToInfo, optionalInteger_shown hi.trackTotal]
    rfl
  · simp only [applyToInfo, integer_shown hi.discTotal]
    rfl

/-- The value that is shown for a field of a track's own is assigned to no effect. -/
theorem applyToTrack_shown_own (ht : t.Plain) (h : (name, value) ∈ t.fields)
    (hname : name ∉ fixedFields) : (⟨name, value⟩ : FieldEdit).applyToTrack t s = .ok (t, s) := by
  simp only [Track.fields, List.mem_cons, List.not_mem_nil, or_false, Prod.mk.injEq] at h
  rcases h with ⟨rfl, rfl⟩ | ⟨rfl, rfl⟩ | ⟨rfl, rfl⟩ | ⟨rfl, rfl⟩ | ⟨rfl, rfl⟩ | ⟨rfl, rfl⟩ |
    ⟨rfl, rfl⟩ | ⟨rfl, rfl⟩
  · rfl
  · rfl
  · simp only [applyToTrack, integer_shown ht.trackNum]
    rfl
  · simp only [applyToTrack, integer_shown ht.disc]
    rfl
  · exact absurd (by decide) hname
  · exact absurd (by decide) hname
  · obtain ⟨text, hgenres⟩ := ht.genres
    simp only [applyToTrack, hgenres, ofList_splitGenres_shown]
    rw [← hgenres]
  · simp only [applyToTrack, optional?_shown ht.recording]

theorem isFieldName_of_mem_fields (h : (name, value) ∈ (Item.track t).fields s) : IsFieldName name := by
  have hnames : ∀ name ∈ ((Item.track t).fields s).map Prod.fst, IsFieldName name := by
    simp only [Item.fields, Track.fields, AlbumInfo.fields, List.cons_append, List.nil_append,
      List.map_cons, List.map_nil]
    decide +kernel
  exact hnames name (List.mem_map_of_mem h)

theorem mem_albumFields (h : (name, value) ∈ i.fields) : name ∈ albumFields := by
  have hnames : ∀ name ∈ i.fields.map Prod.fst, name ∈ albumFields := by
    simp only [AlbumInfo.fields, List.map_cons, List.map_nil]
    decide
  exact hnames name (List.mem_map_of_mem h)

/-- Each field that is shown of a track is one of those for which every value is refused, or the value
that is shown can be assigned to it again, which changes neither the track nor its album. -/
theorem applyToTrack_shown (ht : t.Plain) (hi : (s.read t.album).Plain)
    (h : (name, value) ∈ (Item.track t).fields s) :
    (name ∈ fixedFields ∧ ∀ v, ∃ f, (⟨name, v⟩ : FieldEdit).applyToTrack t s = .error f) ∨
      ∃ e, parse (name ++ "=" ++ value) = .ok e ∧ e.applyToTrack t s = .ok (t, s) := by
  by_cases hname : name ∈ fixedFields
  · exact .inl ⟨hname, applyToTrack_fixed t s hname⟩
  · have hparse : parse (shown ⟨name, value⟩) = .ok ⟨name, value⟩ :=
      parse_shown (isFieldName_of_mem_fields h)
    refine .inr ⟨⟨name, value⟩, hparse, ?_⟩
    rcases List.mem_append.1 h with hown | halbum
    · exact applyToTrack_shown_own ht hown hname
    · have hforeign : (⟨name, value⟩ : FieldEdit).field ∉ trackFields :=
        not_mem_trackFields (mem_albumFields halbum)
      rw [applyToTrack_eq_applyToInfo t s hforeign, applyToInfo_shown .track hi halbum hname,
        Except.map, Shelf.write_read]

/-- An album of a year with five digits. -/
def farNight : Shelf :=
  ⟨#[{ AlbumInfo.create "Nina" "Night" 12345 (.ofText "/night") with
    date? := Date.ofNumbers? (-44) 3 15
    label? := some "A; B = C" }]⟩

/-- A track with two genres. -/
def farTrack : Track :=
  { Track.create farNight ⟨0⟩ (-1) " One = Two " (.ofText "/night/1.flac") with
    genres := .ofList (splitGenres "Soul; Jazz") }

theorem applyToTrack_shown_farTrack :
    farTrack.Plain ∧ (farNight.read farTrack.album).Plain ∧
    ("genre", "Jazz; Soul") ∈ (Item.track farTrack).fields farNight ∧
    ("date", "-0044-03-15") ∈ (Item.track farTrack).fields farNight ∧
    (∃ e, parse "genre=Jazz; Soul" = .ok e ∧
      e.applyToTrack farTrack farNight = .ok (farTrack, farNight)) ∧
    ∃ e, parse "date=-0044-03-15" = .ok e ∧
      e.applyToTrack farTrack farNight = .ok (farTrack, farNight) := by
  have ht : farTrack.Plain := ⟨by decide, by decide, ⟨_, rfl⟩, nofun⟩
  have hi : (farNight.read farTrack.album).Plain := {
    year := by decide
    trackTotal := nofun
    discTotal := by decide
    label := by
      rintro text ⟨⟩
      decide +kernel
    release := nofun }
  have hgenre : ("genre", "Jazz; Soul") ∈ (Item.track farTrack).fields farNight := by decide +kernel
  have hdate : ("date", "-0044-03-15") ∈ (Item.track farTrack).fields farNight := by decide +kernel
  refine ⟨ht, hi, hgenre, hdate, ?_, ?_⟩
  · exact (applyToTrack_shown ht hi hgenre).resolve_left fun hfixed => absurd hfixed.1 (by decide)
  · exact (applyToTrack_shown ht hi hdate).resolve_left fun hfixed => absurd hfixed.1 (by decide)

end FieldEdit

end MusicLibrary

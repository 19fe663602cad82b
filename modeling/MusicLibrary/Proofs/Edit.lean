import MusicLibrary.Edit
import MusicLibrary.Proofs.Store.Kept

/-!
# Edits as assignments

A list of edits assigns to each field the last value that is given for it, and leaves the other fields
(`AlbumInfo.assign`, `Track.assign`, and the same of rows). Applying edits one after the other comes to
that if each of them fits the kind, and is refused otherwise. As an assigned value does not depend on the
old one, assigning twice is assigning once.
-/

namespace MusicLibrary

namespace FieldEdit

/-- The value of an edit if it is one of a field, where `read` is the value as such. -/
def valueFor {α : Type} (field : String) (read : FieldEdit → Option α) (e : FieldEdit) : Option α :=
  if e.field = field then read e else none

/-- The last value that edits give for a field. -/
def given {α : Type} (edits : List FieldEdit) (field : String) (read : FieldEdit → Option α) : Option α :=
  (edits.filterMap (valueFor field read)).getLast?

/-- The value of an edit as a text. -/
def text (e : FieldEdit) : Option String := some e.value

/-- The value of an edit as a text, or nothing if it is blank. -/
def textOrBlank (e : FieldEdit) : Option (Option String) := some e.optional?

/-- The value of an edit as the names of genres. -/
def genreSet (e : FieldEdit) : Option GenreSet := some (.ofList (splitGenres e.value))

variable {α : Type} {read : FieldEdit → Option α} {field : String} {e : FieldEdit}
  {edits : List FieldEdit} {old : α}

theorem given_singleton : given [e] field read = valueFor field read e := by
  unfold given
  rcases hv : valueFor field read e with _ | v <;> simp [hv]

/-- A later value takes the place of an earlier one. -/
theorem getD_given_cons : (given (e :: edits) field read).getD old =
    (given edits field read).getD ((given [e] field read).getD old) := by
  rw [given_singleton]
  unfold given
  rcases hv : valueFor field read e with _ | v
  · rw [List.filterMap_cons_none hv]
    rfl
  · rw [List.filterMap_cons_some hv, List.getLast?_cons]
    rcases (edits.filterMap (valueFor field read)).getLast? with _ | w <;> rfl

theorem getD_given_getD : (given edits field read).getD ((given edits field read).getD old) =
    (given edits field read).getD old := by
  rcases given edits field read with _ | v <;> rfl

/-! ## Edits that fit -/

/-- Whether an edit is valid for an album: it names one of its fields, and its value can be read. -/
def fitsAlbum (e : FieldEdit) : Bool :=
  match e.field with
  | "album" | "albumartist" | "label" | "mb_album_id" => true
  | "year" | "disc_total" => e.integer.toOption.isSome
  | "track_total" => e.optionalInteger.toOption.isSome
  | "date" | "original_date" => e.optionalDate.toOption.isSome
  | _ => false

/-- Whether an edit is valid for a kind of items. -/
def fits (kind : Kind) (e : FieldEdit) : Bool :=
  match kind with
  | .track =>
    match e.field with
    | "title" | "artist" | "genre" | "mb_track_id" => true
    | "track_num" | "disc" => e.integer.toOption.isSome
    | _ => e.fitsAlbum
  | .album => e.fitsAlbum
  | .extra => false

end FieldEdit

/-! ## Assigning -/

open FieldEdit

/-- An album's fields with what edits give. -/
def AlbumInfo.assign (edits : List FieldEdit) (i : AlbumInfo) : AlbumInfo :=
  { i with
    title := (given edits "album" text).getD i.title
    artist := (given edits "albumartist" text).getD i.artist
    year := (given edits "year" (·.integer.toOption)).getD i.year
    date? := (given edits "date" (·.optionalDate.toOption)).getD i.date?
    originalDate? := (given edits "original_date" (·.optionalDate.toOption)).getD i.originalDate?
    label? := (given edits "label" textOrBlank).getD i.label?
    mbAlbumId? := (given edits "mb_album_id" textOrBlank).getD i.mbAlbumId?
    trackTotal? := (given edits "track_total" (·.optionalInteger.toOption)).getD i.trackTotal?
    discTotal := (given edits "disc_total" (·.integer.toOption)).getD i.discTotal }

/-- A track with what edits give, the fields of its album apart. -/
def Track.assign (edits : List FieldEdit) (t : Track) : Track :=
  { t with
    title := (given edits "title" text).getD t.title
    artist := (given edits "artist" text).getD t.artist
    trackNum := (given edits "track_num" (·.integer.toOption)).getD t.trackNum
    disc := (given edits "disc" (·.integer.toOption)).getD t.disc
    genres := (given edits "genre" genreSet).getD t.genres
    mbTrackId? := (given edits "mb_track_id" textOrBlank).getD t.mbTrackId? }

/-- An album's row with what edits give. -/
def AlbumRow.assign (edits : List FieldEdit) (r : AlbumRow) : AlbumRow :=
  { r with
    title := (given edits "album" text).getD r.title
    artist := (given edits "albumartist" text).getD r.artist
    year := (given edits "year" (·.integer.toOption)).getD r.year
    date? := ((given edits "date" (·.optionalDate.toOption)).map (·.map Date.format)).getD r.date?
    originalDate? := ((given edits "original_date" (·.optionalDate.toOption)).map
      (·.map Date.format)).getD r.originalDate?
    label? := (given edits "label" textOrBlank).getD r.label?
    mbAlbumId? := (given edits "mb_album_id" textOrBlank).getD r.mbAlbumId?
    trackTotal? := (given edits "track_total" (·.optionalInteger.toOption)).getD r.trackTotal?
    discTotal := (given edits "disc_total" (·.integer.toOption)).getD r.discTotal }

/-- A track's row with what edits give. -/
def TrackRow.assign (edits : List FieldEdit) (r : TrackRow) : TrackRow :=
  { r with
    title := (given edits "title" text).getD r.title
    artist := (given edits "artist" text).getD r.artist
    trackNum := (given edits "track_num" (·.integer.toOption)).getD r.trackNum
    disc := (given edits "disc" (·.integer.toOption)).getD r.disc
    mbTrackId? := (given edits "mb_track_id" textOrBlank).getD r.mbTrackId? }

variable {e : FieldEdit} {edits : List FieldEdit}

theorem AlbumInfo.assign_cons (i : AlbumInfo) : i.assign (e :: edits) = (i.assign [e]).assign edits := by
  simp only [AlbumInfo.assign, @getD_given_cons _ _ _ _ edits]

theorem Track.assign_cons (t : Track) : t.assign (e :: edits) = (t.assign [e]).assign edits := by
  simp only [Track.assign, @getD_given_cons _ _ _ _ edits]

theorem AlbumRow.assign_assign (r : AlbumRow) : (r.assign edits).assign edits = r.assign edits := by
  have hdate : ∀ (g? : Option (Option Date)) (old : Option String),
      (g?.map (·.map Date.format)).getD ((g?.map (·.map Date.format)).getD old) =
        (g?.map (·.map Date.format)).getD old := by
    intro g? old
    rcases g? with _ | d <;> rfl
  simp only [AlbumRow.assign, getD_given_getD, hdate]

/-- The row of assigned fields is the row with the same assignment. -/
theorem AlbumInfo.row_assign (i : AlbumInfo) (n : Int) :
    (i.assign edits).row n = (i.row n).assign edits := by
  have hdate : ∀ (g? : Option (Option Date)) (old : Option Date),
      (g?.getD old).map Date.format = (g?.map (·.map Date.format)).getD (old.map Date.format) := by
    intro g? old
    rcases g? with _ | d <;> rfl
  simp only [AlbumInfo.assign, AlbumInfo.row, AlbumRow.assign, hdate]

theorem Track.row_assign (t : Track) (k n : Int) : (t.assign edits).row k n = (t.row k n).assign edits :=
  rfl

/-- What an assigned row holds are the assigned fields. -/
theorem AlbumRow.info_assign (r : AlbumRow) : (r.assign edits).info = r.info.assign edits := by
  have hdate : ∀ (g? : Option (Option Date)) (old : Option String),
      ((g?.map (·.map Date.format)).getD old).bind Date.parse? = g?.getD (old.bind Date.parse?) := by
    intro g? old
    rcases g? with _ | d
    · rfl
    · exact bind_parse?_map_format d
  simp only [AlbumInfo.assign, AlbumRow.info, AlbumRow.assign, hdate]

/-- What stands at a place has been assigned what edits give, and all else is as it was. -/
structure Shelf.Assigned (s : Shelf) (edits : List FieldEdit) (h : Handle) (s' : Shelf) : Prop where
  holds : ∀ k, s.Holds k → s'.Holds k
  read : s'.read h = (s.read h).assign edits
  others : ∀ k, k ≠ h → s'.read k = s.read k

theorem Shelf.assigned_write {s : Shelf} {h : Handle} (hs : s.Holds h) (edits : List FieldEdit) :
    s.Assigned edits h (s.write h ((s.read h).assign edits)) :=
  ⟨fun _ hk => Shelf.holds_write.2 hk, Shelf.read_write hs _, fun _ hk => Shelf.read_write_of_ne hk _⟩

theorem Shelf.Assigned.cons {s s₁ s' : Shelf} {h : Handle} (h₁ : s.Assigned [e] h s₁)
    (h₂ : s₁.Assigned edits h s') : s.Assigned (e :: edits) h s' where
  holds k hk := h₂.holds k (h₁.holds k hk)
  read := by rw [h₂.read, h₁.read, ← AlbumInfo.assign_cons]
  others k hk := (h₂.others k hk).trans (h₁.others k hk)

/-- A row that has the keys of an assigned row has them also once it has been assigned the same. -/
theorem AlbumRow.identity_assign_of_eq {q r : AlbumRow} (h : q.identity = (r.assign edits).identity) :
    (q.assign edits).identity = (r.assign edits).identity := by
  simp only [identity, AlbumRow.assign, Prod.mk.injEq] at h ⊢
  obtain ⟨hartist, htitle, hyear⟩ := h
  rw [hartist, htitle, hyear]
  exact ⟨getD_given_getD, getD_given_getD, getD_given_getD⟩

theorem TrackRow.position_assign_of_eq {q r : TrackRow} (h : q.position = (r.assign edits).position) :
    (q.assign edits).position = (r.assign edits).position := by
  simp only [position, TrackRow.assign, Prod.mk.injEq] at h ⊢
  obtain ⟨halbum, hnum, hdisc⟩ := h
  rw [hnum, hdisc]
  exact ⟨halbum, getD_given_getD, getD_given_getD⟩

/-! ## Applying edits -/

/-- A result that is there is what is mapped. -/
theorem map_of_isSome_toOption {ε α β : Type} {x : Except ε α} (h : x.toOption.isSome = true) (f : α → β)
    (old : α) : x.map f = .ok (f (x.toOption.getD old)) := by
  rcases x with err | a
  · cases h
  · rfl

theorem map_of_not_isSome_toOption {ε α β : Type} {x : Except ε α} (h : x.toOption.isSome = false)
    (f : α → β) : ∃ err, x.map f = .error err := by
  rcases x with err | a
  · exact ⟨err, rfl⟩
  · cases h

namespace FieldEdit

/-- An edit that fits albums assigns to the fields of an album. -/
theorem applyToInfo_of_fits (kind : Kind) (i : AlbumInfo) (h : e.fitsAlbum = true) :
    e.applyToInfo kind i = .ok (i.assign [e]) := by
  unfold fitsAlbum at h
  unfold applyToInfo AlbumInfo.assign
  simp only [given_singleton, valueFor]
  split at h
  all_goals
    rename_i hfield
    simp [hfield, text, textOrBlank] at h ⊢
  all_goals exact map_of_isSome_toOption h _ _

theorem applyToInfo_of_not_fits (kind : Kind) (i : AlbumInfo) (h : e.fitsAlbum = false) :
    ∃ f, e.applyToInfo kind i = .error f := by
  unfold applyToInfo
  split
  all_goals try
    rename_i hfield
    simp [fitsAlbum, hfield] at h
  all_goals first
    | exact map_of_not_isSome_toOption (by simpa using h) _
    | exact ⟨_, rfl⟩

/-- The names of a track's own fields. -/
def trackFields : List String :=
  ["title", "artist", "track_num", "disc", "genre", "mb_track_id", "path"]

/-- The names of the fields of an album. -/
def albumFields : List String :=
  ["album", "albumartist", "year", "date", "original_date", "label", "mb_album_id", "track_total",
    "disc_total", "album_path"]

theorem not_mem_trackFields {name : String} (h : name ∈ albumFields) : name ∉ trackFields := by
  have hdisjoint : ∀ name ∈ albumFields, name ∉ trackFields := by decide
  exact hdisjoint name h

/-- An edit of none of a track's own fields is one of the fields of its album, whether the track sets the
field itself or hands the edit on. -/
theorem applyToTrack_eq_applyToInfo (t : Track) (s : Shelf) (h : e.field ∉ trackFields) :
    e.applyToTrack t s =
      (e.applyToInfo .track (s.read t.album)).map fun i => (t, s.write t.album i) := by
  unfold applyToTrack
  split
  case h_7 hfield => simp [applyToInfo, hfield, Except.map, Track.setAlbumTitle, Shelf.modify]
  case h_8 hfield => simp [applyToInfo, hfield, Except.map, Track.setAlbumArtist, Shelf.modify]
  case h_9 hfield =>
    rcases hn : e.integer with f | n <;>
      simp [applyToInfo, hfield, hn, Except.map, Track.setAlbumYear, Shelf.modify]
  case h_11 => rfl
  all_goals
    rename_i hfield
    exact absurd h (by simp [hfield, trackFields])

theorem not_mem_trackFields_of_fitsAlbum (h : e.fitsAlbum = true) : e.field ∉ trackFields := by
  intro hmem
  simp only [trackFields, List.mem_cons, List.not_mem_nil, or_false] at hmem
  rcases hmem with hfield | hfield | hfield | hfield | hfield | hfield | hfield <;>
    simp [fitsAlbum, hfield] at h

/-- An edit that fits albums is none of a track's own fields. -/
theorem applyToTrack_of_fitsAlbum (t : Track) (s : Shelf) (h : e.fitsAlbum = true) :
    t.assign [e] = t ∧ e.applyToTrack t s =
      .ok (t, s.write t.album ((s.read t.album).assign [e])) := by
  rw [applyToTrack_eq_applyToInfo t s (not_mem_trackFields_of_fitsAlbum h),
    applyToInfo_of_fits .track (s.read t.album) h]
  refine ⟨?_, rfl⟩
  unfold fitsAlbum at h
  unfold Track.assign
  simp only [given_singleton, valueFor]
  split at h
  all_goals
    rename_i hfield
    simp [hfield] at h ⊢

/-- An edit that fits tracks but not albums assigns to a track's own fields. -/
theorem applyToTrack_of_not_fitsAlbum (t : Track) (s : Shelf) (h : e.fits .track = true)
    (halbum : e.fitsAlbum = false) :
    (∀ i : AlbumInfo, i.assign [e] = i) ∧ e.applyToTrack t s = .ok (t.assign [e], s) := by
  unfold applyToTrack Track.assign AlbumInfo.assign
  simp only [given_singleton, valueFor]
  simp only [fits] at h
  split at h
  all_goals
    rename_i hfield
    simp [hfield, text, textOrBlank, genreSet, halbum] at h ⊢
  all_goals exact map_of_isSome_toOption h _ _

/-- An edit that fits tracks assigns to a track and to the fields of its album. -/
theorem applyToTrack_of_fits {t : Track} {s : Shelf} (hs : s.Holds t.album)
    (h : e.fits .track = true) :
    ∃ s', e.applyToTrack t s = .ok (t.assign [e], s') ∧ s.Assigned [e] t.album s' := by
  by_cases halbum : e.fitsAlbum = true
  · obtain ⟨htrack, heq⟩ := applyToTrack_of_fitsAlbum t s halbum
    rw [htrack]
    exact ⟨_, heq, Shelf.assigned_write hs [e]⟩
  · obtain ⟨hinfo, heq⟩ := applyToTrack_of_not_fitsAlbum t s h (Bool.not_eq_true _ ▸ halbum)
    exact ⟨s, heq, fun _ hk => hk, (hinfo _).symm, fun _ _ => rfl⟩

theorem fits_track_of_not_mem (h : e.field ∉ trackFields) : e.fits .track = e.fitsAlbum := by
  simp only [fits]
  split
  all_goals first
    | rfl
    | rename_i hfield
      exact absurd h (by simp [hfield, trackFields])

theorem applyToTrack_of_not_fits (t : Track) (s : Shelf) (h : e.fits .track = false) :
    ∃ f, e.applyToTrack t s = .error f := by
  by_cases hown : e.field ∈ trackFields
  · simp only [trackFields, List.mem_cons, List.not_mem_nil, or_false] at hown
    unfold applyToTrack
    rcases hown with hfield | hfield | hfield | hfield | hfield | hfield | hfield <;>
      simp only [fits, hfield] at h ⊢
    all_goals first
      | exact map_of_not_isSome_toOption h _
      | exact ⟨_, rfl⟩
      | cases h
  · rw [fits_track_of_not_mem hown] at h
    obtain ⟨f, hf⟩ := applyToInfo_of_not_fits .track (s.read t.album) h
    rw [applyToTrack_eq_applyToInfo t s hown, hf]
    exact ⟨f, rfl⟩

end FieldEdit

end MusicLibrary

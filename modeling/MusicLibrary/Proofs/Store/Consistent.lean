import MusicLibrary.Proofs.Path.FileName
import MusicLibrary.Proofs.Table
import MusicLibrary.Store.Save

/-!
# Consistent stores

`Store.Consistent` is what the keys, the references and the derived columns of a store come to: no
two rows share a key, every row refers to rows that exist, dates are written in their one form, and
the name of an extra is that of its path. Each statement that is carried out keeps it; what a
statement does is said once, by the lemmas named `…_eq_ok`.
-/

namespace MusicLibrary

/-! ## Columns -/

/-- Whether a column of dates holds nothing, or a date in its one form. -/
def WrittenDate (text? : Option String) : Prop := ∀ text, text? = some text → ∃ d : Date, text = d.format

/-- Whether the dates of a row are in their one form. -/
def AlbumRow.Dated (r : AlbumRow) : Prop := WrittenDate r.date? ∧ WrittenDate r.originalDate?

/-- Whether the name of a row is the name of the file at its path. -/
def ExtraRow.Named (r : ExtraRow) : Prop := r.filename = (Path.ofText r.path).fileName?.getD ""

theorem writtenDate_map_format (d? : Option Date) : WrittenDate (d?.map Date.format) := by
  intro text h
  obtain ⟨d, _, rfl⟩ := Option.map_eq_some_iff.1 h
  exact ⟨d, rfl⟩

theorem AlbumInfo.dated_row (i : AlbumInfo) (id : Int) : (i.row id).Dated :=
  ⟨writtenDate_map_format _, writtenDate_map_format _⟩

theorem Extra.named_row (e : Extra) (id albumId : Int) : (e.row id albumId).Named := by
  show e.filename = (Path.ofText e.path.text).fileName?.getD ""
  rw [Path.fileName?_ofText_text]
  rfl

/-! ## Keys -/

/-- The albums of a store as a table. -/
abbrev AlbumTable := Table AlbumRow.id AlbumRow.identity AlbumRow.path

/-- The tracks of a store as a table. -/
abbrev TrackTable := Table TrackRow.id TrackRow.position TrackRow.path

/-- The extras of a store as a table. -/
abbrev ExtraTable := Table ExtraRow.id ExtraRow.position ExtraRow.path

theorem AlbumRow.conflict?_eq_none {rows : List AlbumRow} {r : AlbumRow} :
    r.conflict? rows = none ↔ Free AlbumRow.id AlbumRow.identity AlbumRow.path rows r := by
  rw [free_iff, conflict?]
  split_ifs <;> grind

theorem TrackRow.conflict?_eq_none {rows : List TrackRow} {r : TrackRow} :
    r.conflict? rows = none ↔ Free TrackRow.id TrackRow.position TrackRow.path rows r := by
  rw [free_iff, conflict?]
  split_ifs <;> grind

theorem ExtraRow.conflict?_eq_none {rows : List ExtraRow} {r : ExtraRow} :
    r.conflict? rows = none ↔ Free ExtraRow.id ExtraRow.position ExtraRow.path rows r := by
  rw [free_iff, conflict?]
  split_ifs <;> grind

namespace Store

variable {st st' : Store} {id : Int}

def HasAlbum (st : Store) (id : Int) : Prop := ∃ r ∈ st.albums, r.id = id

def HasTrack (st : Store) (id : Int) : Prop := ∃ r ∈ st.tracks, r.id = id

def HasExtra (st : Store) (id : Int) : Prop := ∃ r ∈ st.extras, r.id = id

/-- The keys, the references and the derived columns of a store are in order. -/
structure Consistent (st : Store) : Prop where
  albums : AlbumTable st.lastAlbum st.albums
  tracks : TrackTable st.lastTrack st.tracks
  extras : ExtraTable st.lastExtra st.extras
  trackOwner : ∀ r ∈ st.tracks, st.HasAlbum r.albumId
  extraOwner : ∀ r ∈ st.extras, st.HasAlbum r.albumId
  linkedTrack : ∀ l ∈ st.trackGenres, st.HasTrack l.trackId
  linkedGenre : ∀ l ∈ st.trackGenres, l.genre ∈ st.genres
  links : st.trackGenres.Nodup
  dated : ∀ r ∈ st.albums, r.Dated
  named : ∀ r ∈ st.extras, r.Named

theorem consistent_empty : Store.empty.Consistent where
  albums := .nil
  tracks := .nil
  extras := .nil
  trackOwner _ h := absurd h List.not_mem_nil
  extraOwner _ h := absurd h List.not_mem_nil
  linkedTrack _ h := absurd h List.not_mem_nil
  linkedGenre _ h := absurd h List.not_mem_nil
  links := .nil
  dated _ h := absurd h List.not_mem_nil
  named _ h := absurd h List.not_mem_nil

/-- A number without an album has no members. -/
theorem Consistent.noMembers (h : st.Consistent) (hid : ¬ st.HasAlbum id) :
    (∀ r ∈ st.tracks, r.albumId ≠ id) ∧ ∀ r ∈ st.extras, r.albumId ≠ id := by
  constructor
  · rintro r hr rfl
    exact hid (h.trackOwner r hr)
  · rintro r hr rfl
    exact hid (h.extraOwner r hr)

/-! ## What statements do -/

theorem any_album_iff : (st.albums.any (·.id = id)) = true ↔ st.HasAlbum id := by
  simp [HasAlbum]

theorem any_track_iff : (st.tracks.any (·.id = id)) = true ↔ st.HasTrack id := by
  simp [HasTrack]

theorem any_extra_iff : (st.extras.any (·.id = id)) = true ↔ st.HasExtra id := by
  simp [HasExtra]

theorem insertAlbum_eq_ok {r : AlbumRow} (h : st.insertAlbum r = .ok (id, st')) :
    id = st.lastAlbum + 1 ∧
      Free AlbumRow.id AlbumRow.identity AlbumRow.path st.albums { r with id := id } ∧
      st' = { st with albums := st.albums ++ [{ r with id := id }], lastAlbum := id } := by
  simp only [insertAlbum] at h
  split at h
  · cases h
  · rename_i hc
    cases h
    exact ⟨rfl, AlbumRow.conflict?_eq_none.1 hc, rfl⟩

theorem insertTrack_eq_ok {r : TrackRow} (h : st.insertTrack r = .ok (id, st')) :
    id = st.lastTrack + 1 ∧
      Free TrackRow.id TrackRow.position TrackRow.path st.tracks { r with id := id } ∧
      st' = { st with tracks := st.tracks ++ [{ r with id := id }], lastTrack := id } := by
  simp only [insertTrack] at h
  split at h
  · cases h
  · rename_i hc
    cases h
    exact ⟨rfl, TrackRow.conflict?_eq_none.1 hc, rfl⟩

theorem insertExtra_eq_ok {r : ExtraRow} (h : st.insertExtra r = .ok (id, st')) :
    id = st.lastExtra + 1 ∧
      Free ExtraRow.id ExtraRow.position ExtraRow.path st.extras { r with id := id } ∧
      st' = { st with extras := st.extras ++ [{ r with id := id }], lastExtra := id } := by
  simp only [insertExtra] at h
  split at h
  · cases h
  · rename_i hc
    cases h
    exact ⟨rfl, ExtraRow.conflict?_eq_none.1 hc, rfl⟩

theorem updateAlbum_of_not_hasAlbum {r : AlbumRow} (h : ¬ st.HasAlbum r.id) :
    st.updateAlbum r = .ok (false, st) := by
  rw [updateAlbum, if_neg (mt any_album_iff.1 h)]

theorem updateAlbum_eq_ok {r : AlbumRow} {found : Bool} (hr : st.HasAlbum r.id)
    (h : st.updateAlbum r = .ok (found, st')) :
    found = true ∧ Free AlbumRow.id AlbumRow.identity AlbumRow.path st.albums r ∧
      st' = { st with albums := replaceRow AlbumRow.id r st.albums } := by
  rw [updateAlbum, if_pos (any_album_iff.2 hr)] at h
  split at h
  · cases h
  · rename_i hc
    cases h
    exact ⟨rfl, AlbumRow.conflict?_eq_none.1 hc, rfl⟩

theorem updateTrack_of_not_hasTrack {r : TrackRow} (h : ¬ st.HasTrack r.id) :
    st.updateTrack r = .ok st := by
  rw [updateTrack, if_neg (mt any_track_iff.1 h)]

theorem updateTrack_eq_ok {r : TrackRow} (hr : st.HasTrack r.id)
    (h : st.updateTrack r = .ok st') :
    Free TrackRow.id TrackRow.position TrackRow.path st.tracks r ∧
      st' = { st with tracks := replaceRow TrackRow.id r st.tracks } := by
  rw [updateTrack, if_pos (any_track_iff.2 hr)] at h
  split at h
  · cases h
  · rename_i hc
    cases h
    exact ⟨TrackRow.conflict?_eq_none.1 hc, rfl⟩

theorem updateExtra_of_not_hasExtra {r : ExtraRow} (h : ¬ st.HasExtra r.id) :
    st.updateExtra r = .ok st := by
  rw [updateExtra, if_neg (mt any_extra_iff.1 h)]

theorem updateExtra_eq_ok {r : ExtraRow} (hr : st.HasExtra r.id)
    (h : st.updateExtra r = .ok st') :
    Free ExtraRow.id ExtraRow.position ExtraRow.path st.extras r ∧
      st' = { st with extras := replaceRow ExtraRow.id r st.extras } := by
  rw [updateExtra, if_pos (any_extra_iff.2 hr)] at h
  split at h
  · cases h
  · rename_i hc
    cases h
    exact ⟨ExtraRow.conflict?_eq_none.1 hc, rfl⟩

/-- An album is written either to the row of its number or, if there is none, to a new row. -/
theorem writeAlbum_eq_ok {i : AlbumInfo} (h : st.writeAlbum i = .ok (id, st')) :
    (i.id? = some id ∧ st.HasAlbum id ∧ st.updateAlbum (i.row id) = .ok (true, st')) ∨
      ((∀ k, i.id? = some k → ¬ st.HasAlbum k) ∧ st.insertAlbum (i.row 0) = .ok (id, st')) := by
  rw [writeAlbum] at h
  rcases hi : i.id? with _ | k
  · rw [hi] at h
    exact .inr ⟨fun k hk => (nomatch hk), h⟩
  · simp only [hi] at h
    by_cases hk : st.HasAlbum k
    · rcases hu : st.updateAlbum (i.row k) with e | ⟨found, s⟩
      · rw [hu] at h
        cases h
      · obtain ⟨rfl, -, -⟩ := updateAlbum_eq_ok (r := i.row k) hk hu
        rw [hu] at h
        cases h
        exact .inl ⟨rfl, hk, hu⟩
    · rw [updateAlbum_of_not_hasAlbum (r := i.row k) hk] at h
      refine .inr ⟨fun k' hk' => ?_, h⟩
      cases hk'
      exact hk

/-! ## Genres -/

/-- The vocabulary with a name, which is added unless it is there. -/
def addName (names : List String) (g : String) : List String :=
  if names.contains g then names else names ++ [g]

theorem mem_addName {names : List String} {g x : String} :
    x ∈ addName names g ↔ x ∈ names ∨ x = g := by
  rw [addName]
  split_ifs with h
  · rw [List.contains_iff_mem] at h
    exact ⟨.inl, fun hx => hx.elim (fun hx => hx) fun hx => hx ▸ h⟩
  · simp

theorem mem_foldl_addName {names gs : List String} {x : String} :
    x ∈ gs.foldl addName names ↔ x ∈ names ∨ x ∈ gs := by
  induction gs generalizing names with
  | nil => simp
  | cons g gs ih => rw [List.foldl_cons, ih, mem_addName, List.mem_cons, or_assoc]

theorem foldl_addName_of_subset {names gs : List String} (h : ∀ g ∈ gs, g ∈ names) :
    gs.foldl addName names = names := by
  induction gs with
  | nil => rfl
  | cons g gs ih =>
    have hg : names.contains g = true := List.contains_iff_mem.2 (h g (.head _))
    rw [List.foldl_cons, addName, if_pos hg]
    exact ih fun x hx => h x (.tail _ hx)

theorem mem_genresOf {k : Int} {g : String} : g ∈ st.genresOf k ↔ ⟨k, g⟩ ∈ st.trackGenres := by
  simp only [genresOf, List.mem_map, List.mem_filter, decide_eq_true_eq]
  constructor
  · rintro ⟨l, ⟨hl, rfl⟩, rfl⟩
    exact hl
  · exact fun hl => ⟨⟨k, g⟩, ⟨hl, rfl⟩, rfl⟩

theorem addGenre_eq (g : String) : st.addGenre g = { st with genres := addName st.genres g } := by
  rw [addGenre, addName]
  split_ifs <;> rfl

/-- The store with the links of a track replaced by links to `names`. -/
def relink (st : Store) (id : Int) (names : List String) : Store :=
  { st with
    genres := names.foldl addName st.genres
    trackGenres := st.trackGenres.filter (·.trackId ≠ id) ++ names.map (⟨id, ·⟩) }

/-- A stored track is linked to all the genres of a list. -/
theorem linkGenres_of_hasTrack (h : st.HasTrack id) (names : List String) :
    st.linkGenres id names =
      ({ st with
          genres := names.foldl addName st.genres
          trackGenres := st.trackGenres ++ names.map (⟨id, ·⟩) }, none) := by
  induction names generalizing st with
  | nil => simp [linkGenres]
  | cons g names ih =>
    have hany : ((st.addGenre g).tracks.any (·.id = id)) = true := by
      rw [addGenre_eq]
      exact any_track_iff.2 h
    rw [linkGenres, linkGenre, if_pos hany]
    have hst : ({ st.addGenre g with
        trackGenres := (st.addGenre g).trackGenres ++ [⟨id, g⟩] } : Store).HasTrack id := by
      rw [addGenre_eq]
      exact h
    show Store.linkGenres _ id names = _
    rw [ih hst, addGenre_eq]
    simp

/-- A track that is not stored is linked to nothing; the first genre is refused. -/
theorem linkGenres_of_not_hasTrack (h : ¬ st.HasTrack id) (g : String) (names : List String) :
    st.linkGenres id (g :: names) = (st.addGenre g, some (.database .danglingReference)) := by
  have hany : ¬ ((st.addGenre g).tracks.any (·.id = id)) = true := by
    rw [addGenre_eq]
    exact mt any_track_iff.1 h
  rw [linkGenres, linkGenre, if_neg hany]

theorem writeGenres_of_hasTrack (h : st.HasTrack id) (t : Track) :
    st.writeGenres t id = ⟨st.relink id t.genres.names, { t with id? := some id }, none⟩ := by
  have hu : (st.unlinkGenres id).HasTrack id := h
  rw [writeGenres, linkGenres_of_hasTrack hu]
  rfl

/-- A track that is not stored gets no genres, and is refused if it has any. -/
theorem writeGenres_of_not_hasTrack (h : ¬ st.HasTrack id) (t : Track) :
    st.writeGenres t id = ⟨st.unlinkGenres id, { t with id? := some id }, none⟩ ∨
      ∃ g, st.writeGenres t id = ⟨(st.unlinkGenres id).addGenre g, { t with id? := some id },
        some (.database .danglingReference)⟩ := by
  have hu : ¬ (st.unlinkGenres id).HasTrack id := h
  unfold writeGenres
  rcases t.genres.names with _ | ⟨g, names⟩
  · exact .inl rfl
  · rw [linkGenres_of_not_hasTrack hu]
    exact .inr ⟨g, rfl⟩

end Store

end MusicLibrary

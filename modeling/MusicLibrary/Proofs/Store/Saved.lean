import MusicLibrary.Proofs.Store.EachWrites

/-!
# What saving an album leaves

`Store.AlbumSaved` says which rows a store has once an album has been saved: the album's row and the
rows of its members as they are in memory, and of the rows before all those that are neither the
album's, nor a former member's, nor a listed member's. `saveAlbum_of_ok` says it of every save that
succeeds with members whose numbers differ and have rows.
-/

namespace MusicLibrary

open Progress

/-! ## Rows of members -/

def Track.numbered (t : Track) (id : Int) : Track := { t with id? := some id }

def Extra.numbered (e : Extra) (id : Int) : Extra := { e with id? := some id }

/-- The row of a track that has a number, as a member of an album. -/
def Track.row? (albumId : Int) (t : Track) : Option TrackRow := t.id?.map fun id => t.row id albumId

/-- The row of an extra that has a number, as a member of an album. -/
def Extra.row? (albumId : Int) (e : Extra) : Option ExtraRow := e.id?.map fun id => e.row id albumId

theorem Track.row?_eq_some {albumId : Int} {t : Track} {r : TrackRow} (h : t.row? albumId = some r) :
    t.id? = some r.id ∧ r.albumId = albumId := by
  obtain ⟨id, hid, rfl⟩ := Option.map_eq_some_iff.1 h
  exact ⟨hid, rfl⟩

theorem Extra.row?_eq_some {albumId : Int} {e : Extra} {r : ExtraRow} (h : e.row? albumId = some r) :
    e.id? = some r.id ∧ r.albumId = albumId := by
  obtain ⟨id, hid, rfl⟩ := Option.map_eq_some_iff.1 h
  exact ⟨hid, rfl⟩

/-- The rows of those tracks that have numbers. -/
def trackRows (albumId : Int) (ts : List Track) : List TrackRow := ts.filterMap (·.row? albumId)

/-- The rows of those extras that have numbers. -/
def extraRows (albumId : Int) (es : List Extra) : List ExtraRow := es.filterMap (·.row? albumId)

theorem mem_trackRows {albumId : Int} {ts : List Track} {r : TrackRow} :
    r ∈ trackRows albumId ts ↔ ∃ t ∈ ts, t.row? albumId = some r := List.mem_filterMap

theorem mem_extraRows {albumId : Int} {es : List Extra} {r : ExtraRow} :
    r ∈ extraRows albumId es ↔ ∃ e ∈ es, e.row? albumId = some r := List.mem_filterMap

theorem map_id_trackRows (albumId : Int) (ts : List Track) :
    (trackRows albumId ts).map (·.id) = ts.filterMap (·.id?) := by
  rw [trackRows, List.map_filterMap]
  refine List.filterMap_congr fun t _ => ?_
  cases hid : t.id? <;> simp [Track.row?, Track.row, hid]

theorem map_id_extraRows (albumId : Int) (es : List Extra) :
    (extraRows albumId es).map (·.id) = es.filterMap (·.id?) := by
  rw [extraRows, List.map_filterMap]
  refine List.filterMap_congr fun e _ => ?_
  cases hid : e.id? <;> simp [Extra.row?, Extra.row, hid]

theorem mem_filterMap_trackId? (albumId : Int) {ts : List Track} {k : Int} :
    k ∈ ts.filterMap (·.id?) ↔ ∃ r ∈ trackRows albumId ts, r.id = k := by
  rw [← map_id_trackRows albumId, List.mem_map]

theorem mem_filterMap_extraId? (albumId : Int) {es : List Extra} {k : Int} :
    k ∈ es.filterMap (·.id?) ↔ ∃ r ∈ extraRows albumId es, r.id = k := by
  rw [← map_id_extraRows albumId, List.mem_map]

namespace Store

variable {st st' : Store} {n : Int}

/-! ## Tracks -/

/-- Tracks, all of which have numbers, have been written as members of an album. -/
structure TracksWritten (n : Int) (st : Store) (ts : List Track) (st' : Store) : Prop where
  albums : st'.albums = st.albums
  extras : st'.extras = st.extras
  rows : Written TrackRow.id st.tracks st'.tracks (trackRows n ts)
  links : ∀ l, l ∈ st'.trackGenres ↔ (∃ t ∈ ts, t.id? = some l.trackId ∧ l.genre ∈ t.genres.names) ∨
    (l ∈ st.trackGenres ∧ ∀ t ∈ ts, t.id? ≠ some l.trackId)

theorem tracksWritten_nil : TracksWritten n st [] st :=
  ⟨rfl, rfl, written_nil, fun l => by simp⟩

theorem TracksWritten.cons {st₁ st₂ : Store} {t : Track} {ts : List Track}
    (h₁ : TracksWritten n st [t] st₁) (h₂ : TracksWritten n st₁ ts st₂)
    (hne : ∀ u ∈ ts, u.id? ≠ t.id?) : TracksWritten n st (t :: ts) st₂ where
  albums := h₂.albums.trans h₁.albums
  extras := h₂.extras.trans h₁.extras
  rows := by
    have hrows : trackRows n (t :: ts) = trackRows n [t] ++ trackRows n ts :=
      List.filterMap_append (l := [t])
    rw [hrows]
    refine h₁.rows.append h₂.rows fun r hr q hq he => ?_
    obtain ⟨t', ht', hr⟩ := mem_trackRows.1 hr
    obtain ⟨u, hu, hq⟩ := mem_trackRows.1 hq
    cases List.mem_singleton.1 ht'
    exact hne u hu (by rw [(Track.row?_eq_some hr).1, (Track.row?_eq_some hq).1, he])
  links l := by
    have h₁ := h₁.links l
    simp only [List.mem_singleton, exists_eq_left, forall_eq] at h₁
    rw [h₂.links l, h₁]
    simp only [List.mem_cons, exists_eq_or_imp, forall_eq_or_imp]
    constructor
    · rintro (hl | ⟨hl | ⟨hl, ht⟩, hts⟩)
      · exact .inl (.inr hl)
      · exact .inl (.inl hl)
      · exact .inr ⟨hl, ht, hts⟩
    · rintro ((hl | hl) | ⟨hl, ht, hts⟩)
      · exact .inr ⟨.inl hl, fun u hu he => hne u hu (he.trans hl.1.symm)⟩
      · exact .inl hl
      · exact .inr ⟨.inr ⟨hl, ht⟩, hts⟩

theorem TracksWritten.hasTrack {ts : List Track} {t : Track} {k : Int}
    (h : TracksWritten n st ts st') (ht : t ∈ ts) (hk : t.id? = some k) : st'.HasTrack k :=
  ⟨t.row k n, (h.rows _).2 (.inl (mem_trackRows.2 ⟨t, ht, by rw [Track.row?, hk]; rfl⟩)), rfl⟩

/-- A track whose row has been written and whose genres have been replaced is written. -/
theorem tracksWritten_relink {st₁ : Store} {t : Track} {k : Int} (ha : st₁.albums = st.albums)
    (he : st₁.extras = st.extras) (hl : st₁.trackGenres = st.trackGenres)
    (hr : Written TrackRow.id st.tracks st₁.tracks [t.row k n]) :
    TracksWritten n st [t.numbered k] (st₁.relink k t.genres.names) where
  albums := ha
  extras := he
  rows := hr
  links l := by
    show l ∈ st₁.trackGenres.filter (·.trackId ≠ k) ++ t.genres.names.map (⟨k, ·⟩) ↔ _
    rw [hl, List.mem_append, or_comm]
    simp only [List.mem_map, List.mem_filter, decide_eq_true_eq, List.mem_singleton, exists_eq_left,
      forall_eq, Track.numbered, Option.some.injEq, ne_eq]
    rw [eq_comm (a := k)]
    refine or_congr_left ⟨?_, ?_⟩
    · rintro ⟨g, hg, rfl⟩
      exact ⟨rfl, hg⟩
    · rintro ⟨rfl, hg⟩
      exact ⟨l.genre, hg, rfl⟩

theorem writeTrack_of_update {t : Track} {k : Int} {st₁ : Store} (hid : t.id? = some k)
    (hk : st.HasTrack k) (hu : st.updateTrack (t.row k n) = .ok st₁) :
    writeTrack n st t = ⟨st₁.relink k t.genres.names, t.numbered k, none⟩ := by
  have hrow : ∃ q ∈ st.tracks, q.id = (t.row k n).id := hk
  have hk₁ : st₁.HasTrack k := by
    obtain ⟨-, rfl⟩ := updateTrack_eq_ok hrow hu
    exact (written_replaceRow hrow).exists_num hrow
  rw [writeTrack, hid]
  simp only [hu]
  exact writeGenres_of_hasTrack hk₁ t

/-- Of a track whose row is gone only the genres are written. -/
theorem writeTrack_of_gone {t : Track} {k : Int} (hid : t.id? = some k) (hk : ¬ st.HasTrack k) :
    writeTrack n st t = st.writeGenres t k := by
  have hu : st.updateTrack (t.row k n) = .ok st := updateTrack_of_not_hasTrack hk
  rw [writeTrack, hid]
  simp only [hu]

theorem writeTrack_of_insert {t : Track} {k : Int} {st₁ : Store} (hid : t.id? = none)
    (hi : st.insertTrack (t.row 0 n) = .ok (k, st₁)) :
    writeTrack n st t = ⟨st₁.relink k t.genres.names, t.numbered k, none⟩ := by
  have hk₁ : st₁.HasTrack k := by
    obtain ⟨rfl, -, rfl⟩ := insertTrack_eq_ok hi
    exact ⟨_, List.mem_append_right _ (List.mem_singleton_self _), rfl⟩
  rw [writeTrack, hid]
  simp only [hi]
  exact writeGenres_of_hasTrack hk₁ t

/-- A track that is written gets a row with its fields and links to its genres. -/
theorem writeTrack_of_ok (h : st.Consistent) {t : Track} (ht : ∀ k, t.id? = some k → st.HasTrack k)
    (hok : (writeTrack n st t).fault? = none) :
    ∃ k, (writeTrack n st t).value = t.numbered k ∧
      (t.id? = some k ∨ t.id? = none ∧ ¬ st.HasTrack k) ∧
      TracksWritten n st [t.numbered k] (writeTrack n st t).store := by
  rcases hid : t.id? with _ | k
  · rcases hi : st.insertTrack (t.row 0 n) with e | ⟨k, st₁⟩
    · simp [writeTrack, hid, hi] at hok
    · obtain ⟨hk, -, rfl⟩ := insertTrack_eq_ok hi
      have hnew : ∀ q ∈ st.tracks, q.id ≠ k := fun q hq => by
        have := h.tracks.numbered q hq
        omega
      have hfresh : ¬ st.HasTrack k := by
        rintro ⟨q, hq, he⟩
        exact hnew q hq he
      rw [writeTrack_of_insert hid hi]
      exact ⟨k, rfl, .inr ⟨rfl, hfresh⟩,
        tracksWritten_relink rfl rfl rfl (written_append hnew)⟩
  · have hk := ht k hid
    rcases hu : st.updateTrack (t.row k n) with e | st₁
    · simp [writeTrack, hid, hu] at hok
    · rw [writeTrack_of_update hid hk hu]
      obtain ⟨-, rfl⟩ := updateTrack_eq_ok (r := t.row k n) hk hu
      exact ⟨k, rfl, .inl rfl, tracksWritten_relink rfl rfl rfl (written_replaceRow hk)⟩

theorem eachWrites_tracks : EachWrites (writeTrack n) (·.id?) Track.numbered
    (fun st => st.Consistent ∧ st.HasAlbum n) HasTrack (TracksWritten n) where
  id?_number _ _ := rfl
  one {st t} h ht hok := by
    obtain ⟨k, hvalue, hk, hw⟩ := writeTrack_of_ok h.1 ht hok
    exact ⟨k, hvalue, hk, Consistent.writeTrack_hasAlbum h t, hw⟩
  nil := tracksWritten_nil
  cons h₁ h₂ hne := h₁.cons h₂ hne
  keeps h hk := h.rows.exists_num hk
  has h ht hk := h.hasTrack ht hk

/-! ## Extras -/

/-- Extras, all of which have numbers, have been written as members of an album. -/
structure ExtrasWritten (n : Int) (st : Store) (es : List Extra) (st' : Store) : Prop where
  albums : st'.albums = st.albums
  tracks : st'.tracks = st.tracks
  links : st'.trackGenres = st.trackGenres
  rows : Written ExtraRow.id st.extras st'.extras (extraRows n es)

theorem ExtrasWritten.cons {st₁ st₂ : Store} {e : Extra} {es : List Extra}
    (h₁ : ExtrasWritten n st [e] st₁) (h₂ : ExtrasWritten n st₁ es st₂)
    (hne : ∀ u ∈ es, u.id? ≠ e.id?) : ExtrasWritten n st (e :: es) st₂ where
  albums := h₂.albums.trans h₁.albums
  tracks := h₂.tracks.trans h₁.tracks
  links := h₂.links.trans h₁.links
  rows := by
    have hrows : extraRows n (e :: es) = extraRows n [e] ++ extraRows n es :=
      List.filterMap_append (l := [e])
    rw [hrows]
    refine h₁.rows.append h₂.rows fun r hr q hq he => ?_
    obtain ⟨e', he', hr⟩ := mem_extraRows.1 hr
    obtain ⟨u, hu, hq⟩ := mem_extraRows.1 hq
    cases List.mem_singleton.1 he'
    exact hne u hu (by rw [(Extra.row?_eq_some hr).1, (Extra.row?_eq_some hq).1, he])

theorem ExtrasWritten.hasExtra {es : List Extra} {e : Extra} {k : Int}
    (h : ExtrasWritten n st es st') (he : e ∈ es) (hk : e.id? = some k) : st'.HasExtra k :=
  ⟨e.row k n, (h.rows _).2 (.inl (mem_extraRows.2 ⟨e, he, by rw [Extra.row?, hk]; rfl⟩)), rfl⟩

theorem writeExtra_of_update {e : Extra} {k : Int} {st₁ : Store} (hid : e.id? = some k)
    (hu : st.updateExtra (e.row k n) = .ok st₁) : writeExtra n st e = ⟨st₁, e.numbered k, none⟩ := by
  have he : e.numbered k = e := by rw [Extra.numbered, ← hid]
  rw [writeExtra, hid, he]
  simp only [hu]

/-- An extra whose row is gone is not written. -/
theorem writeExtra_of_gone {e : Extra} {k : Int} (hid : e.id? = some k) (hk : ¬ st.HasExtra k) :
    writeExtra n st e = ⟨st, e.numbered k, none⟩ :=
  writeExtra_of_update hid (updateExtra_of_not_hasExtra hk)

theorem writeExtra_of_insert {e : Extra} {k : Int} {st₁ : Store} (hid : e.id? = none)
    (hi : st.insertExtra (e.row 0 n) = .ok (k, st₁)) :
    writeExtra n st e = ⟨st₁, e.numbered k, none⟩ := by
  rw [writeExtra, hid]
  simp only [hi]
  rfl

theorem writeExtra_of_ok (h : st.Consistent) {e : Extra} (he : ∀ k, e.id? = some k → st.HasExtra k)
    (hok : (writeExtra n st e).fault? = none) :
    ∃ k, (writeExtra n st e).value = e.numbered k ∧
      (e.id? = some k ∨ e.id? = none ∧ ¬ st.HasExtra k) ∧
      ExtrasWritten n st [e.numbered k] (writeExtra n st e).store := by
  rcases hid : e.id? with _ | k
  · rcases hi : st.insertExtra (e.row 0 n) with f | ⟨k, st₁⟩
    · simp [writeExtra, hid, hi] at hok
    · obtain ⟨hk, -, rfl⟩ := insertExtra_eq_ok hi
      have hnew : ∀ q ∈ st.extras, q.id ≠ k := fun q hq => by
        have := h.extras.numbered q hq
        omega
      have hfresh : ¬ st.HasExtra k := by
        rintro ⟨q, hq, he⟩
        exact hnew q hq he
      rw [writeExtra_of_insert hid hi]
      exact ⟨k, rfl, .inr ⟨rfl, hfresh⟩,
        ⟨rfl, rfl, rfl, written_append hnew⟩⟩
  · have hk := he k hid
    rcases hu : st.updateExtra (e.row k n) with f | st₁
    · simp [writeExtra, hid, hu] at hok
    · rw [writeExtra_of_update hid hu]
      obtain ⟨-, rfl⟩ := updateExtra_eq_ok (r := e.row k n) hk hu
      exact ⟨k, rfl, .inl rfl, ⟨rfl, rfl, rfl, written_replaceRow hk⟩⟩

theorem eachWrites_extras : EachWrites (writeExtra n) (·.id?) Extra.numbered
    (fun st => st.Consistent ∧ st.HasAlbum n) HasExtra (ExtrasWritten n) where
  id?_number _ _ := rfl
  one {st e} h he hok := by
    obtain ⟨k, hvalue, hk, hw⟩ := writeExtra_of_ok h.1 he hok
    exact ⟨k, hvalue, hk, Consistent.writeExtra_hasAlbum h e, hw⟩
  nil := ⟨rfl, rfl, rfl, written_nil⟩
  cons h₁ h₂ hne := h₁.cons h₂ hne
  keeps h hk := h.rows.exists_num hk
  has h he hk := h.hasExtra he hk

/-! ## Albums -/

/-- The numbers of an album's members differ and have rows, of whatever album. -/
structure Lists (st : Store) (a : Album) : Prop where
  trackIds : (a.tracks.filterMap (·.id?)).Nodup
  extraIds : (a.extras.filterMap (·.id?)).Nodup
  hasTrack : ∀ k ∈ a.tracks.filterMap (·.id?), st.HasTrack k
  hasExtra : ∀ k ∈ a.extras.filterMap (·.id?), st.HasExtra k

theorem lists_of_unsaved {a : Album} (ht : ∀ t ∈ a.tracks, t.id? = none)
    (he : ∀ e ∈ a.extras, e.id? = none) : st.Lists a := by
  have ht := List.filterMap_eq_nil_iff.2 ht
  have he := List.filterMap_eq_nil_iff.2 he
  constructor <;> simp [ht, he]

/-- Which members have rows is a matter of the tables of members. -/
theorem Lists.of_members {a : Album} (ha : st.Lists a) (htracks : st'.tracks = st.tracks)
    (hextras : st'.extras = st.extras) : st'.Lists a where
  trackIds := ha.trackIds
  extraIds := ha.extraIds
  hasTrack k hk := by
    rw [HasTrack, htracks]
    exact ha.hasTrack k hk
  hasExtra k hk := by
    rw [HasExtra, hextras]
    exact ha.hasExtra k hk

/-- What writing the members of an album makes of them and of the store. Each has a number, its own
or a new one, and a row with what it is in memory; of the rows before, those of other albums that
are not listed are as they were. -/
structure MembersSaved (n : Int) (st : Store) (a a' : Album) (st' : Store) : Prop where
  handle : a'.handle = a.handle
  tracks : Numbered (·.id?) Track.numbered a.tracks a'.tracks
  extras : Numbered (·.id?) Extra.numbered a.extras a'.extras
  trackIds : (a'.tracks.filterMap (·.id?)).Nodup
  extraIds : (a'.extras.filterMap (·.id?)).Nodup
  newTracks : ∀ r ∈ st.tracks, r.albumId ≠ n → r.id ∈ a'.tracks.filterMap (·.id?) →
    r.id ∈ a.tracks.filterMap (·.id?)
  newExtras : ∀ r ∈ st.extras, r.albumId ≠ n → r.id ∈ a'.extras.filterMap (·.id?) →
    r.id ∈ a.extras.filterMap (·.id?)
  tracksAfter : Written TrackRow.id (st.tracks.filter (·.albumId ≠ n)) st'.tracks
    (trackRows n a'.tracks)
  extrasAfter : Written ExtraRow.id (st.extras.filter (·.albumId ≠ n)) st'.extras
    (extraRows n a'.extras)
  links : ∀ l, l ∈ st'.trackGenres ↔
    (∃ t ∈ a'.tracks, t.id? = some l.trackId ∧ l.genre ∈ t.genres.names) ∨
      ((l ∈ st.trackGenres ∧ ∃ r ∈ st.tracks, r.id = l.trackId ∧ r.albumId ≠ n) ∧
        ∀ t ∈ a'.tracks, t.id? ≠ some l.trackId)

/-- What a save that succeeds makes of a value, of its shelf and of the store. -/
structure AlbumSaved (n : Int) (st : Store) (s : Shelf) (a : Album) (st' : Store) (s' : Shelf)
    (a' : Album) : Prop where
  shelf : s' = s.modify a.handle ({ · with id? := some n })
  own : (a.info s).id? = some n ∧ st.HasAlbum n ∨
    (∀ k, (a.info s).id? = some k → ¬ st.HasAlbum k) ∧ ∀ r ∈ st.albums, r.id < n
  albums : Written AlbumRow.id st.albums st'.albums [(a.info s).row n]
  members : MembersSaved n st a a' st'

end Store

theorem Progress.Numbered.exists_of_mem {α : Type} {id? : α → Option Int} {number : α → Int → α}
    {as bs : List α} (h : Numbered id? number as bs) {b : α} (hb : b ∈ bs) :
    ∃ a ∈ as, ∃ k, b = number a k := by
  induction h with
  | nil => exact absurd hb List.not_mem_nil
  | @cons a b' as bs hab _ ih =>
    rcases List.mem_cons.1 hb with rfl | hb
    · obtain ⟨k, rfl, -⟩ := hab
      exact ⟨a, .head _, k, rfl⟩
    · obtain ⟨a', ha', hk⟩ := ih hb
      exact ⟨a', .tail _ ha', hk⟩

theorem Progress.Numbered.exists_number {α : Type} {id? : α → Option Int} {number : α → Int → α}
    {as bs : List α} (h : Numbered id? number as bs) {a : α} (ha : a ∈ as) : ∃ k, number a k ∈ bs := by
  induction h with
  | nil => exact absurd ha List.not_mem_nil
  | @cons a' b as bs hab _ ih =>
    rcases List.mem_cons.1 ha with rfl | ha
    · obtain ⟨k, rfl, -⟩ := hab
      exact ⟨k, .head _⟩
    · obtain ⟨k, hk⟩ := ih ha
      exact ⟨k, .tail _ hk⟩

/-- A value that had a number is what it was. -/
theorem Progress.Numbered.mem_of_id? {α : Type} {id? : α → Option Int} {number : α → Int → α}
    {as bs : List α} (h : Numbered id? number as bs) {a : α} (ha : a ∈ as) {k : Int}
    (hk : id? a = some k) : number a k ∈ bs := by
  induction h with
  | nil => exact absurd ha List.not_mem_nil
  | @cons a' b as bs hab _ ih =>
    rcases List.mem_cons.1 ha with rfl | ha
    · obtain ⟨k', rfl, hown⟩ := hab
      rw [hown k hk]
      exact .head _
    · exact .tail _ (ih ha)

theorem Progress.Numbered.map_eq {α β : Type} {id? : α → Option Int} {number : α → Int → α}
    {f : α → β} {as bs : List α} (h : Numbered id? number as bs) (hf : ∀ a k, f (number a k) = f a) :
    bs.map f = as.map f := by
  induction h with
  | nil => rfl
  | @cons a b as bs hab _ ih =>
    obtain ⟨k, rfl, -⟩ := hab
    rw [List.map_cons, List.map_cons, hf, ih]

/-- A stored album is saved under its number. -/
theorem Store.AlbumSaved.number_eq {st st' : Store} {n k : Int} {s s' : Shelf} {a a' : Album}
    (h : AlbumSaved n st s a st' s' a') (hid : (a.info s).id? = some k) (hk : st.HasAlbum k) :
    k = n := by
  rcases h.own with ⟨hn, -⟩ | ⟨hno, -⟩
  · exact Option.some.inj (hid.symm.trans hn)
  · exact absurd hk (hno k hid)

/-- Numbers that were there stay. -/
theorem Progress.Numbered.subset {α : Type} {id? : α → Option Int} {number : α → Int → α}
    {as bs : List α} (h : Numbered id? number as bs) (hid : ∀ a k, id? (number a k) = some k) :
    ∀ k ∈ as.filterMap id?, k ∈ bs.filterMap id? := by
  induction h with
  | nil => exact fun k hk => hk
  | @cons a b as bs hab _ ih =>
    obtain ⟨k, rfl, hk⟩ := hab
    intro k' hk'
    rw [List.filterMap_cons_some (hid a k), List.mem_cons]
    obtain ⟨c, hc, hck⟩ := List.mem_filterMap.1 hk'
    rcases List.mem_cons.1 hc with rfl | hc
    · exact .inl (hk k' hck)
    · exact .inr (ih k' (List.mem_filterMap.2 ⟨c, hc, hck⟩))

namespace Store

variable {st st' : Store} {n : Int}

/-- Writing an album touches no other table. -/
theorem writeAlbum_written {i : AlbumInfo} (h : st.Consistent) (he : st.writeAlbum i = .ok (n, st')) :
    Written AlbumRow.id st.albums st'.albums [i.row n] ∧ st'.tracks = st.tracks ∧
      st'.extras = st.extras ∧ st'.trackGenres = st.trackGenres ∧
      (i.id? = some n ∧ st.HasAlbum n ∨
        (∀ k, i.id? = some k → ¬ st.HasAlbum k) ∧ ∀ r ∈ st.albums, r.id < n) := by
  rcases writeAlbum_eq_ok he with ⟨hid, hn, hu⟩ | ⟨hid, hi⟩
  · obtain ⟨-, -, rfl⟩ := updateAlbum_eq_ok (r := i.row n) hn hu
    exact ⟨written_replaceRow hn, rfl, rfl, rfl, .inl ⟨hid, hn⟩⟩
  · obtain ⟨hk, -, rfl⟩ := insertAlbum_eq_ok hi
    have hlt : ∀ q ∈ st.albums, q.id < n := fun q hq => by
      have := h.albums.numbered q hq
      omega
    exact ⟨written_append fun q hq => Int.ne_of_lt (hlt q hq), rfl, rfl, rfl, .inr ⟨hid, hlt⟩⟩

/-- An album without a number is written under one above all others. -/
theorem above_of_unnumbered {i : AlbumInfo} (hid : i.id? = none)
    (hown : i.id? = some n ∧ st.HasAlbum n ∨
      (∀ k, i.id? = some k → ¬ st.HasAlbum k) ∧ ∀ r ∈ st.albums, r.id < n) :
    ∀ r ∈ st.albums, r.id < n := by
  rcases hown with ⟨hn, -⟩ | ⟨-, hlt⟩
  · rw [hid] at hn
    cases hn
  · exact hlt

theorem not_hasAlbum_of_above (hlt : ∀ r ∈ st.albums, r.id < n) : ¬ st.HasAlbum n := by
  rintro ⟨r, hr, rfl⟩
  exact Int.lt_irrefl _ (hlt r hr)

/-- Once all tracks of an album have been written, its extras are. -/
theorem writeMembers_eq {a : Album}
    (hp : (each (writeTrack n) (st.deleteDropped n a) a.tracks).fault? = none) :
    let p := each (writeTrack n) (st.deleteDropped n a) a.tracks
    st.writeMembers n a =
      (each (writeExtra n) p.store a.extras).map ({ a with tracks := p.value, extras := · }) := by
  have hnone : ¬ (each (writeTrack n) (st.deleteDropped n a) a.tracks).fault?.isSome = true := by
    rw [hp]
    exact Bool.false_ne_true
  simp only [writeMembers]
  rw [if_neg hnone]

/-- If one of the tracks of an album is refused, so is the album. -/
theorem writeMembers_of_fault {a : Album} {e : Fault}
    (hp : (each (writeTrack n) (st.deleteDropped n a) a.tracks).fault? = some e) :
    (st.writeMembers n a).fault? = some e := by
  have hsome : (each (writeTrack n) (st.deleteDropped n a) a.tracks).fault?.isSome = true := by
    rw [hp]
    rfl
  simp only [writeMembers]
  rw [if_pos hsome, hp]

/-- If the members of an album have been written, its tracks have been and so have its extras. -/
theorem writeMembers_of_ok {a : Album} (hok : (st.writeMembers n a).fault? = none) :
    let p := each (writeTrack n) (st.deleteDropped n a) a.tracks
    let q := each (writeExtra n) p.store a.extras
    p.fault? = none ∧ q.fault? = none ∧
      st.writeMembers n a = ⟨q.store, { a with tracks := p.value, extras := q.value }, none⟩ := by
  intro p q
  have hp : p.fault? = none := by
    rcases hf : p.fault? with _ | e
    · rfl
    · rw [writeMembers_of_fault hf] at hok
      cases hok
  have heq := writeMembers_eq hp
  rw [heq] at hok
  have hq : q.fault? = none := hok
  refine ⟨hp, hq, ?_⟩
  rw [heq, Progress.map, hq]

/-- The links that are left when the dropped members of an album have been deleted: none to a track
of the album that is not listed. -/
theorem mem_deleteDropped_links (h : st.Consistent) {a : Album} {l : GenreLink} :
    l ∈ (st.deleteDropped n a).trackGenres ↔ l ∈ st.trackGenres ∧
      ∃ r ∈ st.tracks, r.id = l.trackId ∧
        (r.albumId ≠ n ∨ r.id ∈ a.tracks.filterMap (·.id?)) := by
  have hgone : l ∈ (st.deleteDropped n a).trackGenres ↔ l ∈ st.trackGenres ∧
      ¬ ∃ r ∈ st.tracks, (r.albumId = n ∧ r.id ∉ a.tracks.filterMap (·.id?)) ∧
        r.id = l.trackId := by
    simp [deleteDropped, deleteTracks, deleteExtras]
  rw [hgone]
  refine and_congr_right fun hl => ⟨fun hno => ?_, ?_⟩
  · obtain ⟨r, hr, hrl⟩ := h.linkedTrack l hl
    refine ⟨r, hr, hrl, ?_⟩
    by_contra hdropped
    rw [not_or, not_not] at hdropped
    exact hno ⟨r, hr, hdropped, hrl⟩
  · rintro ⟨r, hr, hrl, hkept⟩ ⟨q, hq, ⟨hqn, hql⟩, hq'⟩
    cases h.tracks.eq_of_num hr hq (hrl.trans hq'.symm)
    exact hkept.elim (fun hne => hne hqn) hql

theorem mem_deleteDropped_tracks {a : Album} {r : TrackRow} :
    r ∈ (st.deleteDropped n a).tracks ↔
      r ∈ st.tracks ∧ (r.albumId ≠ n ∨ r.id ∈ a.tracks.filterMap (·.id?)) := by
  simp [deleteDropped, deleteTracks, deleteExtras, imp_iff_not_or]

theorem mem_deleteDropped_extras {a : Album} {r : ExtraRow} :
    r ∈ (st.deleteDropped n a).extras ↔
      r ∈ st.extras ∧ (r.albumId ≠ n ∨ r.id ∈ a.extras.filterMap (·.id?)) := by
  simp [deleteDropped, deleteTracks, deleteExtras, imp_iff_not_or]

/-- Members that are all written are saved, whatever album their rows were of. -/
theorem writeMembers_saved (h : st.Consistent) (hn : st.HasAlbum n) {a : Album} (ha : st.Lists a)
    (hok : (st.writeMembers n a).fault? = none) :
    (st.writeMembers n a).store.albums = st.albums ∧
      MembersSaved n st a (st.writeMembers n a).value (st.writeMembers n a).store := by
  obtain ⟨hp, hq, hvalue⟩ := writeMembers_of_ok hok
  rw [hvalue]
  have hdrop := h.deleteDropped n a
  have hlistedTracks : ∀ k ∈ a.tracks.filterMap (·.id?), (st.deleteDropped n a).HasTrack k := by
    intro k hk
    obtain ⟨r, hr, rfl⟩ := ha.hasTrack k hk
    exact ⟨r, mem_deleteDropped_tracks.2 ⟨hr, .inr hk⟩, rfl⟩
  obtain ⟨hinv, hwt, htracks, htrackIds, hnewTracks⟩ :=
    eachWrites_tracks.run ⟨hdrop, hn⟩ ha.trackIds hlistedTracks hp
  have hlistedExtras : ∀ k ∈ a.extras.filterMap (·.id?),
      (each (writeTrack n) (st.deleteDropped n a) a.tracks).store.HasExtra k := by
    intro k hk
    obtain ⟨r, hr, rfl⟩ := ha.hasExtra k hk
    exact ⟨r, hwt.extras ▸ mem_deleteDropped_extras.2 ⟨hr, .inr hk⟩, rfl⟩
  obtain ⟨-, hwe, hextras, hextraIds, hnewExtras⟩ :=
    eachWrites_extras.run hinv ha.extraIds hlistedExtras hq
  refine ⟨hwe.albums.trans hwt.albums, ?_⟩
  -- a row that no written member has was not listed, so it is there unless it was the album's
  exact {
    handle := rfl
    tracks := htracks
    extras := hextras
    trackIds := htrackIds
    extraIds := hextraIds
    newTracks := fun r hr hne hk => (hnewTracks _ hk).resolve_right fun hfresh =>
      hfresh ⟨r, mem_deleteDropped_tracks.2 ⟨hr, .inl hne⟩, rfl⟩
    newExtras := fun r hr hne hk => (hnewExtras _ hk).resolve_right fun hfresh =>
      hfresh ⟨r, hwt.extras ▸ mem_deleteDropped_extras.2 ⟨hr, .inl hne⟩, rfl⟩
    tracksAfter := by
      rw [hwe.tracks]
      refine hwt.rows.of_mem_iff fun r hr => ?_
      have hunlisted : r.id ∉ a.tracks.filterMap (·.id?) := fun hk => by
        obtain ⟨q, hq, he⟩ := (mem_filterMap_trackId? n).1 (htracks.subset (fun _ _ => rfl) _ hk)
        exact hr q hq he
      rw [mem_deleteDropped_tracks, List.mem_filter, decide_eq_true_eq]
      exact and_congr_right fun _ => or_iff_left hunlisted
    extrasAfter := by
      have hextraRows := hwe.rows
      rw [hwt.extras] at hextraRows
      refine hextraRows.of_mem_iff fun r hr => ?_
      have hunlisted : r.id ∉ a.extras.filterMap (·.id?) := fun hk => by
        obtain ⟨q, hq, he⟩ := (mem_filterMap_extraId? n).1 (hextras.subset (fun _ _ => rfl) _ hk)
        exact hr q hq he
      rw [mem_deleteDropped_extras, List.mem_filter, decide_eq_true_eq]
      exact and_congr_right fun _ => or_iff_left hunlisted
    links := fun l => by
      rw [hwe.links, hwt.links l, mem_deleteDropped_links h]
      refine or_congr_right (and_congr_left fun hl => and_congr_right fun _ => ?_)
      have hunlisted : l.trackId ∉ a.tracks.filterMap (·.id?) := fun hk => by
        obtain ⟨t, ht, he⟩ := List.mem_filterMap.1 (htracks.subset (fun _ _ => rfl) _ hk)
        exact hl t ht he
      refine exists_congr fun r => and_congr_right fun _ => and_congr_right fun hrl => ?_
      rw [hrl]
      exact or_iff_left hunlisted }

/-- Once the row of an album has been written, its members are. -/
theorem saveAlbum_of_writeAlbum {st₁ : Store} {s : Shelf} {a : Album}
    (hw : st.writeAlbum (a.info s) = .ok (n, st₁)) :
    st.saveAlbum s a =
      (st₁.writeMembers n a).map (·, s.modify a.handle ({ · with id? := some n })) := by
  rw [saveAlbum, hw]

/-- Once the row of its album has been written, a track of a saved album is. -/
theorem saveTrack_of_writeAlbum {st₁ : Store} {s : Shelf} {t : Track} {k : Int}
    (hid : (s.read t.album).id? = some k) (hw : st.writeAlbum (s.read t.album) = .ok (n, st₁)) :
    st.saveTrack s t = writeTrack n st₁ t := by
  simp only [saveTrack, hid, hw]
  rfl

/-- Once the row of its album has been written, an extra of a saved album is. -/
theorem saveExtra_of_writeAlbum {st₁ : Store} {s : Shelf} {e : Extra} {k : Int}
    (hid : (s.read e.album).id? = some k) (hw : st.writeAlbum (s.read e.album) = .ok (n, st₁)) :
    st.saveExtra s e = writeExtra n st₁ e := by
  simp only [saveExtra, hid, hw]
  rfl

/-- A save that succeeds leaves the album and its members as they are in memory, and every row but
those of its former members. -/
theorem saveAlbum_of_ok (h : st.Consistent) {s : Shelf} {a : Album} (ha : st.Lists a)
    (hok : (st.saveAlbum s a).fault? = none) :
    ∃ n, AlbumSaved n st s a (st.saveAlbum s a).store (st.saveAlbum s a).value.2
      (st.saveAlbum s a).value.1 := by
  rcases hw : st.writeAlbum (a.info s) with e | ⟨n, st₁⟩
  · simp [saveAlbum, hw] at hok
  · rw [saveAlbum_of_writeAlbum hw] at hok ⊢
    obtain ⟨halbums, htracks, hextras, hlinks, hown⟩ := writeAlbum_written h hw
    obtain ⟨h₁, hn⟩ := h.writeAlbum hw
    obtain ⟨halbums₁, hm⟩ := writeMembers_saved h₁ hn (ha.of_members htracks hextras) hok
    refine ⟨n, rfl, hown, ?_, ?_⟩
    · show Written AlbumRow.id st.albums (st₁.writeMembers n a).store.albums _
      rw [halbums₁]
      exact halbums
    · exact { hm with
        newTracks := htracks ▸ hm.newTracks
        newExtras := hextras ▸ hm.newExtras
        tracksAfter := htracks ▸ hm.tracksAfter
        extrasAfter := hextras ▸ hm.extrasAfter
        links := htracks ▸ hlinks ▸ hm.links }

end Store

end MusicLibrary

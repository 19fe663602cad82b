import MusicLibrary.Proofs.Store.Blanks

/-!
# Adding without overwriting

Without `overwrite`, what is stored is only filled in: albums and tracks keep what they have, where
they are, and blanks may be filled (`Store.FilledIn`, `filledIn_addAlbum`). So what a row and its
members have absorbed stays absorbed, whatever is added later.
-/

namespace MusicLibrary

theorem map_or_eq_iff {α β : Type} (f : α → β) (x y : Option α) :
    (x.or y).map f = x.map f ↔ (y.isSome → x.isSome) := by
  cases x <;> cases y <;> simp

theorem or_eq_iff {α : Type} (x y : Option α) : x.or y = x ↔ (y.isSome → x.isSome) := by
  cases x <;> cases y <;> simp

namespace GenreSet

theorem eq_of_isEmpty {s t : GenreSet} (hs : s.isEmpty = true) (ht : t.isEmpty = true) : s = t :=
  GenreSet.ext fun g => by rw [List.isEmpty_iff.1 hs, List.isEmpty_iff.1 ht]

theorem orElse_eq_iff (s t : GenreSet) :
    s.orElse t = s ↔ (t.isEmpty = false → s.isEmpty = false) := by
  rcases hs : s.isEmpty with _ | _
  · simp [orElse, hs]
  · rcases ht : t.isEmpty with _ | _
    · simp only [orElse, hs, if_true, forall_const, Bool.true_eq_false, iff_false]
      rintro rfl
      exact Bool.false_ne_true (ht.symm.trans hs)
    · simp [orElse, hs, eq_of_isEmpty ht hs]

end GenreSet

namespace AlbumInfo

variable {i j source : AlbumInfo}

/-- Optional fields that are filled stay filled, and the release number stays as it is. -/
structure FilledIn (i j : AlbumInfo) : Prop where
  date : i.date?.isSome → j.date?.isSome
  originalDate : i.originalDate?.isSome → j.originalDate?.isSome
  label : i.label?.isSome → j.label?.isSome
  mbAlbumId : i.mbAlbumId?.isSome → j.mbAlbumId? = i.mbAlbumId?
  trackTotal : i.trackTotal?.isSome → j.trackTotal?.isSome

theorem filledIn_refl (i : AlbumInfo) : i.FilledIn i := ⟨id, id, id, fun _ => rfl, id⟩

theorem FilledIn.trans {k : AlbumInfo} (h : i.FilledIn j) (h' : j.FilledIn k) : i.FilledIn k where
  date := h'.date ∘ h.date
  originalDate := h'.originalDate ∘ h.originalDate
  label := h'.label ∘ h.label
  mbAlbumId hm := by
    have hj := h.mbAlbumId hm
    exact (h'.mbAlbumId (hj ▸ hm)).trans hj
  trackTotal := h'.trackTotal ∘ h.trackTotal

/-- Without `overwrite`, an album absorbs a source that has no optional field it lacks. -/
theorem absorbs_false_iff : i.Absorbs false source ↔
    (source.date?.isSome → i.date?.isSome) ∧ (source.originalDate?.isSome → i.originalDate?.isSome) ∧
      (source.label?.isSome → i.label?.isSome) ∧
      (source.mbAlbumId?.isSome → i.mbAlbumId?.isSome) ∧
      (source.trackTotal?.isSome → i.trackTotal?.isSome) := by
  simp [Absorbs, Alike, row, merge, map_or_eq_iff, or_eq_iff]

theorem Absorbs.filledIn (h : i.Absorbs false source) (hj : i.FilledIn j) : j.Absorbs false source := by
  rw [absorbs_false_iff] at h ⊢
  obtain ⟨hd, ho, hl, hm, ht⟩ := h
  refine ⟨fun hs => hj.date (hd hs), fun hs => hj.originalDate (ho hs), fun hs => hj.label (hl hs),
    fun hs => ?_, fun hs => hj.trackTotal (ht hs)⟩
  rw [hj.mbAlbumId (hm hs)]
  exact hm hs

end AlbumInfo

namespace Track

variable {t u source : Track}

/-- A track stays at its position, and genres and number stay filled once they are. -/
structure FilledIn (t u : Track) : Prop where
  position : u.position = t.position
  genres : t.genres.isEmpty = false → u.genres.isEmpty = false
  mbTrackId : t.mbTrackId?.isSome → u.mbTrackId?.isSome

theorem filledIn_of_alike (h : t.Alike u) : t.FilledIn u where
  position := h.position_eq.symm
  genres hg := h.2 ▸ hg
  mbTrackId hm := by
    have hmb : t.mbTrackId? = u.mbTrackId? := congrArg TrackRow.mbTrackId? h.1
    rwa [← hmb]

theorem FilledIn.trans {v : Track} (h : t.FilledIn u) (h' : u.FilledIn v) : t.FilledIn v :=
  ⟨h'.position.trans h.position, fun hg => h'.genres (h.genres hg),
    fun hm => h'.mbTrackId (h.mbTrackId hm)⟩

/-- Without `overwrite`, a track absorbs one that has neither genres nor a number that it lacks. -/
theorem absorbs_false_iff : t.Absorbs false source ↔
    (source.genres.isEmpty = false → t.genres.isEmpty = false) ∧
      (source.mbTrackId?.isSome → t.mbTrackId?.isSome) := by
  simp only [Absorbs, Alike, row, Track.merge, TrackRow.mk.injEq, Bool.false_eq_true, if_false,
    or_eq_iff, GenreSet.orElse_eq_iff, true_and, and_comm]

theorem Absorbs.filledIn (h : t.Absorbs false source) (hu : t.FilledIn u) : u.Absorbs false source := by
  rw [absorbs_false_iff] at h ⊢
  exact ⟨fun hs => hu.genres (h.1 hs), fun hs => hu.mbTrackId (h.2 hs)⟩

end Track

theorem AlbumRow.FilledAs.info {r r' : AlbumRow} (h : r.FilledAs r') : r.info.FilledIn r'.info where
  date hs := h.date.elim (fun hnone => by simp [AlbumRow.info, hnone] at hs) fun heq => by
    simpa only [AlbumRow.info, heq] using hs
  originalDate hs := h.originalDate.elim (fun hnone => by simp [AlbumRow.info, hnone] at hs)
    fun heq => by simpa only [AlbumRow.info, heq] using hs
  label hs := by
    show r'.label?.isSome = true
    rw [h.label.eq_of_isSome hs]
    exact hs
  mbAlbumId hs := h.mbAlbumId.eq_of_isSome hs
  trackTotal hs := by
    show r'.trackTotal?.isSome = true
    rw [h.trackTotal.eq_of_isSome hs]
    exact hs

theorem TrackRow.FilledAs.track {r r' : TrackRow} (h : r.FilledAs r') {names names' : List String}
    (hnames : names = [] ∨ ∀ g, g ∈ names' ↔ g ∈ names) {place : Handle} :
    (r.track place names).FilledIn (r'.track place names') where
  position := congrArg Prod.snd h.keys.2.2
  genres hne := by
    rcases hnames with rfl | hnames
    · cases hne
    · have hset : GenreSet.ofList names' = .ofList names :=
        GenreSet.ext fun g => by rw [GenreSet.mem_ofList, GenreSet.mem_ofList, hnames]
      show (GenreSet.ofList names').isEmpty = false
      rw [hset]
      exact hne
  mbTrackId hs := by
    show r'.mbTrackId?.isSome = true
    rw [h.mbTrackId.eq_of_isSome hs]
    exact hs

namespace Store

variable {st st₁ st' : Store} {n : Int}

/-- All that was stored is where it was, with blanks filled, and further albums have higher
numbers. -/
structure FilledIn (st st' : Store) : Prop where
  albums : ∀ r ∈ st.albums, ∃ r' ∈ st'.albums, r'.id = r.id ∧ r'.path = r.path ∧
    r'.identity = r.identity ∧ r.info.FilledIn r'.info
  further : ∀ r' ∈ st'.albums, st.HasAlbum r'.id ∨ ∀ r ∈ st.albums, r.id < r'.id
  tracks : ∀ n place, ∀ t ∈ (st.albumAt n place).tracks,
    ∃ t' ∈ (st'.albumAt n place).tracks, t.FilledIn t'
  extras : ∀ n place, ∀ e ∈ (st.albumAt n place).extras,
    ∃ e' ∈ (st'.albumAt n place).extras, e'.filename = e.filename

theorem filledIn_refl (st : Store) : st.FilledIn st where
  albums r hr := ⟨r, hr, rfl, rfl, rfl, r.info.filledIn_refl⟩
  further r hr := .inl ⟨r, hr, rfl⟩
  tracks _ _ t ht := ⟨t, ht, Track.filledIn_of_alike t.alike_refl⟩
  extras _ _ e he := ⟨e, he, rfl⟩

theorem FilledIn.trans (h : st.FilledIn st₁) (h₁ : st₁.FilledIn st') : st.FilledIn st' where
  albums r hr := by
    obtain ⟨r₁, hr₁, hid₁, hpath₁, hidentity₁, hfilled₁⟩ := h.albums r hr
    obtain ⟨r', hr', hid, hpath, hidentity, hfilled⟩ := h₁.albums r₁ hr₁
    exact ⟨r', hr', hid.trans hid₁, hpath.trans hpath₁, hidentity.trans hidentity₁,
      hfilled₁.trans hfilled⟩
  further r' hr' := by
    rcases h₁.further r' hr' with ⟨r₁, hr₁, hid⟩ | hgt
    · rw [← hid]
      exact h.further r₁ hr₁
    · refine .inr fun r hr => ?_
      obtain ⟨r₁, hr₁, hid₁, -⟩ := h.albums r hr
      exact hid₁ ▸ hgt r₁ hr₁
  tracks n place t ht := by
    obtain ⟨t₁, ht₁, hfilled₁⟩ := h.tracks n place t ht
    obtain ⟨t', ht', hfilled⟩ := h₁.tracks n place t₁ ht₁
    exact ⟨t', ht', hfilled₁.trans hfilled⟩
  extras n place e he := by
    obtain ⟨e₁, he₁, hname₁⟩ := h.extras n place e he
    obtain ⟨e', he', hname⟩ := h₁.extras n place e₁ he₁
    exact ⟨e', he', hname.trans hname₁⟩

/-- A row that an album collides with still does when it has been filled in. -/
theorem FilledIn.exists_collides (h : st.FilledIn st') {i : AlbumInfo} (hid : i.id? = none)
    {r : AlbumRow} (hr : r ∈ st.albums) (hcollides : i.collides r = true) :
    ∃ r' ∈ st'.albums, r'.id = r.id ∧ r.info.FilledIn r'.info ∧ i.collides r' = true := by
  obtain ⟨r', hr', hn, hpath, hidentity, hfilled⟩ := h.albums r hr
  refine ⟨r', hr', hn, hfilled, ?_⟩
  rw [collides_iff hid] at hcollides ⊢
  rw [hpath, hidentity]
  refine hcollides.imp_right (Or.imp_right fun ⟨hsome, hmb⟩ => ⟨hsome, ?_⟩)
  have hstored : r.mbAlbumId?.isSome := hmb ▸ hsome
  exact (hfilled.mbAlbumId hstored).trans hmb

/-- A row that an album does not collide with once it has been filled in is none it collided with
before. -/
theorem FilledIn.not_collides (h : st.FilledIn st') {i : AlbumInfo} (hid : i.id? = none)
    (hno : ∀ q ∈ st'.albums, q.id < n → i.collides q = false) {q : AlbumRow} (hq : q ∈ st.albums)
    (hlt : q.id < n) : i.collides q = false := by
  rcases hc : i.collides q with _ | _
  · rfl
  · obtain ⟨q', hq', hn, -, hc'⟩ := h.exists_collides hid hq hc
    exact hc'.symm.trans (hno q' hq' (hn ▸ hlt))

/-- Filling blanks of rows fills in what they are loaded as. -/
theorem BlanksFilled.filledIn (h : BlanksFilled n st st')
    (hn : st.HasAlbum n ∨ ∀ r ∈ st.albums, r.id < n) : st.FilledIn st' where
  albums r hr := by
    obtain ⟨r', hr', hfilled, -⟩ := h.albums r hr
    obtain ⟨hid, hpath, hidentity⟩ := hfilled.keys
    exact ⟨r', hr', hid, hpath, hidentity, hfilled.info⟩
  further r' hr' := by
    rcases h.newAlbums r' hr' with rfl | hr'
    · exact hn
    · exact .inl ⟨r', hr', rfl⟩
  tracks m place t ht := by
    obtain ⟨r, hr, hrm, rfl⟩ := mem_albumAt_tracks.1 ht
    obtain ⟨r', hr', hfilled, hgenres, -⟩ := h.tracks r hr
    obtain ⟨hid, -, hposition⟩ := hfilled.keys
    have halbum : r'.albumId = r.albumId := congrArg Prod.fst hposition
    refine ⟨_, mem_albumAt_tracks.2 ⟨r', hr', halbum.trans hrm, rfl⟩, hfilled.track ?_⟩
    rw [hid]
    exact hgenres
  extras m place e he := by
    obtain ⟨r, hr, hrm, rfl⟩ := mem_albumAt_extras.1 he
    exact ⟨_, mem_albumAt_extras.2 ⟨r, h.extras r hr, hrm, rfl⟩, rfl⟩

/-- The number under which an album is added is that of a row, or above all others. -/
theorem AddedUnder.hasAlbum_or (h : st.Consistent) {i : AlbumInfo} (hn : st.AddedUnder i n) :
    st.HasAlbum n ∨ ∀ r ∈ st.albums, r.id < n := by
  unfold AddedUnder at hn
  rcases hc : st.colliding? i with _ | r
  · rw [hc] at hn
    exact .inr hn
  · rw [hc] at hn
    exact .inl ⟨r, ((colliding?_eq_some h).1 hc).1, hn⟩

/-- Adding a new album without `overwrite` only fills in what is stored. -/
theorem filledIn_addAlbum (h : st.Consistent) {threshold : Score} {s : Shelf} {a : Album}
    (hs : s.Holds a.handle) (hid : (a.info s).id? = none) (hnew : a.New)
    (hok : (st.addAlbum ⟨threshold, false⟩ s a).fault? = none) :
    st.FilledIn (st.addAlbum ⟨threshold, false⟩ s a).store := by
  obtain ⟨n, s₁, m, -, hsaved, hunder, hfilled⟩ := filledBy_of_addAlbum h hs hid hnew hok
  exact (hsaved.blanksFilled hfilled).filledIn (hunder.hasAlbum_or h)

/-! ## Absorbed albums -/

/-- A row that an album collides with and the members of that row absorb it, and no row of a lower
number has its path or its identity. -/
structure Absorbed (st : Store) (n : Int) (i : AlbumInfo) (a : Album) : Prop where
  row : ∃ r ∈ st.albums, r.id = n ∧ i.collides r = true ∧ r.info.Absorbs false i
  lower : ∀ q ∈ st.albums, q.id < n →
    q.path ≠ i.path.text ∧ q.identity ≠ (i.artist, i.title, i.year)
  members : ∀ place, (st.albumAt n place).Absorbs false a
  positions : (a.tracks.map (·.position)).Nodup

variable {i : AlbumInfo} {a : Album}

theorem Settled.absorbed (h : st.Consistent) (hid : i.id? = none) (ha : st.Settled false n i a) :
    st.Absorbed n i a := by
  obtain ⟨r, hr, rfl, habs⟩ := ha.row
  obtain ⟨hmem, hcollides, hlower⟩ := (colliding?_eq_some h).1 hr
  refine ⟨⟨r, hmem, rfl, hcollides, habs⟩, fun q hq hlt => ?_, ha.members, ha.positions⟩
  have hno : ¬ i.collides q = true := by simp [hlower q hq hlt]
  rw [collides_iff hid, not_or, not_or] at hno
  exact ⟨hno.1, hno.2.1⟩

/-- What is absorbed stays absorbed while blanks are filled. -/
theorem Absorbed.filledIn (h : st.Absorbed n i a) (hid : i.id? = none) (hst : st.FilledIn st')
    (hst' : st'.Consistent) : st'.Absorbed n i a where
  row := by
    obtain ⟨r, hr, rfl, hcollides, habs⟩ := h.row
    obtain ⟨r', hr', hn, hfilled, hcollides'⟩ := hst.exists_collides hid hr hcollides
    exact ⟨r', hr', hn, hcollides', habs.filledIn hfilled⟩
  lower q' hq' hlt := by
    obtain ⟨r, hr, rfl, -⟩ := h.row
    rcases hst.further q' hq' with ⟨q, hq, hqq'⟩ | hgt
    · obtain ⟨q'', hq'', hn, hpath, hidentity, -⟩ := hst.albums q hq
      cases hst'.albums.eq_of_num hq'' hq' (hn.trans hqq')
      rw [hpath, hidentity]
      exact h.lower q hq (hqq' ▸ hlt)
    · have := hgt r hr
      omega
  members place := by
    refine ⟨fun u hu => ?_, fun f hf => ?_, fun how => absurd how Bool.false_ne_true⟩
    · obtain ⟨t, ht, hposition, habs⟩ := (h.members place).tracks u hu
      obtain ⟨t', ht', hfilled⟩ := hst.tracks n place t ht
      exact ⟨t', ht', hfilled.position.trans hposition, habs.filledIn hfilled⟩
    · obtain ⟨e, he, hname⟩ := (h.members place).extras.covers f hf
      obtain ⟨e', he', hname'⟩ := hst.extras n place e he
      exact ⟨e', he', hname'.trans hname⟩
  positions := h.positions

theorem Absorbed.of_sameRows (ha : st.Absorbed n i a) (h : SameRows st' st) : st'.Absorbed n i a where
  row := h.albums ▸ ha.row
  lower := h.albums ▸ ha.lower
  members place := h.albumAt_eq n place ▸ ha.members place
  positions := ha.positions

/-- An absorbed album is settled if it collides with no row of a lower number. -/
theorem Absorbed.settled_of_lower (h : st.Consistent) (ha : st.Absorbed n i a)
    (hlower : ∀ q ∈ st.albums, q.id < n → i.collides q = false) : st.Settled false n i a where
  row := by
    obtain ⟨r, hr, rfl, hcollides, habs⟩ := ha.row
    exact ⟨r, (colliding?_eq_some h).2 ⟨hr, hcollides, hlower⟩, rfl, habs⟩
  members := ha.members
  positions := ha.positions

/-- An absorbed album is settled if no row of a lower number has its release number. -/
theorem Absorbed.settled (h : st.Consistent) (ha : st.Absorbed n i a) (hid : i.id? = none)
    (hmb : ∀ q ∈ st.albums, q.id < n → i.mbAlbumId?.isSome → q.mbAlbumId? ≠ i.mbAlbumId?) :
    st.Settled false n i a := by
  refine ha.settled_of_lower h fun q hq hlt => ?_
  obtain ⟨hpath, hidentity⟩ := ha.lower q hq hlt
  rw [← Bool.not_eq_true, collides_iff hid]
  rintro (hp | hi | ⟨hsome, hm⟩)
  · exact hpath hp
  · exact hidentity hi
  · exact hmb q hq hlt hsome hm

end Store

end MusicLibrary

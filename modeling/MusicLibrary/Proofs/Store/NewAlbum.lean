import MusicLibrary.Proofs.Store.Rewritten

/-!
# Saving a new album

An album without numbers, whose members have none either, is inserted with all its members. It is refused as a
duplicate album if a stored album has its path or its identity, as a duplicate item if its members share keys
with each other or paths with stored members, and saved otherwise (`saveAlbum_new_iff`).
-/

namespace MusicLibrary

/-- Values without numbers fit exactly if they share no key with each other nor with a stored row, where rows
of values can only share their paths with stored rows. -/
theorem fits_new_iff {ρ κ α β : Type} {num : ρ → Int} {key : ρ → κ} {path : ρ → String} {rows : List ρ}
    {id? : α → Option Int} {row : α → Int → ρ} {as : List α} {place : α → β} {text : α → String}
    (hid : ∀ a ∈ as, id? a = none)
    (hpair : ∀ a b, Apart key path (row a 0) (row b 0) ↔ place a ≠ place b ∧ text a ≠ text b)
    (hrows : ∀ a ∈ as, ∀ q ∈ rows, Apart key path q (row a 0) ↔ path q ≠ text a) :
    Fits num key path rows id? row as ↔
      ((as.map place).Nodup ∧ (as.map text).Nodup) ∧ ∀ a ∈ as, ∀ q ∈ rows, path q ≠ text a := by
  have hapart : as.Pairwise (fun a b => Apart key path (row a 0) (row b 0)) ↔
      (as.map place).Nodup ∧ (as.map text).Nodup := by
    simp only [hpair]
    exact pairwise_ne_and_ne_iff
  constructor
  · intro h
    refine ⟨hapart.1 h.apart, ?_⟩
    intro a ha q hq
    refine (hrows a ha q hq).1 (h.others a ha q hq ?_)
    rw [List.filterMap_eq_nil_iff.2 hid]
    exact List.not_mem_nil
  · rintro ⟨hkeys, hpaths⟩
    refine ⟨hapart.2 hkeys, ?_, ?_⟩
    · intro a ha q hq _
      exact (hrows a ha q hq).2 (hpaths a ha q hq)
    · -- no later value has a row to give up
      refine (hapart.2 hkeys).imp_of_mem ?_
      intro a b _ hb _ q _ hbq
      rw [hid b hb] at hbq
      cases hbq

namespace Store

variable {st : Store} {n : Int} {s : Shelf} {a : Album}

/-- A stored album has the path or the identity of an album. -/
def AlbumTaken (st : Store) (i : AlbumInfo) : Prop :=
  ∃ q ∈ st.albums, q.path = i.path.text ∨ (q.artist, q.title, q.year) = (i.artist, i.title, i.year)

/-- The members of an album share no key with each other and no path with a stored member. -/
structure MembersFree (st : Store) (a : Album) : Prop where
  trackPaths : (a.tracks.map (·.path.text)).Nodup
  trackPositions : (a.tracks.map fun t => (t.trackNum, t.disc)).Nodup
  extraPaths : (a.extras.map (·.path.text)).Nodup
  extraNames : (a.extras.map (·.filename)).Nodup
  storedTracks : ∀ t ∈ a.tracks, ∀ r ∈ st.tracks, r.path ≠ t.path.text
  storedExtras : ∀ x ∈ a.extras, ∀ r ∈ st.extras, r.path ≠ x.path.text

/-- Members that are free are so beside the same tracks and extras. -/
theorem MembersFree.of_members {st' : Store} (h : st'.MembersFree a) (htracks : st'.tracks = st.tracks)
    (hextras : st'.extras = st.extras) : st.MembersFree a :=
  { h with
    storedTracks := htracks ▸ h.storedTracks
    storedExtras := hextras ▸ h.storedExtras }

theorem hasRival_none_iff {i : AlbumInfo} : st.HasRival none i ↔ st.AlbumTaken i := by
  unfold HasRival AlbumTaken
  simp [AlbumRow.identity]

/-! ## Members of a new album -/

theorem fits_new_tracks (ha : a.New)
    (hn : ∀ t ∈ a.tracks, ∀ r ∈ st.tracks, r.albumId = n → (r.trackNum, r.disc) ≠ t.position) :
    Fits TrackRow.id TrackRow.position TrackRow.path st.tracks (·.id?) (fun t k => t.row k n) a.tracks ↔
      ((a.tracks.map fun t => (t.trackNum, t.disc)).Nodup ∧ (a.tracks.map (·.path.text)).Nodup) ∧
        ∀ t ∈ a.tracks, ∀ r ∈ st.tracks, r.path ≠ t.path.text := by
  refine fits_new_iff ha.tracks ?_ ?_
  · intro t u
    simp [Apart, TrackRow.position, Track.row]
  · intro t ht q hq
    have hne : q.position ≠ (t.row 0 n).position := by
      intro he
      obtain ⟨hqn, hplace⟩ := Prod.mk.inj he
      exact hn t ht q hq hqn hplace
    exact and_iff_right hne

theorem fits_new_extras (ha : a.New)
    (hn : ∀ x ∈ a.extras, ∀ r ∈ st.extras, r.albumId = n → r.filename ≠ x.filename) :
    Fits ExtraRow.id ExtraRow.position ExtraRow.path st.extras (·.id?) (fun x k => x.row k n) a.extras ↔
      ((a.extras.map (·.filename)).Nodup ∧ (a.extras.map (·.path.text)).Nodup) ∧
        ∀ x ∈ a.extras, ∀ r ∈ st.extras, r.path ≠ x.path.text := by
  refine fits_new_iff ha.extras ?_ ?_
  · intro x y
    simp [Apart, ExtraRow.position, Extra.row]
  · intro x hx q hq
    have hne : q.position ≠ (x.row 0 n).position := by
      intro he
      obtain ⟨hqn, hname⟩ := Prod.mk.inj he
      exact hn x hx q hq hqn hname
    exact and_iff_right hne

/-- The members of a new album fit into a store exactly if they are free, unless one has a position or a name
that a stored member of the album has. -/
theorem membersFree_iff_fits (ha : a.New)
    (htracks : ∀ t ∈ a.tracks, ∀ r ∈ st.tracks, r.albumId = n → (r.trackNum, r.disc) ≠ t.position)
    (hextras : ∀ x ∈ a.extras, ∀ r ∈ st.extras, r.albumId = n → r.filename ≠ x.filename) :
    st.MembersFree a ↔
      Fits TrackRow.id TrackRow.position TrackRow.path st.tracks (·.id?) (fun t k => t.row k n) a.tracks ∧
        Fits ExtraRow.id ExtraRow.position ExtraRow.path st.extras (·.id?) (fun x k => x.row k n)
          a.extras := by
  rw [fits_new_tracks ha htracks, fits_new_extras ha hextras]
  constructor
  · intro hfree
    exact ⟨⟨⟨hfree.trackPositions, hfree.trackPaths⟩, hfree.storedTracks⟩,
      ⟨hfree.extraNames, hfree.extraPaths⟩, hfree.storedExtras⟩
  · rintro ⟨⟨⟨hpositions, hpaths⟩, hstored⟩, ⟨hnames, hextraPaths⟩, hstoredExtras⟩
    exact ⟨hpaths, hpositions, hextraPaths, hnames, hstored, hstoredExtras⟩

/-- The members of an album without rows are all written if they are free, and otherwise one of them is
refused as a duplicate item. -/
theorem writeMembers_new (h : st.Consistent) (hn : st.HasAlbum n) (ha : a.New)
    (htracks : ∀ r ∈ st.tracks, r.albumId ≠ n) (hextras : ∀ r ∈ st.extras, r.albumId ≠ n) :
    (st.writeMembers n a).fault? = none ∧ st.MembersFree a ∨
      (∃ text, (st.writeMembers n a).fault? = some (.duplicateItem text)) ∧ ¬ st.MembersFree a := by
  have hdrop : st.deleteDropped n a = st :=
    deleteDropped_eq (fun r hr hrn => absurd hrn (htracks r hr)) fun r hr hrn => absurd hrn (hextras r hr)
  have hfits := membersFree_iff_fits ha (fun _ _ r hr hrn => absurd hrn (htracks r hr))
    fun _ _ r hr hrn => absurd hrn (hextras r hr)
  have houtcome := writeMembers_outcome h hn (lists_of_unsaved ha.tracks ha.extras)
  simp only [hdrop, ← hfits] at houtcome
  rcases houtcome with hwritten | ⟨⟨k, hk⟩, hno⟩
  · exact .inl hwritten
  · refine .inr ⟨⟨k.message, ?_⟩, hno⟩
    have hitem := writeMembers_not_duplicateAlbum a hk
    rw [hk]
    exact congrArg some (Fault.duplicate_of_isDuplicateAlbum hitem)

/-! ## The album and its members -/

/-- A new album meets one of three fates. -/
theorem saveAlbum_new_cases (h : st.Consistent) (hid : (a.info s).id? = none) (ha : a.New) :
    let fault? := (st.saveAlbum s a).fault?
    (∃ text, fault? = some (.duplicateAlbum text)) ∧ st.AlbumTaken (a.info s) ∨
      (∃ text, fault? = some (.duplicateItem text)) ∧ ¬ st.AlbumTaken (a.info s) ∧ ¬ st.MembersFree a ∨
      fault? = none ∧ ¬ st.AlbumTaken (a.info s) ∧ st.MembersFree a := by
  intro fault?
  have halbum := saveAlbum_duplicateAlbum_iff h (s := s) (a := a)
  have hrefused := writeAlbum_refused_iff h (i := a.info s)
  rw [hid, hasRival_none_iff] at halbum hrefused
  by_cases htaken : st.AlbumTaken (a.info s)
  · exact .inl ⟨halbum.2 htaken, htaken⟩
  · right
    rcases hw : st.writeAlbum (a.info s) with k | ⟨n, st₁⟩
    · exact absurd (hrefused.1 ⟨k, hw⟩) htaken
    · obtain ⟨-, htracks, hextras, -, hown⟩ := writeAlbum_written h hw
      obtain ⟨h₁, hn⟩ := h.writeAlbum hw
      have hnew := not_hasAlbum_of_above (above_of_unnumbered hid hown)
      obtain ⟨hnoTracks, hnoExtras⟩ := h.noMembers hnew
      rw [← htracks] at hnoTracks
      rw [← hextras] at hnoExtras
      have hfault : fault? = (st₁.writeMembers n a).fault? := by
        show (st.saveAlbum s a).fault? = _
        rw [saveAlbum_of_writeAlbum hw]
        rfl
      rcases writeMembers_new h₁ hn ha hnoTracks hnoExtras with ⟨hok, hfree⟩ | ⟨hitem, hno⟩
      · exact .inr ⟨hfault.trans hok, htaken, hfree.of_members htracks hextras⟩
      · rw [← hfault] at hitem
        exact .inl ⟨hitem, htaken, fun hfree => hno (hfree.of_members htracks.symm hextras.symm)⟩

/-- Saving a new album fails for a duplicate album exactly if its path or its identity is taken. Otherwise it
fails for a duplicate item exactly if two of its tracks share a path or a position, two of its extras a path
or a name, or one of its members has the path of a stored one. Otherwise it succeeds. -/
theorem saveAlbum_new_iff (h : st.Reachable) (hid : (a.info s).id? = none) (ha : a.New) :
    let fault? := (st.saveAlbum s a).fault?
    ((∃ text, fault? = some (.duplicateAlbum text)) ↔ st.AlbumTaken (a.info s)) ∧
    ((∃ text, fault? = some (.duplicateItem text)) ↔
      ¬ st.AlbumTaken (a.info s) ∧ ¬ st.MembersFree a) ∧
    (fault? = none ↔ ¬ st.AlbumTaken (a.info s) ∧ st.MembersFree a) := by
  intro fault?
  rcases saveAlbum_new_cases h.consistent hid ha with ⟨⟨text, hfault⟩, htaken⟩ |
    ⟨⟨text, hfault⟩, htaken, hno⟩ | ⟨hfault, htaken, hfree⟩
  · have hfault : fault? = some (.duplicateAlbum text) := hfault
    simp [hfault, htaken]
  · have hfault : fault? = some (.duplicateItem text) := hfault
    simp [hfault, htaken, hno]
  · have hfault : fault? = none := hfault
    simp [hfault, htaken, hfree]

/-- An album without extras, the one track of which has a path that a track of another album has. -/
def borrowingDay : Album where
  handle := ⟨1⟩
  tracks := [.create nightAndDay ⟨1⟩ 1 "One" (.ofText "/night/1.flac")]
  extras := []

theorem saveAlbum_new_borrowingDay :
    let st := (Session.after [.saveAlbum nightAndDay night]).working
    (∃ text, (st.saveAlbum nightAndDay night).fault? = some (.duplicateAlbum text)) ∧
    (∃ text, (st.saveAlbum nightAndDay borrowingDay).fault? = some (.duplicateItem text)) ∧
    (st.saveAlbum nightAndDay emptyDay).fault? = none := by
  intro st
  have hst : st.Reachable := ⟨_, rfl⟩
  have hnight : st.AlbumTaken (night.info nightAndDay) := by
    unfold AlbumTaken
    decide +kernel
  have hday : ¬ st.AlbumTaken (emptyDay.info nightAndDay) := by
    unfold AlbumTaken
    decide +kernel
  have hborrowed : ¬ st.MembersFree borrowingDay := by
    intro hfree
    have hpaths : ∃ t ∈ borrowingDay.tracks, ∃ r ∈ st.tracks, r.path = t.path.text := by decide +kernel
    obtain ⟨t, ht, r, hr, he⟩ := hpaths
    exact hfree.storedTracks t ht r hr he
  have hempty : st.MembersFree emptyDay := by
    constructor <;> simp [emptyDay]
  refine ⟨?_, ?_, ?_⟩
  · exact (saveAlbum_new_iff hst rfl ⟨by decide +kernel, by decide +kernel⟩).1.2 hnight
  · exact (saveAlbum_new_iff hst rfl ⟨by decide +kernel, by decide +kernel⟩).2.1.2 ⟨hday, hborrowed⟩
  · exact (saveAlbum_new_iff hst rfl ⟨by decide +kernel, by decide +kernel⟩).2.2.2 ⟨hday, hempty⟩

end Store

end MusicLibrary

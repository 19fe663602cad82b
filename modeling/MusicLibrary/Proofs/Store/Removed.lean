import MusicLibrary.Kind
import MusicLibrary.Proofs.Store.WrittenBack

/-!
# What removing leaves

`Store.removing` is a store without items of one kind: the rows of their numbers are gone, and so are the
members of albums that are gone and the links of tracks that are gone. Removing one item leaves that, and
removing several items one after the other leaves the same as removing all of them at once.
-/

namespace MusicLibrary.Store

variable {st : Store} {kind : Kind} {ids : List Int} {k : Int}

/-- The store without the items of the given numbers, and without the rows that refer to them. -/
def removing (st : Store) (kind : Kind) (ids : List Int) : Store :=
  match kind with
  | .track =>
    { st with
      tracks := st.tracks.filter (·.id ∉ ids)
      trackGenres := st.trackGenres.filter (·.trackId ∉ ids) }
  | .album =>
    let gone := (st.tracks.filter (·.albumId ∈ ids)).map (·.id)
    { st with
      albums := st.albums.filter (·.id ∉ ids)
      tracks := st.tracks.filter (·.albumId ∉ ids)
      extras := st.extras.filter (·.albumId ∉ ids)
      trackGenres := st.trackGenres.filter (·.trackId ∉ gone) }
  | .extra => { st with extras := st.extras.filter (·.id ∉ ids) }

theorem removing_nil : st.removing kind [] = st := by
  cases kind <;> simp [removing]

/-- Rows without those of a number and of further numbers, in two steps or at once. -/
theorem filter_notMem_cons {ρ : Type} (num : ρ → Int) (rows : List ρ) :
    (rows.filter (num · ∉ [k])).filter (num · ∉ ids) = rows.filter (num · ∉ k :: ids) := by
  rw [List.filter_filter]
  refine List.filter_congr ?_
  intro r _
  simp [Bool.and_comm]

/-- Items may be removed one after the other. -/
theorem removing_cons : (st.removing kind [k]).removing kind ids = st.removing kind (k :: ids) := by
  cases kind with
  | track => simp only [removing, filter_notMem_cons]
  | album =>
    have hlinks : ((st.removing .album [k]).removing .album ids).trackGenres =
        (st.removing .album (k :: ids)).trackGenres := by
      simp only [removing, List.filter_filter]
      refine List.filter_congr ?_
      intro l _
      rw [Bool.eq_iff_iff]
      simp only [List.mem_map, List.mem_filter, List.mem_cons, List.not_mem_nil, or_false,
        Bool.and_eq_true, decide_eq_true_eq]
      grind
    simp only [removing, filter_notMem_cons] at hlinks ⊢
    rw [hlinks]
  | extra => simp only [removing, filter_notMem_cons]

/-! ## Removing one item -/

theorem deleteTracks_eq (h : st.Consistent) (k : Int) :
    st.deleteTracks (·.id = k) = st.removing .track [k] := by
  have hlinks : (st.deleteTracks (·.id = k)).trackGenres = (st.removing .track [k]).trackGenres := by
    refine List.filter_congr ?_
    intro l hl
    obtain ⟨r, hr, hrl⟩ := h.linkedTrack l hl
    simp only [List.contains_eq_mem, List.mem_map, List.mem_filter, decide_eq_true_eq]
    grind
  simp only [deleteTracks, removing] at hlinks ⊢
  simp only [hlinks, List.mem_singleton, decide_not]

theorem deleteAlbum_eq (st : Store) (k : Int) : st.deleteAlbum k = st.removing .album [k] := by
  simp only [deleteAlbum, deleteTracks, deleteExtras, removing, List.contains_eq_mem, List.mem_singleton,
    decide_not, ne_eq]

theorem deleteExtras_eq (st : Store) (k : Int) :
    st.deleteExtras (·.id = k) = st.removing .extra [k] := by
  simp only [deleteExtras, removing, List.mem_singleton, decide_not]

theorem Consistent.removing (h : st.Consistent) (kind : Kind) (ids : List Int) :
    (st.removing kind ids).Consistent := by
  induction ids generalizing st with
  | nil =>
    rw [removing_nil]
    exact h
  | cons k ids ih =>
    rw [← removing_cons]
    apply ih
    cases kind with
    | track =>
      rw [← deleteTracks_eq h]
      exact h.deleteTracks _
    | album =>
      rw [← deleteAlbum_eq]
      exact h.deleteAlbum k
    | extra =>
      rw [← deleteExtras_eq]
      exact h.deleteExtras _

/-- The links of a track whose links are kept. -/
theorem filter_links_kept (kept : Int → Bool) (hk : kept k = true) (links : List GenreLink) :
    (links.filter fun l => kept l.trackId).filter (·.trackId = k) = links.filter (·.trackId = k) := by
  rw [List.filter_comm, List.filter_eq_self]
  intro l hl
  have hlk : l.trackId = k := of_decide_eq_true (List.mem_filter.1 hl).2
  rw [hlk]
  exact hk

/-- A track that is left has the genres that it had. -/
theorem genresOf_removing (h : st.Consistent) {t : TrackRow} (ht : t ∈ (st.removing kind ids).tracks) :
    (st.removing kind ids).genresOf t.id = st.genresOf t.id := by
  unfold genresOf
  refine congrArg (List.map GenreLink.genre) ?_
  cases kind with
  | track =>
    obtain ⟨-, hkept⟩ := List.mem_filter.1 ht
    exact filter_links_kept (fun k => decide (k ∉ ids)) hkept _
  | album =>
    obtain ⟨hmem, hkept⟩ := List.mem_filter.1 ht
    refine filter_links_kept (fun k => decide (k ∉ (st.tracks.filter (·.albumId ∈ ids)).map (·.id)))
      (decide_eq_true ?_) _
    intro hgone
    obtain ⟨r, hr, hrt⟩ := List.mem_map.1 hgone
    obtain ⟨hr, hlost⟩ := List.mem_filter.1 hr
    have hown : r = t := h.tracks.eq_of_num hr hmem hrt
    subst hown
    exact of_decide_eq_true hkept (of_decide_eq_true hlost)
  | extra => rfl

/-! ## Undoing a save -/

/-- Stores with the same tracks, which have the same genres, have the same links. -/
theorem perm_links_of_genresOf {st' : Store} (h : st.Consistent) (h' : st'.Consistent)
    (htracks : st'.tracks = st.tracks)
    (hgenres : ∀ r ∈ st.tracks, ∀ g, g ∈ st'.genresOf r.id ↔ g ∈ st.genresOf r.id) :
    st'.trackGenres.Perm st.trackGenres := by
  refine (List.perm_ext_iff_of_nodup h'.links h.links).2 ?_
  rintro ⟨k, g⟩
  by_cases hk : st.HasTrack k
  · obtain ⟨r, hr, rfl⟩ := hk
    rw [← mem_genresOf, ← mem_genresOf]
    exact hgenres r hr g
  · refine iff_of_false ?_ ?_
    · intro hl
      have hk' := h'.linkedTrack _ hl
      rw [HasTrack, htracks] at hk'
      exact hk hk'
    · intro hl
      exact hk (h.linkedTrack _ hl)

/-- Removing the number under which a new album has been saved leaves the rows that were there before. -/
theorem AlbumSaved.removing {n : Int} {s s' : Shelf} {a a' : Album} {st' : Store}
    (hsaved : AlbumSaved n st s a st' s' a') (h : st.Consistent) (h' : st'.Consistent) (ha : a.New)
    (hnew : ¬ st.HasAlbum n) :
    let left := st'.removing .album [n]
    left.albums = st.albums ∧ left.tracks = st.tracks ∧ left.extras = st.extras ∧
      left.trackGenres.Perm st.trackGenres := by
  intro left
  have hothers := hsaved.sparesOthers
  have hleft : left.Consistent := h'.removing .album [n]
  obtain ⟨hnoTracks, hnoExtras⟩ := h.noMembers hnew
  have hlisted : a.tracks.filterMap (·.id?) = [] ∧ a.extras.filterMap (·.id?) = [] :=
    ⟨List.filterMap_eq_nil_iff.2 ha.tracks, List.filterMap_eq_nil_iff.2 ha.extras⟩
  have hkept : ∀ r ∈ st.tracks, r ∈ st'.tracks ∧ ∀ g, g ∈ st'.genresOf r.id ↔ g ∈ st.genresOf r.id := by
    intro r hr
    refine hothers.tracks r hr (hnoTracks r hr) ?_
    rw [hlisted.1]
    exact List.not_mem_nil
  have htracks : left.tracks = st.tracks := by
    refine hleft.tracks.eq_of_mem_iff h.tracks ?_
    intro r
    simp only [left, Store.removing, List.mem_filter, List.mem_singleton, decide_eq_true_eq]
    constructor
    · rintro ⟨hr, hne⟩
      exact hothers.noOtherTracks r hr hne
    · intro hr
      exact ⟨(hkept r hr).1, hnoTracks r hr⟩
  refine ⟨hleft.albums.eq_of_mem_iff h.albums ?_, htracks, hleft.extras.eq_of_mem_iff h.extras ?_,
    perm_links_of_genresOf h hleft htracks ?_⟩
  · intro r
    simp only [left, Store.removing, List.mem_filter, List.mem_singleton, decide_eq_true_eq]
    constructor
    · rintro ⟨hr, hne⟩
      exact (hothers.albums r hne).1 hr
    · intro hr
      have hne : r.id ≠ n := fun he => hnew ⟨r, hr, he⟩
      exact ⟨(hothers.albums r hne).2 hr, hne⟩
  · intro r
    simp only [left, Store.removing, List.mem_filter, List.mem_singleton, decide_eq_true_eq]
    constructor
    · rintro ⟨hr, hne⟩
      exact hothers.noOtherExtras r hr hne
    · intro hr
      refine ⟨hothers.extras r hr (hnoExtras r hr) ?_, hnoExtras r hr⟩
      rw [hlisted.2]
      exact List.not_mem_nil
  · intro r hr g
    rw [genresOf_removing h' (htracks ▸ hr)]
    exact (hkept r hr).2 g

/-- Removing an album right after it has been saved for the first time leaves the rows of albums, tracks,
extras and links as they were before. -/
theorem removeAlbum_saveAlbum (h : st.Reachable) {s : Shelf} {a : Album} (hs : s.Holds a.handle)
    (hid : (a.info s).id? = none) (ha : a.New) (hok : (st.saveAlbum s a).fault? = none) :
    let p := st.saveAlbum s a
    let left := p.store.removeAlbum p.value.2 p.value.1
    left.albums = st.albums ∧ left.tracks = st.tracks ∧ left.extras = st.extras ∧
      left.trackGenres.Perm st.trackGenres := by
  intro p left
  obtain ⟨n, hsaved⟩ := saveAlbum_of_ok h.consistent (lists_of_unsaved ha.tracks ha.extras) hok
  have hleft : left = p.store.removing .album [n] := by
    show p.store.removeAlbum p.value.2 p.value.1 = _
    unfold removeAlbum
    rw [hsaved.info_eq hs]
    exact deleteAlbum_eq p.store n
  rw [hleft]
  exact hsaved.removing h.consistent (h.consistent.saveAlbum s a) ha
    (not_hasAlbum_of_above (above_of_unnumbered hid hsaved.own))

/-- An album whose track shares a genre with that of another album. -/
def jazzDay : Album where
  handle := ⟨1⟩
  tracks := [{ Track.create nightAndDay ⟨1⟩ 1 "Two" (.ofText "/day/2.flac") with
    genres := .ofList ["jazz", "waltz"] }]
  extras := [.create ⟨1⟩ (.ofText "/day/cover.jpg")]

theorem removeAlbum_saveAlbum_jazzDay :
    let st := (Session.after [.saveAlbum nightAndDay jazzNight]).working
    let p := st.saveAlbum nightAndDay jazzDay
    let left := p.store.removeAlbum p.value.2 p.value.1
    p.fault? = none ∧ p.store.trackGenres.length = 4 ∧ left.albums = st.albums ∧
      left.tracks = st.tracks ∧ left.extras = st.extras ∧ left.trackGenres.Perm st.trackGenres := by
  intro st p left
  have hst : st.Reachable := ⟨_, rfl⟩
  have hholds : nightAndDay.Holds jazzDay.handle := Nat.one_lt_two
  have hnew : jazzDay.New := ⟨by decide +kernel, by decide +kernel⟩
  have hok : p.fault? = none := by decide +kernel
  have hlinks : p.store.trackGenres.length = 4 := by decide +kernel
  exact ⟨hok, hlinks, removeAlbum_saveAlbum hst hholds rfl hnew hok⟩

end MusicLibrary.Store

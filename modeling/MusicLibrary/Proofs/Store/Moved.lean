import MusicLibrary.Proofs.Store.Duplicates
import MusicLibrary.Proofs.Store.Placed

/-!
# Moving a track to another album

A track is taken out of one loaded album and added to another one, at a position that is free there,
and both albums are saved. If the album it has gone to is saved first, the track's row goes over to that
album, and the other save finds nothing to drop (`Store.TrackMoved`). If the album it has left is saved
first, its row is dropped there, and the other save has no row to write any more: the track is lost, and
that save is refused if the track has genres (`Store.TrackLost`).
-/

namespace MusicLibrary

open Progress

/-- An album without one of its tracks. -/
def Album.without (a : Album) (t : Track) : Album := { a with tracks := a.tracks.erase t }

@[simp] theorem Album.tracks_without (a : Album) (t : Track) :
    (a.without t).tracks = a.tracks.erase t := rfl

@[simp] theorem Album.extras_without (a : Album) (t : Track) :
    (a.without t).extras = a.extras := rfl

namespace Store

variable {st st₁ st' : Store} {s : Shelf} {k m n : Int} {a b : Album} {t : Track}

/-- The row of a track has gone over to an album, and all else is as it was. -/
structure TrackMoved (st : Store) (k n : Int) (st' : Store) : Prop where
  albums : st'.albums = st.albums
  tracks : st'.tracks = st.tracks.map fun r => if r.id = k then { r with albumId := n } else r
  extras : st'.extras = st.extras
  links : st'.trackGenres.Perm st.trackGenres

/-- The row of a track is gone with its links, and all else is as it was. -/
structure TrackLost (st : Store) (k : Int) (st' : Store) : Prop where
  albums : st'.albums = st.albums
  tracks : st'.tracks = st.tracks.filter (·.id ≠ k)
  extras : st'.extras = st.extras
  links : st'.trackGenres.Perm (st.trackGenres.filter (·.trackId ≠ k))

theorem TrackMoved.of_sameRows (h : TrackMoved st k n st₁) (hs : SameRows st₁ st') :
    TrackMoved st k n st' :=
  ⟨hs.albums.trans h.albums, hs.tracks.trans h.tracks, hs.extras.trans h.extras,
    hs.links.trans h.links⟩

theorem TrackLost.of_sameRows (h : TrackLost st k st₁) (hs : SameRows st₁ st') :
    TrackLost st k st' :=
  ⟨hs.albums.trans h.albums, hs.tracks.trans h.tracks, hs.extras.trans h.extras,
    hs.links.trans h.links⟩

theorem SameRows.trackMoved (hs : SameRows st st₁) (h : TrackMoved st₁ k n st') :
    TrackMoved st k n st' :=
  ⟨h.albums.trans hs.albums, h.tracks.trans (congrArg _ hs.tracks), h.extras.trans hs.extras,
    h.links.trans hs.links⟩

/-- Other tracks than the one that has moved are held as before. -/
theorem TrackMoved.holdsTrack (h : TrackMoved st k n st') {u : Track} (hu : st.HoldsTrack m u)
    (hne : u.id? ≠ some k) : st'.HoldsTrack m u := by
  refine hu.frame hne ?_ fun l _ => h.links.mem_iff
  intro r hr hrk
  rw [h.tracks]
  exact List.mem_map.2 ⟨r, hr, if_neg hrk⟩

theorem TrackLost.holdsTrack (h : TrackLost st k st') {u : Track} (hu : st.HoldsTrack m u)
    (hne : u.id? ≠ some k) : st'.HoldsTrack m u := by
  refine hu.frame hne ?_ ?_
  · intro r hr hrk
    rw [h.tracks]
    exact List.mem_filter.2 ⟨hr, decide_eq_true hrk⟩
  · intro l hl
    rw [h.links.mem_iff, List.mem_filter]
    exact and_iff_left (decide_eq_true hl)

theorem TrackLost.not_hasTrack (h : TrackLost st k st') : ¬ st'.HasTrack k := by
  rintro ⟨r, hr, hk⟩
  rw [h.tracks] at hr
  exact of_decide_eq_true (List.mem_filter.1 hr).2 hk

/-! ## Writing members -/

theorem writeMembers_deleteDropped (n : Int) (a : Album) :
    (st.deleteDropped n a).writeMembers n a = st.writeMembers n a := by
  have hdrop : (st.deleteDropped n a).deleteDropped n a = st.deleteDropped n a := by
    refine deleteDropped_eq ?_ ?_
    · intro r hr hrn
      exact (mem_deleteDropped_tracks.1 hr).2.resolve_left fun hne => hne hrn
    · intro r hr hrn
      exact (mem_deleteDropped_extras.1 hr).2.resolve_left fun hne => hne hrn
  unfold writeMembers
  rw [hdrop]

/-- Tracks that are stored as they are, with one more at the end: what becomes of the album depends on
that one. -/
theorem writeMembers_append (h : st.Consistent) (hn : st.HasAlbum n) {ts : List Track}
    (hts : ∀ u ∈ ts, st.HoldsTrack n u) (hes : ∀ e ∈ a.extras, st.HoldsExtra n e)
    (ha : a.tracks = ts ++ [t]) (hdrop : st.deleteDropped n a = st) :
    ∃ st₁, SameRows st st₁ ∧ st₁.Consistent ∧ st₁.HasAlbum n ∧
      let p := writeTrack n st₁ t
      (p.fault? = none → p.store.extras = st₁.extras →
        (st.writeMembers n a).fault? = none ∧ SameRows p.store (st.writeMembers n a).store) ∧
      ∀ e, p.fault? = some e →
        (st.writeMembers n a).fault? = some e ∧ (st.writeMembers n a).store = p.store := by
  obtain ⟨hok, -, hsame, hst₁, hn₁⟩ := each_of_sameRows (writeTrack n)
    (fun st => st.Consistent ∧ st.HasAlbum n) (HoldsTrack · n ·) (· = ·) ⟨h, hn⟩ hts
    (fun st t hst ht => writeTrack_of_holdsTrack hst.1 ht)
    (fun st t hst => Consistent.writeTrack_hasAlbum hst t) fun st st' t hsame ht => ht.of_sameRows hsame
  refine ⟨_, hsame, hst₁, hn₁, ?_⟩
  intro p
  have hall : each (writeTrack n) (st.deleteDropped n a) a.tracks =
      (each (writeTrack n) (each (writeTrack n) st ts).store [t]).map
        ((each (writeTrack n) st ts).value ++ ·) := by
    rw [hdrop, ha]
    exact each_append_of_ok [t] hok
  constructor
  · intro hp hextras
    have hone := @each_cons_of_ok Track (writeTrack n) _ _ [] hp
    have hfault : (each (writeTrack n) (st.deleteDropped n a) a.tracks).fault? = none := by
      rw [hall, hone]
      rfl
    have hstore : (each (writeTrack n) (st.deleteDropped n a) a.tracks).store = p.store := by
      rw [hall, hone]
      rfl
    have hheld : ∀ e ∈ a.extras, p.store.HoldsExtra n e := by
      intro e he
      obtain ⟨j, hj, hrow⟩ := (hes e he).of_sameRows hsame
      exact ⟨j, hj, hextras ▸ hrow⟩
    obtain ⟨hokExtras, -, hsameExtras, -⟩ := each_of_sameRows (writeExtra n)
      (fun st => st.Consistent ∧ st.HasAlbum n) (HoldsExtra · n ·) (· = ·)
      (Consistent.writeTrack_hasAlbum ⟨hst₁, hn₁⟩ t) hheld
      (fun st e hst he => writeExtra_of_holdsExtra hst.1 he)
      (fun st e hst => Consistent.writeExtra_hasAlbum hst e)
      fun st st' e hsame he => he.of_sameRows hsame
    rw [writeMembers_eq hfault, hstore]
    exact ⟨hokExtras, hsameExtras⟩
  · intro e hp
    have hfault : (each (writeTrack n) (st.deleteDropped n a) a.tracks).fault? = some e := by
      rw [hall]
      exact each_cons_of_fault [] hp
    refine ⟨writeMembers_of_fault hfault, ?_⟩
    have hsome : (each (writeTrack n) (st.deleteDropped n a) a.tracks).fault?.isSome = true := by
      rw [hfault]
      rfl
    simp only [writeMembers]
    rw [if_pos hsome, hall]
    simp only [each, Progress.map]
    split <;> rfl

/-- A track whose row is gone is refused exactly if it has genres. -/
theorem writeTrack_of_lost (hid : t.id? = some k) (hk : ¬ st.HasTrack k) :
    let p := writeTrack n st t
    (t.genres.isEmpty = true → p.fault? = none) ∧
      (t.genres.isEmpty = false → p.fault? = some (.database .danglingReference)) ∧
      p.store.albums = st.albums ∧ p.store.tracks = st.tracks ∧ p.store.extras = st.extras ∧
      p.store.trackGenres = st.trackGenres.filter (·.trackId ≠ k) := by
  intro p
  have hwrite : p = st.writeGenres t k := writeTrack_of_gone hid hk
  have hunlinked : ¬ (st.unlinkGenres k).HasTrack k := hk
  rw [hwrite]
  unfold writeGenres GenreSet.isEmpty
  rcases t.genres.names with _ | ⟨g, names⟩
  · exact ⟨fun _ => rfl, fun h => Bool.noConfusion h, rfl, rfl, rfl, rfl⟩
  · rw [linkGenres_of_not_hasTrack hunlinked, addGenre_eq]
    exact ⟨fun h => Bool.noConfusion h, fun _ => rfl, rfl, rfl, rfl, rfl⟩

/-- Writing a track that has been lost does not bring it back. -/
theorem TrackLost.writeTrack (h : TrackLost st k st₁) (hid : t.id? = some k) :
    TrackLost st k (writeTrack n st₁ t).store := by
  obtain ⟨-, -, halbums, htracks, hextras, hlinks⟩ := writeTrack_of_lost (n := n) hid h.not_hasTrack
  refine ⟨halbums.trans h.albums, htracks.trans h.tracks, hextras.trans h.extras, ?_⟩
  have hfiltered := h.links.filter (·.trackId ≠ k)
  rw [List.filter_filter] at hfiltered
  rw [hlinks]
  simpa using hfiltered

/-! ## The album that is left -/

/-- Taking a track out of a list takes out its number. -/
theorem mem_ids_erase {ts : List Track} (hnodup : (ts.filterMap (·.id?)).Nodup) (ht : t ∈ ts)
    (hk : t.id? = some k) {j : Int} :
    j ∈ (ts.erase t).filterMap (·.id?) ↔ j ∈ ts.filterMap (·.id?) ∧ j ≠ k := by
  have hperm : (ts.filterMap (·.id?)).Perm (k :: (ts.erase t).filterMap (·.id?)) := by
    have := (List.perm_cons_erase ht).filterMap (·.id?)
    rwa [List.filterMap_cons_some hk] at this
  rw [hperm.nodup_iff, List.nodup_cons] at hnodup
  rw [hperm.mem_iff, List.mem_cons]
  constructor
  · intro hj
    refine ⟨.inr hj, ?_⟩
    rintro rfl
    exact hnodup.1 hj
  · rintro ⟨hj | hj, hne⟩
    · exact absurd hj hne
    · exact hj

/-- A store in which other tracks are held as before holds the album without the track that has left. -/
theorem HoldsAlbum.erase {i : AlbumInfo} (ha : st.HoldsAlbum m i a)
    (hnodup : (a.tracks.filterMap (·.id?)).Nodup) (ht : t ∈ a.tracks) (hk : t.id? = some k)
    (halbums : st'.albums = st.albums) (hextras : st'.extras = st.extras)
    (hheld : ∀ u, st.HoldsTrack m u → u.id? ≠ some k → st'.HoldsTrack m u)
    (hrest : ∀ r ∈ st'.tracks, r.albumId = m → r ∈ st.tracks ∧ r.id ≠ k) :
    st'.HoldsAlbum m i (a.without t) where
  id := ha.id
  row := halbums ▸ ha.row
  tracks u hu := by
    refine hheld u (ha.tracks u (List.mem_of_mem_erase hu)) ?_
    intro huk
    exact ((mem_ids_erase hnodup ht hk).1 (List.mem_filterMap.2 ⟨u, hu, huk⟩)).2 rfl
  extras e he := by
    obtain ⟨j, hj, hrow⟩ := ha.extras e he
    exact ⟨j, hj, hextras ▸ hrow⟩
  allTracks r hr hrm := by
    obtain ⟨hr, hne⟩ := hrest r hr hrm
    exact (mem_ids_erase hnodup ht hk).2 ⟨ha.allTracks r hr hrm, hne⟩
  allExtras r hr hrm := ha.allExtras r (hextras ▸ hr) hrm

theorem HoldsAlbum.erase_of_moved {i : AlbumInfo} (ha : st.HoldsAlbum m i a)
    (hnodup : (a.tracks.filterMap (·.id?)).Nodup) (ht : t ∈ a.tracks) (hk : t.id? = some k)
    (hne : m ≠ n) (h : TrackMoved st k n st') :
    st'.HoldsAlbum m i (a.without t) := by
  refine ha.erase hnodup ht hk h.albums h.extras (fun u hu hid => h.holdsTrack hu hid) ?_
  intro r hr hrm
  rw [h.tracks] at hr
  obtain ⟨q, hq, rfl⟩ := List.mem_map.1 hr
  by_cases hqk : q.id = k
  · rw [if_pos hqk] at hrm
    exact absurd hrm.symm hne
  · rw [if_neg hqk]
    exact ⟨hq, hqk⟩

theorem HoldsAlbum.erase_of_lost {i : AlbumInfo} (ha : st.HoldsAlbum m i a)
    (hnodup : (a.tracks.filterMap (·.id?)).Nodup) (ht : t ∈ a.tracks) (hk : t.id? = some k)
    (h : TrackLost st k st') : st'.HoldsAlbum m i (a.without t) := by
  refine ha.erase hnodup ht hk h.albums h.extras (fun u hu hid => h.holdsTrack hu hid) ?_
  intro r hr _
  rw [h.tracks, List.mem_filter] at hr
  exact ⟨hr.1, of_decide_eq_true hr.2⟩

/-- An album without the track that is lost is held as before. -/
theorem HoldsAlbum.of_lost {i : AlbumInfo} (hb : st.HoldsAlbum n i b) (h : TrackLost st k st')
    (hne : ∀ u ∈ b.tracks, u.id? ≠ some k) : st'.HoldsAlbum n i b where
  id := hb.id
  row := h.albums ▸ hb.row
  tracks u hu := h.holdsTrack (hb.tracks u hu) (hne u hu)
  extras e he := by
    obtain ⟨j, hj, hrow⟩ := hb.extras e he
    exact ⟨j, hj, h.extras ▸ hrow⟩
  allTracks r hr := by
    rw [h.tracks, List.mem_filter] at hr
    exact hb.allTracks r hr.1
  allExtras r hr := hb.allExtras r (h.extras ▸ hr)

/-- What saving the album that is left drops. -/
theorem trackLost_deleteDropped {i : AlbumInfo} (h : st.Consistent) (ha : st.HoldsAlbum m i a)
    (hnodup : (a.tracks.filterMap (·.id?)).Nodup) (ht : t ∈ a.tracks) (hk : t.id? = some k)
    (hrow : t.row k m ∈ st.tracks) :
    TrackLost st k (st.deleteDropped m (a.without t)) := by
  have hdropped : ∀ r ∈ st.tracks,
      (r.albumId ≠ m ∨ r.id ∈ (a.tracks.erase t).filterMap (·.id?)) ↔ r.id ≠ k := by
    intro r hr
    constructor
    · rintro (hrm | hmem) hrk
      · have hown : t.row k m = r := h.tracks.eq_of_num hrow hr hrk.symm
        exact hrm (hown ▸ rfl)
      · exact ((mem_ids_erase hnodup ht hk).1 hmem).2 hrk
    · intro hrk
      by_cases hrm : r.albumId = m
      · exact .inr ((mem_ids_erase hnodup ht hk).2 ⟨ha.allTracks r hr hrm, hrk⟩)
      · exact .inl hrm
  refine ⟨rfl, ?_, ?_, ?_⟩
  · refine List.filter_congr ?_
    intro r hr
    have hiff := hdropped r hr
    by_cases hrk : r.id = k <;> simp_all
  · refine List.filter_eq_self.2 ?_
    intro r hr
    simpa [← imp_iff_not_or] using ha.allExtras r hr
  · have hst := h.links
    refine (List.perm_ext_iff_of_nodup ?_ (hst.filter _)).2 ?_
    · exact (h.deleteDropped m _).links
    · intro l
      rw [mem_deleteDropped_links h, List.mem_filter]
      refine and_congr_right fun hl => ?_
      constructor
      · rintro ⟨r, hr, hrl, hkept⟩
        exact decide_eq_true (hrl ▸ (hdropped r hr).1 hkept)
      · intro hlk
        obtain ⟨r, hr, hrl⟩ := h.linkedTrack l hl
        exact ⟨r, hr, hrl, (hdropped r hr).2 (hrl ▸ of_decide_eq_true hlk)⟩

/-! ## The album that is joined -/

/-- A track that joins an album at a free position takes its row along. -/
theorem writeTrack_of_joining (h : st.Consistent) (hid : t.id? = some k) (ht : st.HoldsTrack m t)
    (hfree : ∀ q ∈ st.tracks, q.position ≠ (n, t.position)) :
    (writeTrack n st t).fault? = none ∧ TrackMoved st k n (writeTrack n st t).store := by
  obtain ⟨k', hid', hrow, hgenres⟩ := ht
  obtain rfl := Option.some.inj (hid.symm.trans hid')
  have hk : st.HasTrack k := ⟨_, hrow, rfl⟩
  have hnew : Free TrackRow.id TrackRow.position TrackRow.path st.tracks (t.row k n) := by
    intro q hq hne
    refine ⟨hfree q hq, ?_⟩
    intro hpath
    have hown : q = t.row k m := h.tracks.eq_of_path hq hrow hpath
    rw [hown] at hne
    exact hne rfl
  rw [writeTrack_of_update hid hk (updateTrack_of_free hk hnew)]
  refine ⟨rfl, rfl, ?_, rfl, (sameRows_relink h hk t.genres.nodup_names hgenres).links⟩
  refine List.map_congr_left ?_
  intro q hq
  by_cases hqk : q.id = k
  · have hown : q = t.row k m := h.tracks.eq_of_num hq hrow hqk
    rw [if_pos hqk, hown]
    exact if_pos rfl
  · rw [if_neg hqk]
    exact if_neg hqk

/-! ## Saving the two albums -/

/-- An album to which a track has been added is saved in a store that holds it without the track: what
becomes of it depends on that track. -/
theorem saveAlbum_addTrack (h : st.Consistent) (hb : st.HoldsAlbum n (b.info s) b) (t : Track) :
    ∃ st₁, SameRows st st₁ ∧ st₁.Consistent ∧
      let p := writeTrack n st₁ (t.on b.handle)
      let q := st.saveAlbum s (b.addTrack t)
      q.value.2 = s.modify b.handle ({ · with id? := some n }) ∧
      (p.fault? = none → p.store.extras = st₁.extras → q.fault? = none ∧ SameRows p.store q.store) ∧
      ∀ e, p.fault? = some e → q.fault? = some e ∧ q.store = p.store := by
  have hlisted : ∀ k ∈ b.tracks.filterMap (·.id?), k ∈ (b.addTrack t).tracks.filterMap (·.id?) := by
    intro k hk
    unfold Album.addTrack
    rw [List.filterMap_append]
    exact List.mem_append_left _ hk
  have hdrop : st.deleteDropped n (b.addTrack t) = st :=
    deleteDropped_eq (fun r hr hrn => hlisted _ (hb.allTracks r hr hrn)) hb.allExtras
  have hn : st.HasAlbum n := ⟨_, hb.row, rfl⟩
  obtain ⟨st₁, hsame, hst₁, -, hmembers⟩ :=
    writeMembers_append (a := b.addTrack t) (t := t.on b.handle) h hn hb.tracks hb.extras rfl hdrop
  have hsave : st.saveAlbum s (b.addTrack t) = (st.writeMembers n (b.addTrack t)).map
      (·, s.modify b.handle ({ · with id? := some n })) :=
    saveAlbum_of_writeAlbum (writeAlbum_of_row h hb.id hb.row)
  refine ⟨st₁, hsame, hst₁, ?_⟩
  rw [hsave]
  exact ⟨rfl, hmembers⟩

/-- A track of one loaded album is to go to another one, where its position is free. -/
structure Moves (st : Store) (s : Shelf) (m n : Int) (a b : Album) (t : Track) : Prop where
  left : Shows st s m a
  joined : Shows st s n b
  distinct : m ≠ n
  member : t ∈ a.tracks
  free : ∀ u ∈ b.tracks, u.position ≠ t.position

namespace Moves

theorem ids_nodup (h : st.Consistent) (ht : st.Moves s m n a b t) :
    (a.tracks.filterMap (·.id?)).Nodup := by
  have hlists := h.lists_albumAt m a.handle
  rw [← ht.left.members] at hlists
  exact hlists.trackIds

theorem exists_id? (h : st.Consistent) (ht : st.Moves s m n a b t) : ∃ k, t.id? = some k := by
  obtain ⟨k, hk, -⟩ := (ht.left.holdsAlbum h).tracks t ht.member
  exact ⟨k, hk⟩

/-- The track has a row of the album that it leaves, so no track of the other album has its number. -/
theorem row_mem (h : st.Consistent) (ht : st.Moves s m n a b t) (hk : t.id? = some k) :
    st.HoldsTrack m t ∧ t.row k m ∈ st.tracks ∧ ∀ u ∈ b.tracks, u.id? ≠ some k := by
  have hholds := (ht.left.holdsAlbum h).tracks t ht.member
  obtain ⟨k', hk', hrow, -⟩ := id hholds
  obtain rfl := Option.some.inj (hk.symm.trans hk')
  refine ⟨hholds, hrow, ?_⟩
  intro u hu huk
  obtain ⟨j, hj, hrowu, -⟩ := (ht.joined.holdsAlbum h).tracks u hu
  obtain rfl := Option.some.inj (huk.symm.trans hj)
  have hown : u.row k n = t.row k m := h.tracks.eq_of_num hrowu hrow rfl
  exact ht.distinct (congrArg TrackRow.albumId hown).symm

theorem position_free (ht : st.Moves s m n a b t) :
    ∀ q ∈ st.tracks, q.position ≠ (n, t.position) := by
  intro q hq hposition
  obtain ⟨hqn, hplace⟩ := Prod.mk.inj hposition
  have hmem : q.track b.handle (st.genresOf q.id) ∈ b.tracks := by
    rw [ht.joined.members]
    exact mem_albumAt_tracks.2 ⟨q, hq, hqn, rfl⟩
  exact ht.free _ hmem hplace

/-- What is written for one of the albums does not touch the place of the other one. -/
theorem handle_ne (ht : st.Moves s m n a b t) : a.handle ≠ b.handle := by
  intro he
  have hid : some m = some n := by
    rw [← ht.left.id?, ← ht.joined.id?]
    exact congrArg (fun place => (s.read place).id?) he
  exact ht.distinct (Option.some.inj hid)

end Moves

/-- The album that the track goes to is saved first: both saves succeed, and the track is stored with
that album. -/
theorem Moves.saved_joined_first (h : st.Consistent) (ht : st.Moves s m n a b t)
    (hk : t.id? = some k) :
    let p := st.saveAlbum s (b.addTrack t)
    let q := p.store.saveAlbum p.value.2 (a.without t)
    p.fault? = none ∧ q.fault? = none ∧ TrackMoved st k n q.store ∧ q.store.HoldsTrack n t := by
  intro p q
  obtain ⟨hholds, hrow, -⟩ := ht.row_mem h hk
  obtain ⟨st₁, hsame, hst₁, hshelf, hok, -⟩ := saveAlbum_addTrack h (ht.joined.holdsAlbum h) t
  have hholds₁ : st₁.HoldsTrack m (t.on b.handle) := hholds.of_sameRows hsame
  have hfree₁ : ∀ q ∈ st₁.tracks, q.position ≠ (n, t.position) := hsame.tracks ▸ ht.position_free
  obtain ⟨hwritten, hmoved₁⟩ := writeTrack_of_joining (t := t.on b.handle) hst₁ hk hholds₁ hfree₁
  obtain ⟨hp, hsame₁⟩ := hok hwritten hmoved₁.extras
  have hmoved : TrackMoved st k n p.store := hsame.trackMoved (hmoved₁.of_sameRows hsame₁)
  -- the album that is left is held by now without the track, so that its save changes nothing
  have hinfo : (a.without t).info p.value.2 = a.info s := by
    show p.value.2.read a.handle = s.read a.handle
    rw [hshelf]
    exact Shelf.read_write_of_ne ht.handle_ne _
  have hheld : p.store.HoldsAlbum m (a.info s) (a.without t) :=
    (ht.left.holdsAlbum h).erase_of_moved (ht.ids_nodup h) ht.member hk ht.distinct hmoved
  rw [← hinfo] at hheld
  obtain ⟨hq, -, hsame₂⟩ := saveAlbum_of_holdsAlbum (h.saveAlbum s _) hheld
  have hmoved₂ := hmoved.of_sameRows hsame₂
  refine ⟨hp, hq, hmoved₂, k, hk, ?_, ?_⟩
  · rw [hmoved₂.tracks]
    exact List.mem_map.2 ⟨_, hrow, if_pos rfl⟩
  · obtain ⟨k', hk', -, hgenres⟩ := hholds
    obtain rfl := Option.some.inj (hk.symm.trans hk')
    intro g
    rw [← hgenres g, mem_genresOf, mem_genresOf, hmoved₂.links.mem_iff]

/-- The album that the track leaves is saved first: the track is lost, and the other save is refused if
the track has genres. -/
theorem Moves.saved_left_first (h : st.Consistent) (ht : st.Moves s m n a b t)
    (hk : t.id? = some k) :
    let p := st.saveAlbum s (a.without t)
    let q := p.store.saveAlbum p.value.2 (b.addTrack t)
    p.fault? = none ∧ (t.genres.isEmpty = true → q.fault? = none) ∧
      (t.genres.isEmpty = false → q.fault? = some (.database .danglingReference)) ∧
      TrackLost st k q.store := by
  intro p q
  obtain ⟨hholds, hrow, hothers⟩ := ht.row_mem h hk
  have ha := ht.left.holdsAlbum h
  have hdropped := trackLost_deleteDropped h ha (ht.ids_nodup h) ht.member hk hrow
  have hwrite : st.saveAlbum s (a.without t) =
      (st.writeMembers m (a.without t)).map
        (·, s.modify a.handle ({ · with id? := some m })) :=
    saveAlbum_of_writeAlbum (writeAlbum_of_row h ha.id ha.row)
  obtain ⟨hp, -, hsame⟩ := writeMembers_of_holdsAlbum (h.deleteDropped m (a.without t))
    (ha.erase_of_lost (ht.ids_nodup h) ht.member hk hdropped)
  rw [writeMembers_deleteDropped] at hp hsame
  have hpstore : SameRows (st.deleteDropped m (a.without t)) p.store := by
    show SameRows _ (st.saveAlbum s (a.without t)).store
    rw [hwrite]
    exact hsame
  have hlost : TrackLost st k p.store := hdropped.of_sameRows hpstore
  have hpst : p.store.Consistent := h.saveAlbum s _
  have hinfo : b.info p.value.2 = b.info s := by
    show (st.saveAlbum s (a.without t)).value.2.read b.handle = _
    rw [hwrite]
    exact Shelf.read_write_of_ne ht.handle_ne.symm _
  have hb := (ht.joined.holdsAlbum h).of_lost hlost hothers
  rw [← hinfo] at hb
  obtain ⟨st₁, hsame₁, hst₁, -, hok, hfault⟩ := saveAlbum_addTrack hpst hb t
  have hlost₁ := hlost.of_sameRows hsame₁
  obtain ⟨hempty, hgenres, -, -, hextras, -⟩ :=
    writeTrack_of_lost (n := n) (t := t.on b.handle) hk hlost₁.not_hasTrack
  have hwritten : TrackLost st k (writeTrack n st₁ (t.on b.handle)).store := hlost₁.writeTrack hk
  refine ⟨?_, ?_, ?_, ?_⟩
  · show (st.saveAlbum s (a.without t)).fault? = none
    rw [hwrite]
    exact hp
  · intro hnone
    exact (hok (hempty hnone) hextras).1
  · intro hsome
    exact (hfault _ (hgenres hsome)).1
  · rcases hnames : t.genres.isEmpty with _ | _
    · rw [show q.store = _ from (hfault _ (hgenres hnames)).2]
      exact hwritten
    · exact hwritten.of_sameRows (hok (hempty hnames) hextras).2

/-- A track that goes from one stored album to another one, at a free position, is stored with that
album if that album is saved first; then all other rows and all links are as they were. If the album it
leaves is saved first, its row is gone in the end, and the save of the other album is refused exactly if
the track has genres. -/
theorem saveAlbum_moved (h : st.Reachable) (ht : st.Moves s m n a b t) :
    ∃ k, t.id? = some k ∧
      (let p := st.saveAlbum s (b.addTrack t)
       let q := p.store.saveAlbum p.value.2 (a.without t)
       p.fault? = none ∧ q.fault? = none ∧ TrackMoved st k n q.store ∧ q.store.HoldsTrack n t) ∧
      (let p := st.saveAlbum s (a.without t)
       let q := p.store.saveAlbum p.value.2 (b.addTrack t)
       p.fault? = none ∧ (t.genres.isEmpty = true → q.fault? = none) ∧
         (t.genres.isEmpty = false → q.fault? = some (.database .danglingReference)) ∧
         TrackLost st k q.store) := by
  obtain ⟨k, hk⟩ := ht.exists_id? h.consistent
  exact ⟨k, hk, ht.saved_joined_first h.consistent hk, ht.saved_left_first h.consistent hk⟩

/-- An album with one track, which has the given genres. -/
def tunedNight (genres : List String) : Album where
  handle := ⟨0⟩
  tracks := [{ Track.create nightAndDay ⟨0⟩ 1 "One" (.ofText "/night/1.flac") with
    genres := .ofList genres }]
  extras := []

/-- A store with that album under the number 1, and one without members under the number 2. -/
def nightThenDay (genres : List String) : Store :=
  (Session.after [.saveAlbum nightAndDay (tunedNight genres), .saveAlbum nightAndDay emptyDay]).working

/-- The one track of the first album, as it is loaded. -/
def loadedNight (genres : List String) : Track :=
  { Track.create nightAndDay ⟨0⟩ 1 "One" (.ofText "/night/1.flac") with
    id? := some 1
    genres := .ofList genres }

theorem moves_loadedNight :
    let st := nightThenDay ["jazz"]
    st.Moves (st.loadAlbums [1, 2] .empty).2 1 2 (st.albumAt 1 ⟨0⟩) (st.albumAt 2 ⟨1⟩)
      (loadedNight ["jazz"]) where
  left := shows_albumAt (Reachable.consistent ⟨_, rfl⟩) (by decide +kernel)
  joined := shows_albumAt (Reachable.consistent ⟨_, rfl⟩) (by decide +kernel)
  distinct := by decide
  member := by decide +kernel
  free := by decide +kernel

theorem saveAlbum_moved_loadedNight :
    let st := nightThenDay ["jazz"]
    let s := (st.loadAlbums [1, 2] .empty).2
    let p := st.saveAlbum s ((st.albumAt 2 ⟨1⟩).addTrack (loadedNight ["jazz"]))
    let q := p.store.saveAlbum p.value.2 ((st.albumAt 1 ⟨0⟩).without (loadedNight ["jazz"]))
    p.fault? = none ∧ q.fault? = none ∧ q.store.HoldsTrack 2 (loadedNight ["jazz"]) := by
  intro st s p q
  have hst : st.Reachable := ⟨_, rfl⟩
  obtain ⟨k, -, ⟨hp, hq, -, hholds⟩, -⟩ := saveAlbum_moved hst moves_loadedNight
  exact ⟨hp, hq, hholds⟩

/-- The track is lost if the album that it leaves is saved first: with a genre the other save is refused,
and without one it succeeds but stores no track. -/
theorem saveAlbum_left_first :
    (let st := nightThenDay ["jazz"]
     let s := (st.loadAlbums [1, 2] .empty).2
     let p := st.saveAlbum s ((st.albumAt 1 ⟨0⟩).without (loadedNight ["jazz"]))
     let q := p.store.saveAlbum p.value.2 ((st.albumAt 2 ⟨1⟩).addTrack (loadedNight ["jazz"]))
     st.Moves s 1 2 (st.albumAt 1 ⟨0⟩) (st.albumAt 2 ⟨1⟩) (loadedNight ["jazz"]) ∧
       p.fault? = none ∧ q.fault? = some (.database .danglingReference)) ∧
    (let st := nightThenDay []
     let s := (st.loadAlbums [1, 2] .empty).2
     let p := st.saveAlbum s ((st.albumAt 1 ⟨0⟩).without (loadedNight []))
     let q := p.store.saveAlbum p.value.2 ((st.albumAt 2 ⟨1⟩).addTrack (loadedNight []))
     p.fault? = none ∧ q.fault? = none ∧ q.store.tracks = []) :=
  ⟨⟨moves_loadedNight, by decide +kernel, by decide +kernel⟩, by decide +kernel⟩

end Store

end MusicLibrary

import MusicLibrary.Proofs.Store.LoadedRows

/-!
# Loading by numbers

A list of numbers may name a row more than once, or no row at all, and in any order. A load picks the rows
that have one of the numbers, each once, in the order in which the numbers first occur (`Picked`), and turns
them into values that share their places as their rows share their albums (`Store.MembersLoaded`), or into
albums with all their members in order (`Store.AlbumLoaded`). `Store.loaded_by_numbers` says so of tracks,
extras and albums.
-/

namespace MusicLibrary

section Rows

variable {ρ κ : Type} {num : ρ → Int} {key : ρ → κ} {path : ρ → String} {last : Int} {table : List ρ}

/-- What is left of a list without repeats is in the order of first occurrences. -/
theorem pairwise_idxOf_eraseDups (ks : List Int) :
    ks.eraseDups.Pairwise fun i j => ks.idxOf i < ks.idxOf j := by
  induction ks using List.reverseRecOn with
  | nil => exact .nil
  | append_singleton ks k ih =>
    have hkept : ks.eraseDups.Pairwise fun i j => (ks ++ [k]).idxOf i < (ks ++ [k]).idxOf j := by
      refine ih.imp_of_mem fun {i j} hi hj hij => ?_
      rwa [List.idxOf_append_of_mem (List.mem_eraseDups.1 hi), List.idxOf_append_of_mem (List.mem_eraseDups.1 hj)]
    rw [eraseDups_append_singleton]
    by_cases hk : k ∈ ks
    · rwa [if_pos hk]
    · rw [if_neg hk]
      refine List.pairwise_append.2 ⟨hkept, List.pairwise_singleton _ _, fun i hi j hj => ?_⟩
      have hi := List.mem_eraseDups.1 hi
      rw [List.mem_singleton.1 hj, List.idxOf_append_of_mem hi, List.idxOf_append_of_notMem hk]
      exact Nat.lt_add_right _ (List.idxOf_lt_length_of_mem hi)

/-- The rows of a table that have one of some numbers, each once, in the order in which the numbers first
occur. -/
structure Picked (num : ρ → Int) (ks : List Int) (table rows : List ρ) : Prop where
  mem_iff : ∀ r, r ∈ rows ↔ r ∈ table ∧ num r ∈ ks
  ordered : rows.Pairwise fun r q => ks.idxOf (num r) < ks.idxOf (num q)

theorem Table.picked (h : Table num key path last table) (ks : List Int) :
    Picked num ks table (ks.eraseDups.filterMap fun k => table.find? (num · = k)) where
  mem_iff r := by
    rw [← List.mem_eraseDups (l := ks)]
    exact h.mem_filterMap_find?
  ordered := by
    refine List.pairwise_filterMap.2 ((pairwise_idxOf_eraseDups ks).imp fun {i j} hij r hr q hq => ?_)
    have hri : num r = i := by simpa using List.find?_some hr
    have hqj : num q = j := by simpa using List.find?_some hq
    rwa [hri, hqj]

end Rows

namespace Store

variable {st : Store} {ρ τ : Type} {owner : ρ → Int} {value : ρ → Handle → τ} {place : τ → Handle}
  {rows : List ρ} {values : List τ}

/-! ## Members -/

/-- Members that have been loaded: the value of each row, at a place that shows the fields of its album, and
two of them share their place if and only if their rows name the same album. -/
structure MembersLoaded (st : Store) (s : Shelf) (owner : ρ → Int) (value : ρ → Handle → τ)
    (place : τ → Handle) (rows : List ρ) (values : List τ) : Prop where
  each : List.Forall₂ (fun r t => t = value r (place t) ∧ st.PlacedAt s (owner r) (place t)) rows values
  shared : ∀ p ∈ rows.zip values, ∀ q ∈ rows.zip values, place p.2 = place q.2 ↔ owner p.1 = owner q.1

theorem Placed.membersLoaded {places : List (Int × Handle)} {s : Shelf} (h : Placed st places s)
    (hplace : ∀ r k, place (value r k) = k)
    (hvalues : List.Forall₂ (fun r t => ∃ k, (owner r, k) ∈ places ∧ t = value r k) rows values) :
    MembersLoaded st s owner value place rows values where
  each := hvalues.imp (by
    rintro r t ⟨k, hk, rfl⟩
    rw [hplace]
    exact ⟨rfl, h.placedAt hk⟩)
  shared := by
    obtain ⟨-, hzip⟩ := List.forall₂_iff_zip.1 hvalues
    rintro ⟨r, t⟩ hrt ⟨r', t'⟩ hrt'
    obtain ⟨k, hk, rfl⟩ := hzip hrt
    obtain ⟨k', hk', rfl⟩ := hzip hrt'
    rw [hplace, hplace]
    constructor
    · intro heq
      exact congrArg Prod.fst (h.eq_of_handle hk hk' heq)
    · intro heq
      exact congrArg Prod.snd (h.eq_of_num hk hk' heq)

/-- Rows whose albums are put on the shelf are loaded. -/
theorem membersLoaded_place (h : st.Consistent) (hplace : ∀ r k, place (value r k) = k)
    (howner : ∀ r ∈ rows, st.HasAlbum (owner r)) (s : Shelf) :
    let placed := st.place (rows.map owner) s
    MembersLoaded st placed.2 owner value place rows
      (rows.filterMap fun r => (placed.1.lookup (owner r)).map (value r)) := by
  obtain ⟨hplaced, hnums⟩ := placed_place h (rows.map owner) s
  exact hplaced.membersLoaded hplace (forall₂_lookup owner value fun r hr =>
    (hnums (owner r)).2 ⟨List.mem_map_of_mem hr, howner r hr⟩)

/-- Genres are linked to the number of a track. -/
theorem mem_genres_track {r : TrackRow} {k : Handle} {g : String} :
    g ∈ (r.track k (st.genresOf r.id)).genres.names ↔ ⟨r.id, g⟩ ∈ st.trackGenres :=
  GenreSet.mem_ofList.trans mem_genresOf

/-! ## Albums -/

/-- An album that has been loaded: the fields of its row, and as its members exactly the rows that name it, in
order. -/
structure AlbumLoaded (st : Store) (s : Shelf) (r : AlbumRow) (a : Album) : Prop where
  info : a.info s = r.info
  tracks : a.tracks.Perm
    ((st.tracks.filter (·.albumId = r.id)).map fun q => q.track a.handle (st.genresOf q.id))
  trackOrder : a.tracks.Pairwise Track.Before
  extras : a.extras.Perm ((st.extras.filter (·.albumId = r.id)).map (·.extra a.handle))
  extraOrder : a.extras.Pairwise Extra.Before

theorem albumLoaded_albumAt (h : st.Consistent) {s : Shelf} {r : AlbumRow} {k : Handle}
    (hk : s.read k = r.info) : AlbumLoaded st s r (st.albumAt r.id k) where
  info := hk
  tracks := (List.mergeSort_perm _ _).map _
  trackOrder := h.before_tracks k
  extras := (List.mergeSort_perm _ _).map _
  extraOrder := h.before_extras k

/-- Albums are loaded in the order of the rows that are picked, each at a place of its own. -/
theorem loadAlbums_loaded (h : st.Consistent) (ks : List Int) (s : Shelf) :
    let loaded := st.loadAlbums ks s
    List.Forall₂ (AlbumLoaded st loaded.2) (ks.eraseDups.filterMap st.album?) loaded.1 ∧
      (loaded.1.map (·.handle)).Nodup := by
  obtain ⟨hplaced, -⟩ := placed_place h ks s
  obtain ⟨-, new, hnew, hplaces⟩ := foldl_place (ks.eraseDups.filterMap st.album?) [] s
  have hnew : (st.place ks s).1 = new := hnew
  constructor
  · simp only [loadAlbums, hnew]
    refine List.forall₂_map_right_iff.2 (hplaces.imp ?_)
    rintro r ⟨n, k⟩ ⟨rfl, hread⟩
    exact albumLoaded_albumAt h hread
  · simp only [loadAlbums, List.map_map]
    exact hplaced.handles

/-- A load by numbers gives exactly the rows that have one of them, each once, in the order in which the numbers
first occur: tracks with the genres that are linked to them and extras, which share their album if and only if
their rows name the same one, and albums with all their members in order. -/
theorem loaded_by_numbers (h : st.Reachable) (ks : List Int) (s : Shelf) :
    (let loaded := st.loadTracks ks s
     ∃ rows, Picked TrackRow.id ks st.tracks rows ∧
       MembersLoaded st loaded.2 TrackRow.albumId (fun r k => r.track k (st.genresOf r.id)) Track.album rows
         loaded.1 ∧
       List.Forall₂ (fun r t => ∀ g, g ∈ t.genres.names ↔ ⟨r.id, g⟩ ∈ st.trackGenres) rows loaded.1) ∧
    (let loaded := st.loadExtras ks s
     ∃ rows, Picked ExtraRow.id ks st.extras rows ∧
       MembersLoaded st loaded.2 ExtraRow.albumId ExtraRow.extra Extra.album rows loaded.1) ∧
    (let loaded := st.loadAlbums ks s
     (∃ rows, Picked AlbumRow.id ks st.albums rows ∧ List.Forall₂ (AlbumLoaded st loaded.2) rows loaded.1) ∧
      (loaded.1.map (·.handle)).Nodup) := by
  have hst := h.consistent
  have htracks : Picked TrackRow.id ks st.tracks (ks.eraseDups.filterMap st.track?) := hst.tracks.picked ks
  have hextras : Picked ExtraRow.id ks st.extras (ks.eraseDups.filterMap st.extra?) := hst.extras.picked ks
  have halbums : Picked AlbumRow.id ks st.albums (ks.eraseDups.filterMap st.album?) := hst.albums.picked ks
  obtain ⟨hloaded, hapart⟩ := loadAlbums_loaded hst ks s
  refine ⟨?_, ⟨_, hextras, ?_⟩, ⟨_, halbums, hloaded⟩, hapart⟩
  · have hmembers : MembersLoaded st (st.loadTracks ks s).2 TrackRow.albumId
        (fun r k => r.track k (st.genresOf r.id)) Track.album _ (st.loadTracks ks s).1 :=
      membersLoaded_place hst (fun _ _ => rfl)
        (fun r hr => hst.trackOwner r ((htracks.mem_iff r).1 hr).1) s
    refine ⟨_, htracks, hmembers, hmembers.each.imp fun r t ht g => ?_⟩
    rw [ht.1]
    exact mem_genres_track
  · exact membersLoaded_place hst (fun _ _ => rfl)
      (fun r hr => hst.extraOwner r ((hextras.mem_iff r).1 hr).1) s

/-- An album whose tracks are not listed in the order of their numbers. -/
def backwardDay : Album where
  handle := ⟨1⟩
  tracks := [.create nightAndDay ⟨1⟩ 2 "Two" (.ofText "/day/2.flac"),
    .create nightAndDay ⟨1⟩ 1 "One" (.ofText "/day/1.flac")]
  extras := []

/-- The numbers 3 and 2 are those of tracks of one album, the number 1 is that of a track of another one, and
the number 9 is that of no track. -/
theorem loaded_by_numbers_nightAndDay :
    let st := (Session.after [.saveAlbum nightAndDay night, .saveAlbum nightAndDay backwardDay]).working
    let loaded := st.loadTracks [3, 9, 1, 3, 2] .empty
    st.Reachable ∧ loaded.1.map (fun t => (t.id?, t.album)) = [(some 3, ⟨0⟩), (some 1, ⟨1⟩), (some 2, ⟨0⟩)] ∧
      ∃ rows, Picked TrackRow.id [3, 9, 1, 3, 2] st.tracks rows ∧
        MembersLoaded st loaded.2 TrackRow.albumId (fun r k => r.track k (st.genresOf r.id)) Track.album rows
          loaded.1 := by
  intro st loaded
  have hst : st.Reachable := ⟨_, rfl⟩
  obtain ⟨⟨rows, hpicked, hmembers, -⟩, -, -⟩ := loaded_by_numbers hst [3, 9, 1, 3, 2] .empty
  exact ⟨hst, by decide +kernel, rows, hpicked, hmembers⟩

end Store

end MusicLibrary

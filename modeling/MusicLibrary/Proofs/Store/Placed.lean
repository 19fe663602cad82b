import MusicLibrary.Proofs.Store.Kept

/-!
# Places of loaded albums

A load puts every album it needs on the shelf once: different albums get different places, and at each
place stand the fields of the album's row (`Store.placed_place`). So the tracks of one result share a
place exactly if their rows name the same album (`Store.loadTracks_loaded`), and an album that is
loaded shows what the store has under its number (`Store.shows_albumAt`).
-/

namespace MusicLibrary

section Rows

variable {ρ κ : Type} {num : ρ → Int} {key : ρ → κ} {path : ρ → String} {last : Int} {rows : List ρ}
  {ks : List Int} {r : ρ}

/-- The rows that are found by numbers are those that have one of these numbers. -/
theorem Table.mem_filterMap_find? (h : Table num key path last rows) :
    r ∈ ks.filterMap (fun k => rows.find? (num · = k)) ↔ r ∈ rows ∧ num r ∈ ks := by
  rw [List.mem_filterMap]
  constructor
  · rintro ⟨k, hk, hf⟩
    have hrk : num r = k := by simpa using List.find?_some hf
    exact ⟨List.mem_of_find?_eq_some hf, hrk ▸ hk⟩
  · rintro ⟨hr, hk⟩
    refine ⟨num r, hk, h.find?_eq_some.2 ⟨hr, by simp, fun q _ hlt => ?_⟩⟩
    simpa using Int.ne_of_lt hlt

theorem nodup_filterMap_find? (hks : ks.Nodup) :
    ((ks.filterMap fun k => rows.find? (num · = k)).map num).Nodup := by
  rw [List.map_filterMap]
  refine hks.filterMap ?_
  intro k k' j hk hk'
  obtain ⟨r, hr, rfl⟩ := Option.map_eq_some_iff.1 hk
  obtain ⟨r', hr', he⟩ := Option.map_eq_some_iff.1 hk'
  have hrk : num r = k := by simpa using List.find?_some hr
  have hrk' : num r' = k' := by simpa using List.find?_some hr'
  rw [← hrk, ← hrk', he]

end Rows

namespace Store

variable {st : Store} {s : Shelf} {n : Int}

/-- Every album has a place of its own, at which the fields of its row stand. -/
structure Placed (st : Store) (places : List (Int × Handle)) (s : Shelf) : Prop where
  holds : ∀ p ∈ places, s.Holds p.2
  rows : ∀ p ∈ places, ∃ r ∈ st.albums, r.id = p.1 ∧ s.read p.2 = r.info
  nums : (places.map (·.1)).Nodup
  handles : (places.map (·.2)).Nodup

theorem placed_nil (st : Store) (s : Shelf) : Placed st [] s :=
  ⟨fun _ h => absurd h List.not_mem_nil, fun _ h => absurd h List.not_mem_nil, .nil, .nil⟩

/-- A further album gets a place that none has. -/
theorem Placed.add {places : List (Int × Handle)} (h : Placed st places s) {r : AlbumRow}
    (hr : r ∈ st.albums) (hnew : ∀ p ∈ places, p.1 ≠ r.id) :
    Placed st (places ++ [(r.id, (s.add r.info).1)]) (s.add r.info).2 where
  holds p hp := by
    rcases List.mem_append.1 hp with hp | hp
    · exact (h.holds p hp).of_add r.info
    · rw [List.mem_singleton.1 hp]
      exact Shelf.holds_add s r.info
  rows p hp := by
    rcases List.mem_append.1 hp with hp | hp
    · rw [Shelf.read_add_of_holds (h.holds p hp)]
      exact h.rows p hp
    · rw [List.mem_singleton.1 hp]
      exact ⟨r, hr, rfl, Shelf.read_add s r.info⟩
  nums := by
    rw [List.map_append, List.map_singleton, List.nodup_append]
    refine ⟨h.nums, List.nodup_singleton _, ?_⟩
    simpa using fun n k hp => hnew (n, k) hp
  handles := by
    rw [List.map_append, List.map_singleton, List.nodup_append]
    refine ⟨h.handles, List.nodup_singleton _, ?_⟩
    rintro k hk _ hnext rfl
    obtain ⟨p, hp, rfl⟩ := List.mem_map.1 hk
    have hholds := h.holds p hp
    rw [List.mem_singleton.1 hnext] at hholds
    exact Shelf.not_holds_add s r.info hholds

theorem Placed.eq_of_num {places : List (Int × Handle)} (h : Placed st places s)
    {p q : Int × Handle} (hp : p ∈ places) (hq : q ∈ places) (he : p.1 = q.1) : p = q :=
  List.inj_on_of_nodup_map h.nums hp hq he

theorem Placed.eq_of_handle {places : List (Int × Handle)} (h : Placed st places s)
    {p q : Int × Handle} (hp : p ∈ places) (hq : q ∈ places) (he : p.2 = q.2) : p = q :=
  List.inj_on_of_nodup_map h.handles hp hq he

/-- Rows of different numbers are placed one after the other. -/
theorem placed_foldl {rows : List AlbumRow} (hrows : ∀ r ∈ rows, r ∈ st.albums)
    (hnodup : (rows.map (·.id)).Nodup) {places : List (Int × Handle)} (h : Placed st places s)
    (hnew : ∀ p ∈ places, p.1 ∉ rows.map (·.id)) :
    let placed := rows.foldl (fun (places, s) r =>
      let (h, s) := s.add r.info; (places ++ [(r.id, h)], s)) (places, s)
    Placed st placed.1 placed.2 ∧ placed.1.map (·.1) = places.map (·.1) ++ rows.map (·.id) := by
  induction rows generalizing places s with
  | nil => exact ⟨h, (List.append_nil _).symm⟩
  | cons r rows ih =>
    rw [List.map_cons, List.nodup_cons] at hnodup
    have hadd := h.add (hrows r (.head _)) fun p hp he => hnew p hp (he ▸ .head _)
    have hnext : ∀ p ∈ places ++ [(r.id, (s.add r.info).1)], p.1 ∉ rows.map (·.id) := by
      intro p hp
      rcases List.mem_append.1 hp with hp | hp
      · exact fun hmem => hnew p hp (.tail _ hmem)
      · rw [List.mem_singleton.1 hp]
        exact hnodup.1
    obtain ⟨hplaced, hnums⟩ := ih (fun q hq => hrows q (.tail _ hq)) hnodup.2 hadd hnext
    refine ⟨hplaced, hnums.trans ?_⟩
    rw [List.map_append, List.append_assoc]
    rfl

/-- Each album that is asked for and stored is placed, and no other one is. -/
theorem placed_place (h : st.Consistent) (ids : List Int) (s : Shelf) :
    Placed st (st.place ids s).1 (st.place ids s).2 ∧
      ∀ n, (∃ p ∈ (st.place ids s).1, p.1 = n) ↔ n ∈ ids ∧ st.HasAlbum n := by
  have hmemRows : ∀ r, r ∈ ids.eraseDups.filterMap st.album? ↔ r ∈ st.albums ∧ r.id ∈ ids := by
    intro r
    rw [← List.mem_eraseDups (l := ids)]
    exact h.albums.mem_filterMap_find?
  obtain ⟨hplaced, hnums⟩ := placed_foldl (fun r hr => ((hmemRows r).1 hr).1)
    (nodup_filterMap_find? (nodup_eraseDups ids)) (placed_nil st s)
    fun p hp => absurd hp List.not_mem_nil
  refine ⟨hplaced, ?_⟩
  intro n
  have hmem : (∃ p ∈ (st.place ids s).1, p.1 = n) ↔ n ∈ (st.place ids s).1.map (·.1) :=
    List.mem_map.symm
  have hnums' : (st.place ids s).1.map (·.1) = (ids.eraseDups.filterMap st.album?).map (·.id) :=
    hnums
  rw [hmem, hnums', List.mem_map]
  constructor
  · rintro ⟨r, hr, rfl⟩
    obtain ⟨hr, hid⟩ := (hmemRows r).1 hr
    exact ⟨hid, r, hr, rfl⟩
  · rintro ⟨hid, r, hr, rfl⟩
    exact ⟨r, (hmemRows r).2 ⟨hr, hid⟩, rfl⟩

/-! ## Tracks -/

/-- A track is what a row of the store holds, at the place of its album. -/
def LoadedAt (st : Store) (places : List (Int × Handle)) (r : TrackRow) (t : Track) : Prop :=
  ∃ h, (r.albumId, h) ∈ places ∧ t = r.track h (st.genresOf r.id)

/-- What is placed under a number is found. -/
theorem exists_lookup {places : List (Int × Handle)} (h : ∃ p ∈ places, p.1 = n) :
    ∃ k, places.lookup n = some k ∧ (n, k) ∈ places := by
  induction places with
  | nil =>
    obtain ⟨p, hp, -⟩ := h
    exact absurd hp List.not_mem_nil
  | cons q places ih =>
    obtain ⟨m, k⟩ := q
    by_cases he : n = m
    · subst he
      exact ⟨k, List.lookup_cons_self, .head _⟩
    · obtain ⟨p, hp, hpn⟩ := h
      have hp' : p ∈ places := (List.mem_cons.1 hp).resolve_left fun hq => he (by rw [← hpn, hq])
      obtain ⟨k', hk', hmem⟩ := ih ⟨p, hp', hpn⟩
      have hne : (n == m) = false := beq_eq_false_iff_ne.2 he
      refine ⟨k', ?_, .tail _ hmem⟩
      rw [List.lookup_cons, hne]
      exact hk'

/-- Rows are loaded one by one if their albums are placed, each at the place of its album. -/
theorem forall₂_lookup {ρ τ : Type} {places : List (Int × Handle)} {rows : List ρ} (owner : ρ → Int)
    (f : ρ → Handle → τ) (h : ∀ r ∈ rows, ∃ p ∈ places, p.1 = owner r) :
    List.Forall₂ (fun r t => ∃ k, (owner r, k) ∈ places ∧ t = f r k) rows
      (rows.filterMap fun r => (places.lookup (owner r)).map (f r)) := by
  induction rows with
  | nil => exact .nil
  | cons r rows ih =>
    obtain ⟨k, hk, hmem⟩ := exists_lookup (h r (.head _))
    rw [List.filterMap_cons_some (by rw [hk]; rfl)]
    exact .cons ⟨k, hmem, rfl⟩ (ih fun q hq => h q (.tail _ hq))

/-- The tracks that are loaded are what the stored rows of the given numbers hold, each of which is
loaded once. -/
theorem loadTracks_loaded (h : st.Consistent) (ids : List Int) (s : Shelf) :
    ∃ places rows, Placed st places (st.loadTracks ids s).2 ∧
      List.Forall₂ (LoadedAt st places) rows (st.loadTracks ids s).1 ∧ (rows.map (·.id)).Nodup ∧
      ∀ r, r ∈ rows ↔ r ∈ st.tracks ∧ r.id ∈ ids := by
  have hrows : ∀ r, r ∈ ids.eraseDups.filterMap st.track? ↔ r ∈ st.tracks ∧ r.id ∈ ids := by
    intro r
    rw [← List.mem_eraseDups (l := ids)]
    exact h.tracks.mem_filterMap_find?
  obtain ⟨hplaced, hnums⟩ :=
    placed_place h ((ids.eraseDups.filterMap st.track?).map (·.albumId)) s
  refine ⟨_, _, hplaced, forall₂_lookup TrackRow.albumId
    (fun r k => r.track k (st.genresOf r.id)) fun r hr => ?_,
    nodup_filterMap_find? (nodup_eraseDups ids), hrows⟩
  exact (hnums r.albumId).2 ⟨List.mem_map_of_mem hr, h.trackOwner r ((hrows r).1 hr).1⟩

/-! ## Albums -/

/-- An album on a shelf is what the store has under a number: the fields of the row and the stored
members. -/
structure Shows (st : Store) (s : Shelf) (n : Int) (a : Album) : Prop where
  holds : s.Holds a.handle
  row : ∃ r ∈ st.albums, r.id = n ∧ a.info s = r.info
  members : a = st.albumAt n a.handle

theorem Shows.id? {a : Album} (h : Shows st s n a) : (a.info s).id? = some n := by
  obtain ⟨r, -, rfl, hinfo⟩ := h.row
  rw [hinfo]
  rfl

/-- An album that is loaded, at its place, is what the store has under its number. -/
theorem shows_albumAt (h : st.Consistent) {ids : List Int} {k : Handle}
    (hk : (n, k) ∈ (st.place ids s).1) : Shows st (st.loadAlbums ids s).2 n (st.albumAt n k) where
  holds := (placed_place h ids s).1.holds _ hk
  row := (placed_place h ids s).1.rows _ hk
  members := rfl

/-- What a store shows, it holds. -/
theorem Shows.holdsAlbum (h : st.Consistent) {a : Album} (ha : Shows st s n a) :
    st.HoldsAlbum n (a.info s) a := by
  obtain ⟨r, hr, rfl, hinfo⟩ := ha.row
  rw [hinfo, ha.members]
  exact holdsAlbum_albumAt h hr a.handle

end Store

end MusicLibrary

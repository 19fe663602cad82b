import MusicLibrary.Proofs.Store.Placed

/-!
# Rows that are loaded by their numbers

Rows of a store whose numbers are asked for, each once, are loaded in the order in which they are asked for
(`loadTracks_rows`, `loadExtras_rows`, `loadAlbums_rows`).
-/

namespace MusicLibrary

variable {ρ κ : Type} {num : ρ → Int} {key : ρ → κ} {path : ρ → String} {last : Int}
  {rows table : List ρ}

theorem eraseDups_of_nodup {ks : List Int} (h : ks.Nodup) : ks.eraseDups = ks := by
  induction ks with
  | nil => rfl
  | cons k ks ih =>
    obtain ⟨hk, hks⟩ := List.nodup_cons.1 h
    have hfilter : ks.filter (fun j => !j == k) = ks := by
      refine List.filter_eq_self.2 fun j hj => ?_
      have hne : j ≠ k := fun he => hk (he ▸ hj)
      simpa using hne
    rw [List.eraseDups_cons, hfilter, ih hks]

/-- The numbers of rows of a table lead back to these rows. -/
theorem Table.filterMap_find? (h : Table num key path last table) (hrows : ∀ r ∈ rows, r ∈ table) :
    (rows.map num).filterMap (fun k => table.find? (num · = k)) = rows := by
  induction rows with
  | nil => rfl
  | cons r rows ih =>
    obtain ⟨hr, hrest⟩ := List.forall_mem_cons.1 hrows
    have hfind : table.find? (num · = num r) = some r := by
      refine h.find?_eq_some.2 ⟨hr, by simp, fun q _ hlt => ?_⟩
      simpa using Int.ne_of_lt hlt
    simp only [List.map_cons, List.filterMap_cons, hfind, ih hrest]

namespace Store

variable {st : Store}

theorem album?_eq_some_iff (h : st.Consistent) {n : Int} {a : AlbumRow} :
    st.album? n = some a ↔ a ∈ st.albums ∧ a.id = n := by
  constructor
  · intro ha
    exact ⟨List.mem_of_find?_eq_some ha, by simpa using List.find?_some ha⟩
  · rintro ⟨ha, rfl⟩
    exact album?_eq_some h ha

/-- A handle leads to the fields of a stored album. -/
def PlacedAt (st : Store) (s : Shelf) (n : Int) (h : Handle) : Prop :=
  ∃ a ∈ st.albums, a.id = n ∧ s.read h = a.info

theorem Placed.placedAt {places : List (Int × Handle)} {s : Shelf} (h : Placed st places s) {n : Int}
    {k : Handle} (hk : (n, k) ∈ places) : st.PlacedAt s n k := h.rows (n, k) hk

/-- Rows whose albums are placed are loaded one by one, each at a place of its album. -/
theorem place_rows (h : st.Consistent) {ρ τ : Type} {rows : List ρ} (owner : ρ → Int)
    (f : ρ → Handle → τ) (howner : ∀ r ∈ rows, st.HasAlbum (owner r)) (s : Shelf) :
    let placed := st.place (rows.map owner) s
    List.Forall₂ (fun r t => ∃ k, st.PlacedAt placed.2 (owner r) k ∧ t = f r k) rows
      (rows.filterMap fun r => (placed.1.lookup (owner r)).map (f r)) := by
  obtain ⟨hplaced, hnums⟩ := placed_place h (rows.map owner) s
  have hload := forall₂_lookup owner f fun r hr =>
    (hnums (owner r)).2 ⟨List.mem_map_of_mem hr, howner r hr⟩
  refine hload.imp ?_
  rintro r t ⟨k, hk, rfl⟩
  exact ⟨k, hplaced.placedAt hk, rfl⟩

theorem loadTracks_rows (h : st.Consistent) {rows : List TrackRow} (hrows : ∀ r ∈ rows, r ∈ st.tracks)
    (hnodup : (rows.map (·.id)).Nodup) (s : Shelf) :
    let loaded := st.loadTracks (rows.map (·.id)) s
    List.Forall₂ (fun r t => ∃ k, st.PlacedAt loaded.2 r.albumId k ∧ t = r.track k (st.genresOf r.id))
      rows loaded.1 := by
  have hfound : (rows.map (·.id)).eraseDups.filterMap st.track? = rows := by
    rw [eraseDups_of_nodup hnodup]
    exact h.tracks.filterMap_find? hrows
  simp only [loadTracks, hfound]
  exact place_rows h TrackRow.albumId (fun r k => r.track k (st.genresOf r.id))
    (fun r hr => h.trackOwner r (hrows r hr)) s

theorem loadExtras_rows (h : st.Consistent) {rows : List ExtraRow} (hrows : ∀ r ∈ rows, r ∈ st.extras)
    (hnodup : (rows.map (·.id)).Nodup) (s : Shelf) :
    let loaded := st.loadExtras (rows.map (·.id)) s
    List.Forall₂ (fun r e => ∃ k, st.PlacedAt loaded.2 r.albumId k ∧ e = r.extra k) rows loaded.1 := by
  have hfound : (rows.map (·.id)).eraseDups.filterMap st.extra? = rows := by
    rw [eraseDups_of_nodup hnodup]
    exact h.extras.filterMap_find? hrows
  simp only [loadExtras, hfound]
  exact place_rows h ExtraRow.albumId ExtraRow.extra (fun r hr => h.extraOwner r (hrows r hr)) s

/-- Albums are placed one after the other, each with the fields of its row. -/
theorem foldl_place (rows : List AlbumRow) (places : List (Int × Handle)) (s : Shelf) :
    let placed := rows.foldl (fun (places, s) r =>
      let (h, s) := s.add r.info; (places ++ [(r.id, h)], s)) (places, s)
    (∀ k, s.Holds k → placed.2.Holds k ∧ placed.2.read k = s.read k) ∧
      ∃ new, placed.1 = places ++ new ∧
        List.Forall₂ (fun r p => p.1 = r.id ∧ placed.2.read p.2 = r.info) rows new := by
  induction rows generalizing places s with
  | nil => exact ⟨fun k hk => ⟨hk, rfl⟩, [], (List.append_nil _).symm, .nil⟩
  | cons r rows ih =>
    obtain ⟨hkept, new, hnew, hrows⟩ := ih (places ++ [(r.id, (s.add r.info).1)]) (s.add r.info).2
    refine ⟨fun k hk => ?_, (r.id, (s.add r.info).1) :: new, ?_, .cons ⟨rfl, ?_⟩ hrows⟩
    · obtain ⟨hholds, hread⟩ := hkept k (hk.of_add r.info)
      exact ⟨hholds, hread.trans (Shelf.read_add_of_holds hk _)⟩
    · rw [List.foldl_cons, hnew, List.append_assoc]
      rfl
    · exact ((hkept _ (Shelf.holds_add s r.info)).2).trans (Shelf.read_add s r.info)

theorem loadAlbums_rows (h : st.Consistent) {rows : List AlbumRow} (hrows : ∀ r ∈ rows, r ∈ st.albums)
    (hnodup : (rows.map (·.id)).Nodup) (s : Shelf) :
    let loaded := st.loadAlbums (rows.map (·.id)) s
    List.Forall₂ (fun r a => ∃ k, loaded.2.read k = r.info ∧ a = st.albumAt r.id k) rows loaded.1 := by
  have hfound : (rows.map (·.id)).eraseDups.filterMap st.album? = rows := by
    rw [eraseDups_of_nodup hnodup]
    exact h.albums.filterMap_find? hrows
  obtain ⟨-, new, hnew, hplaces⟩ := foldl_place rows [] s
  rw [List.nil_append] at hnew
  simp only [loadAlbums, place, hfound]
  rw [hnew, List.forall₂_map_right_iff]
  refine hplaces.imp ?_
  rintro r ⟨n, k⟩ ⟨rfl, hread⟩
  exact ⟨k, hread, rfl⟩

end Store

end MusicLibrary

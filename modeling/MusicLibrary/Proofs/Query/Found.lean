import MusicLibrary.Proofs.Query.Words
import MusicLibrary.Proofs.Store.LoadedRows

/-!
# What a query finds

The items of a kind have an order of display in which no two of them are equal, and a query picks items in
that order (`ids_eq`). Loading what it picks gives the contents of the rows, whatever else is on the shelf
(`answers_eq`).
-/

namespace MusicLibrary

/-- Members that are never equal in an order are sorted the same way before and after some are left out. -/
theorem filter_mergeSort {α : Type} {c : α → α → Ordering} [Std.TransCmp c] {as : List α}
    (heq : ∀ a ∈ as, ∀ b ∈ as, c a b = .eq → a = b) (p : α → Bool) :
    (as.filter p).mergeSort (fun a b => (c a b).isLE) =
      (as.mergeSort fun a b => (c a b).isLE).filter p := by
  have hperm : ((as.filter p).mergeSort fun a b => (c a b).isLE).Perm
      ((as.mergeSort fun a b => (c a b).isLE).filter p) :=
    (List.mergeSort_perm _ _).trans ((List.mergeSort_perm _ _).symm.filter p)
  refine hperm.eq_of_pairwise ?_ (pairwise_mergeSort_isLE _) ((pairwise_mergeSort_isLE _).filter p)
  intro a b ha hb hab hba
  have hmem : ∀ x ∈ (as.filter p).mergeSort fun a b => (c a b).isLE, x ∈ as := fun x hx =>
    List.mem_of_mem_filter ((List.mergeSort_perm _ _).mem_iff.1 hx)
  exact heq a (hmem a ha) b (hmem b (hperm.mem_iff.2 hb)) (Std.OrientedCmp.isLE_antisymm hab hba)

/-! ## Rows of items -/

namespace JoinedRow

/-- The number of the row of an item. -/
def number (j : JoinedRow) : Int :=
  match j.track?, j.extra? with
  | some t, _ => t.id
  | none, some e => e.id
  | none, none => j.album.id

end JoinedRow

/-- What an item holds, wherever its album stands on the shelf: the fields of its album, and the item itself
with the same handle throughout. -/
def Item.content (s : Shelf) : Item → AlbumInfo × Item
  | .track t => (s.read t.album, .track (t.on default))
  | .album a => (s.read a.handle, .album (a.on default))
  | .extra e => (s.read e.album, .extra (e.on default))

/-- What the item of a row holds. -/
def JoinedRow.content (st : Store) (j : JoinedRow) : AlbumInfo × Item :=
  match j.track?, j.extra? with
  | some t, _ => (j.album.info, .track (t.track default (st.genresOf t.id)))
  | none, some e => (j.album.info, .extra (e.extra default))
  | none, none => (j.album.info, .album (st.albumAt j.album.id default))

namespace Query

variable {text : String} {kind : Kind} {st : Store} {k : Int} {q : Query} {j : JoinedRow} {a : AlbumRow}

/-! ## Numbers of items -/

theorem mem_trackRows {p : TrackRow × AlbumRow} :
    p ∈ trackRows st ↔ p.1 ∈ st.tracks ∧ st.album? p.1.albumId = some p.2 := by
  obtain ⟨t, a⟩ := p
  simp [trackRows]

theorem mem_extraRows {p : ExtraRow × AlbumRow} :
    p ∈ extraRows st ↔ p.1 ∈ st.extras ∧ st.album? p.1.albumId = some p.2 := by
  obtain ⟨e, a⟩ := p
  simp [extraRows]

/-- The numbers of the items that a text finds as a query for a kind. -/
def found (text : String) (kind : Kind) (st : Store) : List Int :=
  match parse text kind with
  | .error _ => []
  | .ok q => q.ids st

theorem execute_eq (text : String) (kind : Kind) (st : Store) (s : Shelf) :
    execute text kind st s = loadItems st kind (found text kind st) s := by
  unfold execute found
  rcases parse text kind with f | q
  · cases kind <;> rfl
  · rfl

theorem kind_of_parse (h : parse text kind = .ok q) : q.kind = kind := (parse_eq_ok_iff.1 h).1

/-- What a query for tracks finds are tracks of the store. -/
theorem hasTrack_of_found (h : k ∈ found text .track st) : st.HasTrack k := by
  unfold found at h
  rcases hp : parse text .track with f | q
  · rw [hp] at h
    cases h
  · rw [hp] at h
    simp only [ids, kind_of_parse hp] at h
    obtain ⟨p, hmem, rfl⟩ := List.mem_map.1 h
    have hrow := List.mem_of_mem_filter ((List.mergeSort_perm _ _).mem_iff.1 hmem)
    exact ⟨p.1, (mem_trackRows.1 hrow).1, rfl⟩

/-- What a query for albums finds are albums of the store. -/
theorem hasAlbum_of_found (h : k ∈ found text .album st) : st.HasAlbum k := by
  unfold found at h
  rcases hp : parse text .album with f | q
  · rw [hp] at h
    cases h
  · rw [hp] at h
    simp only [ids, kind_of_parse hp] at h
    obtain ⟨a, hmem, rfl⟩ := List.mem_map.1 h
    exact ⟨a, List.mem_of_mem_filter ((List.mergeSort_perm _ _).mem_iff.1 hmem), rfl⟩

/-- The rows of an album are those of its tracks, or its own if it has none. -/
theorem mem_albumRows : j ∈ albumRows st a ↔
    (∃ t ∈ st.tracks, t.albumId = a.id ∧ j = ⟨a, some t, none⟩) ∨
      (∀ t ∈ st.tracks, t.albumId ≠ a.id) ∧ j = ⟨a, none, none⟩ := by
  unfold albumRows
  rcases hf : st.tracks.filter (·.albumId = a.id) with _ | ⟨t, ts⟩
  · have hnone : ∀ t ∈ st.tracks, t.albumId ≠ a.id := by simpa using hf
    have hno : ¬ ∃ t ∈ st.tracks, t.albumId = a.id ∧ j = ⟨a, some t, none⟩ := by
      rintro ⟨t, ht, hta, -⟩
      exact hnone t ht hta
    simp only [hf]
    rw [List.mem_singleton, or_iff_right hno, and_iff_right hnone]
  · have hmem : ∀ u, u ∈ t :: ts ↔ u ∈ st.tracks ∧ u.albumId = a.id := by simp [← hf]
    have hsome : ¬ ∀ t ∈ st.tracks, t.albumId ≠ a.id := by
      obtain ⟨ht, hta⟩ := (hmem t).1 (.head _)
      exact fun h => h t ht hta
    simp only [hf]
    rw [List.mem_map, or_iff_left fun h => hsome h.1]
    simp only [hmem, and_assoc, eq_comm]

/-! ## The order of display -/

/-- The order in which albums are displayed. -/
def compareDisplayed (a b : AlbumRow) : Ordering := (compareAlbums a b).then (compare a.id b.id)

instance : Std.TransCmp compareTracks :=
  inferInstanceAs (Std.TransCmp (compareLex (compareLex (compareOn fun p : TrackRow × AlbumRow =>
    p.2.artist) (compareOn fun p => p.2.title)) (compareLex (compareOn fun p => p.1.disc)
    (compareLex (compareOn fun p => p.1.trackNum) (compareOn fun p => p.1.id)))))

instance : Std.TransCmp compareExtras :=
  inferInstanceAs (Std.TransCmp (compareLex (compareLex (compareOn fun p : ExtraRow × AlbumRow =>
    p.2.artist) (compareOn fun p => p.2.title)) (compareLex (compareOn fun p => p.1.filename)
    (compareOn fun p => p.1.id))))

instance : Std.TransCmp compareDisplayed :=
  inferInstanceAs (Std.TransCmp (compareLex (compareLex (compareOn AlbumRow.artist)
    (compareOn AlbumRow.title)) (compareOn AlbumRow.id)))

/-- The rows of the items of a kind, each with its album, in the order of display. -/
def displayed (st : Store) : Kind → List JoinedRow
  | .track => ((trackRows st).mergeSort fun p r => (compareTracks p r).isLE).map fun p =>
    ⟨p.2, some p.1, none⟩
  | .album => (st.albums.mergeSort fun a b => (compareDisplayed a b).isLE).map fun a => ⟨a, none, none⟩
  | .extra => ((extraRows st).mergeSort fun p r => (compareExtras p r).isLE).map fun p =>
    ⟨p.2, none, some p.1⟩

/-- Whether a query finds the item of a row: an album with one of its tracks, or, if it has none, alone. -/
def finds (q : Query) (st : Store) (j : JoinedRow) : Bool :=
  match q.kind with
  | .album => (albumRows st j.album).any (q.holds st)
  | .track | .extra => q.holds st j

theorem mem_displayed_track : j ∈ displayed st .track ↔
    ∃ t ∈ st.tracks, ∃ a, st.album? t.albumId = some a ∧ j = ⟨a, some t, none⟩ := by
  simp only [displayed, List.mem_map, (List.mergeSort_perm _ _).mem_iff, mem_trackRows, Prod.exists,
    eq_comm, and_assoc, exists_and_left]

theorem mem_displayed_album : j ∈ displayed st .album ↔ ∃ a ∈ st.albums, j = ⟨a, none, none⟩ := by
  simp only [displayed, List.mem_map, (List.mergeSort_perm _ _).mem_iff, eq_comm]

theorem mem_displayed_extra : j ∈ displayed st .extra ↔
    ∃ e ∈ st.extras, ∃ a, st.album? e.albumId = some a ∧ j = ⟨a, none, some e⟩ := by
  simp only [displayed, List.mem_map, (List.mergeSort_perm _ _).mem_iff, mem_extraRows, Prod.exists,
    eq_comm, and_assoc, exists_and_left]

theorem map_filter_mergeSort {α : Type} {c : α → α → Ordering} [Std.TransCmp c] (rows : List α)
    (heq : ∀ a ∈ rows, ∀ b ∈ rows, c a b = .eq → a = b) (row : α → JoinedRow) (p : JoinedRow → Bool) :
    ((rows.filter fun a => p (row a)).mergeSort fun a b => (c a b).isLE).map (fun a => (row a).number) =
      (((rows.mergeSort fun a b => (c a b).isLE).map row).filter p).map JoinedRow.number := by
  rw [filter_mergeSort heq, List.filter_map, List.map_map]
  rfl

/-- A query picks items in the order of display. -/
theorem ids_eq (h : st.Consistent) (q : Query) :
    q.ids st = ((displayed st q.kind).filter (q.finds st)).map JoinedRow.number := by
  obtain ⟨kind, ps⟩ := q
  cases kind with
  | track =>
    refine map_filter_mergeSort (c := compareTracks) (trackRows st) ?_
      (fun p => ⟨p.2, some p.1, none⟩) (finds ⟨.track, ps⟩ st)
    rintro ⟨t, a⟩ hp ⟨u, b⟩ hq heq
    obtain ⟨ht, ha⟩ := mem_trackRows.1 hp
    obtain ⟨hu, hb⟩ := mem_trackRows.1 hq
    simp only [compareTracks, Ordering.then_eq_eq, Int.compare_eq_eq] at heq
    obtain rfl : t = u := h.tracks.eq_of_num ht hu heq.2.2.2
    cases ha.symm.trans hb
    rfl
  | album =>
    refine map_filter_mergeSort (c := compareDisplayed) st.albums ?_
      (fun a => ⟨a, none, none⟩) (finds ⟨.album, ps⟩ st)
    intro a ha b hb heq
    simp only [compareDisplayed, Ordering.then_eq_eq, Int.compare_eq_eq] at heq
    exact h.albums.eq_of_num ha hb heq.2
  | extra =>
    refine map_filter_mergeSort (c := compareExtras) (extraRows st) ?_
      (fun p => ⟨p.2, none, some p.1⟩) (finds ⟨.extra, ps⟩ st)
    rintro ⟨e, a⟩ hp ⟨f, b⟩ hq heq
    obtain ⟨he, ha⟩ := mem_extraRows.1 hp
    obtain ⟨hf, hb⟩ := mem_extraRows.1 hq
    simp only [compareExtras, Ordering.then_eq_eq, Int.compare_eq_eq] at heq
    obtain rfl : e = f := h.extras.eq_of_num he hf heq.2.2
    cases ha.symm.trans hb
    rfl

/-- What a text finds are the numbers of displayed rows, in the order of display. -/
theorem exists_sublist_found (h : st.Consistent) (text : String) (kind : Kind) :
    ∃ js : List JoinedRow, js.Sublist (displayed st kind) ∧ found text kind st = js.map JoinedRow.number := by
  unfold found
  rcases hq : parse text kind with f | q
  · exact ⟨[], List.nil_sublist _, rfl⟩
  · obtain rfl := kind_of_parse hq
    exact ⟨_, List.filter_sublist, ids_eq h q⟩

/-- A text finds the numbers of the displayed rows on which it holds as a query. -/
theorem mem_found (h : st.Consistent) : k ∈ found text kind st ↔
    ∃ q, parse text kind = .ok q ∧ ∃ j ∈ displayed st kind, q.finds st j = true ∧ j.number = k := by
  unfold found
  rcases hq : parse text kind with f | q
  · simp
  · obtain rfl := kind_of_parse hq
    simp [ids_eq h, and_assoc]

/-! ## Loading what is found -/

theorem nodup_map_fst {ρ : Type} {rows : List ρ} {num : ρ → Int} {album? : ρ → Option AlbumRow}
    (h : (rows.map num).Nodup) :
    ((rows.filterMap fun r => (album? r).map (r, ·)).map fun p => num p.1).Nodup := by
  refine List.Nodup.sublist ?_ h
  induction rows with
  | nil => exact .slnil
  | cons r rows ih =>
    have ih := ih (List.nodup_cons.1 h).2
    rcases ha : album? r with _ | a
    · simp only [List.filterMap_cons, ha, Option.map_none]
      exact ih.cons _
    · simp only [List.filterMap_cons, ha, Option.map_some, List.map_cons]
      exact ih.cons_cons _

/-- No two items of a kind have the same number. -/
theorem nodup_number_displayed (h : st.Consistent) :
    ((displayed st kind).map JoinedRow.number).Nodup := by
  cases kind with
  | track =>
    rw [displayed, List.map_map, ((List.mergeSort_perm _ _).map _).nodup_iff]
    exact nodup_map_fst h.tracks.nodup_nums
  | album =>
    rw [displayed, List.map_map, ((List.mergeSort_perm _ _).map _).nodup_iff]
    exact h.albums.nodup_nums
  | extra =>
    rw [displayed, List.map_map, ((List.mergeSort_perm _ _).map _).nodup_iff]
    exact nodup_map_fst h.extras.nodup_nums

theorem map_eq_map_of_forall₂ {α β γ : Type} {f : α → γ} {g : β → γ} {as : List α} {bs : List β}
    (h : List.Forall₂ (fun a b => g b = f a) as bs) : bs.map g = as.map f := by
  induction h with
  | nil => rfl
  | cons hab _ ih => rw [List.map_cons, List.map_cons, hab, ih]

/-- Members that are loaded at places of their albums hold what their rows hold. -/
theorem map_content_eq (h : st.Consistent) {ρ τ : Type} {owner : ρ → Int} {ps : List (ρ × AlbumRow)}
    (hps : ∀ p ∈ ps, st.album? (owner p.1) = some p.2) {f : ρ → Handle → τ} {ts : List τ} {s : Shelf}
    (hload : List.Forall₂ (fun r t => ∃ k, st.PlacedAt s (owner r) k ∧ t = f r k) (ps.map (·.1)) ts)
    (item : τ → Item)
    (hcontent : ∀ r k, (item (f r k)).content s = (s.read k, item (f r default))) :
    ts.map (fun t => (item t).content s) = ps.map fun p => (p.2.info, item (f p.1 default)) := by
  rw [List.forall₂_map_left_iff] at hload
  refine map_eq_map_of_forall₂ (((List.forall₂_and_left _ _).2 ⟨hps, hload⟩).imp ?_)
  rintro ⟨r, a⟩ t ⟨ha, k, ⟨a', ha', hid, hread⟩, rfl⟩
  rw [← hid, Store.album?_eq_some h ha'] at ha
  cases ha
  rw [hcontent, hread]

theorem contents_loadTracks (h : st.Consistent) {ps : List (TrackRow × AlbumRow)}
    (hps : ∀ p ∈ ps, p ∈ trackRows st) (hnodup : (ps.map (·.1.id)).Nodup) (s : Shelf) :
    let loaded := st.loadTracks (ps.map (·.1.id)) s
    loaded.1.map (fun t => (Item.track t).content loaded.2) =
      ps.map fun p => JoinedRow.content st ⟨p.2, some p.1, none⟩ := by
  have hrows : ∀ r ∈ ps.map (·.1), r ∈ st.tracks :=
    List.forall_mem_map.2 fun p hp => (mem_trackRows.1 (hps p hp)).1
  have hload := Store.loadTracks_rows h hrows (by rwa [List.map_map]) s
  rw [List.map_map] at hload
  exact map_content_eq h (fun p hp => (mem_trackRows.1 (hps p hp)).2) hload .track fun _ _ => rfl

theorem contents_loadExtras (h : st.Consistent) {ps : List (ExtraRow × AlbumRow)}
    (hps : ∀ p ∈ ps, p ∈ extraRows st) (hnodup : (ps.map (·.1.id)).Nodup) (s : Shelf) :
    let loaded := st.loadExtras (ps.map (·.1.id)) s
    loaded.1.map (fun e => (Item.extra e).content loaded.2) =
      ps.map fun p => JoinedRow.content st ⟨p.2, none, some p.1⟩ := by
  have hrows : ∀ r ∈ ps.map (·.1), r ∈ st.extras :=
    List.forall_mem_map.2 fun p hp => (mem_extraRows.1 (hps p hp)).1
  have hload := Store.loadExtras_rows h hrows (by rwa [List.map_map]) s
  rw [List.map_map] at hload
  exact map_content_eq h (fun p hp => (mem_extraRows.1 (hps p hp)).2) hload .extra fun _ _ => rfl

theorem contents_loadAlbums (h : st.Consistent) {as : List AlbumRow} (has : ∀ a ∈ as, a ∈ st.albums)
    (hnodup : (as.map (·.id)).Nodup) (s : Shelf) :
    let loaded := st.loadAlbums (as.map (·.id)) s
    loaded.1.map (fun a => (Item.album a).content loaded.2) =
      as.map fun a => JoinedRow.content st ⟨a, none, none⟩ := by
  refine map_eq_map_of_forall₂ ((Store.loadAlbums_rows h has hnodup s).imp ?_)
  rintro r a ⟨k, hread, rfl⟩
  refine Prod.ext hread ?_
  simp only [Item.content, JoinedRow.content, Store.albumAt, Album.on, List.map_map]
  rfl

/-- Items that are asked for by their numbers in the order of display hold what their rows hold. -/
theorem contents_loadItems (h : st.Consistent) {js : List JoinedRow}
    (hjs : js.Sublist (displayed st kind)) (s : Shelf) :
    let loaded := loadItems st kind (js.map JoinedRow.number) s
    loaded.1.map (Item.content loaded.2) = js.map (JoinedRow.content st) := by
  have hnodup := (nodup_number_displayed h).sublist (hjs.map JoinedRow.number)
  cases kind with
  | track =>
    obtain ⟨ps, hps, rfl⟩ := List.sublist_map_iff.1 hjs
    have hmem : ∀ p ∈ ps, p ∈ trackRows st := fun p hp =>
      (List.mergeSort_perm _ _).mem_iff.1 (hps.subset hp)
    rw [List.map_map] at hnodup ⊢
    rw [List.map_map]
    simp only [loadItems, List.map_map]
    exact contents_loadTracks h hmem hnodup s
  | album =>
    obtain ⟨as, has, rfl⟩ := List.sublist_map_iff.1 hjs
    have hmem : ∀ a ∈ as, a ∈ st.albums := fun a ha =>
      (List.mergeSort_perm _ _).mem_iff.1 (has.subset ha)
    rw [List.map_map] at hnodup ⊢
    rw [List.map_map]
    simp only [loadItems, List.map_map]
    exact contents_loadAlbums h hmem hnodup s
  | extra =>
    obtain ⟨ps, hps, rfl⟩ := List.sublist_map_iff.1 hjs
    have hmem : ∀ p ∈ ps, p ∈ extraRows st := fun p hp =>
      (List.mergeSort_perm _ _).mem_iff.1 (hps.subset hp)
    rw [List.map_map] at hnodup ⊢
    rw [List.map_map]
    simp only [loadItems, List.map_map]
    exact contents_loadExtras h hmem hnodup s

/-! ## Answers -/

/-- What the items hold that a text finds as a query for a kind, in order. -/
def answers (text : String) (kind : Kind) (st : Store) (s : Shelf) : List (AlbumInfo × Item) :=
  let (items, s) := execute text kind st s
  items.map (Item.content s)

/-- The number that an answer tells. -/
def numberOf? : AlbumInfo × Item → Option Int
  | (_, .track t) => t.id?
  | (i, .album _) => i.id?
  | (_, .extra e) => e.id?

theorem numberOf?_content (st : Store) (j : JoinedRow) : numberOf? (j.content st) = some j.number := by
  obtain ⟨a, _ | t, _ | e⟩ := j <;> rfl

/-- A query gives the contents of the rows that it finds, in the order of display. -/
theorem answers_eq (h : st.Consistent) (hq : parse text kind = .ok q) (s : Shelf) :
    answers text kind st s = ((displayed st kind).filter (q.finds st)).map (JoinedRow.content st) := by
  obtain rfl := kind_of_parse hq
  unfold answers execute
  rw [hq]
  simp only [ids_eq h]
  exact contents_loadItems h List.filter_sublist s

end Query

end MusicLibrary

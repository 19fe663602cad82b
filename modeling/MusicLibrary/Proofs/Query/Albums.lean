import MusicLibrary.Proofs.Query.Found
import MusicLibrary.Proofs.Store.Rewritten
import MusicLibrary.Proofs.Text.Bytes

/-!
# Queries for albums and for tracks

A text is a query for albums if it is one for tracks (`parse_track_iff`). As a query for albums it finds the
albums of the tracks that it finds as a query for tracks, and those albums without tracks on which all of it
holds. They come with all their members, each once, by artist, title and number (`execute_album`).
-/

namespace MusicLibrary

/-- The order of albums: by the bytes of the artist, then by those of the title, then by number. -/
def AlbumRow.Precedes (a b : AlbumRow) : Prop :=
  Text.bytes a.artist < Text.bytes b.artist ∨ a.artist = b.artist ∧
    (Text.bytes a.title < Text.bytes b.title ∨ a.title = b.title ∧ a.id < b.id)

theorem isLE_compare_then {s t : String} {o : Ordering} (h : ((compare s t).then o).isLE) :
    s < t ∨ s = t ∧ o.isLE := by
  rw [Ordering.isLE_then_iff_or, Std.compare_eq_iff_eq] at h
  exact h.imp_left Batteries.compareOfLessAndEq_eq_lt.1

namespace Query

variable {text : String} {kind : Kind} {st : Store} {q : Query} {ps : List Predicate} {t : Term}
  {p : Predicate} {a b : AlbumRow} {j : JoinedRow}

theorem precedes_of_isLE (h : (compareDisplayed a b).isLE) (hne : a.id ≠ b.id) : a.Precedes b := by
  rw [compareDisplayed, compareAlbums, Ordering.then_assoc] at h
  rcases isLE_compare_then h with hlt | ⟨hartist, h⟩
  · exact .inl (Text.bytes_lt_of_lt hlt)
  · rcases isLE_compare_then h with hlt | ⟨htitle, h⟩
    · exact .inr ⟨hartist, .inl (Text.bytes_lt_of_lt hlt)⟩
    · have hle : a.id ≤ b.id := Int.isLE_compare.1 h
      exact .inr ⟨hartist, .inr ⟨htitle, by omega⟩⟩

/-! ## The fields of a query -/

theorem field_mem_table (h : Predicate.ofTerm kind t = .ok p) : p.field ∈ Field.table kind := by
  unfold Predicate.ofTerm at h
  split at h
  · cases h
  · rename_i f hf
    have hmem : f ∈ Field.table kind := List.mem_of_find?_eq_some hf
    split at h
    · split_ifs at h
      cases h
      exact hmem
    · split at h
      · cases h
      · cases h
        exact hmem

theorem ofTerm_track_iff : Predicate.ofTerm .track t = .ok p ↔ Predicate.ofTerm .album t = .ok p := by
  have hfind : Field.find? .track t.field = Field.find? .album t.field := rfl
  unfold Predicate.ofTerm
  rw [hfind]
  cases Field.find? .album t.field with
  | none => simp
  | some f => rfl

/-- A text is a query for tracks exactly if it is one for albums, with the same predicates. -/
theorem parse_track_iff :
    parse text .track = .ok ⟨.track, ps⟩ ↔ parse text .album = .ok ⟨.album, ps⟩ := by
  simp only [parse_eq_ok_iff, ofTerm_track_iff, true_and]

/-- On an album alone the fields of tracks have no value. -/
theorem not_holds_alone (h : p.field ∈ Field.trackFields) : ¬ p.holds st ⟨a, none, none⟩ := by
  have hvalues : ∀ f ∈ Field.trackFields, f.column.values st ⟨a, none, none⟩ = [] := by
    simp [Field.trackFields, Column.values]
  simp [Predicate.holds, hvalues p.field h]

/-! ## Albums with their tracks -/

/-- A query holds on an album alone if all its predicates are of fields of albums and hold there. -/
theorem holds_alone_iff (hq : parse text .album = .ok q) : q.holds st ⟨a, none, none⟩ ↔
    ∀ p ∈ q.predicates, p.field ∈ Field.albumFields ∧ p.holds st ⟨a, none, none⟩ := by
  obtain ⟨-, ts, hts, -⟩ := parse_eq_ok_iff.1 hq
  rw [holds, List.all_eq_true]
  refine forall₂_congr fun p hp => ⟨fun hholds => ⟨?_, hholds⟩, And.right⟩
  obtain ⟨t, -, ht⟩ := (mem_predicates_iff hq hts).1 hp
  rcases List.mem_append.1 (field_mem_table ht) with htrack | halbum
  · exact absurd hholds (not_holds_alone htrack)
  · exact halbum

/-- A query for tracks finds a track of an album if it holds on the album with one of its tracks. -/
theorem exists_mem_answers_track (h : st.Consistent) (hq : parse text .track = .ok q)
    (ha : a ∈ st.albums) {s : Shelf} :
    (∃ i t, (i, Item.track t) ∈ answers text .track st s ∧ i.id? = some a.id) ↔
      ∃ t ∈ st.tracks, t.albumId = a.id ∧ q.holds st ⟨a, some t, none⟩ := by
  have hfinds : ∀ j, q.finds st j = q.holds st j := fun j => by
    unfold finds
    rw [kind_of_parse hq]
  rw [answers_eq h hq]
  constructor
  · rintro ⟨i, u, hmem, hid⟩
    obtain ⟨j, hj, heq⟩ := List.mem_map.1 hmem
    obtain ⟨hj, hholds⟩ := List.mem_filter.1 hj
    obtain ⟨t, ht, b, hb, rfl⟩ := mem_displayed_track.1 hj
    obtain ⟨rfl, -⟩ := Prod.mk.inj heq
    obtain ⟨hbmem, hbt⟩ := (Store.album?_eq_some_iff h).1 hb
    have hba : b = a := h.albums.eq_of_num hbmem ha (Option.some.inj hid)
    subst hba
    exact ⟨t, ht, hbt.symm, (hfinds _).symm.trans hholds⟩
  · rintro ⟨t, ht, hta, hholds⟩
    have hj : ⟨a, some t, none⟩ ∈ displayed st .track :=
      mem_displayed_track.2 ⟨t, ht, a, (Store.album?_eq_some_iff h).2 ⟨ha, hta.symm⟩, rfl⟩
    exact ⟨a.info, t.track default (st.genresOf t.id),
      List.mem_map_of_mem (List.mem_filter.2 ⟨hj, (hfinds _).trans hholds⟩), rfl⟩

/-! ## What a query for albums finds -/

/-- The rows of the albums that a query finds, in the order of display. -/
def foundAlbums (q : Query) (st : Store) : List AlbumRow :=
  (st.albums.mergeSort fun a b => (compareDisplayed a b).isLE).filter fun a =>
    (albumRows st a).any (q.holds st)

theorem ids_album (h : st.Consistent) (hkind : q.kind = .album) :
    q.ids st = (q.foundAlbums st).map (·.id) := by
  obtain ⟨kind, ps⟩ := q
  obtain rfl : kind = .album := hkind
  rw [ids_eq h, displayed, List.filter_map, List.map_map]
  rfl

theorem pairwise_precedes_foundAlbums (h : st.Consistent) (q : Query) :
    (q.foundAlbums st).Pairwise AlbumRow.Precedes := by
  have hle := pairwise_mergeSort_isLE (c := compareDisplayed) st.albums
  have hnums : ((st.albums.mergeSort fun a b => (compareDisplayed a b).isLE).map (·.id)).Nodup :=
    ((List.mergeSort_perm _ _).map _).nodup_iff.2 h.albums.nodup_nums
  have hne := List.pairwise_map.1 hnums
  exact ((hle.and hne).imp fun hab => precedes_of_isLE hab.1 hab.2).filter _

theorem mem_foundAlbums (h : st.Consistent) (hq : parse text .album = .ok q) (s : Shelf) :
    a ∈ q.foundAlbums st ↔ a ∈ st.albums ∧
      ((∃ i t, (i, Item.track t) ∈ answers text .track st s ∧ i.id? = some a.id) ∨
        (∀ t ∈ st.tracks, t.albumId ≠ a.id) ∧
          ∀ p ∈ q.predicates, p.field ∈ Field.albumFields ∧ p.holds st ⟨a, none, none⟩) := by
  rw [foundAlbums, List.mem_filter, (List.mergeSort_perm _ _).mem_iff]
  refine and_congr_right fun ha => ?_
  have hqt : parse text .track = .ok ⟨.track, q.predicates⟩ :=
    parse_track_iff.2 (kind_of_parse hq ▸ hq)
  rw [exists_mem_answers_track h hqt ha, ← holds_alone_iff hq, List.any_eq_true]
  simp only [mem_albumRows]
  constructor
  · rintro ⟨j, ⟨t, ht, hta, rfl⟩ | ⟨hnone, rfl⟩, hholds⟩
    · exact .inl ⟨t, ht, hta, hholds⟩
    · exact .inr ⟨hnone, hholds⟩
  · rintro (⟨t, ht, hta, hholds⟩ | ⟨hnone, hholds⟩)
    · exact ⟨_, .inl ⟨t, ht, hta, rfl⟩, hholds⟩
    · exact ⟨_, .inr ⟨hnone, rfl⟩, hholds⟩

/-- A query for albums finds the albums of which the same text, as a query for tracks, finds a track, and
those without tracks whose own row satisfies each term by a field of albums. Each is found once, in the order
of artist, title and number, and loaded with all its tracks and extras. -/
theorem execute_album (h : st.Reachable) (hq : parse text .album = .ok q) (s₁ s₂ : Shelf) :
    let found := execute text .album st s₁
    parse text .track = .ok ⟨.track, q.predicates⟩ ∧
    ∃ rows : List AlbumRow, rows.Pairwise AlbumRow.Precedes ∧
      (∀ r, r ∈ rows ↔ r ∈ st.albums ∧
        ((∃ i t, (i, Item.track t) ∈ answers text .track st s₂ ∧ i.id? = some r.id) ∨
          (∀ t ∈ st.tracks, t.albumId ≠ r.id) ∧
            ∀ p ∈ q.predicates, p.field ∈ Field.albumFields ∧ p.holds st ⟨r, none, none⟩)) ∧
      List.Forall₂ (fun r i => ∃ a : Album, i = .album a ∧ a.info found.2 = r.info ∧
        a.tracks.Perm ((st.tracks.filter (·.albumId = r.id)).map fun t =>
          t.track a.handle (st.genresOf t.id)) ∧
        a.extras.Perm ((st.extras.filter (·.albumId = r.id)).map (·.extra a.handle))) rows found.1 := by
  have hcon := h.consistent
  have hkind := kind_of_parse hq
  have hnodup : ((q.foundAlbums st).map (·.id)).Nodup :=
    (h.consistent.albums.nodup_nums.perm ((List.mergeSort_perm _ _).map _).symm).sublist
      (List.filter_sublist.map _)
  have hmem : ∀ r ∈ q.foundAlbums st, r ∈ st.albums := fun r hr => ((mem_foundAlbums hcon hq s₂).1 hr).1
  refine ⟨parse_track_iff.2 (hkind ▸ hq), q.foundAlbums st, pairwise_precedes_foundAlbums hcon q,
    fun r => mem_foundAlbums hcon hq s₂, ?_⟩
  unfold execute
  simp only [hq, loadItems, ids_album hcon hkind]
  rw [List.forall₂_map_right_iff]
  refine (Store.loadAlbums_rows hcon hmem hnodup s₁).imp ?_
  rintro r a ⟨k, hread, rfl⟩
  exact ⟨_, rfl, hread, (List.mergeSort_perm _ _).map _, (List.mergeSort_perm _ _).map _⟩

/-- An album that is found for one of its tracks comes with its other track as well. -/
theorem execute_album_otherTrack :
    Store.twoStored.Reachable ∧ (∃ q, parse "title:o%" .album = .ok q) ∧
      ∃ a, (execute "title:o%" .album Store.twoStored .empty).1 = [.album a] ∧ a.tracks.length = 2 := by
  have hreach : Store.twoStored.Reachable := ⟨_, rfl⟩
  obtain ⟨q, hq⟩ := exists_ok_of_isSome (x := parse "title:o%" .album) (by decide +kernel)
  have hone : (execute "title:o%" .album Store.twoStored .empty).1.length = 1 := by decide +kernel
  have htwo : ∀ r ∈ Store.twoStored.albums,
      (Store.twoStored.tracks.filter (·.albumId = r.id)).length = 2 := by decide +kernel
  obtain ⟨-, rows, -, hrows, hload⟩ := execute_album hreach hq .empty .empty
  obtain ⟨i, hi⟩ := List.length_eq_one_iff.1 hone
  rw [hi] at hload
  obtain ⟨r, rs, ⟨a, rfl, -, htracks, -⟩, -, rfl⟩ := List.forall₂_cons_right_iff.1 hload
  refine ⟨hreach, ⟨q, hq⟩, a, hi, ?_⟩
  rw [htracks.length_eq, List.length_map]
  exact htwo r ((hrows r).1 (.head _)).1

end Query

end MusicLibrary

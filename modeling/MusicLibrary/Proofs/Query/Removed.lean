import MusicLibrary.Proofs.Query.Found
import MusicLibrary.Proofs.Store.Removed

/-!
# Queries after a removal

Whether a query finds an item depends on the rows of the item, of its album and of that album's tracks alone.
When items of the kind are removed, these rows stay with each item that is left. So a query finds those that
it found before and that are left (`mem_found_removing`).
-/

namespace MusicLibrary

/-- The values of a column depend on the joined rows and on the genres of the track among them. -/
theorem Column.values_congr {st st' : Store} {j : JoinedRow}
    (hgenres : ∀ t, j.track? = some t → st'.genresOf t.id = st.genresOf t.id) (c : Column) :
    c.values st' j = c.values st j := by
  cases c with
  | trackGenres =>
    unfold values
    rcases ht : j.track? with _ | t
    · rfl
    · exact hgenres t ht
  | _ => rfl

namespace Query

variable {text : String} {kind : Kind} {st st' : Store} {k : Int} {ids : List Int} {q : Query}
  {j : JoinedRow} {a : AlbumRow}

theorem holds_of_genresOf (hgenres : ∀ t, j.track? = some t → st'.genresOf t.id = st.genresOf t.id) :
    q.holds st' j = q.holds st j := by
  unfold holds Predicate.holds
  simp only [Column.values_congr hgenres]

/-- Of the displayed items those are left that have not been removed. -/
theorem mem_displayed_removing : j ∈ displayed (st.removing kind ids) kind ↔
    j ∈ displayed st kind ∧ j.number ∉ ids := by
  cases kind with
  | track =>
    rw [mem_displayed_track, mem_displayed_track]
    constructor
    · rintro ⟨t, ht, a, ha, rfl⟩
      obtain ⟨ht, hkept⟩ := List.mem_filter.1 ht
      exact ⟨⟨t, ht, a, ha, rfl⟩, of_decide_eq_true hkept⟩
    · rintro ⟨⟨t, ht, a, ha, rfl⟩, hkept⟩
      exact ⟨t, List.mem_filter.2 ⟨ht, decide_eq_true hkept⟩, a, ha, rfl⟩
  | album =>
    rw [mem_displayed_album, mem_displayed_album]
    constructor
    · rintro ⟨a, ha, rfl⟩
      obtain ⟨ha, hkept⟩ := List.mem_filter.1 ha
      exact ⟨⟨a, ha, rfl⟩, of_decide_eq_true hkept⟩
    · rintro ⟨⟨a, ha, rfl⟩, hkept⟩
      exact ⟨a, List.mem_filter.2 ⟨ha, decide_eq_true hkept⟩, rfl⟩
  | extra =>
    rw [mem_displayed_extra, mem_displayed_extra]
    constructor
    · rintro ⟨e, he, a, ha, rfl⟩
      obtain ⟨he, hkept⟩ := List.mem_filter.1 he
      exact ⟨⟨e, he, a, ha, rfl⟩, of_decide_eq_true hkept⟩
    · rintro ⟨⟨e, he, a, ha, rfl⟩, hkept⟩
      exact ⟨e, List.mem_filter.2 ⟨he, decide_eq_true hkept⟩, a, ha, rfl⟩

/-- An album that is left has the tracks that it had. -/
theorem albumRows_removing (ha : a.id ∉ ids) : albumRows (st.removing .album ids) a = albumRows st a := by
  have htracks : (st.removing .album ids).tracks.filter (·.albumId = a.id) =
      st.tracks.filter (·.albumId = a.id) := by
    simp only [Store.removing]
    rw [List.filter_comm, List.filter_eq_self]
    intro t ht
    have hta : t.albumId = a.id := of_decide_eq_true (List.mem_filter.1 ht).2
    rw [hta]
    exact decide_eq_true ha
  unfold albumRows
  rw [htracks]

/-- A query finds an item that is left exactly if it found it before. -/
theorem finds_removing (h : st.Consistent) (hkind : q.kind = kind)
    (hj : j ∈ displayed (st.removing kind ids) kind) :
    q.finds (st.removing kind ids) j = q.finds st j := by
  unfold finds
  cases kind with
  | track =>
    obtain ⟨t, ht, a, -, rfl⟩ := mem_displayed_track.1 hj
    rw [hkind]
    refine holds_of_genresOf ?_
    rintro u ⟨⟩
    exact Store.genresOf_removing h ht
  | album =>
    obtain ⟨-, hkept⟩ := mem_displayed_removing.1 hj
    obtain ⟨a, -, rfl⟩ := mem_displayed_album.1 hj
    rw [hkind]
    show (albumRows (st.removing .album ids) a).any _ = (albumRows st a).any _
    have hrows : albumRows (st.removing .album ids) a = albumRows st a := albumRows_removing hkept
    rw [hrows, Bool.eq_iff_iff, List.any_eq_true, List.any_eq_true]
    refine exists_congr fun r => and_congr_right fun hr => ?_
    rw [← hrows] at hr
    rw [holds_of_genresOf]
    intro u hu
    rcases mem_albumRows.1 hr with ⟨t, ht, -, rfl⟩ | ⟨-, rfl⟩
    · cases hu
      exact Store.genresOf_removing h ht
    · cases hu
  | extra =>
    rw [hkind]
    exact holds_of_genresOf fun _ _ => rfl

/-- After a removal a query finds what it found before and is left. -/
theorem mem_found_removing (h : st.Consistent) :
    k ∈ found text kind (st.removing kind ids) ↔ k ∈ found text kind st ∧ k ∉ ids := by
  rw [mem_found (h.removing kind ids), mem_found h]
  constructor
  · rintro ⟨q, hq, j, hj, hfinds, rfl⟩
    rw [finds_removing h (kind_of_parse hq) hj] at hfinds
    obtain ⟨hj, hkept⟩ := mem_displayed_removing.1 hj
    exact ⟨⟨q, hq, j, hj, hfinds, rfl⟩, hkept⟩
  · rintro ⟨⟨q, hq, j, hj, hfinds, rfl⟩, hkept⟩
    have hleft := mem_displayed_removing.2 ⟨hj, hkept⟩
    rw [← finds_removing h (kind_of_parse hq) hleft] at hfinds
    exact ⟨q, hq, j, hleft, hfinds, rfl⟩

/-- A query finds nothing once all that it finds has been removed. -/
theorem found_removing_found (h : st.Consistent) (text : String) (kind : Kind) :
    found text kind (st.removing kind (found text kind st)) = [] := by
  rw [List.eq_nil_iff_forall_not_mem]
  intro k hk
  obtain ⟨hfound, hleft⟩ := (mem_found_removing h).1 hk
  exact hleft hfound

end Query

end MusicLibrary

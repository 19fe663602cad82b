import MusicLibrary.Proofs.Edit
import MusicLibrary.Proofs.Store.Rewritten

/-!
# Stores with assigned fields

Edits are assigned to some of the albums and tracks of a store at once (`Store.assignTo`). A command saves
the edited items one by one instead, and in between only some of them have been assigned (`Store.Midway`).
Nothing is refused in between unless it would be in the end: all items are assigned the same values, so two
items that meet midway meet for good (`nodup_assignRows_of_subset`). `Midway.saveTrack` and
`Midway.saveAlbum` are the steps.
-/

namespace MusicLibrary

open FieldEdit

/-! ## Rows -/

section Rows

variable {ρ κ : Type} {num : ρ → Int} {key : ρ → κ} {f : ρ → ρ} {ids ids' : List Int} {rows : List ρ}
  {r : ρ}

/-- The rows of a list, of which those of the given numbers have been changed. -/
def assignRows (num : ρ → Int) (f : ρ → ρ) (ids : List Int) (rows : List ρ) : List ρ :=
  rows.map fun r => if num r ∈ ids then f r else r

theorem assignRows_nil : assignRows num f [] rows = rows := by
  unfold assignRows
  simp

theorem assignRows_congr (h : ∀ k, k ∈ ids ↔ k ∈ ids') :
    assignRows num f ids rows = assignRows num f ids' rows := by
  unfold assignRows
  simp only [h]

/-- A row of a changed list has been changed or not, as its number tells. -/
theorem mem_assignRows (hnum : ∀ r, num (f r) = num r) (hr : r ∈ assignRows num f ids rows) :
    ∃ q ∈ rows, num q = num r ∧ r = if num q ∈ ids then f q else q := by
  obtain ⟨q, hq, rfl⟩ := List.mem_map.1 hr
  refine ⟨q, hq, ?_, rfl⟩
  split_ifs
  · exact (hnum q).symm
  · rfl

theorem map_num_assignRows (hnum : ∀ r, num (f r) = num r) :
    (assignRows num f ids rows).map num = rows.map num := by
  unfold assignRows
  rw [List.map_map]
  refine List.map_congr_left fun r _ => ?_
  show num (if num r ∈ ids then f r else r) = num r
  split_ifs
  · exact hnum r
  · rfl

/-- Changing one more row replaces it. -/
theorem replaceRow_assignRows (hnodup : (rows.map num).Nodup) (hr : r ∈ rows)
    (hnum : ∀ r, num (f r) = num r) :
    replaceRow num (f r) (assignRows num f ids rows) = assignRows num f (num r :: ids) rows := by
  unfold replaceRow assignRows
  rw [List.map_map]
  refine List.map_congr_left fun q hq => ?_
  have hq' : num (if num q ∈ ids then f q else q) = num q := by
    split_ifs
    · exact hnum q
    · rfl
  show (if num (if num q ∈ ids then f q else q) = num (f r) then f r
    else if num q ∈ ids then f q else q) = _
  rw [hq', hnum]
  by_cases he : num q = num r
  · have hqr : q = r := List.inj_on_of_nodup_map hnodup hq hr he
    rw [if_pos he, if_pos (he ▸ .head _), hqr]
  · have hcons : num q ∈ num r :: ids ↔ num q ∈ ids := by
      rw [List.mem_cons]
      exact or_iff_right he
    rw [if_neg he]
    simp only [hcons]

/-- If no two rows share a key once all of some rows have been changed, none do while only some of those
have been. For a row that has the key of a changed one has it also when it is changed. -/
theorem nodup_assignRows_of_subset (habsorb : ∀ q r, key q = key (f r) → key (f q) = key (f r))
    (hsub : ∀ k ∈ ids, k ∈ ids') (hrows : (rows.map key).Nodup)
    (h : ((assignRows num f ids' rows).map key).Nodup) :
    ((assignRows num f ids rows).map key).Nodup := by
  unfold assignRows at h ⊢
  rw [List.map_map] at h ⊢
  unfold List.Nodup at hrows h ⊢
  rw [List.pairwise_map] at hrows h ⊢
  refine (hrows.and h).imp ?_
  rintro q r ⟨hne, hfinal⟩ he
  simp only [Function.comp_apply] at hfinal he
  by_cases hq : num q ∈ ids <;> by_cases hr : num r ∈ ids
  · rw [if_pos hq, if_pos hr] at he
    rw [if_pos (hsub _ hq), if_pos (hsub _ hr)] at hfinal
    exact hfinal he
  · rw [if_pos hq, if_neg hr] at he
    rw [if_pos (hsub _ hq)] at hfinal
    by_cases hr' : num r ∈ ids'
    · rw [if_pos hr'] at hfinal
      exact hfinal (habsorb r q he.symm).symm
    · rw [if_neg hr'] at hfinal
      exact hfinal he
  · rw [if_neg hq, if_pos hr] at he
    rw [if_pos (hsub _ hr)] at hfinal
    by_cases hq' : num q ∈ ids'
    · rw [if_pos hq'] at hfinal
      exact hfinal (habsorb q r he)
    · rw [if_neg hq'] at hfinal
      exact hfinal he
  · rw [if_neg hq, if_neg hr] at he
    exact hne he

end Rows

namespace Store

variable {edits : List FieldEdit} {st st₁ st' : Store} {s s₁ s' : Shelf} {n : Int}
  {albumIds trackIds : List Int} {places : List (Int × Handle)}

/-! ## Assigning -/

/-- The links of a store to the genres that edits give for some of its tracks, if they give any. -/
def assignLinks (st : Store) (edits : List FieldEdit) (trackIds : List Int) : List GenreLink :=
  match given edits "genre" genreSet with
  | none => st.trackGenres
  | some g =>
    st.trackGenres.filter (·.trackId ∉ trackIds) ++
      (st.tracks.filter (·.id ∈ trackIds)).flatMap fun r => g.names.map (⟨r.id, ·⟩)

/-- The store after edits have been assigned to the albums and the tracks of the given numbers at once. -/
def assignTo (st : Store) (edits : List FieldEdit) (albumIds trackIds : List Int) : Store :=
  { st with
    albums := assignRows AlbumRow.id (·.assign edits) albumIds st.albums
    tracks := assignRows TrackRow.id (·.assign edits) trackIds st.tracks
    trackGenres := st.assignLinks edits trackIds }

/-- The store after edits have been assigned to the items of a kind and the given numbers at once. Fields of
albums go to the albums of the tracks. -/
def assign (st : Store) (edits : List FieldEdit) (kind : Kind) (ids : List Int) : Store :=
  match kind with
  | .track => st.assignTo edits ((st.tracks.filter (·.id ∈ ids)).map (·.albumId)) ids
  | .album => st.assignTo edits ids []
  | .extra => st

theorem assignTo_congr {albumIds' trackIds' : List Int} (halbums : ∀ k, k ∈ albumIds ↔ k ∈ albumIds')
    (htracks : ∀ k, k ∈ trackIds ↔ k ∈ trackIds') :
    st.assignTo edits albumIds trackIds = st.assignTo edits albumIds' trackIds' := by
  unfold assignTo assignLinks
  rw [assignRows_congr halbums, assignRows_congr htracks]
  simp only [htracks]

theorem mem_assignLinks {l : GenreLink} : l ∈ st.assignLinks edits trackIds ↔
    l ∈ st.trackGenres ∧ (given edits "genre" genreSet = none ∨ l.trackId ∉ trackIds) ∨
      ∃ g, given edits "genre" genreSet = some g ∧ l.trackId ∈ trackIds ∧ st.HasTrack l.trackId ∧
        l.genre ∈ g.names := by
  unfold assignLinks
  rcases given edits "genre" genreSet with _ | g
  · simp
  · simp only [List.mem_append, List.mem_filter, List.mem_flatMap, List.mem_map, decide_eq_true_eq,
      reduceCtorEq, false_or, Option.some.injEq, exists_eq_left']
    refine or_congr_right ?_
    constructor
    · rintro ⟨r, ⟨hr, hid⟩, x, hx, rfl⟩
      exact ⟨hid, ⟨r, hr, rfl⟩, hx⟩
    · rintro ⟨hid, ⟨r, hr, hrl⟩, hx⟩
      exact ⟨r, ⟨hr, hrl ▸ hid⟩, l.genre, hx, by rw [hrl]⟩

/-- No link is assigned twice. -/
theorem nodup_assignLinks (h : st.Consistent) : (st.assignLinks edits trackIds).Nodup := by
  unfold assignLinks
  rcases given edits "genre" genreSet with _ | g
  · exact h.links
  · rw [List.nodup_append]
    refine ⟨h.links.filter _, ?_, ?_⟩
    · rw [List.nodup_flatMap]
      constructor
      · intro r _
        exact g.nodup_names.map fun x y he => (GenreLink.mk.inj he).2
      · have hids : (st.tracks.filter (·.id ∈ trackIds)).Pairwise fun r q => r.id ≠ q.id :=
          List.pairwise_map.1 ((h.tracks.filter _).nodup_nums)
        refine hids.imp fun hne l hr hq => hne ?_
        obtain ⟨x, -, rfl⟩ := List.mem_map.1 hr
        obtain ⟨y, -, he⟩ := List.mem_map.1 hq
        exact (GenreLink.mk.inj he).1.symm
    · rintro l hl l' hl' rfl
      have hno := (List.mem_filter.1 hl).2
      obtain ⟨r, hr, hlr⟩ := List.mem_flatMap.1 hl'
      obtain ⟨x, -, rfl⟩ := List.mem_map.1 hlr
      exact of_decide_eq_true hno (of_decide_eq_true (List.mem_filter.1 hr).2)

/-! ## Midway -/

/-- Edits have been assigned to the albums and the tracks of some numbers and these have been saved. At the
places of the shelf stand the albums as they are stored by then. -/
structure Midway (edits : List FieldEdit) (st : Store) (places : List (Int × Handle))
    (albumIds trackIds : List Int) (st' : Store) (s' : Shelf) : Prop where
  consistent : st'.Consistent
  albums : st'.albums = assignRows AlbumRow.id (·.assign edits) albumIds st.albums
  tracks : st'.tracks = assignRows TrackRow.id (·.assign edits) trackIds st.tracks
  extras : st'.extras = st.extras
  links : ∀ l, l ∈ st'.trackGenres ↔ l ∈ st.assignLinks edits trackIds
  placed : Placed st' places s'

theorem midway_start (h : st.Consistent) (hplaced : Placed st places s) :
    Midway edits st places [] [] st s where
  consistent := h
  albums := assignRows_nil.symm
  tracks := assignRows_nil.symm
  extras := rfl
  links l := by
    rw [mem_assignLinks]
    simp
  placed := hplaced

theorem Midway.congr {albumIds' trackIds' : List Int}
    (h : Midway edits st places albumIds trackIds st' s') (halbums : ∀ k, k ∈ albumIds ↔ k ∈ albumIds')
    (htracks : ∀ k, k ∈ trackIds ↔ k ∈ trackIds') :
    Midway edits st places albumIds' trackIds' st' s' where
  consistent := h.consistent
  albums := h.albums.trans (assignRows_congr halbums)
  tracks := h.tracks.trans (assignRows_congr htracks)
  extras := h.extras
  links l := by
    rw [h.links, mem_assignLinks, mem_assignLinks]
    simp only [htracks]
  placed := h.placed

/-- Places show the albums of a store, whatever else is in it. -/
theorem Placed.of_albums (h : Placed st places s) (halbums : st'.albums = st.albums) :
    Placed st' places s :=
  { h with rows := fun p hp => halbums ▸ h.rows p hp }

/-- When edits have been assigned to the album at a place and to its row, the place shows the row again. -/
theorem Placed.assign (h : Placed st places s) {hd : Handle} {q : AlbumRow} (hplace : (q.id, hd) ∈ places)
    (hq : q ∈ st.albums) (hread : s.read hd = q.info) (hs : s.Assigned edits hd s')
    (halbums : st'.albums = replaceRow AlbumRow.id (q.assign edits) st.albums) :
    Placed st' places s' where
  holds p hp := hs.holds p.2 (h.holds p hp)
  nums := h.nums
  handles := h.handles
  rows p hp := by
    rw [halbums]
    by_cases hhd : p.2 = hd
    · obtain rfl : p = (q.id, hd) := h.eq_of_handle hp hplace hhd
      refine ⟨q.assign edits, mem_replaceRow.2 (.inr ⟨rfl, q, hq, rfl⟩), rfl, ?_⟩
      rw [hs.read, hread, AlbumRow.info_assign]
    · obtain ⟨r, hr, hrp, hinfo⟩ := h.rows p hp
      refine ⟨r, mem_replaceRow.2 (.inl ⟨hr, ?_⟩), hrp, (hs.others p.2 hhd).trans hinfo⟩
      intro he
      have hpq : p = (q.id, hd) := h.eq_of_num hp hplace (hrp.symm.trans he)
      exact hhd (congrArg Prod.snd hpq)

/-- Writing the row of an album to which edits have been assigned goes a step further, or is refused because
two albums would share a key in the end. -/
theorem Midway.writeAlbum (h : Midway edits st places albumIds trackIds st₁ s₁) (hst : st.Consistent)
    {hd : Handle} (hplace : (n, hd) ∈ places) (hs : s₁.Assigned edits hd s) :
    (∃ st₂, st₁.writeAlbum (s.read hd) = .ok (n, st₂) ∧
      Midway edits st places (n :: albumIds) trackIds st₂ s) ∨
    (∃ k, st₁.writeAlbum (s.read hd) = .error k) ∧ ∀ albumIds' trackIds',
      (∀ k ∈ n :: albumIds, k ∈ albumIds') → ¬ (st.assignTo edits albumIds' trackIds').KeysUnique := by
  obtain ⟨q, hq, rfl, hread⟩ := h.placed.rows (n, hd) hplace
  have hid : (s.read hd).id? = some q.id := by
    rw [hs.read, hread]
    rfl
  have hrow : (s.read hd).row q.id = q.assign edits := by
    rw [hs.read, AlbumInfo.row_assign, hread, AlbumRow.row_info (h.consistent.dated q hq)]
  obtain ⟨q₀, hq₀, hnum, hq'⟩ := mem_assignRows (f := AlbumRow.assign edits) (fun _ => rfl)
    (h.albums ▸ hq)
  have hassign : q.assign edits = q₀.assign edits := by
    rw [hq']
    split_ifs
    · exact AlbumRow.assign_assign q₀
    · rfl
  have halbums : replaceRow AlbumRow.id ((s.read hd).row q.id) st₁.albums =
      assignRows AlbumRow.id (·.assign edits) (q.id :: albumIds) st.albums := by
    rw [hrow, hassign, h.albums, ← hnum]
    exact replaceRow_assignRows hst.albums.nodup_nums hq₀ fun _ => rfl
  rcases writeAlbum_outcome h.consistent hid ⟨q, hq, rfl⟩ with ⟨hw, -⟩ | ⟨hrefused, hno⟩
  · refine .inl ⟨_, hw, (h.consistent.writeAlbum hw).1, halbums, h.tracks, h.extras, h.links, ?_⟩
    exact h.placed.assign hplace hq hread hs (by rw [← hrow])
  · refine .inr ⟨hrefused, fun albumIds' trackIds' hsub hkeys => hno ?_⟩
    rw [halbums]
    exact ⟨nodup_assignRows_of_subset (fun _ _ => AlbumRow.identity_assign_of_eq) hsub hst.albums.keys
        hkeys.albumIdentities,
      nodup_assignRows_of_subset (fun _ _ he => he) hsub hst.albums.paths hkeys.albumPaths⟩

/-- The row of a stored track is replaced exactly if no two tracks share a key then. -/
theorem writeTrack_outcome (h : st.Consistent) {t : Track} {k : Int} (hid : t.id? = some k)
    (hk : st.HasTrack k) :
    let tracks := replaceRow TrackRow.id (t.row k n) st.tracks
    writeTrack n st t = ⟨{ st with tracks := tracks }.relink k t.genres.names, t, none⟩ ∧
        ((tracks.map (·.position)).Nodup ∧ (tracks.map (·.path)).Nodup) ∨
      (∃ e, (writeTrack n st t).fault? = some (.duplicate e)) ∧
        ¬ ((tracks.map (·.position)).Nodup ∧ (tracks.map (·.path)).Nodup) := by
  intro tracks
  have hfree := free_iff_nodup_replaceRow (r := t.row k n) h.tracks hk
  rcases hu : st.updateTrack (t.row k n) with e | st₁
  · have hconflict := (updateTrack_eq_error.1 hu).2
    refine .inr ⟨⟨e, by simp only [writeTrack, hid, hu]⟩, fun hunique => ?_⟩
    rw [TrackRow.conflict?_eq_none.2 (hfree.2 hunique)] at hconflict
    cases hconflict
  · obtain ⟨hrow, rfl⟩ := updateTrack_eq_ok (r := t.row k n) hk hu
    have hvalue : t.numbered k = t := by rw [Track.numbered, ← hid]
    refine .inl ⟨?_, hfree.1 hrow⟩
    rw [writeTrack_of_update hid hk hu, hvalue]

/-- Assigning the genres of one more track replaces its links. -/
theorem mem_assignLinks_cons {t : Track} {k : Int} (hk : st.HasTrack k)
    (hgenres : ∀ g, g ∈ t.genres.names ↔ ⟨k, g⟩ ∈ st.trackGenres) (hnew : k ∉ trackIds) {l : GenreLink} :
    l ∈ st.assignLinks edits (k :: trackIds) ↔
      l.trackId ≠ k ∧ l ∈ st.assignLinks edits trackIds ∨
        l.trackId = k ∧ l.genre ∈ (t.assign edits).genres.names := by
  have hassigned : (t.assign edits).genres = (given edits "genre" genreSet).getD t.genres := rfl
  rw [mem_assignLinks, mem_assignLinks, hassigned]
  obtain ⟨j, x⟩ := l
  by_cases hj : j = k
  · subst hj
    rcases given edits "genre" genreSet with _ | g <;> simp [hgenres, hk]
  · simp [hj]

theorem saveTrack_of_refused {t : Track} {k : Int} {e : UniqueKey} (hid : (s.read t.album).id? = some k)
    (hw : st.writeAlbum (s.read t.album) = .error e) :
    st.saveTrack s t = ⟨st, t, some (.duplicate e)⟩ := by
  simp only [Store.saveTrack, hid, hw]
  rfl

/-- Writing a track to which edits have been assigned goes a step further, or is refused because two tracks
would share a key in the end. -/
theorem Midway.writeTrack (h : Midway edits st places albumIds trackIds st₁ s₁) (hst : st.Consistent)
    {r : TrackRow} {hd : Handle} (hr : r ∈ st.tracks) (hnew : r.id ∉ trackIds)
    (hn : st₁.HasAlbum r.albumId) :
    let p := writeTrack r.albumId st₁ ((r.track hd (st.genresOf r.id)).assign edits)
    (p.fault? = none ∧ Midway edits st places albumIds (r.id :: trackIds) p.store s₁) ∨
    (∃ e, p.fault? = some e) ∧ ∀ albumIds' trackIds', (∀ k ∈ r.id :: trackIds, k ∈ trackIds') →
      ¬ (st.assignTo edits albumIds' trackIds').KeysUnique := by
  intro p
  have hrow : ((r.track hd (st.genresOf r.id)).assign edits).row r.id r.albumId = r.assign edits := by
    rw [Track.row_assign, TrackRow.row_track]
  have hk : st₁.HasTrack r.id := by
    have hids : st₁.tracks.map (·.id) = st.tracks.map (·.id) := by
      rw [h.tracks]
      exact map_num_assignRows (f := TrackRow.assign edits) fun _ => rfl
    have hmem : r.id ∈ st₁.tracks.map (·.id) := by
      rw [hids]
      exact List.mem_map_of_mem hr
    exact List.mem_map.1 hmem
  have htracks : replaceRow TrackRow.id (r.assign edits) st₁.tracks =
      assignRows TrackRow.id (·.assign edits) (r.id :: trackIds) st.tracks := by
    rw [h.tracks]
    exact replaceRow_assignRows hst.tracks.nodup_nums hr fun _ => rfl
  have houtcome := writeTrack_outcome (n := r.albumId) h.consistent
    (t := (r.track hd (st.genresOf r.id)).assign edits) rfl hk
  rw [hrow, htracks] at houtcome
  rcases houtcome with ⟨heq, -⟩ | ⟨⟨e, he⟩, hno⟩
  · have hconsistent : p.store.Consistent := h.consistent.writeTrack hn _
    have hp : p = _ := heq
    rw [hp] at hconsistent ⊢
    refine .inl ⟨rfl, hconsistent, h.albums, rfl, h.extras, fun l => ?_, h.placed.of_albums rfl⟩
    have hgenres : ∀ g, g ∈ (r.track hd (st.genresOf r.id)).genres.names ↔ ⟨r.id, g⟩ ∈ st.trackGenres := by
      intro g
      rw [← mem_genresOf]
      exact GenreSet.mem_ofList
    rw [mem_assignLinks_cons ⟨r, hr, rfl⟩ hgenres hnew]
    show l ∈ st₁.trackGenres.filter (·.trackId ≠ r.id) ++ _ ↔ _
    rw [List.mem_append, List.mem_filter, decide_eq_true_eq, h.links l, and_comm, List.mem_map]
    refine or_congr_right ?_
    constructor
    · rintro ⟨g, hg, rfl⟩
      exact ⟨rfl, hg⟩
    · rintro ⟨hl, hg⟩
      exact ⟨l.genre, hg, by rw [← hl]⟩
  · refine .inr ⟨⟨.duplicate e, he⟩, fun albumIds' trackIds' hsub hkeys => hno ?_⟩
    exact ⟨nodup_assignRows_of_subset (fun _ _ => TrackRow.position_assign_of_eq) hsub hst.tracks.keys
        hkeys.trackPositions,
      nodup_assignRows_of_subset (fun _ _ he => he) hsub hst.tracks.paths hkeys.trackPaths⟩

/-- Saving a track to which edits have been assigned goes a step further, or is refused because two albums
or two tracks would share a key in the end. -/
theorem Midway.saveTrack (h : Midway edits st places albumIds trackIds st₁ s₁) (hst : st.Consistent)
    {r : TrackRow} {t : Track} (hr : r ∈ st.tracks) (hnew : r.id ∉ trackIds)
    (ht : LoadedAt st places r t) (hs : s₁.Assigned edits t.album s) :
    let p := st₁.saveTrack s (t.assign edits)
    (p.fault? = none ∧ Midway edits st places (r.albumId :: albumIds) (r.id :: trackIds) p.store s) ∨
    (∃ e, p.fault? = some e) ∧ ∀ albumIds' trackIds', (∀ k ∈ r.albumId :: albumIds, k ∈ albumIds') →
      (∀ k ∈ r.id :: trackIds, k ∈ trackIds') → ¬ (st.assignTo edits albumIds' trackIds').KeysUnique := by
  intro p
  obtain ⟨hd, hplace, rfl⟩ := ht
  obtain ⟨q, -, -, hread⟩ := h.placed.rows _ hplace
  have hid : (s.read hd).id? = some q.id := by
    have hassigned : s.read hd = (s₁.read hd).assign edits := hs.read
    rw [hassigned, hread]
    rfl
  rcases h.writeAlbum hst hplace hs with ⟨st₂, hw, h₂⟩ | ⟨⟨k, hk⟩, hno⟩
  · have hp : p = Store.writeTrack r.albumId st₂ ((r.track hd (st.genresOf r.id)).assign edits) :=
      saveTrack_of_writeAlbum hid hw
    rw [hp]
    refine (h₂.writeTrack hst hr hnew (h.consistent.writeAlbum hw).2).imp_right fun hrefused => ?_
    exact ⟨hrefused.1, fun albumIds' trackIds' _ => hrefused.2 albumIds' trackIds'⟩
  · have hp : p = ⟨st₁, _, some (.duplicate k)⟩ := saveTrack_of_refused hid hk
    rw [hp]
    exact .inr ⟨⟨_, rfl⟩, fun albumIds' trackIds' hsub _ => hno albumIds' trackIds' hsub⟩

/-- An album at a place is held with the members it was loaded with, as long as edits have been assigned to
no track. -/
theorem Midway.holdsAlbum (h : Midway edits st places albumIds [] st₁ s) (hst : st.Consistent)
    {hd : Handle} (hplace : (n, hd) ∈ places) (hn : st.HasAlbum n) :
    st₁.HoldsAlbum n (s.read hd) (st.albumAt n hd) := by
  obtain ⟨r, hr, rfl⟩ := hn
  have hloaded := holdsAlbum_albumAt hst hr hd
  have htracks : st₁.tracks = st.tracks := by
    rw [h.tracks]
    exact assignRows_nil
  have hlinks : ∀ l, l ∈ st₁.trackGenres ↔ l ∈ st.trackGenres := by
    intro l
    rw [h.links, mem_assignLinks]
    simp
  obtain ⟨q, hq, hqn, hread⟩ := h.placed.rows _ hplace
  have hqn : q.id = r.id := hqn
  rw [hread]
  exact {
    id := congrArg some hqn
    row := by
      rw [← hqn, AlbumRow.row_info (h.consistent.dated q hq)]
      exact hq
    tracks := fun t ht => by
      obtain ⟨k, hk, hrow, hgenres⟩ := hloaded.tracks t ht
      refine ⟨k, hk, htracks ▸ hrow, fun g => ?_⟩
      rw [← hgenres g, mem_genresOf, mem_genresOf, hlinks]
    extras := fun e he => by
      obtain ⟨k, hk, hrow⟩ := hloaded.extras e he
      exact ⟨k, hk, h.extras ▸ hrow⟩
    allTracks := htracks ▸ hloaded.allTracks
    allExtras := h.extras ▸ hloaded.allExtras }

/-- Saving an album to whose fields edits have been assigned goes a step further, or is refused because two
albums would share a key in the end. -/
theorem Midway.saveAlbum (h : Midway edits st places albumIds [] st₁ s₁) (hst : st.Consistent)
    {hd : Handle} (hplace : (n, hd) ∈ places) (hn : st.HasAlbum n) (hs : s₁.Assigned edits hd s) :
    let p := st₁.saveAlbum s (st.albumAt n hd)
    (p.fault? = none ∧ Midway edits st places (n :: albumIds) [] p.store p.value.2) ∨
    (∃ e, p.fault? = some e) ∧ ∀ albumIds' trackIds', (∀ k ∈ n :: albumIds, k ∈ albumIds') →
      ¬ (st.assignTo edits albumIds' trackIds').KeysUnique := by
  intro p
  rcases h.writeAlbum hst hplace hs with ⟨st₂, hw, h₂⟩ | ⟨⟨k, hk⟩, hno⟩
  · have hholds := h₂.holdsAlbum hst hplace hn
    obtain ⟨hok, -, hsame⟩ := writeMembers_of_holdsAlbum h₂.consistent hholds
    have hconsistent : p.store.Consistent := h.consistent.saveAlbum s _
    have hp : p = (st₂.writeMembers n (st.albumAt n hd)).map
        (·, s.modify hd ({ · with id? := some n })) := saveAlbum_of_writeAlbum hw
    have hread : ∀ k, (s.modify hd ({ · with id? := some n })).read k = s.read k := by
      intro k
      by_cases hk : k = hd
      · subst hk
        have hheld : s.Holds k := h₂.placed.holds _ hplace
        have hid : (s.read k).id? = some n := hholds.id
        unfold Shelf.modify
        rw [Shelf.read_write hheld, ← hid]
      · exact Shelf.read_write_of_ne hk _
    have hplaced : Placed st₂ places (s.modify hd ({ · with id? := some n })) :=
      { h₂.placed with
        holds := fun q hq => Shelf.holds_write.2 (h₂.placed.holds q hq)
        rows := fun q hq => by
          rw [hread]
          exact h₂.placed.rows q hq }
    rw [hp] at hconsistent ⊢
    exact .inl ⟨hok, {
      consistent := hconsistent
      albums := hsame.albums.trans h₂.albums
      tracks := hsame.tracks.trans h₂.tracks
      extras := hsame.extras.trans h₂.extras
      links := fun l => hsame.links.mem_iff.trans (h₂.links l)
      placed := hplaced.of_albums hsame.albums }⟩
  · refine .inr ⟨⟨.duplicate k, ?_⟩, hno⟩
    show (st₁.saveAlbum s (st.albumAt n hd)).fault? = _
    have hk' : st₁.writeAlbum ((st.albumAt n hd).info s) = .error k := hk
    unfold Store.saveAlbum
    rw [hk']

theorem Consistent.keysUnique (h : st.Consistent) : st.KeysUnique :=
  ⟨h.albums.keys, h.albums.paths, h.tracks.keys, h.tracks.paths, h.extras.keys, h.extras.paths⟩

/-- What has been assigned and saved shares no key. -/
theorem Midway.keysUnique (h : Midway edits st places albumIds trackIds st₁ s) :
    (st.assignTo edits albumIds trackIds).KeysUnique := by
  have hkeys := h.consistent.keysUnique
  have halbums : st₁.albums = (st.assignTo edits albumIds trackIds).albums := h.albums
  have htracks : st₁.tracks = (st.assignTo edits albumIds trackIds).tracks := h.tracks
  have hextras : st₁.extras = (st.assignTo edits albumIds trackIds).extras := h.extras
  exact {
    albumIdentities := halbums ▸ hkeys.albumIdentities
    albumPaths := halbums ▸ hkeys.albumPaths
    trackPositions := htracks ▸ hkeys.trackPositions
    trackPaths := htracks ▸ hkeys.trackPaths
    extraPositions := hextras ▸ hkeys.extraPositions
    extraPaths := hextras ▸ hkeys.extraPaths }

theorem Midway.perm_links (h : Midway edits st places albumIds trackIds st₁ s) (hst : st.Consistent) :
    st₁.trackGenres.Perm (st.assignLinks edits trackIds) :=
  (List.perm_ext_iff_of_nodup h.consistent.links (nodup_assignLinks hst)).2 h.links

end Store

end MusicLibrary

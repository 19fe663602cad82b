import MusicLibrary.Proofs.Store.Added

/-!
# Albums that are stored already

An album is refused as a duplicate when its row is written: exactly if another stored album has its
path or its identity (`writeAlbum_refused_iff`). Members are refused for other keys only, so the same
holds of a whole save. Adding an album looks for what it collides with before, and merges into the
first such album. So what is left to refuse is an overwriting merge whose path or identity is that of
yet another album (`addAlbum_duplicateAlbum_iff`).
-/

namespace MusicLibrary

/-! ## Keys -/

/-- A row is not free if a row of another number has one of its keys. -/
theorem not_free_iff {ρ κ : Type} {num : ρ → Int} {key : ρ → κ} {path : ρ → String} {rows : List ρ}
    {r : ρ} : ¬ Free num key path rows r ↔
      ∃ q ∈ rows, num q ≠ num r ∧ (path q = path r ∨ key q = key r) := by
  unfold Free
  push Not
  refine exists_congr fun q => and_congr_right fun _ => and_congr_right fun _ => ?_
  rw [or_comm, or_iff_not_imp_left]

theorem AlbumRow.isAlbumKey_of_conflict? {rows : List AlbumRow} {r : AlbumRow} {k : UniqueKey}
    (h : r.conflict? rows = some k) : k.isAlbumKey = true := by
  simp only [conflict?] at h
  split_ifs at h <;> cases h <;> rfl

theorem TrackRow.isAlbumKey_of_conflict? {rows : List TrackRow} {r : TrackRow} {k : UniqueKey}
    (h : r.conflict? rows = some k) : k.isAlbumKey = false := by
  simp only [conflict?] at h
  split_ifs at h <;> cases h <;> rfl

theorem ExtraRow.isAlbumKey_of_conflict? {rows : List ExtraRow} {r : ExtraRow} {k : UniqueKey}
    (h : r.conflict? rows = some k) : k.isAlbumKey = false := by
  simp only [conflict?] at h
  split_ifs at h <;> cases h <;> rfl

namespace Fault

theorem duplicate_of_isAlbumKey {k : UniqueKey} (h : k.isAlbumKey = true) :
    duplicate k = duplicateAlbum k.message := by
  unfold duplicate
  rw [if_pos h]

theorem isDuplicateAlbum_duplicate {k : UniqueKey} (h : k.isAlbumKey = false) :
    (duplicate k).isDuplicateAlbum = false := by
  unfold duplicate
  rw [h]
  rfl

/-- A key whose fault is not that of a duplicate album is one of members. -/
theorem duplicate_of_isDuplicateAlbum {k : UniqueKey} (h : (duplicate k).isDuplicateAlbum = false) :
    duplicate k = duplicateItem k.message := by
  unfold duplicate at h ⊢
  split at h
  · cases h
  · rename_i hk
    rw [if_neg hk]

end Fault

/-- A fault of a run on a list is one of a single run. -/
theorem Progress.of_each_fault? {α : Type} {P : Fault → Prop} {f : Store → α → Progress α}
    (hf : ∀ st a e, (f st a).fault? = some e → P e) (as : List α) {st : Store} {e : Fault}
    (h : (each f st as).fault? = some e) : P e := by
  induction as generalizing st with
  | nil => cases h
  | cons a as ih =>
    rcases ha : (f st a).fault? with _ | e'
    · rw [each_cons_of_ok ha] at h
      exact ih h
    · rw [each_cons_of_fault as ha] at h
      cases h
      exact hf st a _ ha

namespace Store

open Progress

variable {st : Store} {n : Int} {i : AlbumInfo}

/-! ## Refused statements -/

theorem insertAlbum_eq_error {r : AlbumRow} {k : UniqueKey} : st.insertAlbum r = .error k ↔
    AlbumRow.conflict? st.albums { r with id := st.lastAlbum + 1 } = some k := by
  unfold insertAlbum
  rcases hc : AlbumRow.conflict? st.albums { r with id := st.lastAlbum + 1 } with _ | e <;> simp [hc]

theorem updateAlbum_eq_error {r : AlbumRow} {k : UniqueKey} : st.updateAlbum r = .error k ↔
    st.HasAlbum r.id ∧ r.conflict? st.albums = some k := by
  by_cases hr : st.HasAlbum r.id
  · unfold updateAlbum
    rw [if_pos (any_album_iff.2 hr)]
    rcases hc : r.conflict? st.albums with _ | e <;> simp [hr]
  · simp [updateAlbum_of_not_hasAlbum hr, hr]

theorem insertTrack_eq_error {r : TrackRow} {k : UniqueKey} : st.insertTrack r = .error k ↔
    TrackRow.conflict? st.tracks { r with id := st.lastTrack + 1 } = some k := by
  unfold insertTrack
  rcases hc : TrackRow.conflict? st.tracks { r with id := st.lastTrack + 1 } with _ | e <;> simp [hc]

theorem updateTrack_eq_error {r : TrackRow} {k : UniqueKey} : st.updateTrack r = .error k ↔
    st.HasTrack r.id ∧ r.conflict? st.tracks = some k := by
  by_cases hr : st.HasTrack r.id
  · unfold updateTrack
    rw [if_pos (any_track_iff.2 hr)]
    rcases hc : r.conflict? st.tracks with _ | e <;> simp [hr]
  · simp [updateTrack_of_not_hasTrack hr, hr]

theorem insertExtra_eq_error {r : ExtraRow} {k : UniqueKey} : st.insertExtra r = .error k ↔
    ExtraRow.conflict? st.extras { r with id := st.lastExtra + 1 } = some k := by
  unfold insertExtra
  rcases hc : ExtraRow.conflict? st.extras { r with id := st.lastExtra + 1 } with _ | e <;> simp [hc]

theorem updateExtra_eq_error {r : ExtraRow} {k : UniqueKey} : st.updateExtra r = .error k ↔
    st.HasExtra r.id ∧ r.conflict? st.extras = some k := by
  by_cases hr : st.HasExtra r.id
  · unfold updateExtra
    rw [if_pos (any_extra_iff.2 hr)]
    rcases hc : r.conflict? st.extras with _ | e <;> simp [hr]
  · simp [updateExtra_of_not_hasExtra hr, hr]

/-! ## Writing the row of an album -/

/-- Another stored album than the one of a number has the path or the identity of an album. -/
def HasRival (st : Store) (id? : Option Int) (i : AlbumInfo) : Prop :=
  ∃ q ∈ st.albums, id? ≠ some q.id ∧
    (q.path = i.path.text ∨ q.identity = (i.artist, i.title, i.year))

/-- An album is written under a number that no row but its own has, and refused for the key that its
row would then share. -/
theorem exists_number_writeAlbum (h : st.Consistent) (i : AlbumInfo) :
    ∃ n, (∀ k, st.writeAlbum i = .error k ↔ (i.row n).conflict? st.albums = some k) ∧
      ∀ q ∈ st.albums, q.id ≠ n ↔ i.id? ≠ some q.id := by
  by_cases hown : ∃ k, i.id? = some k ∧ st.HasAlbum k
  · obtain ⟨k, hid, hk⟩ := hown
    refine ⟨k, fun e => ?_, fun q _ => ?_⟩
    · have hupdate : st.updateAlbum (i.row k) = .error e ↔ (i.row k).conflict? st.albums = some e :=
        updateAlbum_eq_error.trans (and_iff_right hk)
      rw [← hupdate]
      unfold writeAlbum
      rw [hid]
      rcases hu : st.updateAlbum (i.row k) with e' | ⟨found, st₁⟩
      · simp only [hu, Except.error.injEq]
      · obtain ⟨rfl, -⟩ := updateAlbum_eq_ok (r := i.row k) hk hu
        simp only [hu, reduceCtorEq]
    · rw [hid, ne_eq, ne_eq, Option.some.injEq, eq_comm]
  · have hinsert : st.writeAlbum i = st.insertAlbum (i.row 0) := by
      unfold writeAlbum
      rcases hid : i.id? with _ | k
      · rfl
      · have hk : ¬ st.HasAlbum k := fun hk => hown ⟨k, hid, hk⟩
        simp only [updateAlbum_of_not_hasAlbum (r := i.row k) hk]
    refine ⟨st.lastAlbum + 1, fun e => ?_, fun q hq => ?_⟩
    · rw [hinsert]
      exact insertAlbum_eq_error
    · have hnew : q.id ≠ st.lastAlbum + 1 := by
        have := h.albums.numbered q hq
        omega
      exact iff_of_true hnew fun hk => hown ⟨q.id, hk, q, hq, rfl⟩

/-- An album is refused exactly if it has a rival, whether it is inserted or its row replaced. -/
theorem writeAlbum_refused_iff (h : st.Consistent) :
    (∃ k, st.writeAlbum i = .error k) ↔ st.HasRival i.id? i := by
  obtain ⟨n, hrefused, hown⟩ := exists_number_writeAlbum h i
  have hconflict : (∃ k, st.writeAlbum i = .error k) ↔
      ¬ (i.row n).conflict? st.albums = none := by
    rw [← ne_eq, Option.ne_none_iff_exists']
    exact exists_congr hrefused
  rw [hconflict, AlbumRow.conflict?_eq_none, not_free_iff]
  exact exists_congr fun q => and_congr_right fun hq => and_congr_left fun _ => hown q hq

theorem isAlbumKey_of_writeAlbum (h : st.Consistent) {k : UniqueKey}
    (hk : st.writeAlbum i = .error k) : k.isAlbumKey = true := by
  obtain ⟨n, hrefused, -⟩ := exists_number_writeAlbum h i
  exact AlbumRow.isAlbumKey_of_conflict? ((hrefused k).1 hk)

/-! ## Writing members -/

theorem writeGenres_not_duplicateAlbum (t : Track) (k : Int) {e : Fault}
    (h : (st.writeGenres t k).fault? = some e) : e.isDuplicateAlbum = false := by
  by_cases hk : st.HasTrack k
  · rw [writeGenres_of_hasTrack hk] at h
    cases h
  · rcases writeGenres_of_not_hasTrack hk t with heq | ⟨g, heq⟩
    · rw [heq] at h
      cases h
    · rw [heq] at h
      cases h
      rfl

/-- No track is refused for a key of an album. -/
theorem writeTrack_not_duplicateAlbum (t : Track) {e : Fault}
    (h : (writeTrack n st t).fault? = some e) : e.isDuplicateAlbum = false := by
  unfold writeTrack at h
  split at h
  · split at h
    · rename_i hu
      cases h
      exact Fault.isDuplicateAlbum_duplicate
        (TrackRow.isAlbumKey_of_conflict? (updateTrack_eq_error.1 hu).2)
    · exact writeGenres_not_duplicateAlbum t _ h
  · split at h
    · rename_i hi
      cases h
      exact Fault.isDuplicateAlbum_duplicate
        (TrackRow.isAlbumKey_of_conflict? (insertTrack_eq_error.1 hi))
    · exact writeGenres_not_duplicateAlbum t _ h

/-- No extra is refused for a key of an album. -/
theorem writeExtra_not_duplicateAlbum (x : Extra) {e : Fault}
    (h : (writeExtra n st x).fault? = some e) : e.isDuplicateAlbum = false := by
  unfold writeExtra at h
  split at h
  · split at h
    · rename_i hu
      cases h
      exact Fault.isDuplicateAlbum_duplicate
        (ExtraRow.isAlbumKey_of_conflict? (updateExtra_eq_error.1 hu).2)
    · cases h
  · split at h
    · rename_i hi
      cases h
      exact Fault.isDuplicateAlbum_duplicate
        (ExtraRow.isAlbumKey_of_conflict? (insertExtra_eq_error.1 hi))
    · cases h

theorem writeMembers_not_duplicateAlbum (a : Album) {e : Fault}
    (h : (st.writeMembers n a).fault? = some e) : e.isDuplicateAlbum = false := by
  rcases hp : (each (writeTrack n) (st.deleteDropped n a) a.tracks).fault? with _ | e'
  · rw [writeMembers_eq hp] at h
    exact of_each_fault? (P := fun e => e.isDuplicateAlbum = false)
      (fun _ x _ hx => writeExtra_not_duplicateAlbum x hx) a.extras h
  · rw [writeMembers_of_fault hp] at h
    cases h
    exact of_each_fault? (P := fun e => e.isDuplicateAlbum = false)
      (fun _ t _ ht => writeTrack_not_duplicateAlbum t ht) a.tracks hp

/-! ## Saving and adding -/

/-- Saving an album fails for a duplicate album exactly if it has a rival. -/
theorem saveAlbum_duplicateAlbum_iff (h : st.Consistent) {s : Shelf} {a : Album} :
    (∃ text, (st.saveAlbum s a).fault? = some (.duplicateAlbum text)) ↔
      st.HasRival (a.info s).id? (a.info s) := by
  rw [← writeAlbum_refused_iff h]
  rcases hw : st.writeAlbum (a.info s) with k | ⟨n, st₁⟩
  · have heq : (st.saveAlbum s a).fault? = some (.duplicateAlbum k.message) := by
      unfold saveAlbum
      rw [hw, ← Fault.duplicate_of_isAlbumKey (isAlbumKey_of_writeAlbum h hw)]
    exact iff_of_true ⟨_, heq⟩ ⟨k, rfl⟩
  · refine iff_of_false ?_ (by simp)
    rintro ⟨text, hfault⟩
    unfold saveAlbum at hfault
    rw [hw] at hfault
    exact Bool.noConfusion (writeMembers_not_duplicateAlbum a hfault)

/-- What is found is the album of the first row an album collides with, at a new place. -/
theorem findExisting_eq_some (h : st.Consistent) {s s' : Shelf} {a old : Album} :
    st.findExisting a s = (some old, s') ↔ ∃ r, st.colliding? (a.info s) = some r ∧
      st.albumAt r.id (s.add r.info).1 = old ∧ (s.add r.info).2 = s' := by
  rcases hc : st.colliding? (a.info s) with _ | r
  · simp [findExisting, hc]
  · have hr := ((colliding?_eq_some h).1 hc).1
    simp [findExisting, hc, loadAlbums_singleton (album?_eq_some h hr) s rfl]

/-- An album that collides with no row has no rival. -/
theorem not_hasRival_of_colliding?_eq_none (hc : st.colliding? i = none) :
    ¬ st.HasRival i.id? i := by
  rintro ⟨q, hq, hown, hkeys⟩
  have hno := List.find?_eq_none.1 hc q hq
  refine hno ?_
  simp [AlbumInfo.collides, hown, hkeys]

/-- What is merged into a stored album without `overwrite` has the keys of that album, so it has no
rival. -/
theorem not_hasRival_merge (h : st.Consistent) {r : AlbumRow} (hr : r ∈ st.albums) :
    ¬ st.HasRival (some r.id) (r.info.merge false i) := by
  rintro ⟨q, hq, hne, hkeys⟩
  have hqr : q.id ≠ r.id := fun he => hne (by rw [he])
  obtain ⟨hidentity, hpath⟩ := h.albums.free hr q hq hqr
  rcases hkeys with hkey | hkey
  · refine hpath (hkey.trans ?_)
    exact Path.text_ofText r.path
  · exact hidentity hkey

/-- Adding an album, new or not, fails for a duplicate album exactly if it overwrites a stored album
and yet another stored album has its path or its identity. -/
theorem addAlbum_duplicateAlbum_iff (h : st.Reachable) {settings : ImportSettings} {s : Shelf}
    {a : Album} (hs : s.Holds a.handle) :
    (∃ text, (st.addAlbum settings s a).fault? = some (.duplicateAlbum text)) ↔
      settings.overwrite = true ∧
        ∃ old s' r, st.findExisting a s = (some old, s') ∧ (old.info s').id? = some r.id ∧
          r ∈ st.albums ∧ ∃ q ∈ st.albums, q.id ≠ r.id ∧ (q.path = (a.info s).path.text ∨
            q.identity = ((a.info s).artist, (a.info s).title, (a.info s).year)) := by
  rcases hc : st.colliding? (a.info s) with _ | r
  · rw [addAlbum_of_none hc, saveAlbum_duplicateAlbum_iff h.consistent]
    refine iff_of_false (not_hasRival_of_colliding?_eq_none hc) ?_
    rintro ⟨-, old, s', r, hfound, -⟩
    obtain ⟨r', hr', -⟩ := (findExisting_eq_some h.consistent).1 hfound
    rw [hc] at hr'
    cases hr'
  · have hr := ((colliding?_eq_some h.consistent).1 hc).1
    obtain ⟨place, s₁, m, -, -, hinfo, heq⟩ :=
      @addAlbum_of_some st r h.consistent settings s a hs hc
    rw [heq, saveAlbum_duplicateAlbum_iff h.consistent, hinfo, AlbumInfo.merge_id?]
    rcases settings with ⟨threshold, _ | _⟩
    · exact iff_of_false (not_hasRival_merge h.consistent hr) fun hover => Bool.noConfusion hover.1
    · constructor
      · rintro ⟨q, hq, hne, hkeys⟩
        refine ⟨rfl, _, _, r, (findExisting_eq_some h.consistent).2 ⟨r, hc, rfl, rfl⟩, ?_, hr, q, hq,
          fun he => hne (congrArg some he.symm), hkeys⟩
        exact congrArg AlbumInfo.id? (Shelf.read_add s r.info)
      · rintro ⟨-, old, s', r', hfound, hid, -, q, hq, hne, hkeys⟩
        obtain ⟨r₁, hr₁, rfl, rfl⟩ := (findExisting_eq_some h.consistent).1 hfound
        obtain rfl := Option.some.inj (hc.symm.trans hr₁)
        have hid' : some r.id = some r'.id :=
          (congrArg AlbumInfo.id? (Shelf.read_add s r.info)).symm.trans hid
        exact ⟨q, hq, fun he => hne (Option.some.inj (he.symm.trans hid')), hkeys⟩

/-- A second album without members. -/
def emptyDay : Album := ⟨⟨1⟩, [], []⟩

/-- The fields of an album with the identity of one album and the path of another one. -/
def movedNight : AlbumInfo := .create "Nina" "Night" 1970 (.ofText "/day")

/-- An album that overwrites the one of its identity cannot take the path of another one. -/
theorem addAlbum_duplicateAlbum_movedNight :
    let st := (Session.after [.saveAlbum nightAndDay night, .saveAlbum nightAndDay emptyDay]).working
    let a : Album := ⟨⟨0⟩, [], []⟩
    let s : Shelf := ⟨#[movedNight]⟩
    ∃ old s' r, st.findExisting a s = (some old, s') ∧ (old.info s').id? = some r.id ∧
      r ∈ st.albums ∧ ∃ q ∈ st.albums, q.id ≠ r.id ∧ (q.path = (a.info s).path.text ∨
        q.identity = ((a.info s).artist, (a.info s).title, (a.info s).year)) :=
  ((@addAlbum_duplicateAlbum_iff _ ⟨_, rfl⟩ ⟨.one, true⟩ ⟨#[movedNight]⟩ ⟨⟨0⟩, [], []⟩ Nat.one_pos).1
    ⟨"UNIQUE constraint failed: albums.path", by decide +kernel⟩).2

end Store

end MusicLibrary

import MusicLibrary.Proofs.Store.Moved

/-!
# What a refused save leaves of a value

A save tells a value its number as soon as its row has been written, and takes nothing back when a later
row is refused. So an album whose save fails has the number of its row, and the members before the one
that was refused have numbers too (`Store.PartlySaved`), unless its own row was refused. Rolling back
takes the rows but leaves the numbers. A later save that succeeds writes the album's row, and inserts the
members that still have no number (`Store.SavesNew`).
-/

namespace MusicLibrary

namespace Progress

variable {α : Type} {f : Store → α → Progress α} {id? : α → Option Int} {number : α → Int → α}
  {Inv : Store → Prop} {Has : Store → Int → Prop} {Held : Store → α → Prop} {last : Store → Int}
  {st : Store} {as : List α}

/-! ## Stopping -/

/-- Runs on a list have stopped at a member that was refused: those before it have been numbered, and it
and those after it are as they were. -/
def StoppedAt (f : Store → α → Progress α) (id? : α → Option Int) (number : α → Int → α) (st : Store)
    (as : List α) (e : Fault) (bs : List α) : Prop :=
  ∃ before a after, as = before ++ a :: after ∧ (each f st before).fault? = none ∧
    (f (each f st before).store a).fault? = some e ∧
    bs = (each f st before).value ++ a :: after ∧
    Numbered id? number before (each f st before).value

/-- If a single run numbers a value or refuses it, the runs on a list number all values or stop at one. -/
theorem each_numbered (as : List α) (st : Store) (hf : ∀ st a, ((f st a).fault? = none →
      ∃ k, (f st a).value = number a k ∧ ∀ k', id? a = some k' → k' = k) ∧
      ∀ e, (f st a).fault? = some e → (f st a).value = a) :
    ((each f st as).fault? = none → Numbered id? number as (each f st as).value) ∧
      ∀ e, (each f st as).fault? = some e → StoppedAt f id? number st as e (each f st as).value := by
  induction as generalizing st with
  | nil => exact ⟨fun _ => .nil, fun e he => nomatch he⟩
  | cons a as ih =>
    obtain ⟨hnumbered, hrefused⟩ := hf st a
    rcases ha : (f st a).fault? with _ | e'
    · obtain ⟨ihok, ihstop⟩ := ih (f st a).store
      rw [each_cons_of_ok ha]
      refine ⟨fun hok => .cons (hnumbered ha) (ihok hok), fun e he => ?_⟩
      obtain ⟨before, b, after, rfl, hok, hb, hvalue, hnum⟩ := ihstop e he
      refine ⟨a :: before, b, after, rfl, ?_⟩
      rw [each_cons_of_ok ha]
      refine ⟨hok, hb, ?_, .cons (hnumbered ha) hnum⟩
      exact congrArg ((f st a).value :: ·) hvalue
    · refine ⟨fun hok => ?_, fun e he => ?_⟩
      · rw [each_cons_of_fault as ha] at hok
        cases hok
      · rw [each_cons_of_fault as ha] at he
        cases he
        refine ⟨[], a, as, rfl, rfl, ha, ?_, .nil⟩
        simp only [each, ha, Option.isSome_some, if_true]
        rw [hrefused _ ha]
        rfl

/-! ## Inserting -/

/-- How values without a number are inserted one by one, each under the number after the `last` one.
`Held st a` says that the store holds a value as it is in memory. -/
structure EachInserts (f : Store → α → Progress α) (id? : α → Option Int) (number : α → Int → α)
    (Inv : Store → Prop) (Has : Store → Int → Prop) (Held : Store → α → Prop) (last : Store → Int) :
    Prop where
  id?_number : ∀ a k, id? (number a k) = some k
  inv : ∀ {st a}, Inv st → Inv (f st a).store
  grows : ∀ {st a}, last st ≤ last (f st a).store
  has : ∀ {st a k}, Has st k → Has (f st a).store k
  new : ∀ {st a}, id? a = none → (f st a).fault? = none → let k := last st + 1
    (f st a).value = number a k ∧ k ≤ last (f st a).store ∧ Has (f st a).store k ∧
      Held (f st a).store (number a k)
  held : ∀ {st a b}, Inv st → id? a ≠ id? b → Held st b → Held (f st a).store b

/-- What is held stays held while values of other numbers are written. -/
theorem EachInserts.held_each (h : EachInserts f id? number Inv Has Held last) {b : α} (hst : Inv st)
    (hb : Held st b) (hne : ∀ a ∈ as, id? a ≠ id? b) : Held (each f st as).store b := by
  induction as generalizing st with
  | nil => exact hb
  | cons a as ih =>
    have hb₁ := h.held hst (hne a (.head _)) hb
    simp only [each]
    split
    · exact hb₁
    · exact ih (h.inv hst) hb₁ fun c hc => hne c (.tail _ hc)

/-- Each value without a number is inserted under one that has not been given before, and is held unless
a value with that very number is written over it. -/
theorem EachInserts.run (h : EachInserts f id? number Inv Has Held last) (hst : Inv st)
    (hok : (each f st as).fault? = none) : ∀ a ∈ as, id? a = none → ∃ k, last st < k ∧
      number a k ∈ (each f st as).value ∧ Has (each f st as).store k ∧
      (k ∉ as.filterMap id? → Held (each f st as).store (number a k)) := by
  induction as generalizing st with
  | nil => exact fun a ha => absurd ha List.not_mem_nil
  | cons b as ih =>
    obtain ⟨hok₁, hok₂⟩ := ok_of_each_cons hok
    have htail : ∀ {k}, k ∉ (b :: as).filterMap id? → k ∉ as.filterMap id? := by
      intro k hno hmem
      exact hno ((List.sublist_cons_self b as).filterMap id? |>.subset hmem)
    intro a ha hnone
    rw [each_cons_of_ok hok₁]
    rcases List.mem_cons.1 ha with rfl | ha
    · obtain ⟨hvalue, -, hhas, hheld⟩ := h.new hnone hok₁
      refine ⟨last st + 1, by omega, ?_, ?_, fun hno => ?_⟩
      · rw [hvalue]
        exact .head _
      · exact each_store (P := (Has · (last st + 1))) (fun _ _ => h.has) as hhas
      · refine h.held_each (h.inv hst) hheld fun c hc hck => htail hno ?_
        exact List.mem_filterMap.2 ⟨c, hc, hck.trans (h.id?_number a _)⟩
    · obtain ⟨k, hk, hmem, hhas, hheld⟩ := ih (h.inv hst) hok₂ a ha hnone
      have hgrows : last st ≤ last (f st b).store := h.grows
      exact ⟨k, by omega, .tail _ hmem, hhas, fun hno => hheld (htail hno)⟩

end Progress

namespace Store

open Progress

variable {st st' : Store} {n : Int} {s : Shelf} {a : Album} {t u : Track} {x y : Extra}

/-! ## Members -/

/-- All that writing a track can do: it is refused for a key, it is inserted, its row is replaced, or there
is no row to replace. -/
theorem writeTrack_cases (n : Int) (st : Store) (t : Track) :
    (∃ k, writeTrack n st t = ⟨st, t, some (.duplicate k)⟩) ∨
    (let k := st.lastTrack + 1
     t.id? = none ∧ writeTrack n st t =
      ⟨{ st with tracks := st.tracks ++ [t.row k n], lastTrack := k }.relink k t.genres.names,
        t.numbered k, none⟩) ∨
    (∃ k, t.id? = some k ∧ st.HasTrack k ∧ writeTrack n st t =
      ⟨{ st with tracks := replaceRow TrackRow.id (t.row k n) st.tracks }.relink k t.genres.names,
        t.numbered k, none⟩) ∨
    ∃ k, t.id? = some k ∧ ¬ st.HasTrack k ∧ writeTrack n st t = st.writeGenres t k := by
  rcases hid : t.id? with _ | k
  · rcases hi : st.insertTrack (t.row 0 n) with e | ⟨k, st₁⟩
    · refine .inl ⟨e, ?_⟩
      simp only [writeTrack, hid, hi]
    · obtain ⟨rfl, -, rfl⟩ := insertTrack_eq_ok hi
      exact .inr (.inl ⟨rfl, writeTrack_of_insert hid hi⟩)
  · by_cases hk : st.HasTrack k
    · rcases hu : st.updateTrack (t.row k n) with e | st₁
      · refine .inl ⟨e, ?_⟩
        simp only [writeTrack, hid, hu]
      · obtain ⟨-, rfl⟩ := updateTrack_eq_ok (r := t.row k n) hk hu
        exact .inr (.inr (.inl ⟨k, rfl, hk, writeTrack_of_update hid hk hu⟩))
    · exact .inr (.inr (.inr ⟨k, rfl, hk, writeTrack_of_gone hid hk⟩))

/-- All that writing an extra can do. -/
theorem writeExtra_cases (n : Int) (st : Store) (x : Extra) :
    (∃ k, writeExtra n st x = ⟨st, x, some (.duplicate k)⟩) ∨
    (let k := st.lastExtra + 1
     x.id? = none ∧ writeExtra n st x =
      ⟨{ st with extras := st.extras ++ [x.row k n], lastExtra := k }, x.numbered k, none⟩) ∨
    (∃ k, x.id? = some k ∧ st.HasExtra k ∧ writeExtra n st x =
      ⟨{ st with extras := replaceRow ExtraRow.id (x.row k n) st.extras }, x.numbered k, none⟩) ∨
    ∃ k, x.id? = some k ∧ ¬ st.HasExtra k ∧ writeExtra n st x = ⟨st, x.numbered k, none⟩ := by
  rcases hid : x.id? with _ | k
  · rcases hi : st.insertExtra (x.row 0 n) with e | ⟨k, st₁⟩
    · refine .inl ⟨e, ?_⟩
      simp only [writeExtra, hid, hi]
    · obtain ⟨rfl, -, rfl⟩ := insertExtra_eq_ok hi
      exact .inr (.inl ⟨rfl, writeExtra_of_insert hid hi⟩)
  · by_cases hk : st.HasExtra k
    · rcases hu : st.updateExtra (x.row k n) with e | st₁
      · refine .inl ⟨e, ?_⟩
        simp only [writeExtra, hid, hu]
      · obtain ⟨-, rfl⟩ := updateExtra_eq_ok (r := x.row k n) hk hu
        exact .inr (.inr (.inl ⟨k, rfl, hk, writeExtra_of_update hid hu⟩))
    · exact .inr (.inr (.inr ⟨k, rfl, hk, writeExtra_of_gone hid hk⟩))

/-- A track that is written has a number, its own if it had one, and one that is refused is as it was. -/
theorem writeTrack_numbered (n : Int) (st : Store) (t : Track) :
    ((writeTrack n st t).fault? = none → ∃ k, (writeTrack n st t).value = t.numbered k ∧
        ∀ k', t.id? = some k' → k' = k) ∧
      ∀ e, (writeTrack n st t).fault? = some e → (writeTrack n st t).value = t := by
  rcases writeTrack_cases n st t with ⟨k, heq⟩ | ⟨hid, heq⟩ | ⟨k, hid, -, heq⟩ | ⟨k, hid, -, heq⟩ <;>
    rw [heq]
  · exact ⟨fun hok => (nomatch hok), fun _ _ => rfl⟩
  · refine ⟨fun _ => ⟨_, rfl, fun k' hk' => ?_⟩, fun e he => nomatch he⟩
    rw [hid] at hk'
    cases hk'
  · refine ⟨fun _ => ⟨k, rfl, fun k' hk' => ?_⟩, fun e he => nomatch he⟩
    exact Option.some.inj (hk'.symm.trans hid)
  · refine ⟨fun _ => ⟨k, rfl, fun k' hk' => ?_⟩, fun _ _ => ?_⟩
    · exact Option.some.inj (hk'.symm.trans hid)
    · show ({ t with id? := some k } : Track) = t
      rw [← hid]

/-- An extra that is written has a number, its own if it had one, and one that is refused is as it was. -/
theorem writeExtra_numbered (n : Int) (st : Store) (x : Extra) :
    ((writeExtra n st x).fault? = none → ∃ k, (writeExtra n st x).value = x.numbered k ∧
        ∀ k', x.id? = some k' → k' = k) ∧
      ∀ e, (writeExtra n st x).fault? = some e → (writeExtra n st x).value = x := by
  rcases writeExtra_cases n st x with ⟨k, heq⟩ | ⟨hid, heq⟩ | ⟨k, hid, -, heq⟩ | ⟨k, hid, -, heq⟩ <;>
    rw [heq]
  · exact ⟨fun hok => (nomatch hok), fun _ _ => rfl⟩
  · refine ⟨fun _ => ⟨_, rfl, fun k' hk' => ?_⟩, fun e he => nomatch he⟩
    rw [hid] at hk'
    cases hk'
  · refine ⟨fun _ => ⟨k, rfl, fun k' hk' => ?_⟩, fun e he => nomatch he⟩
    exact Option.some.inj (hk'.symm.trans hid)
  · refine ⟨fun _ => ⟨k, rfl, fun k' hk' => ?_⟩, fun e he => nomatch he⟩
    exact Option.some.inj (hk'.symm.trans hid)

theorem writeTrack_lastTrack (n : Int) (st : Store) (t : Track) :
    st.lastTrack ≤ (writeTrack n st t).store.lastTrack := by
  rcases writeTrack_cases n st t with ⟨k, heq⟩ | ⟨-, heq⟩ | ⟨k, -, -, heq⟩ | ⟨k, -, hk, heq⟩
  · exact heq ▸ Int.le_refl _
  · exact heq ▸ Int.le_add_one (Int.le_refl _)
  · exact heq ▸ Int.le_refl _
  · refine heq ▸ ?_
    rcases writeGenres_of_not_hasTrack hk t with heq | ⟨g, heq⟩
    · exact heq ▸ Int.le_refl _
    · rw [addGenre_eq] at heq
      exact heq ▸ Int.le_refl _

/-- Linking a track to genres leaves the links of other tracks. -/
theorem mem_relink_of_ne {names : List String} {l : GenreLink} (hl : l.trackId ≠ k) :
    l ∈ (st.relink k names).trackGenres ↔ l ∈ st.trackGenres := by
  have hother : l ∉ names.map (GenreLink.mk k) := by
    intro hmem
    obtain ⟨g, -, rfl⟩ := List.mem_map.1 hmem
    exact hl rfl
  unfold relink
  rw [List.mem_append, or_iff_left hother, List.mem_filter]
  exact and_iff_left (decide_eq_true hl)

/-- Writing a track leaves the tracks of other numbers as they are held. -/
theorem HoldsTrack.writeTrack (h : st.Consistent) {t u : Track} (hu : st.HoldsTrack n u)
    (hne : u.id? ≠ t.id?) : (writeTrack n st t).store.HoldsTrack n u := by
  rcases writeTrack_cases n st t with ⟨e, heq⟩ | ⟨-, heq⟩ | ⟨k, hk, -, heq⟩ | ⟨k, hk, hno, heq⟩ <;>
    rw [heq]
  · exact hu
  · refine hu.frame (k := st.lastTrack + 1) ?_ (fun r hr _ => List.mem_append_left _ hr)
      fun l hl => mem_relink_of_ne hl
    obtain ⟨j, hj, hrow, -⟩ := hu
    have hlast : j ≤ st.lastTrack := h.tracks.numbered _ hrow
    rw [hj, ne_eq, Option.some.injEq]
    omega
  · refine hu.frame (k := k) (hk ▸ hne) ?_ fun l hl => mem_relink_of_ne hl
    exact fun r hr hrk => mem_replaceRow.2 (.inl ⟨hr, hrk⟩)
  · obtain ⟨-, -, -, htracks, -, hlinks⟩ := writeTrack_of_lost (n := n) hk hno
    rw [heq] at htracks hlinks
    refine hu.frame (k := k) (hk ▸ hne) (fun r hr _ => htracks ▸ hr) fun l hl => ?_
    rw [hlinks, List.mem_filter]
    exact and_iff_left (decide_eq_true hl)

/-- Writing a track inserts it if it has no number, and touches no track of another number. -/
theorem eachInserts_tracks : EachInserts (writeTrack n) (·.id?) Track.numbered
    (fun st => st.Consistent ∧ st.HasAlbum n) HasTrack (HoldsTrack · n ·) Store.lastTrack where
  id?_number _ _ := rfl
  inv h := Consistent.writeTrack_hasAlbum h _
  grows := writeTrack_lastTrack n _ _
  has {st t k} hk := by
    rcases writeTrack_cases n st t with ⟨e, heq⟩ | ⟨-, heq⟩ | ⟨j, -, hj, heq⟩ | ⟨j, -, -, heq⟩ <;> rw [heq]
    · exact hk
    · obtain ⟨r, hr, hrk⟩ := hk
      exact ⟨r, List.mem_append_left _ hr, hrk⟩
    · exact (written_replaceRow (r := t.row j n) hj).exists_num hk
    · unfold HasTrack
      rw [(writeGenres_rows t j).2]
      exact hk
  new {st t} hid hok := by
    rcases writeTrack_cases n st t with ⟨e, heq⟩ | ⟨-, heq⟩ | ⟨j, hj, -⟩ | ⟨j, hj, -⟩
    · rw [heq] at hok
      cases hok
    · have hrow : t.row (st.lastTrack + 1) n ∈ st.tracks ++ [t.row (st.lastTrack + 1) n] :=
        List.mem_append_right _ (.head _)
      rw [heq]
      exact ⟨rfl, Int.le_refl _, ⟨_, hrow, rfl⟩, holdsTrack_relink hrow⟩
    · exact absurd (hid.symm.trans hj) (by simp)
    · exact absurd (hid.symm.trans hj) (by simp)
  held h hne hu := hu.writeTrack h.1 hne.symm

/-- Writing an extra inserts it if it has no number, and touches no extra of another number. -/
theorem eachInserts_extras : EachInserts (writeExtra n) (·.id?) Extra.numbered
    (fun st => st.Consistent ∧ st.HasAlbum n) HasExtra (HoldsExtra · n ·) Store.lastExtra where
  id?_number _ _ := rfl
  inv h := Consistent.writeExtra_hasAlbum h _
  grows {st x} := by
    rcases writeExtra_cases n st x with ⟨k, heq⟩ | ⟨-, heq⟩ | ⟨k, -, -, heq⟩ | ⟨k, -, -, heq⟩
    · exact heq ▸ Int.le_refl _
    · exact heq ▸ Int.le_add_one (Int.le_refl _)
    · exact heq ▸ Int.le_refl _
    · exact heq ▸ Int.le_refl _
  has {st x k} hk := by
    rcases writeExtra_cases n st x with ⟨e, heq⟩ | ⟨-, heq⟩ | ⟨j, -, hj, heq⟩ | ⟨j, -, -, heq⟩ <;> rw [heq]
    · exact hk
    · obtain ⟨r, hr, hrk⟩ := hk
      exact ⟨r, List.mem_append_left _ hr, hrk⟩
    · exact (written_replaceRow (r := x.row j n) hj).exists_num hk
    · exact hk
  new {st x} hid hok := by
    rcases writeExtra_cases n st x with ⟨e, heq⟩ | ⟨-, heq⟩ | ⟨j, hj, -⟩ | ⟨j, hj, -⟩
    · rw [heq] at hok
      cases hok
    · have hrow : x.row (st.lastExtra + 1) n ∈ st.extras ++ [x.row (st.lastExtra + 1) n] :=
        List.mem_append_right _ (.head _)
      rw [heq]
      exact ⟨rfl, Int.le_refl _, ⟨_, hrow, rfl⟩, ⟨_, rfl, hrow⟩⟩
    · exact absurd (hid.symm.trans hj) (by simp)
    · exact absurd (hid.symm.trans hj) (by simp)
  held {st x y} h hne hy := by
    rcases writeExtra_cases n st x with ⟨e, heq⟩ | ⟨-, heq⟩ | ⟨k, hk, -, heq⟩ | ⟨k, -, -, heq⟩ <;> rw [heq]
    · exact hy
    · obtain ⟨j, hj, hrow⟩ := hy
      exact ⟨j, hj, List.mem_append_left _ hrow⟩
    · obtain ⟨j, hj, hrow⟩ := hy
      refine ⟨j, hj, mem_replaceRow.2 (.inl ⟨hrow, ?_⟩)⟩
      rintro rfl
      exact hne (hk.trans hj.symm)
    · exact hy

/-! ## Albums -/

/-- What a save that was refused for a member has made of a value. The album has the number that its row
was written under. The runs on its members have stopped at the one that was refused. -/
structure PartlySaved (n : Int) (st : Store) (s : Shelf) (a : Album) (e : Fault) (v : Album × Shelf) :
    Prop where
  own : (a.info s).id? = some n ∧ st.HasAlbum n ∨
    (∀ k, (a.info s).id? = some k → ¬ st.HasAlbum k) ∧ ∀ r ∈ st.albums, r.id < n
  shelf : v.2 = s.modify a.handle ({ · with id? := some n })
  handle : v.1.handle = a.handle
  members : ∃ st₁, st.writeAlbum (a.info s) = .ok (n, st₁) ∧
    (StoppedAt (writeTrack n) (·.id?) Track.numbered (st₁.deleteDropped n a) a.tracks e v.1.tracks ∧
        v.1.extras = a.extras ∨
      let p := each (writeTrack n) (st₁.deleteDropped n a) a.tracks
      v.1.tracks = p.value ∧ Numbered (·.id?) Track.numbered a.tracks p.value ∧
        StoppedAt (writeExtra n) (·.id?) Extra.numbered p.store a.extras e v.1.extras)

/-- What a save that succeeds stores of a value, whatever numbers its members have. The row of the album is
written, or inserted if there is none. A member without a number is inserted under one that has not been
given before, and is held unless a member with that very number is written over it. -/
structure SavesNew (n : Int) (st : Store) (s : Shelf) (a : Album) (p : Progress (Album × Shelf)) :
    Prop where
  own : (a.info s).id? = some n ∧ st.HasAlbum n ∨
    (∀ k, (a.info s).id? = some k → ¬ st.HasAlbum k) ∧ ∀ r ∈ st.albums, r.id < n
  albums : Written AlbumRow.id st.albums p.store.albums [(a.info s).row n]
  tracks : ∀ t ∈ a.tracks, t.id? = none → ∃ k, st.lastTrack < k ∧ t.numbered k ∈ p.value.1.tracks ∧
    p.store.HasTrack k ∧ (k ∉ a.tracks.filterMap (·.id?) → p.store.HoldsTrack n (t.numbered k))
  extras : ∀ x ∈ a.extras, x.id? = none → ∃ k, st.lastExtra < k ∧ x.numbered k ∈ p.value.1.extras ∧
    p.store.HasExtra k ∧ (k ∉ a.extras.filterMap (·.id?) → p.store.HoldsExtra n (x.numbered k))

/-- If the members of an album are refused, the runs on them have stopped at the one that was. -/
theorem writeMembers_stopped {e : Fault} (hfault : (st.writeMembers n a).fault? = some e) :
    let p := each (writeTrack n) (st.deleteDropped n a) a.tracks
    let v := (st.writeMembers n a).value
    v.handle = a.handle ∧
      (StoppedAt (writeTrack n) (·.id?) Track.numbered (st.deleteDropped n a) a.tracks e v.tracks ∧
          v.extras = a.extras ∨
        v.tracks = p.value ∧ Numbered (·.id?) Track.numbered a.tracks p.value ∧
          StoppedAt (writeExtra n) (·.id?) Extra.numbered p.store a.extras e v.extras) := by
  intro p v
  obtain ⟨hnumbered, hstopped⟩ :=
    each_numbered a.tracks (st.deleteDropped n a) (writeTrack_numbered n)
  rcases hp : p.fault? with _ | e'
  · have heq := writeMembers_eq hp
    have hx : (each (writeExtra n) p.store a.extras).fault? = some e := by
      rw [heq] at hfault
      exact hfault
    have hv : v = { a with
        tracks := p.value
        extras := (each (writeExtra n) p.store a.extras).value } := congrArg Progress.value heq
    rw [hv]
    exact ⟨rfl, .inr ⟨rfl, hnumbered hp, (each_numbered _ _ (writeExtra_numbered n)).2 e hx⟩⟩
  · have he : some e' = some e := (writeMembers_of_fault hp).symm.trans hfault
    have hv : v = { a with tracks := p.value } := by
      show (st.writeMembers n a).value = _
      have hsome : p.fault?.isSome = true := by
        rw [hp]
        rfl
      simp only [writeMembers]
      rw [if_pos hsome]
    rw [hv]
    exact ⟨rfl, .inl ⟨hstopped e (hp.trans he), rfl⟩⟩

/-- A refused save leaves a value as it was, or has numbered it up to the member that was refused. -/
theorem partlySaved_of_fault (h : st.Consistent) {e : Fault}
    (hfault : (st.saveAlbum s a).fault? = some e) :
    (∃ k, st.writeAlbum (a.info s) = .error k) ∧ (st.saveAlbum s a).value = (a, s) ∨
      ∃ n, PartlySaved n st s a e (st.saveAlbum s a).value := by
  rcases hw : st.writeAlbum (a.info s) with k | ⟨n, st₁⟩
  · refine .inl ⟨⟨k, rfl⟩, ?_⟩
    unfold saveAlbum
    rw [hw]
  · have heq := saveAlbum_of_writeAlbum hw
    have hfaultMembers : (st₁.writeMembers n a).fault? = some e := by
      rw [heq] at hfault
      exact hfault
    obtain ⟨-, -, -, -, hown⟩ := writeAlbum_written h hw
    obtain ⟨hhandle, hmembers⟩ := writeMembers_stopped hfaultMembers
    rw [heq]
    exact .inr ⟨n, hown, rfl, hhandle, st₁, hw, hmembers⟩

/-- Extras are written without a change to any track. -/
theorem each_writeExtra_tracks (n : Int) (st : Store) (xs : List Extra) :
    (each (writeExtra n) st xs).store.tracks = st.tracks ∧
      (each (writeExtra n) st xs).store.trackGenres = st.trackGenres := by
  refine each_store (P := fun st' => st'.tracks = st.tracks ∧ st'.trackGenres = st.trackGenres) ?_ xs
    ⟨rfl, rfl⟩
  intro st' x hst'
  rcases writeExtra_cases n st' x with ⟨e, heq⟩ | ⟨-, heq⟩ | ⟨k, -, -, heq⟩ | ⟨k, -, -, heq⟩ <;>
    rw [heq] <;> exact hst'

/-- Tracks are written without a number being given to an extra. -/
theorem each_writeTrack_lastExtra (ts : List Track) :
    (each (writeTrack n) st ts).store.lastExtra = st.lastExtra := by
  refine each_store (P := (·.lastExtra = st.lastExtra)) ?_ ts rfl
  intro st' t hst'
  rcases writeTrack_cases n st' t with ⟨e, heq⟩ | ⟨-, heq⟩ | ⟨k, -, -, heq⟩ | ⟨k, -, hk, heq⟩ <;> rw [heq]
  · exact hst'
  · exact hst'
  · exact hst'
  · rcases writeGenres_of_not_hasTrack hk t with heq | ⟨g, heq⟩ <;> rw [heq]
    · exact hst'
    · rw [addGenre_eq]
      exact hst'

theorem each_albums {α : Type} {f : Store → α → Progress α}
    (hf : ∀ st a, (f st a).store.albums = st.albums) (as : List α) :
    (each f st as).store.albums = st.albums :=
  each_store (P := (·.albums = st.albums)) (fun st' a hst' => (hf st' a).trans hst') as rfl

theorem writeAlbum_last {i : AlbumInfo} (he : st.writeAlbum i = .ok (n, st')) :
    st'.lastTrack = st.lastTrack ∧ st'.lastExtra = st.lastExtra := by
  rcases writeAlbum_eq_ok he with ⟨-, hn, hu⟩ | ⟨-, hi⟩
  · obtain ⟨-, -, rfl⟩ := updateAlbum_eq_ok (r := i.row n) hn hu
    exact ⟨rfl, rfl⟩
  · obtain ⟨-, -, rfl⟩ := insertAlbum_eq_ok hi
    exact ⟨rfl, rfl⟩

/-- A save that succeeds inserts what has no number, whatever the other numbers are. -/
theorem savesNew_of_ok (h : st.Consistent) (hok : (st.saveAlbum s a).fault? = none) :
    ∃ n, SavesNew n st s a (st.saveAlbum s a) := by
  rcases hw : st.writeAlbum (a.info s) with k | ⟨n, st₁⟩
  · unfold saveAlbum at hok
    rw [hw] at hok
    cases hok
  · have heq := saveAlbum_of_writeAlbum hw
    have hokMembers : (st₁.writeMembers n a).fault? = none := by
      rw [heq] at hok
      exact hok
    obtain ⟨hp, hq, hmembers⟩ := writeMembers_of_ok hokMembers
    obtain ⟨halbums, -, -, -, hown⟩ := writeAlbum_written h hw
    obtain ⟨h₁, hn⟩ := h.writeAlbum hw
    obtain ⟨hlastTrack, hlastExtra⟩ := writeAlbum_last hw
    have hdrop : (st₁.deleteDropped n a).Consistent ∧ (st₁.deleteDropped n a).HasAlbum n :=
      ⟨h₁.deleteDropped n a, hn⟩
    have htracks := eachInserts_tracks.run hdrop hp
    have hst₂ := each_store (P := fun st => st.Consistent ∧ st.HasAlbum n)
      (fun _ t hst => Consistent.writeTrack_hasAlbum hst t) a.tracks hdrop
    have hextras := eachInserts_extras.run hst₂ hq
    have hlast : (each (writeTrack n) (st₁.deleteDropped n a) a.tracks).store.lastExtra = st.lastExtra :=
      (each_writeTrack_lastExtra a.tracks).trans hlastExtra
    obtain ⟨htracksEq, hlinksEq⟩ := each_writeExtra_tracks n
      (each (writeTrack n) (st₁.deleteDropped n a) a.tracks).store a.extras
    rw [heq, hmembers]
    refine ⟨n, hown, ?_, ?_, ?_⟩
    · show Written AlbumRow.id st.albums
        (each (writeExtra n) (each (writeTrack n) _ a.tracks).store a.extras).store.albums _
      rw [each_albums fun _ x => writeExtra_albums n x, each_albums fun _ t => writeTrack_albums n t]
      exact halbums
    · intro t ht hnone
      obtain ⟨k, hk, hmem, hhas, hholds⟩ := htracks t ht hnone
      have hlt : st.lastTrack < k := hlastTrack ▸ hk
      refine ⟨k, hlt, hmem, ?_, fun hno => ?_⟩
      · unfold HasTrack
        show ∃ r ∈ (each (writeExtra n) _ a.extras).store.tracks, r.id = k
        rw [htracksEq]
        exact hhas
      · obtain ⟨j, hj, hrow, hgenres⟩ := hholds hno
        refine ⟨j, hj, ?_, fun g => ?_⟩
        · show _ ∈ (each (writeExtra n) _ a.extras).store.tracks
          rw [htracksEq]
          exact hrow
        · rw [← hgenres g, mem_genresOf, mem_genresOf]
          show _ ∈ (each (writeExtra n) _ a.extras).store.trackGenres ↔ _
          rw [hlinksEq]
    · intro x hx hnone
      obtain ⟨k, hk, hmem, hhas, hholds⟩ := hextras x hx hnone
      rw [hlast] at hk
      exact ⟨k, hk, hmem, hhas, hholds⟩

/-- What a refused save leaves of a value differs from it in numbers only: none if the album's row was
refused, and otherwise that of the album and those of the members before the one that was refused. When the
value is saved later and that succeeds, be it after a rollback, its row is written and every member that
has no number is inserted. -/
theorem saveAlbum_refused (h : st.Reachable) {e : Fault}
    (hfault : (st.saveAlbum s a).fault? = some e) :
    let v := (st.saveAlbum s a).value
    ((∃ k, st.writeAlbum (a.info s) = .error k) ∧ v = (a, s) ∨ ∃ n, PartlySaved n st s a e v) ∧
      ∀ later : Store, later.Reachable → (later.saveAlbum v.2 v.1).fault? = none →
        ∃ n, SavesNew n later v.2 v.1 (later.saveAlbum v.2 v.1) :=
  ⟨partlySaved_of_fault h.consistent hfault, fun _ hlater hok => savesNew_of_ok hlater.consistent hok⟩

/-- A new album with two tracks at one position. -/
def clashing : Album where
  handle := ⟨0⟩
  tracks := [.create nightAndDay ⟨0⟩ 1 "One" (.ofText "/night/1.flac"),
    .create nightAndDay ⟨0⟩ 1 "Two" (.ofText "/night/2.flac")]
  extras := []

/-- The first of the two tracks has been numbered when the second one is refused. -/
theorem saveAlbum_refused_clashing :
    ∃ n, PartlySaved n Store.empty nightAndDay clashing (.duplicate .trackPosition)
      (Store.empty.saveAlbum nightAndDay clashing).value := by
  have hempty : Store.empty.Reachable := ⟨[], rfl⟩
  have hfault : (Store.empty.saveAlbum nightAndDay clashing).fault? =
      some (.duplicate .trackPosition) := by
    decide +kernel
  refine (saveAlbum_refused hempty hfault).1.resolve_left fun hsame => ?_
  have hnumbered : (Store.empty.saveAlbum nightAndDay clashing).value.1 ≠ clashing := by decide +kernel
  exact hnumbered (congrArg Prod.fst hsame.2)

/-- The refused save has numbered the album and its first track, and the rollback takes their rows. When the
album is saved once more, that track is not stored. -/
theorem saveAlbum_refused_then_lost :
    let p := (Session.after []).working.saveAlbum nightAndDay clashing
    let later := (Session.after [.saveAlbum nightAndDay clashing, .rollback]).working
    let q := later.saveAlbum p.value.2 p.value.1
    p.fault? = some (.duplicate .trackPosition) ∧
      ((clashing.info nightAndDay).id? = none ∧ (p.value.1.info p.value.2).id? = some 1) ∧
      (clashing.tracks.map (·.id?) = [none, none] ∧ p.value.1.tracks.map (·.id?) = [some 1, none]) ∧
      q.fault? = none ∧ q.store.tracks.map (·.path) = ["/night/2.flac"] := by
  decide +kernel

end Store

end MusicLibrary

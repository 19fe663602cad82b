import MusicLibrary.Proofs.Command.Work
import MusicLibrary.Proofs.Query.Found
import MusicLibrary.Proofs.Store.Assigned

/-!
# What editing items comes to

Editing works on one found item after the other: it applies the edits to the item and to the album that it
shares with other ones, and saves it. `editItems_assigns` says that this comes to assigning the last given
values to all found items at once. It succeeds exactly if all edits fit the kind and no two rows share a key
afterwards, and nothing is committed otherwise.
-/

namespace MusicLibrary

namespace Command

open Work

variable {e : FieldEdit} {edits : List FieldEdit} {d : Desk}

/-! ## Applying edits -/

/-- Applies an edit to a track. -/
def editTrackOnce (e : FieldEdit) (t : Track) : Work Track := do
  let (t, s) ← takeEdited (e.applyToTrack t (← get).shelf)
  setShelf s
  return t

/-- Applies an edit to an album. -/
def editAlbumOnce (e : FieldEdit) (a : Album) : Work Unit := do
  setShelf (← takeEdited (e.applyToAlbum a (← get).shelf))

/-- Applies edits to a track. -/
def editTrack (edits : List FieldEdit) (t : Track) : Work Track :=
  edits.foldlM (fun t e => editTrackOnce e t) t

/-- Applies edits to an album. -/
def editAlbum (edits : List FieldEdit) (a : Album) : Work Unit := edits.forM (editAlbumOnce · a)

theorem editTrack_cons (t : Track) : editTrack (e :: edits) t = (editTrackOnce e t >>= editTrack edits) :=
  rfl

theorem editAlbum_cons (a : Album) :
    editAlbum (e :: edits) a = (editAlbumOnce e a >>= fun _ => editAlbum edits a) := rfl

theorem outcome_editTrackOnce_of_ok {t t' : Track} {s : Shelf}
    (h : e.applyToTrack t d.shelf = .ok (t', s)) :
    (editTrackOnce e t).outcome d = (.ok t', { d with shelf := s }) := by
  unfold editTrackOnce
  rw [outcome_bind_of_ok outcome_get, h]
  rfl

theorem outcome_editTrackOnce_of_error {t : Track} {f : EditFault}
    (h : e.applyToTrack t d.shelf = .error f) :
    (editTrackOnce e t).outcome d = (.error (.fault (.edit f.message)), d) := by
  unfold editTrackOnce
  rw [outcome_bind_of_ok outcome_get, h]
  rfl

theorem outcome_editAlbumOnce_of_ok {a : Album} {s : Shelf} (h : e.applyToAlbum a d.shelf = .ok s) :
    (editAlbumOnce e a).outcome d = (.ok (), { d with shelf := s }) := by
  unfold editAlbumOnce
  rw [outcome_bind_of_ok outcome_get, h]
  rfl

theorem outcome_editAlbumOnce_of_error {a : Album} {f : EditFault}
    (h : e.applyToAlbum a d.shelf = .error f) :
    (editAlbumOnce e a).outcome d = (.error (.fault (.edit f.message)), d) := by
  unfold editAlbumOnce
  rw [outcome_bind_of_ok outcome_get, h]
  rfl

/-- Edits of a track assign to it and to its album if they all fit, and are refused otherwise. No row is
touched. -/
theorem outcome_editTrack (edits : List FieldEdit) {t : Track} (hs : d.shelf.Holds t.album) :
    (∀ e ∈ edits, e.fits .track = true) ∧ (∃ s, d.shelf.Assigned edits t.album s ∧
        (editTrack edits t).outcome d = (.ok (t.assign edits), { d with shelf := s })) ∨
      (¬ ∀ e ∈ edits, e.fits .track = true) ∧
        ∃ f s, (editTrack edits t).outcome d = (.error f, { d with shelf := s }) := by
  induction edits generalizing t d with
  | nil =>
    exact .inl ⟨fun e he => absurd he List.not_mem_nil, d.shelf,
      ⟨fun _ hk => hk, rfl, fun _ _ => rfl⟩, rfl⟩
  | cons e edits ih =>
    rw [List.forall_mem_cons, editTrack_cons]
    rcases hfit : e.fits .track with _ | _
    · obtain ⟨f, hf⟩ := FieldEdit.applyToTrack_of_not_fits t d.shelf hfit
      refine .inr ⟨fun hall => Bool.noConfusion hall.1, .fault (.edit f.message), d.shelf, ?_⟩
      rw [outcome_bind_of_error (outcome_editTrackOnce_of_error hf)]
    · obtain ⟨s₁, happly, hs₁⟩ := FieldEdit.applyToTrack_of_fits hs hfit
      rw [outcome_bind_of_ok (outcome_editTrackOnce_of_ok happly)]
      rcases @ih { d with shelf := s₁ } (t.assign [e]) (hs₁.holds _ hs) with
        ⟨hall, s, hs₂, heq⟩ | ⟨hno, f, s, heq⟩
      · exact .inl ⟨⟨rfl, hall⟩, s, hs₁.cons hs₂, by rw [heq, ← Track.assign_cons]⟩
      · exact .inr ⟨fun hall => hno hall.2, f, s, heq⟩

/-- Edits of an album assign to it if they all fit, and are refused otherwise. No row is touched. -/
theorem outcome_editAlbum (edits : List FieldEdit) {a : Album} (hs : d.shelf.Holds a.handle) :
    (∀ e ∈ edits, e.fits .album = true) ∧ (∃ s, d.shelf.Assigned edits a.handle s ∧
        (editAlbum edits a).outcome d = (.ok (), { d with shelf := s })) ∨
      (¬ ∀ e ∈ edits, e.fits .album = true) ∧
        ∃ f s, (editAlbum edits a).outcome d = (.error f, { d with shelf := s }) := by
  induction edits generalizing d with
  | nil =>
    exact .inl ⟨fun e he => absurd he List.not_mem_nil, d.shelf,
      ⟨fun _ hk => hk, rfl, fun _ _ => rfl⟩, rfl⟩
  | cons e edits ih =>
    rw [List.forall_mem_cons, editAlbum_cons]
    rcases hfit : e.fitsAlbum with _ | _
    · obtain ⟨f, hf⟩ := FieldEdit.applyToInfo_of_not_fits .album (a.info d.shelf) hfit
      have happly : e.applyToAlbum a d.shelf = .error f := by
        unfold FieldEdit.applyToAlbum
        rw [hf]
        rfl
      refine .inr ⟨fun hall => ?_, .fault (.edit f.message), d.shelf, ?_⟩
      · exact Bool.noConfusion (hfit.symm.trans hall.1)
      · rw [outcome_bind_of_error (outcome_editAlbumOnce_of_error happly)]
    · have hs₁ := Shelf.assigned_write hs [e]
      have happly : e.applyToAlbum a d.shelf =
          .ok (d.shelf.write a.handle ((d.shelf.read a.handle).assign [e])) := by
        unfold FieldEdit.applyToAlbum
        rw [FieldEdit.applyToInfo_of_fits .album _ hfit]
        rfl
      rw [outcome_bind_of_ok (outcome_editAlbumOnce_of_ok happly)]
      rcases @ih { d with shelf := _ } (hs₁.holds _ hs) with ⟨hall, s, hs₂, heq⟩ | ⟨hno, f, s, heq⟩
      · exact .inl ⟨⟨hfit, hall⟩, s, hs₁.cons hs₂, heq⟩
      · exact .inr ⟨fun hall => hno hall.2, f, s, heq⟩

/-! ## Editing the items one after the other -/

/-- Edits an item and reports it. -/
def editAndReport (edits : List FieldEdit) (item : Item) : Work Unit := do
  let item ← editItem edits item
  say ("Modified: " ++ item.shown (← get).shelf)

theorem editItem_track (t : Track) : editItem edits (.track t) =
    (editTrack edits t >>= fun t => attempt (fun st s => st.saveTrack s t) >>= fun t =>
      pure (.track t)) := rfl

theorem editItem_album (a : Album) : editItem edits (.album a) =
    (editAlbum edits a >>= fun _ => attempt (fun st s => st.saveAlbum s a) >>= fun p =>
      setShelf p.2 >>= fun _ => pure (.album p.1)) := rfl

theorem outcome_editItem_track_of_ok {t t' : Track} {s : Shelf}
    (hedit : (editTrack edits t).outcome d = (.ok t', { d with shelf := s }))
    (hok : (d.session.working.saveTrack s t').fault? = none) :
    let p := d.session.working.saveTrack s t'
    (editItem edits (.track t)).outcome d = (.ok (.track p.value),
      { d with shelf := s, session := { d.session with working := p.store } }) := by
  intro p
  rw [editItem_track, outcome_bind_of_ok hedit, outcome_bind_of_ok (outcome_attempt_of_ok hok),
    outcome_pure]

theorem outcome_editItem_track_of_fault {t t' : Track} {s : Shelf} {f : Fault}
    (hedit : (editTrack edits t).outcome d = (.ok t', { d with shelf := s }))
    (hf : (d.session.working.saveTrack s t').fault? = some f) :
    let p := d.session.working.saveTrack s t'
    (editItem edits (.track t)).outcome d = (.error (.fault f),
      { d with shelf := s, session := { d.session with working := p.store } }) := by
  intro p
  rw [editItem_track, outcome_bind_of_ok hedit, outcome_bind_of_error (outcome_attempt_of_fault hf)]

theorem outcome_editItem_album_of_ok {a : Album} {s : Shelf}
    (hedit : (editAlbum edits a).outcome d = (.ok (), { d with shelf := s }))
    (hok : (d.session.working.saveAlbum s a).fault? = none) :
    let p := d.session.working.saveAlbum s a
    (editItem edits (.album a)).outcome d = (.ok (.album p.value.1),
      { d with shelf := p.value.2, session := { d.session with working := p.store } }) := by
  intro p
  rw [editItem_album, outcome_bind_of_ok hedit, outcome_bind_of_ok (outcome_attempt_of_ok hok),
    outcome_bind_of_ok (outcome_setShelf _), outcome_pure]

theorem outcome_editItem_album_of_fault {a : Album} {s : Shelf} {f : Fault}
    (hedit : (editAlbum edits a).outcome d = (.ok (), { d with shelf := s }))
    (hf : (d.session.working.saveAlbum s a).fault? = some f) :
    let p := d.session.working.saveAlbum s a
    (editItem edits (.album a)).outcome d = (.error (.fault f),
      { d with shelf := s, session := { d.session with working := p.store } }) := by
  intro p
  rw [editItem_album, outcome_bind_of_ok hedit, outcome_bind_of_error (outcome_attempt_of_fault hf)]

theorem outcome_editAndReport_of_ok {item item' : Item} {d' : Desk}
    (h : (editItem edits item).outcome d = (.ok item', d')) :
    (editAndReport edits item).outcome d =
      (.ok (), { d' with output := d'.output ++ ("Modified: " ++ item'.shown d'.shelf) ++ "\n" }) := by
  unfold editAndReport
  rw [outcome_bind_of_ok h, outcome_bind_of_ok outcome_get, outcome_say]

theorem outcome_editAndReport_of_error {item : Item} {f : Failure} {d' : Desk}
    (h : (editItem edits item).outcome d = (.error f, d')) :
    (editAndReport edits item).outcome d = (.error f, d') := by
  unfold editAndReport
  rw [outcome_bind_of_error h]

variable {st : Store} {places : List (Int × Handle)} {albumIds trackIds : List Int}

/-- Editing one more item goes a step further, after which the albums and tracks of the given numbers have
been assigned, or fails because an edit does not fit or because two rows would share a key in the end. -/
def EditsOne (edits : List FieldEdit) (st : Store) (places : List (Int × Handle)) (kind : Kind)
    (albumIds trackIds : List Int) (item : Item) (d : Desk) : Prop :=
  (∃ d', (editAndReport edits item).outcome d = (.ok (), d') ∧
    d'.session.committed = d.session.committed ∧ (∀ e ∈ edits, e.fits kind = true) ∧
    Store.Midway edits st places albumIds trackIds d'.session.working d'.shelf) ∨
  ∃ f d', (editAndReport edits item).outcome d = (.error f, d') ∧
    d'.session.committed = d.session.committed ∧ ((∀ e ∈ edits, e.fits kind = true) →
      ∀ albumIds' trackIds', (∀ k ∈ albumIds, k ∈ albumIds') → (∀ k ∈ trackIds, k ∈ trackIds') →
        ¬ (st.assignTo edits albumIds' trackIds').KeysUnique)

theorem editsOne_track (hst : st.Consistent)
    (h : Store.Midway edits st places albumIds trackIds d.session.working d.shelf) {r : TrackRow}
    {t : Track} (hr : r ∈ st.tracks) (hnew : r.id ∉ trackIds) (ht : Store.LoadedAt st places r t) :
    EditsOne edits st places .track (r.albumId :: albumIds) (r.id :: trackIds) (.track t) d := by
  have hholds : d.shelf.Holds t.album := by
    obtain ⟨hd, hplace, rfl⟩ := ht
    exact h.placed.holds _ hplace
  rcases outcome_editTrack edits hholds with ⟨hfits, s, hs, hedit⟩ | ⟨hno, f, s, hedit⟩
  · rcases h.saveTrack hst hr hnew ht hs with ⟨hok, hmidway⟩ | ⟨⟨f, hf⟩, hno⟩
    · have hitem := outcome_editItem_track_of_ok hedit hok
      exact .inl ⟨_, outcome_editAndReport_of_ok hitem, rfl, hfits, hmidway⟩
    · have hitem := outcome_editItem_track_of_fault hedit hf
      exact .inr ⟨_, _, outcome_editAndReport_of_error hitem, rfl, fun _ => hno⟩
  · have hitem : (editItem edits (.track t)).outcome d = (.error f, { d with shelf := s }) := by
      rw [editItem_track, outcome_bind_of_error hedit]
    exact .inr ⟨_, _, outcome_editAndReport_of_error hitem, rfl, fun hall => absurd hall hno⟩

theorem editsOne_album (hst : st.Consistent)
    (h : Store.Midway edits st places albumIds [] d.session.working d.shelf) {n : Int} {hd : Handle}
    (hplace : (n, hd) ∈ places) (hn : st.HasAlbum n) :
    EditsOne edits st places .album (n :: albumIds) [] (.album (st.albumAt n hd)) d := by
  have hholds : d.shelf.Holds (st.albumAt n hd).handle := h.placed.holds _ hplace
  rcases outcome_editAlbum edits hholds with ⟨hfits, s, hs, hedit⟩ | ⟨hno, f, s, hedit⟩
  · rcases h.saveAlbum hst hplace hn hs with ⟨hok, hmidway⟩ | ⟨⟨f, hf⟩, hno⟩
    · have hitem := outcome_editItem_album_of_ok hedit hok
      exact .inl ⟨_, outcome_editAndReport_of_ok hitem, rfl, hfits, hmidway⟩
    · have hitem := outcome_editItem_album_of_fault hedit hf
      refine .inr ⟨_, _, outcome_editAndReport_of_error hitem, rfl, fun _ _ trackIds' hsub _ => ?_⟩
      exact hno _ trackIds' hsub
  · have hitem : (editItem edits (.album (st.albumAt n hd))).outcome d =
        (.error f, { d with shelf := s }) := by
      rw [editItem_album, outcome_bind_of_error hedit]
    exact .inr ⟨_, _, outcome_editAndReport_of_error hitem, rfl, fun hall => absurd hall hno⟩

/-! ## Editing all of them -/

/-- Editing items ends with the edits assigned to all of them, which is a store `assigned`, or fails because
an edit does not fit or because two rows of that store would share a key. Nothing is committed meanwhile. -/
def EditsAll (edits : List FieldEdit) (st : Store) (kind : Kind) (assigned : Store) (items : List Item)
    (d : Desk) : Prop :=
  (∃ d', (items.forM (editAndReport edits)).outcome d = (.ok (), d') ∧
    (∀ e ∈ edits, e.fits kind = true) ∧ assigned.KeysUnique ∧
    d'.session.working.albums = assigned.albums ∧ d'.session.working.tracks = assigned.tracks ∧
    d'.session.working.extras = assigned.extras ∧
    d'.session.working.trackGenres.Perm assigned.trackGenres) ∨
  ∃ f d', (items.forM (editAndReport edits)).outcome d = (.error f, d') ∧ d'.session.committed = st ∧
    ((∀ e ∈ edits, e.fits kind = true) → ¬ assigned.KeysUnique)

section EachItem

-- an item `shows` what has to be assigned for it: an album, and a track unless the item is that album
variable {τ : Type} {kind : Kind} {xs : List τ} {album : τ → Int} {tracks : τ → List Int}
  {shows : τ → Item → Prop} {items : List Item}

/-- Of the items that show `xs`, some are left to be edited. The other ones have been assigned and saved. -/
structure ItemsLeft (edits : List FieldEdit) (st : Store) (places : List (Int × Handle)) (kind : Kind)
    (xs : List τ) (album : τ → Int) (tracks : τ → List Int) (shows : τ → Item → Prop)
    (items : List Item) (d : Desk) : Prop where
  committed : d.session.committed = st
  split : ∃ done rest, List.Forall₂ shows rest items ∧ (done ++ rest).Perm xs ∧
    (done ≠ [] → ∀ e ∈ edits, e.fits kind = true) ∧
    Store.Midway edits st places (done.map album) (done.flatMap tracks) d.session.working d.shelf

/-- Why editing the items that show `xs` has failed, and that nothing has been committed. -/
structure ItemsRefused (edits : List FieldEdit) (st : Store) (kind : Kind) (xs : List τ) (album : τ → Int)
    (tracks : τ → List Int) (d : Desk) : Prop where
  committed : d.session.committed = st
  reason : (∀ e ∈ edits, e.fits kind = true) →
    ¬ (st.assignTo edits (xs.map album) (xs.flatMap tracks)).KeysUnique

variable (hone : ∀ x ∈ xs, ∀ (item : Item) (done : List τ) (d : Desk), x ∉ done →
  (∀ y ∈ done, y ∈ xs) → shows x item →
  Store.Midway edits st places (done.map album) (done.flatMap tracks) d.session.working d.shelf →
  EditsOne edits st places kind (album x :: done.map album) (tracks x ++ done.flatMap tracks) item d)
include hone

theorem ItemsLeft.step (hnodup : xs.Nodup) {item : Item}
    (h : ItemsLeft edits st places kind xs album tracks shows (item :: items) d) :
    (∃ d', (editAndReport edits item).outcome d = (.ok (), d') ∧
      ItemsLeft edits st places kind xs album tracks shows items d') ∨
    ∃ f d', (editAndReport edits item).outcome d = (.error f, d') ∧
      ItemsRefused edits st kind xs album tracks d' := by
  obtain ⟨hcommitted, done, rest, hrest, hperm, -, hmidway⟩ := h
  cases hrest with
  | @cons x _ rest _ hx hrest =>
    have hperm' : (x :: done ++ rest).Perm xs := List.perm_middle.symm.trans hperm
    have hsub : ∀ y ∈ x :: done, y ∈ xs := fun y hy => hperm'.subset (List.mem_append_left _ hy)
    have hnew : x ∉ done := fun hmem =>
      (List.nodup_cons.1 (hperm'.nodup_iff.2 hnodup)).1 (List.mem_append_left _ hmem)
    rcases hone x (hsub x (.head _)) item done d hnew (fun y hy => hsub y (.tail _ hy)) hx hmidway with
      ⟨d', hok, hkept, hfits, hnext⟩ | ⟨f, d', herror, hkept, hno⟩
    · exact .inl ⟨d', hok, hkept.trans hcommitted, x :: done, rest, hrest, hperm', fun _ => hfits, hnext⟩
    · refine .inr ⟨f, d', herror, hkept.trans hcommitted, fun hfits => hno hfits _ _ ?_ ?_⟩
      · exact (List.map_subset album hsub : (x :: done).map album ⊆ _)
      · intro k hk
        obtain ⟨y, hy, hky⟩ := List.mem_flatMap.1 (show k ∈ (x :: done).flatMap tracks from hk)
        exact List.mem_flatMap.2 ⟨y, hsub y hy, hky⟩

theorem editsAll_of_each (hst : st.Consistent) (hd : d.session = .start st)
    (hplaced : Store.Placed st places d.shelf) (hshown : List.Forall₂ shows xs items) (hnodup : xs.Nodup)
    (hne : xs ≠ []) :
    EditsAll edits st kind (st.assignTo edits (xs.map album) (xs.flatMap tracks)) items d := by
  have hstart : ItemsLeft edits st places kind xs album tracks shows items d := by
    refine ⟨by rw [hd]; rfl, [], xs, hshown, .refl _, fun h => absurd rfl h, ?_⟩
    rw [hd]
    exact Store.midway_start hst hplaced
  have hstep : ∀ item items d, ItemsLeft edits st places kind xs album tracks shows (item :: items) d →
      (∃ d', (editAndReport edits item).outcome d = (.ok (), d') ∧
        ItemsLeft edits st places kind xs album tracks shows items d') ∨
      ∃ f d', (editAndReport edits item).outcome d = (.error f, d') ∧
        ItemsRefused edits st kind xs album tracks d' :=
    fun _ _ _ h => h.step hone hnodup
  rcases forM_outcome hstep hstart with ⟨d', hok, -, done, rest, hrest, hperm, hfits, hmidway⟩ |
    ⟨f, d', herror, hcommitted, hno⟩
  · cases hrest
    rw [List.append_nil] at hperm
    have hall := hmidway.congr (fun _ => (hperm.map album).mem_iff)
      fun _ => (hperm.flatMap_right tracks).mem_iff
    refine .inl ⟨d', hok, hfits ?_, hall.keysUnique, hall.albums, hall.tracks, hall.extras,
      hall.perm_links hst⟩
    rintro rfl
    exact hne hperm.nil_eq.symm
  · exact .inr ⟨f, d', herror, hcommitted, hno⟩

end EachItem

/-! ## Editing what is found -/

theorem editsAll_tracks (hst : st.Consistent) (hd : d.session = .start st) {ids : List Int}
    (hids : ∀ k ∈ ids, st.HasTrack k) (hne : ids ≠ []) :
    let loaded := Query.loadItems st .track ids d.shelf
    loaded.1 ≠ [] ∧ EditsAll edits st .track (st.assign edits .track ids) loaded.1
      { d with shelf := loaded.2 } := by
  intro loaded
  obtain ⟨places, rows, hplaced, hloaded, hnodup, hrows⟩ := Store.loadTracks_loaded hst ids d.shelf
  have hrowsne : rows ≠ [] := by
    obtain ⟨k, hk⟩ := List.exists_mem_of_ne_nil ids hne
    obtain ⟨r, hr, rfl⟩ := hids k hk
    exact List.ne_nil_of_mem ((hrows r).2 ⟨hr, hk⟩)
  have hshown : List.Forall₂ (fun r item => ∃ t, item = Item.track t ∧ Store.LoadedAt st places r t)
      rows loaded.1 :=
    List.forall₂_map_right_iff.2 (hloaded.imp fun _ t ht => ⟨t, rfl, ht⟩)
  have hassigned : st.assignTo edits (rows.map (·.albumId)) (rows.flatMap ([·.id])) =
      st.assign edits .track ids := by
    refine Store.assignTo_congr (fun k => ?_) fun k => ?_
    · simp only [List.mem_map, hrows, List.mem_filter, decide_eq_true_eq]
    · simp only [List.mem_flatMap, List.mem_singleton, hrows]
      constructor
      · rintro ⟨r, ⟨-, hr⟩, rfl⟩
        exact hr
      · intro hk
        obtain ⟨r, hr, rfl⟩ := hids k hk
        exact ⟨r, ⟨hr, hk⟩, rfl⟩
  refine ⟨fun hnil => hrowsne ?_, hassigned ▸ editsAll_of_each ?_ hst hd hplaced hshown hnodup.of_map
    hrowsne⟩
  · rw [hnil] at hshown
    exact List.forall₂_nil_right_iff.1 hshown
  · rintro r hr item done d hnew hdone ⟨t, rfl, ht⟩ hmidway
    refine editsOne_track hst hmidway ((hrows r).1 hr).1 ?_ ht
    intro hmem
    obtain ⟨q, hq, hqr⟩ := List.mem_flatMap.1 hmem
    have hqr' : r = q := hst.tracks.eq_of_num ((hrows r).1 hr).1 ((hrows q).1 (hdone q hq)).1
      (List.mem_singleton.1 hqr)
    exact hnew (hqr' ▸ hq)

theorem editsAll_albums (hst : st.Consistent) (hd : d.session = .start st) {ids : List Int}
    (hids : ∀ k ∈ ids, st.HasAlbum k) (hne : ids ≠ []) :
    let loaded := Query.loadItems st .album ids d.shelf
    loaded.1 ≠ [] ∧ EditsAll edits st .album (st.assign edits .album ids) loaded.1
      { d with shelf := loaded.2 } := by
  intro loaded
  obtain ⟨hplaced, hnums⟩ := Store.placed_place hst ids d.shelf
  have hplacesne : (st.place ids d.shelf).1 ≠ [] := by
    obtain ⟨k, hk⟩ := List.exists_mem_of_ne_nil ids hne
    obtain ⟨p, hp, -⟩ := (hnums k).2 ⟨hk, hids k hk⟩
    exact List.ne_nil_of_mem hp
  have hshown : List.Forall₂ (fun p item => item = Item.album (st.albumAt p.1 p.2))
      (st.place ids d.shelf).1 loaded.1 := by
    have hitems : loaded.1 = (st.place ids d.shelf).1.map fun p => Item.album (st.albumAt p.1 p.2) :=
      List.map_map
    rw [hitems, List.forall₂_map_right_iff, List.forall₂_same]
    exact fun _ _ => rfl
  have hnone : ∀ done : List (Int × Handle), done.flatMap (fun _ => ([] : List Int)) = [] :=
    fun _ => List.flatMap_eq_nil_iff.2 fun _ _ => rfl
  have hassigned : st.assignTo edits ((st.place ids d.shelf).1.map (·.1))
      ((st.place ids d.shelf).1.flatMap fun _ => []) = st.assign edits .album ids := by
    rw [hnone]
    refine Store.assignTo_congr (fun k => ?_) fun _ => Iff.rfl
    rw [List.mem_map, hnums k]
    exact and_iff_left_of_imp (hids k)
  refine ⟨fun hnil => hplacesne ?_, hassigned ▸ editsAll_of_each ?_ hst hd hplaced hshown
    hplaced.nums.of_map hplacesne⟩
  · rw [hnil] at hshown
    exact List.forall₂_nil_right_iff.1 hshown
  · rintro p hp item done d - - rfl hmidway
    rw [hnone] at hmidway ⊢
    exact editsOne_album hst hmidway hp ((hnums p.1).1 ⟨p, hp, rfl⟩).2

theorem editItems_eq (query : String) (kind : Kind) : editItems query edits kind =
    (find query kind >>= fun items => items.forM (editAndReport edits) >>= fun _ => commit >>= fun _ =>
      say s!"\nCompleted: {counted items.length kind} modified") := rfl

/-- Editing what a query finds is an assignment to all found items at once. It succeeds exactly if all edits
fit and no two rows share a key when each edited field has its last given value. What it commits then are
the rows with these values. Otherwise it commits nothing. -/
theorem editItems_assigns (h : st.Reachable) (query : String) (edits : List FieldEdit) {kind : Kind}
    (hkind : kind = .track ∨ kind = .album) (hd : d.session = .start st)
    (hfound : Query.found query kind st ≠ []) :
    let assigned := st.assign edits kind (Query.found query kind st)
    let result := (editItems query edits kind).outcome d
    let left := result.2.session.committed
    (result.1 = .ok () ↔ (∀ e ∈ edits, e.fits kind = true) ∧ assigned.KeysUnique) ∧
      (result.1 = .ok () → left.albums = assigned.albums ∧ left.tracks = assigned.tracks ∧
        left.extras = assigned.extras ∧ left.trackGenres.Perm assigned.trackGenres) ∧
      (result.1 ≠ .ok () → left = st) := by
  intro assigned result left
  have hloop : let loaded := Query.loadItems st kind (Query.found query kind st) d.shelf
      loaded.1 ≠ [] ∧ EditsAll edits st kind assigned loaded.1 { d with shelf := loaded.2 } := by
    rcases hkind with rfl | rfl
    · exact editsAll_tracks h.consistent hd (fun _ => Query.hasTrack_of_found) hfound
    · exact editsAll_albums h.consistent hd (fun _ => Query.hasAlbum_of_found) hfound
  rcases hload : Query.loadItems st kind (Query.found query kind st) d.shelf with ⟨items, s⟩
  simp only [hload] at hloop
  obtain ⟨hne, hloop⟩ := hloop
  have hexecute : Query.execute query kind d.session.working d.shelf = (items, s) := by
    rw [hd, ← hload]
    exact Query.execute_eq query kind st d.shelf
  have hresult : result = (editItems query edits kind).outcome d := rfl
  rw [editItems_eq, outcome_bind_of_ok (outcome_find hexecute hne)] at hresult
  rcases hloop with ⟨d', hok, hfits, hkeys, hrows⟩ | ⟨f, d', herror, hcommitted, hno⟩
  · rw [outcome_bind_of_ok hok, outcome_bind_of_ok outcome_commit, outcome_say] at hresult
    have hdone : result.1 = .ok () := by rw [hresult]
    have hleft : left = d'.session.working := by
      show result.2.session.committed = _
      rw [hresult]
      rfl
    exact ⟨iff_of_true hdone ⟨hfits, hkeys⟩, fun _ => hleft ▸ hrows, fun hne => absurd hdone hne⟩
  · rw [outcome_bind_of_error herror] at hresult
    have hfailed : result.1 ≠ .ok () := by
      rw [hresult]
      exact fun he => nomatch he
    have hleft : left = st := by
      show result.2.session.committed = _
      rw [hresult]
      exact hcommitted
    exact ⟨iff_of_false hfailed fun hall => hno hall.1 hall.2, fun hok => absurd hok hfailed,
      fun _ => hleft⟩

theorem editItems_assigns_firstTrack :
    let edits := [⟨"disc", "1"⟩, ⟨"album", "Dusk"⟩, ⟨"disc", "2"⟩]
    let d : Desk := ⟨default, .start Store.twoStored, .empty, ""⟩
    let result := (editItems "title:One" edits .track).outcome d
    let left := result.2.session.committed
    result.1 = .ok () ∧ left.albums.map (·.title) = ["Dusk"] ∧
      left.tracks.map (fun r => (r.title, r.disc)) = [("One", 2), ("Two", 1)] := by
  intro edits d result left
  have hst : Store.twoStored.Reachable := ⟨_, rfl⟩
  have hfound : Query.found "title:One" .track Store.twoStored = [1] := by decide +kernel
  obtain ⟨hiff, hrows, -⟩ := editItems_assigns (d := d) hst "title:One" edits (.inl rfl) rfl
    (by rw [hfound]; exact List.cons_ne_nil _ _)
  rw [hfound] at hiff hrows
  have hok : result.1 = .ok () := hiff.2 ⟨by decide +kernel, by constructor <;> decide +kernel⟩
  obtain ⟨halbums, htracks, -⟩ := hrows hok
  have halbums' : left.albums = _ := halbums
  have htracks' : left.tracks = _ := htracks
  rw [halbums', htracks']
  exact ⟨hok, by decide +kernel, by decide +kernel⟩

end Command

end MusicLibrary

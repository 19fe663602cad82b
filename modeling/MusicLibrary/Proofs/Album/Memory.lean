import MusicLibrary.Proofs.Album.Merge
import MusicLibrary.Proofs.Edit
import MusicLibrary.Proofs.Store.Loaded
import MusicLibrary.Proofs.Store.LoadedRows

/-!
# Albums in memory

Albums are created, loaded, copied, merged and edited, and members are added to them and moved between them.
Whatever has been done, every member of an album holds the album's handle and no two albums hold the same
one. So a change of the fields of an album, through any handle that it or a member holds, is seen through all
of them, and nothing that can be seen of another album changes (`apart_after`).
-/

namespace MusicLibrary

/-! ## Members that hold the album's handle -/

namespace Album

variable {a : Album} {s s' : Shelf} {overwrite : Bool} {threshold : Score}

/-- The handles that an album and its members hold. -/
def handles (a : Album) : List Handle :=
  a.handle :: (a.tracks.map (·.album) ++ a.extras.map (·.album))

theorem whole_iff : a.Whole ↔ ∀ h ∈ a.handles, h = a.handle := by
  simp [Whole, handles, or_imp, forall_and]

/-- What can be seen of an album: its fields, and each member with the album fields read through it. -/
def view (s : Shelf) (a : Album) : AlbumInfo × List (Track × AlbumInfo) × List (Extra × AlbumInfo) :=
  (a.info s, a.tracks.map fun t => (t, s.read t.album), a.extras.map fun e => (e, s.read e.album))

theorem view_congr (h : ∀ k ∈ a.handles, s'.read k = s.read k) : a.view s' = a.view s := by
  have hinfo : a.info s' = a.info s := h _ (.head _)
  have htracks : ∀ t ∈ a.tracks, s'.read t.album = s.read t.album := fun t ht =>
    h _ (.tail _ (List.mem_append_left _ (List.mem_map_of_mem ht)))
  have hextras : ∀ e ∈ a.extras, s'.read e.album = s.read e.album := fun e he =>
    h _ (.tail _ (List.mem_append_right _ (List.mem_map_of_mem he)))
  have htracks' : a.tracks.map (fun t => (t, s'.read t.album)) = a.tracks.map fun t => (t, s.read t.album) :=
    List.map_congr_left fun t ht => by rw [htracks t ht]
  have hextras' : a.extras.map (fun e => (e, s'.read e.album)) = a.extras.map fun e => (e, s.read e.album) :=
    List.map_congr_left fun e he => by rw [hextras e he]
  rw [view, view, hinfo, htracks', hextras']

theorem Whole.mergeTracks (h : a.Whole) (source : List Track) :
    (a.mergeTracks overwrite threshold source).Whole := by
  refine ⟨fun v hv => ?_, ?_⟩
  · rw [mergeTracks_eq]
    rcases mem_mergeTracks.1 hv with ⟨i, hi, rfl⟩ | ⟨j, -, hj, rfl⟩
    · rw [mergedTrack_album]
      exact h.1 _ (List.getElem_mem hi)
    · rfl
  · rw [mergeTracks_eq]
    exact h.2

theorem redirectExtra_album {name : String} {path : Path} {es : List Extra} {k : Handle}
    (h : ∀ e ∈ es, e.album = k) : ∀ e ∈ redirectExtra name path es, e.album = k := by
  induction es with
  | nil => exact nofun
  | cons e es ih =>
    obtain ⟨he, hes⟩ := List.forall_mem_cons.1 h
    rw [redirectExtra]
    split_ifs
    · exact List.forall_mem_cons.2 ⟨he, hes⟩
    · exact List.forall_mem_cons.2 ⟨he, ih hes⟩

theorem Whole.mergeExtra (h : a.Whole) (e : Extra) : (a.mergeExtra overwrite e).Whole := by
  unfold Album.mergeExtra
  split
  · split_ifs
    · exact ⟨h.1, redirectExtra_album h.2⟩
    · exact h
  · exact h.addExtra e

theorem Whole.merge (h : a.Whole) (source : Album) (s : Shelf) :
    (a.merge overwrite threshold source s).1.Whole := by
  have hfold : ∀ (es : List Extra) (b : Album), b.Whole →
      (es.foldl (Album.mergeExtra overwrite) b).Whole := by
    intro es
    induction es with
    | nil => exact fun b hb => hb
    | cons e es ih => exact fun b hb => ih _ (hb.mergeExtra e)
  exact hfold source.extras _ (h.mergeTracks source.tracks)

end Album

/-! ## What may be done -/

/-- Albums in memory, with the shelf on which their fields stand. -/
structure Memory where
  shelf : Shelf
  albums : List Album

namespace Memory

/-- What may be done with the albums in memory, each of which goes by its place in the list. -/
inductive Action where
  | create (i : AlbumInfo)
  | addTrack (k : Nat) (t : Track)
  | addExtra (k : Nat) (e : Extra)
  /-- takes the `j`-th track out of one album and adds it to another one -/
  | moveTrack (k j l : Nat)
  | copy (k : Nat)
  /-- merges the `l`-th album into the `k`-th one and gives it up -/
  | merge (overwrite : Bool) (threshold : Score) (k l : Nat)
  | load (st : Store) (ids : List Int)
  | update (k : Nat) (f : AlbumInfo → AlbumInfo)
  | edit (k : Nat) (e : FieldEdit)
  | editTrack (k j : Nat) (e : FieldEdit)

variable {m : Memory} {k : Nat} {a : Album}

/-- The memory with a change to one of its albums. -/
def change (m : Memory) (k : Nat) (f : Album → Album) : Memory :=
  match m.albums[k]? with
  | some a => { m with albums := m.albums.set k (f a) }
  | none => m

/-- A track of one of the albums. -/
def track? (m : Memory) (k j : Nat) : Option Track := m.albums[k]?.bind (·.tracks[j]?)

/-- The memory after an action. What names an album or a track that is not there does nothing, and neither
does an edit that is refused. -/
def perform (m : Memory) : Action → Memory
  | .create i => let (a, s) := Album.create i m.shelf; ⟨s, m.albums ++ [a]⟩
  | .addTrack k t => m.change k (·.addTrack t)
  | .addExtra k e => m.change k (·.addExtra e)
  | .moveTrack k j l =>
    match m.track? k j with
    | some t => (m.change k fun a => { a with tracks := a.tracks.eraseIdx j }).change l (·.addTrack t)
    | none => m
  | .copy k =>
    match m.albums[k]? with
    | some a => let (b, s) := a.deepCopy m.shelf; ⟨s, m.albums ++ [b]⟩
    | none => m
  | .merge overwrite threshold k l =>
    match m.albums[k]?, m.albums[l]? with
    | some a, some b =>
      if k = l then m
      else let (c, s) := a.merge overwrite threshold b m.shelf; ⟨s, (m.albums.set k c).eraseIdx l⟩
    | _, _ => m
  | .load st ids => let (as, s) := st.loadAlbums ids m.shelf; ⟨s, m.albums ++ as⟩
  | .update k f =>
    match m.albums[k]? with
    | some a => { m with shelf := m.shelf.modify a.handle f }
    | none => m
  | .edit k e =>
    match m.albums[k]? with
    | some a => { m with shelf := (e.applyToAlbum a m.shelf).toOption.getD m.shelf }
    | none => m
  | .editTrack k j e =>
    match (m.track? k j).map (e.applyToTrack · m.shelf) with
    | some (.ok (t, s)) =>
      { m with shelf := s }.change k fun a => { a with tracks := a.tracks.set j t }
    | _ => m

/-- The memory after a list of actions. -/
def after (actions : List Action) : Memory := actions.foldl perform ⟨.empty, []⟩

/-! ## What stays so -/

/-- Every member of an album holds the album's handle, which is a place of the shelf, and no two albums hold
the same one. -/
structure Apart (m : Memory) : Prop where
  held : ∀ a ∈ m.albums, m.shelf.Holds a.handle
  whole : ∀ a ∈ m.albums, a.Whole
  distinct : (m.albums.map (·.handle)).Nodup

theorem Apart.set (h : m.Apart) (hk : m.albums[k]? = some a) {b : Album} (hb : b.Whole)
    (hhandle : b.handle = a.handle) : Apart { m with albums := m.albums.set k b } where
  held c hc := by
    rcases List.mem_or_eq_of_mem_set hc with hc | rfl
    · exact h.held c hc
    · rw [hhandle]
      exact h.held a (List.mem_of_getElem? hk)
  whole c hc := by
    rcases List.mem_or_eq_of_mem_set hc with hc | rfl
    · exact h.whole c hc
    · exact hb
  distinct := by
    obtain ⟨hlt, rfl⟩ := List.getElem?_eq_some_iff.1 hk
    have hsame : (m.albums.set k b).map (·.handle) = m.albums.map (·.handle) := by
      rw [List.map_set, hhandle, ← List.getElem_map (f := Album.handle) (h := by simpa using hlt)]
      exact List.set_getElem_self _
    exact hsame ▸ h.distinct

theorem Apart.change (h : m.Apart) {f : Album → Album}
    (hf : ∀ a, m.albums[k]? = some a → (f a).Whole ∧ (f a).handle = a.handle) : (m.change k f).Apart := by
  unfold Memory.change
  split
  · rename_i a hk
    exact h.set hk (hf a hk).1 (hf a hk).2
  · exact h

theorem Apart.shelf (h : m.Apart) {s : Shelf} (hs : ∀ k, m.shelf.Holds k → s.Holds k) :
    Apart { m with shelf := s } :=
  ⟨fun a ha => hs _ (h.held a ha), h.whole, h.distinct⟩

/-- Albums at new places are apart from those that were there. -/
theorem Apart.append (h : m.Apart) {s : Shelf} {as : List Album} (hs : ∀ k, m.shelf.Holds k → s.Holds k)
    (hnew : ∀ a ∈ as, a.Whole ∧ s.Holds a.handle ∧ ¬m.shelf.Holds a.handle)
    (hdistinct : (as.map (·.handle)).Nodup) : Apart ⟨s, m.albums ++ as⟩ where
  held a ha := by
    rcases List.mem_append.1 ha with ha | ha
    · exact hs _ (h.held a ha)
    · exact (hnew a ha).2.1
  whole a ha := by
    rcases List.mem_append.1 ha with ha | ha
    · exact h.whole a ha
    · exact (hnew a ha).1
  distinct := by
    rw [List.map_append, List.nodup_append]
    refine ⟨h.distinct, hdistinct, fun k hk k' hk' heq => ?_⟩
    obtain ⟨a, ha, rfl⟩ := List.mem_map.1 hk
    obtain ⟨b, hb, rfl⟩ := List.mem_map.1 hk'
    exact (hnew b hb).2.2 (heq ▸ h.held a ha)

theorem Apart.sublist (h : m.Apart) {as : List Album} (has : as.Sublist m.albums) :
    Apart { m with albums := as } where
  held a ha := h.held a (has.subset ha)
  whole a ha := h.whole a (has.subset ha)
  distinct := h.distinct.sublist (has.map _)

/-- Albums are placed at new places, each at one of its own. -/
theorem fresh_foldl_place (rows : List AlbumRow) (places : List (Int × Handle)) (s : Shelf) :
    let placed := rows.foldl (fun (places, s) r =>
      let (h, s) := s.add r.info; (places ++ [(r.id, h)], s)) (places, s)
    ∃ new, placed.1 = places ++ new ∧ (∀ p ∈ new, placed.2.Holds p.2 ∧ ¬s.Holds p.2) ∧
      (new.map (·.2)).Nodup := by
  induction rows generalizing places s with
  | nil => exact ⟨[], (List.append_nil _).symm, nofun, .nil⟩
  | cons r rows ih =>
    obtain ⟨new, hnew, hfresh, hdistinct⟩ := ih (places ++ [(r.id, (s.add r.info).1)]) (s.add r.info).2
    have hkept := (Store.foldl_place rows (places ++ [(r.id, (s.add r.info).1)]) (s.add r.info).2).1
    refine ⟨(r.id, (s.add r.info).1) :: new, ?_, List.forall_mem_cons.2 ⟨?_, fun p hp => ?_⟩, ?_⟩
    · rw [List.foldl_cons, hnew, List.append_assoc]
      rfl
    · exact ⟨(hkept _ (Shelf.holds_add s r.info)).1, Shelf.not_holds_add s r.info⟩
    · exact ⟨(hfresh p hp).1, fun hs => (hfresh p hp).2 (hs.of_add r.info)⟩
    · rw [List.map_cons, List.nodup_cons]
      refine ⟨fun hmem => ?_, hdistinct⟩
      obtain ⟨p, hp, heq⟩ := List.mem_map.1 hmem
      exact (hfresh p hp).2 (heq ▸ Shelf.holds_add s r.info)

theorem fresh_place (st : Store) (ids : List Int) (s : Shelf) :
    (∀ k, s.Holds k → (st.place ids s).2.Holds k) ∧
      (∀ p ∈ (st.place ids s).1, (st.place ids s).2.Holds p.2 ∧ ¬s.Holds p.2) ∧
      ((st.place ids s).1.map (·.2)).Nodup := by
  obtain ⟨new, hnew, hfresh, hdistinct⟩ := fresh_foldl_place (ids.eraseDups.filterMap st.album?) [] s
  have hplaces : (st.place ids s).1 = new := hnew
  have hkept := (Store.foldl_place (ids.eraseDups.filterMap st.album?) [] s).1
  exact ⟨fun k hk => (hkept k hk).1, hplaces ▸ hfresh, hplaces ▸ hdistinct⟩

theorem Apart.load (h : m.Apart) (st : Store) (ids : List Int) : (m.perform (.load st ids)).Apart := by
  obtain ⟨hkept, hfresh, hdistinct⟩ := fresh_place st ids m.shelf
  refine h.append hkept (fun a ha => ?_) ?_
  · obtain ⟨p, hp, rfl⟩ := List.mem_map.1 ha
    exact ⟨Store.whole_albumAt p.2, hfresh p hp⟩
  · show (((st.place ids m.shelf).1.map fun p => st.albumAt p.1 p.2).map (·.handle)).Nodup
    rw [List.map_map]
    exact hdistinct

/-- An edit of an album changes nothing but the fields at its handle. -/
theorem eq_write_of_applyToAlbum {e : FieldEdit} {s s' : Shelf} (h : e.applyToAlbum a s = .ok s') :
    ∃ i, s' = s.write a.handle i := by
  rw [FieldEdit.applyToAlbum] at h
  rcases hinfo : e.applyToInfo .album (a.info s) with fault | i
  · rw [hinfo] at h
    cases h
  · rw [hinfo] at h
    cases h
    exact ⟨i, rfl⟩

/-- An edit of a track leaves it with its album, and of the shelf it changes nothing but the fields at the
track's handle. -/
theorem eq_write_of_applyToTrack {e : FieldEdit} {t t' : Track} {s s' : Shelf}
    (h : e.applyToTrack t s = .ok (t', s')) :
    t'.album = t.album ∧ (s' = s ∨ ∃ i, s' = s.write t.album i) := by
  by_cases hfits : e.fits .track = true
  · by_cases halbum : e.fitsAlbum = true
    · rw [(FieldEdit.applyToTrack_of_fitsAlbum t s halbum).2] at h
      cases h
      exact ⟨rfl, .inr ⟨_, rfl⟩⟩
    · rw [(FieldEdit.applyToTrack_of_not_fitsAlbum t s hfits (Bool.not_eq_true _ ▸ halbum)).2] at h
      cases h
      exact ⟨rfl, .inl rfl⟩
  · obtain ⟨fault, hfault⟩ := FieldEdit.applyToTrack_of_not_fits t s (Bool.not_eq_true _ ▸ hfits)
    rw [hfault] at h
    cases h

theorem Apart.editTrack (h : m.Apart) (k j : Nat) (e : FieldEdit) :
    (m.perform (.editTrack k j e)).Apart := by
  rw [Memory.perform]
  split
  · rename_i t' s' hedit
    obtain ⟨t, ht, happly⟩ := Option.map_eq_some_iff.1 hedit
    obtain ⟨halbum, hshelf⟩ := eq_write_of_applyToTrack happly
    have hkept : ∀ k, m.shelf.Holds k → s'.Holds k := by
      rcases hshelf with rfl | ⟨i, rfl⟩
      · exact fun k hk => hk
      · exact fun k hk => Shelf.holds_write.2 hk
    obtain ⟨a, hk, hj⟩ := Option.bind_eq_some_iff.1 ht
    refine (h.shelf hkept).change fun b hb => ?_
    obtain rfl : a = b := Option.some.inj (hk.symm.trans hb)
    have hwhole := h.whole a (List.mem_of_getElem? hk)
    refine ⟨⟨fun u hu => ?_, hwhole.2⟩, rfl⟩
    rcases List.mem_or_eq_of_mem_set hu with hu | rfl
    · exact hwhole.1 u hu
    · exact halbum.trans (hwhole.1 t (List.mem_of_getElem? hj))
  · exact h

/-- Whatever is done, albums stay apart. -/
theorem Apart.perform (h : m.Apart) (action : Action) : (m.perform action).Apart := by
  have hwhole : ∀ {k : Nat} {a : Album}, m.albums[k]? = some a → a.Whole :=
    fun hk => h.whole _ (List.mem_of_getElem? hk)
  cases action with
  | create i =>
    refine h.append (fun k hk => hk.of_add i) (fun a ha => ?_) (List.nodup_singleton _)
    obtain rfl := List.mem_singleton.1 ha
    exact ⟨⟨nofun, nofun⟩, Shelf.holds_add m.shelf i, Shelf.not_holds_add m.shelf i⟩
  | addTrack k t => exact h.change fun a ha => ⟨(hwhole ha).addTrack t, rfl⟩
  | addExtra k e => exact h.change fun a ha => ⟨(hwhole ha).addExtra e, rfl⟩
  | moveTrack k j l =>
    rw [Memory.perform]
    split
    · have htaken : (m.change k fun a => { a with tracks := a.tracks.eraseIdx j }).Apart :=
        h.change fun a ha => ⟨⟨fun u hu => (hwhole ha).1 u (List.mem_of_mem_eraseIdx hu), (hwhole ha).2⟩, rfl⟩
      exact htaken.change fun a ha => ⟨(htaken.whole a (List.mem_of_getElem? ha)).addTrack _, rfl⟩
    · exact h
  | copy k =>
    rw [Memory.perform]
    split
    · rename_i a ha
      refine h.append (fun k hk => hk.of_add _) (fun b hb => ?_) (List.nodup_singleton _)
      obtain rfl := List.mem_singleton.1 hb
      exact ⟨Album.whole_deepCopy _ a, Shelf.holds_add m.shelf (a.info m.shelf),
        Shelf.not_holds_add m.shelf (a.info m.shelf)⟩
    · exact h
  | merge overwrite threshold k l =>
    rw [Memory.perform]
    split
    · rename_i a b ha hb
      split_ifs
      · exact h
      · have hset := h.set ha ((hwhole ha).merge b m.shelf)
          (Album.merge_handle overwrite threshold a b m.shelf)
        exact (hset.sublist (List.eraseIdx_sublist _ _)).shelf fun k hk => Shelf.holds_write.2 hk
    · exact h
  | load st ids => exact h.load st ids
  | update k f =>
    rw [Memory.perform]
    split
    · exact h.shelf fun k hk => Shelf.holds_write.2 hk
    · exact h
  | edit k e =>
    rw [Memory.perform]
    split
    · rename_i a ha
      rcases hedit : e.applyToAlbum a m.shelf with fault | s
      · exact h
      · obtain ⟨i, rfl⟩ := eq_write_of_applyToAlbum hedit
        exact h.shelf fun k hk => Shelf.holds_write.2 hk
    · exact h
  | editTrack k j e => exact h.editTrack k j e

theorem apart_after (actions : List Action) : (after actions).Apart := by
  have hrun : ∀ m : Memory, m.Apart → (actions.foldl Memory.perform m).Apart := by
    induction actions with
    | nil => exact fun _ h => h
    | cons action actions ih => exact fun m h => ih _ (h.perform action)
  exact hrun _ ⟨nofun, nofun, .nil⟩

/-! ## What an edit changes -/

/-- On a shelf the fields `i` are read through an album and all its members, and nothing that can be seen of
another album differs. -/
structure Confined (m : Memory) (a : Album) (s : Shelf) (i : AlbumInfo) : Prop where
  seen : ∀ h ∈ a.handles, s.read h = i
  others : ∀ b ∈ m.albums, b ≠ a → b.view s = b.view m.shelf

theorem Confined.info_eq {s : Shelf} {i : AlbumInfo} (h : m.Confined a s i) : a.info s = i :=
  h.seen _ (.head _)

theorem Apart.confined_self (h : m.Apart) (ha : a ∈ m.albums) : m.Confined a m.shelf (a.info m.shelf) where
  seen k hk := by
    rw [Album.whole_iff.1 (h.whole a ha) k hk]
    rfl
  others _ _ _ := rfl

theorem Apart.confined_write (h : m.Apart) (ha : a ∈ m.albums) (i : AlbumInfo) :
    m.Confined a (m.shelf.write a.handle i) i where
  seen k hk := by
    rw [Album.whole_iff.1 (h.whole a ha) k hk]
    exact Shelf.read_write (h.held a ha) i
  others b hb hne := Album.view_congr fun k hk => by
    have hhandle : b.handle ≠ a.handle := fun heq => hne (List.inj_on_of_nodup_map h.distinct hb ha heq)
    rw [Album.whole_iff.1 (h.whole b hb) k hk]
    exact Shelf.read_write_of_ne hhandle i

/-- Whatever has been done with albums in memory, every member of an album holds the album's handle and no two
albums hold the same one. So a change of an album's fields, made through any handle that it or one of its
members holds, or by assigning a value to a field of the album or of one of its tracks, is seen through the
album and all its members, and changes nothing that can be seen of another album. -/
theorem handles_after (actions : List Action) :
    let m := after actions
    (∀ a ∈ m.albums, (∀ t ∈ a.tracks, t.album = a.handle) ∧ ∀ e ∈ a.extras, e.album = a.handle) ∧
    (m.albums.map (·.handle)).Nodup ∧
    ∀ a ∈ m.albums,
      (∀ h ∈ a.handles, ∀ f, m.Confined a (m.shelf.modify h f) (f (a.info m.shelf))) ∧
      (∀ e s, FieldEdit.applyToAlbum e a m.shelf = .ok s → m.Confined a s (a.info s)) ∧
      ∀ t ∈ a.tracks, ∀ e t' s, FieldEdit.applyToTrack e t m.shelf = .ok (t', s) →
        t'.album = a.handle ∧ m.Confined a s (a.info s) := by
  intro m
  have hm : m.Apart := apart_after actions
  refine ⟨hm.whole, hm.distinct, fun a ha => ⟨fun h hh f => ?_, fun e s hs => ?_, fun t ht e t' s hs => ?_⟩⟩
  · rw [Album.whole_iff.1 (hm.whole a ha) h hh]
    exact hm.confined_write ha _
  · obtain ⟨i, rfl⟩ := eq_write_of_applyToAlbum hs
    have hconfined := hm.confined_write ha i
    rwa [hconfined.info_eq]
  · have halbum := (hm.whole a ha).1 t ht
    obtain ⟨halbum', hshelf⟩ := eq_write_of_applyToTrack hs
    refine ⟨halbum'.trans halbum, ?_⟩
    rcases hshelf with rfl | ⟨i, rfl⟩
    · exact hm.confined_self ha
    · have hconfined := hm.confined_write ha i
      rw [halbum]
      rwa [hconfined.info_eq]

/-- A track that has been moved is renamed with the album it is in now, and a copy is not. -/
example :
    let night := AlbumInfo.create "Nina" "Night" 1999 ⟨[]⟩
    let m := after [.create night, .create night, .addTrack 0 (.create .empty ⟨7⟩ 1 "One" ⟨[]⟩),
      .moveTrack 0 0 1, .copy 1, .update 1 ({ · with title := "Day" })]
    m.albums.map (fun a => ((a.info m.shelf).title, a.tracks.map fun t => (m.shelf.read t.album).title)) =
      [("Night", []), ("Day", ["Day"]), ("Night", ["Night"])] := by
  decide +kernel

end Memory

end MusicLibrary

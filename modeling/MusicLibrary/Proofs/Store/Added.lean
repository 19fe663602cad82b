import MusicLibrary.Proofs.Store.Kept

/-!
# Adding an album again

An album is `Settled` in a store if the first row it collides with and the members of that row
absorb it. Adding an album settles it (`settled_of_addAlbum`), and adding a settled album leaves all
rows as they are (`addAlbum_of_settled`). So adding an equal album once more changes nothing.
-/

namespace MusicLibrary

/-! ## Equal albums -/

/-- Two albums, each on a shelf, have the same fields and the same members, apart from the handles
they hold. -/
def Album.Copies (s : Shelf) (a : Album) (s' : Shelf) (a' : Album) : Prop :=
  a'.info s' = a.info s ∧ ∀ h, a'.on h = a.on h

theorem Extra.lastNamed?_map_on (es : List Extra) (h : Handle) (name : String) :
    lastNamed? (es.map (·.on h)) name = (lastNamed? es name).map (·.on h) := by
  rw [lastNamed?, List.filter_map, List.getLast?_map]
  rfl

namespace Album

variable {a a' : Album}

theorem map_tracks_on (hon : ∀ h, a'.on h = a.on h) (h : Handle) :
    a'.tracks.map (·.on h) = a.tracks.map (·.on h) := congrArg tracks (hon h)

theorem map_extras_on (hon : ∀ h, a'.on h = a.on h) (h : Handle) :
    a'.extras.map (·.on h) = a.extras.map (·.on h) := congrArg extras (hon h)

theorem New.of_on (h : a.New) (hon : ∀ h, a'.on h = a.on h) : a'.New where
  tracks t' ht' := by
    obtain ⟨t, ht, htt'⟩ := List.mem_map.1 (map_tracks_on hon ⟨0⟩ ▸ List.mem_map_of_mem ht')
    exact (congrArg Track.id? htt').symm.trans (h.tracks t ht)
  extras e' he' := by
    obtain ⟨e, he, hee'⟩ := List.mem_map.1 (map_extras_on hon ⟨0⟩ ▸ List.mem_map_of_mem he')
    exact (congrArg Extra.id? hee').symm.trans (h.extras e he)

/-- Whether an album is absorbed does not depend on the handles it holds. -/
theorem Absorbs.of_on {overwrite : Bool} {b : Album} (h : b.Absorbs overwrite a)
    (hon : ∀ h, a'.on h = a.on h) : b.Absorbs overwrite a' where
  tracks u' hu' := by
    obtain ⟨u, hu, huu'⟩ := List.mem_map.1 (map_tracks_on hon ⟨0⟩ ▸ List.mem_map_of_mem hu')
    obtain ⟨t, ht, htu, habs⟩ := h.tracks u hu
    have hposition : (u.on ⟨0⟩).position = (u'.on ⟨0⟩).position := congrArg _ huu'
    have hmerge : t.merge overwrite u' = t.merge overwrite u := by
      rw [← Track.merge_on u' ⟨0⟩, ← huu', Track.merge_on u ⟨0⟩]
    refine ⟨t, ht, htu.trans hposition, ?_⟩
    rw [Track.Absorbs, hmerge]
    exact habs
  extras := by
    refine ⟨fun f' hf' => ?_, fun how e he f' hf' => ?_⟩
    · obtain ⟨f, hf, hff'⟩ := List.mem_map.1 (map_extras_on hon ⟨0⟩ ▸ List.mem_map_of_mem hf')
      obtain ⟨e, he, hef⟩ := h.extras.covers f hf
      have hname : (f.on ⟨0⟩).filename = (f'.on ⟨0⟩).filename := congrArg _ hff'
      exact ⟨e, he, hef.trans hname⟩
    · have hlast := Extra.lastNamed?_map_on a'.extras ⟨0⟩ e.filename
      rw [map_extras_on hon, Extra.lastNamed?_map_on, hf'] at hlast
      obtain ⟨f, hf, hff'⟩ := Option.map_eq_some_iff.1 hlast
      have hpath : (f.on ⟨0⟩).path = (f'.on ⟨0⟩).path := congrArg _ hff'
      have halike : e.path.text = (f.on ⟨0⟩).path.text := h.extras.paths how e he f hf
      exact halike.trans (congrArg Path.text hpath)

theorem map_position_on (hon : ∀ h, a'.on h = a.on h) :
    a'.tracks.map (·.position) = a.tracks.map (·.position) := by
  have hpositions := congrArg (List.map Track.position) (map_tracks_on hon ⟨0⟩)
  rwa [List.map_map, List.map_map] at hpositions

end Album

namespace Store

variable {st st' : Store} {n : Int} {i : AlbumInfo} {r : AlbumRow}

/-! ## Collisions -/

theorem colliding?_eq_some (h : st.Consistent) : st.colliding? i = some r ↔
    r ∈ st.albums ∧ i.collides r = true ∧ ∀ q ∈ st.albums, q.id < r.id → i.collides q = false :=
  h.albums.find?_eq_some

/-- How an album without a number may collide with a row. -/
theorem collides_iff (hid : i.id? = none) : i.collides r = true ↔ r.path = i.path.text ∨
    r.identity = (i.artist, i.title, i.year) ∨ i.mbAlbumId?.isSome ∧ r.mbAlbumId? = i.mbAlbumId? := by
  simp [AlbumInfo.collides, hid, or_assoc]

/-- The row that an album collides with still does when the album has been merged into it. -/
theorem collides_merge (hid : i.id? = none) (hr : i.collides r = true) (overwrite : Bool) (n : Int) :
    i.collides ((r.info.merge overwrite i).row n) = true := by
  rw [collides_iff hid] at hr ⊢
  cases overwrite
  · rcases hr with hpath | hidentity | ⟨hsome, hmb⟩
    · refine .inl ?_
      simpa [AlbumInfo.merge, AlbumInfo.row, AlbumRow.info] using hpath
    · exact .inr (.inl hidentity)
    · refine .inr (.inr ⟨hsome, ?_⟩)
      simp [AlbumInfo.merge, AlbumInfo.row, AlbumRow.info, hmb]
  · exact .inl rfl

/-! ## Adding -/

theorem addAlbum_of_none {settings : ImportSettings} {s : Shelf} {a : Album}
    (hnone : st.colliding? (a.info s) = none) : st.addAlbum settings s a = st.saveAlbum s a := by
  simp only [addAlbum, findExisting, hnone]

/-- An album that collides with a row is merged into the album of that row, and what this gives is
saved. -/
theorem addAlbum_of_some (h : st.Consistent) {settings : ImportSettings} {s : Shelf} {a : Album}
    (hs : s.Holds a.handle) (hr : st.colliding? (a.info s) = some r) :
    ∃ place s₁ m, ((st.albumAt r.id place).merge settings.overwrite settings.threshold a s₁).1 = m ∧
      s₁.Holds m.handle ∧ m.info s₁ = r.info.merge settings.overwrite (a.info s) ∧
      st.addAlbum settings s a = st.saveAlbum s₁ m := by
  have hmem := ((colliding?_eq_some h).1 hr).1
  have hold : (s.add r.info).2.read (s.add r.info).1 = r.info := Shelf.read_add s r.info
  have hnew : a.info (s.add r.info).2 = a.info s := Shelf.read_add_of_holds hs r.info
  have hhandle : ((st.albumAt r.id (s.add r.info).1).merge settings.overwrite settings.threshold a
      (s.add r.info).2).1.handle = (s.add r.info).1 :=
    Album.merge_handle ..
  refine ⟨(s.add r.info).1, (s.add r.info).2.write (s.add r.info).1
    (r.info.merge settings.overwrite (a.info s)), _, rfl, ?_, ?_, ?_⟩
  · exact Shelf.holds_write.2 (hhandle.symm ▸ Shelf.holds_add s r.info)
  · exact (congrArg _ hhandle).trans (Shelf.read_write (Shelf.holds_add s r.info) _)
  · simp only [addAlbum, findExisting, hr, loadAlbums_singleton (album?_eq_some h hmem) s rfl,
      List.head?_cons, Album.merge, hnew]
    show st.saveAlbum ((s.add r.info).2.write (s.add r.info).1
      (((s.add r.info).2.read (s.add r.info).1).merge _ _)) _ = _
    rw [hold]

/-- A new album that is added is saved as it is, or as what is merged from it into the first album it
collides with. -/
theorem addAlbum_of_ok (h : st.Consistent) {settings : ImportSettings} {s : Shelf} {a : Album}
    (hs : s.Holds a.handle) (hnew : a.New) (hok : (st.addAlbum settings s a).fault? = none) :
    ∃ n s₁ m, s₁.Holds m.handle ∧
      AlbumSaved n st s₁ m (st.addAlbum settings s a).store (st.addAlbum settings s a).value.2
        (st.addAlbum settings s a).value.1 ∧
      (st.colliding? (a.info s) = none ∧ s₁ = s ∧ m = a ∨
        ∃ r place, st.colliding? (a.info s) = some r ∧
          m = ((st.albumAt r.id place).merge settings.overwrite settings.threshold a s₁).1 ∧
          m.info s₁ = r.info.merge settings.overwrite (a.info s)) := by
  rcases hc : st.colliding? (a.info s) with _ | r
  · rw [addAlbum_of_none hc] at hok ⊢
    obtain ⟨n, hsaved⟩ := saveAlbum_of_ok h (lists_of_unsaved hnew.tracks hnew.extras) hok
    exact ⟨n, s, a, hs, hsaved, .inl ⟨rfl, rfl, rfl⟩⟩
  · obtain ⟨place, s₁, m, rfl, hs₁, hinfo, heq⟩ := addAlbum_of_some h hs hc
    rw [heq] at hok ⊢
    obtain ⟨n, hsaved⟩ := saveAlbum_of_ok h (h.lists_merge r.id place hnew _ _ s₁) hok
    exact ⟨n, s₁, _, hs₁, hsaved, .inr ⟨r, place, rfl, rfl, hinfo⟩⟩

/-- An album is settled in a store if the first row it collides with and the members of that row
absorb it. -/
structure Settled (overwrite : Bool) (st : Store) (n : Int) (i : AlbumInfo) (a : Album) : Prop where
  row : ∃ r, st.colliding? i = some r ∧ r.id = n ∧ r.info.Absorbs overwrite i
  members : ∀ place, (st.albumAt n place).Absorbs overwrite a
  positions : (a.tracks.map (·.position)).Nodup

/-- Adding a settled album succeeds and leaves all rows as they are. -/
theorem addAlbum_of_settled (h : st.Consistent) {settings : ImportSettings} {s : Shelf} {a : Album}
    (ht : settings.threshold.WithinOne) (hs : s.Holds a.handle) (hnew : a.New)
    (ha : st.Settled settings.overwrite n (a.info s) a) :
    (st.addAlbum settings s a).fault? = none ∧
      ((st.addAlbum settings s a).value.1.info (st.addAlbum settings s a).value.2).id? = some n ∧
      SameRows st (st.addAlbum settings s a).store := by
  obtain ⟨r, hr, rfl, habs⟩ := ha.row
  obtain ⟨place, s₁, m, hm, hs₁, hinfo, heq⟩ := addAlbum_of_some h hs hr
  have halike : m.Alike (st.albumAt r.id place) :=
    hm ▸ Album.merge_alike ht (h.tidy_albumAt r.id place) hnew ha.positions (ha.members place)
  have hholds : st.HoldsAlbum r.id (m.info s₁) m := by
    rw [hinfo]
    exact holdsAlbum_of_alike h ((colliding?_eq_some h).1 hr).1 AlbumInfo.merge_id? habs halike
  obtain ⟨hok, hvalue, hsame⟩ := saveAlbum_of_holdsAlbum h hholds
  rw [heq]
  refine ⟨hok, ?_, hsame⟩
  rw [hvalue]
  exact congrArg AlbumInfo.id? (Shelf.read_write hs₁ _)

/-- The rows below a row that has been written were there before. -/
theorem AlbumSaved.mem_of_lt {s s' : Shelf} {a a' : Album} (h : AlbumSaved n st s a st' s' a')
    {q : AlbumRow} (hq : q ∈ st'.albums) (hlt : q.id < n) : q ∈ st.albums := by
  rcases (h.albums q).1 hq with hq | ⟨hq, -⟩
  · have hid : q.id = n := congrArg AlbumRow.id (List.mem_singleton.1 hq)
    omega
  · exact hq

/-- An album that collides with no row is settled once it has been saved. -/
theorem AlbumSaved.settled {s s' : Shelf} {a a' : Album} (h : AlbumSaved n st s a st' s' a')
    (hst' : st'.Consistent) (hid : (a.info s).id? = none)
    (hnone : st.colliding? (a.info s) = none) (overwrite : Bool) :
    st'.Settled overwrite n (a.info s) a where
  row := by
    refine ⟨(a.info s).row n, (colliding?_eq_some hst').2 ⟨?_, ?_, fun q hq hlt => ?_⟩, rfl,
      AlbumInfo.absorbs_of_alike (AlbumInfo.alike_info_row _ n)⟩
    · exact (h.albums _).2 (.inl (List.mem_singleton_self _))
    · exact (collides_iff hid).2 (.inl rfl)
    · simpa using List.find?_eq_none.1 hnone q (h.mem_of_lt hq hlt)
  members := h.members.absorbs (Album.absorbs_self (h.members.tidy hst').names)
  positions := (h.members.tidy hst').positions

/-- An album that collides with a row is settled once the album of that row has been saved with what
was merged into it. -/
theorem AlbumSaved.settled_merge (h : st.Consistent) {settings : ImportSettings} {s s₁ s' : Shelf}
    {a a' : Album} {place : Handle} (ht : settings.threshold.WithinOne)
    (hid : (a.info s).id? = none) (hc : st.colliding? (a.info s) = some r)
    (hinfo : (((st.albumAt r.id place).merge settings.overwrite settings.threshold a s₁).1).info s₁ =
      r.info.merge settings.overwrite (a.info s))
    (hsaved : AlbumSaved n st s₁
      ((st.albumAt r.id place).merge settings.overwrite settings.threshold a s₁).1 st' s' a')
    (hst' : st'.Consistent) : st'.Settled settings.overwrite n (a.info s) a := by
  obtain ⟨hr, hcollides, hlower⟩ := (colliding?_eq_some h).1 hc
  have hnames := (h.tidy_albumAt r.id place).names
  obtain rfl := hsaved.number_eq (hinfo ▸ AlbumInfo.merge_id?) ⟨r, hr, rfl⟩
  have hrows := hsaved.albums
  rw [hinfo] at hrows
  refine ⟨⟨(r.info.merge settings.overwrite (a.info s)).row r.id,
    (colliding?_eq_some hst').2 ⟨?_, ?_, fun q hq hlt => ?_⟩, rfl, ?_⟩, ?_, ?_⟩
  · exact (hrows _).2 (.inl (List.mem_singleton_self _))
  · exact collides_merge hid hcollides _ _
  · exact hlower q (hsaved.mem_of_lt hq hlt) hlt
  · exact AlbumInfo.absorbs_merge (AlbumInfo.alike_info_row _ r.id)
  · exact hsaved.members.absorbs (Album.absorbs_merge ht hnames)
  · exact Album.nodup_positions_of_merge ht (hsaved.members.tidy hst').positions

/-- An album that has been added is settled. -/
theorem settled_of_addAlbum (h : st.Consistent) {settings : ImportSettings} {s : Shelf} {a : Album}
    (ht : settings.threshold.WithinOne) (hs : s.Holds a.handle) (hid : (a.info s).id? = none)
    (hnew : a.New) (hok : (st.addAlbum settings s a).fault? = none) :
    ∃ n, ((st.addAlbum settings s a).value.1.info (st.addAlbum settings s a).value.2).id? = some n ∧
      (st.addAlbum settings s a).store.Settled settings.overwrite n (a.info s) a := by
  have hst' := h.addAlbum settings s a
  obtain ⟨n, s₁, m, hs₁, hsaved, ⟨hc, rfl, rfl⟩ | ⟨r, place, hc, rfl, hinfo⟩⟩ :=
    addAlbum_of_ok h hs hnew hok
  · exact ⟨n, by rw [hsaved.info_eq hs₁], hsaved.settled hst' hid hc _⟩
  · exact ⟨n, by rw [hsaved.info_eq hs₁], hsaved.settled_merge h ht hid hc hinfo hst'⟩

/-! ## Adding once more -/

/-- Whether an album is settled is a matter of its fields and members, not of its handles. -/
theorem Settled.of_on {overwrite : Bool} {a a' : Album} (h : st.Settled overwrite n i a)
    (hon : ∀ h, a'.on h = a.on h) : st.Settled overwrite n i a' where
  row := h.row
  members place := (h.members place).of_on hon
  positions := Album.map_position_on hon ▸ h.positions

/-- Adding an album that has been added before, from whatever place of whatever shelf, succeeds,
finds the same row, and leaves all rows as they are. -/
theorem addAlbum_again (h : st.Reachable) {settings : ImportSettings}
    (ht : settings.threshold.WithinOne) {s s' : Shelf} {a a' : Album} (hs : s.Holds a.handle)
    (hs' : s'.Holds a'.handle) (hid : (a.info s).id? = none) (hnew : a.New)
    (hcopy : Album.Copies s a s' a') (hok : (st.addAlbum settings s a).fault? = none) :
    let p := st.addAlbum settings s a
    let q := p.store.addAlbum settings s' a'
    q.fault? = none ∧
      (∃ n, (p.value.1.info p.value.2).id? = some n ∧ (q.value.1.info q.value.2).id? = some n) ∧
      SameRows p.store q.store := by
  intro p q
  obtain ⟨n, hp, hsettled⟩ := settled_of_addAlbum h.consistent ht hs hid hnew hok
  rw [← hcopy.1] at hsettled
  obtain ⟨hok', hq, hsame⟩ := addAlbum_of_settled (h.consistent.addAlbum settings s a) ht hs'
    (hnew.of_on hcopy.2) (hsettled.of_on hcopy.2)
  exact ⟨hok', ⟨n, hp, hq⟩, hsame⟩

/-- The fields of a later issue of an album. -/
def laterNight : AlbumInfo :=
  { AlbumInfo.create "Nina" "Night" 1970 (.ofText "/later") with mbAlbumId? := some "mb-1" }

/-- A later issue of an album, with a track and an extra of the same names. -/
def laterAlbum : Album where
  handle := ⟨0⟩
  tracks := [.create ⟨#[laterNight]⟩ ⟨0⟩ 1 "One" (.ofText "/later/1.flac")]
  extras := [.create ⟨0⟩ (.ofText "/later/cover.jpg")]

/-- A later issue overwrites the stored one when it is added, and nothing when it is added again. -/
theorem addAlbum_again_laterAlbum :
    let st := (Session.after [.saveAlbum nightAndDay night]).working
    let p := st.addAlbum ⟨.one, true⟩ ⟨#[laterNight]⟩ laterAlbum
    let q := p.store.addAlbum ⟨.one, true⟩ ⟨#[default, laterNight]⟩ (laterAlbum.on ⟨1⟩)
    q.fault? = none ∧
      (∃ n, (p.value.1.info p.value.2).id? = some n ∧ (q.value.1.info q.value.2).id? = some n) ∧
      SameRows p.store q.store :=
  addAlbum_again ⟨_, rfl⟩ ⟨by decide, by decide, by decide⟩ Nat.one_pos Nat.one_lt_two rfl
    ⟨by simp [laterAlbum, Track.create], by simp [laterAlbum, Extra.create]⟩ ⟨rfl, fun _ => rfl⟩
    (by decide +kernel)

end Store

end MusicLibrary

import MusicLibrary.Proofs.Album.Disjoint
import MusicLibrary.Proofs.Store.AddedAll
import MusicLibrary.Proofs.Store.NewAlbum
import MusicLibrary.Proofs.Store.Reread

/-!
# Adding the discs of an album

The discs of an album may be added one by one. The first makes a row, the second finds it by artist,
title and year, and its members join those of the first. Each of the two steps goes well exactly if
the members that it brings are free (`Store.addAlbum_join_iff`), which the other disc does not change. So
discs may be added in either order (`Store.addAll_swap`).
-/

namespace MusicLibrary

open Progress

/-! ## Keys -/

section Keys

variable {ρ κ α : Type} {num : ρ → Int} {key : ρ → κ} {path : ρ → String} {last : Int}
  {rows : List ρ} {id? : α → Option Int} {row : α → Int → ρ} {a : α} {old new : List α}

/-- The row of a value is stored, as far as its number and its keys go. -/
def Stored (num : ρ → Int) (key : ρ → κ) (path : ρ → String) (rows : List ρ)
    (id? : α → Option Int) (row : α → Int → ρ) (a : α) : Prop :=
  ∃ q ∈ rows, id? a = some (num q) ∧ key q = key (row a 0) ∧ path q = path (row a 0)

theorem Stored.hasRoom (ha : Stored num key path rows id? row a) (h : Table num key path last rows) :
    HasRoom num key path rows id? row a := by
  obtain ⟨r, hr, hid, hkey, hpath⟩ := ha
  intro q hq hne
  rw [hid, ne_eq, Option.some.injEq, eq_comm] at hne
  have hfree := h.free hr q hq hne
  rwa [hkey, hpath] at hfree

section Append

variable (h : Table num key path last rows) (hold : ∀ a ∈ old, Stored num key path rows id? row a)

include h hold

/-- Values fit by themselves if they fit behind values whose rows are stored. -/
theorem Fits.of_append (hfits : Fits num key path rows id? row (old ++ new)) :
    Fits num key path rows id? row new := by
  obtain ⟨-, hapart, hcross⟩ := List.pairwise_append.1 hfits.apart
  refine ⟨hapart, ?_, (List.pairwise_append.1 hfits.inOrder).2.1⟩
  intro a ha q hq hno
  by_cases hown : num q ∈ old.filterMap id?
  · -- the row has the keys of the value that it belongs to
    obtain ⟨b, hb, hbq⟩ := List.mem_filterMap.1 hown
    obtain ⟨r, hr, hid, hkey, hpath⟩ := hold b hb
    obtain rfl : r = q := h.eq_of_num hr hq (Option.some.inj (hid.symm.trans hbq))
    have hba := hcross b hb a ha
    rwa [Apart, ← hkey, ← hpath] at hba
  · refine hfits.others a (List.mem_append_right _ ha) q hq ?_
    rw [List.filterMap_append, List.mem_append]
    exact not_or.2 ⟨hown, hno⟩

/-- Values without numbers that fit by themselves fit behind values of different numbers whose rows
are stored. -/
theorem Fits.append_of_stored (hids : (old.filterMap id?).Nodup) (hnew : ∀ a ∈ new, id? a = none)
    (hfits : Fits num key path rows id? row new) : Fits num key path rows id? row (old ++ new) := by
  have hnone : new.filterMap id? = [] := List.filterMap_eq_nil_iff.2 hnew
  have hothers : ∀ a ∈ new, ∀ q ∈ rows, Apart key path q (row a 0) := fun a ha q hq =>
    hfits.others a ha q hq (hnone ▸ List.not_mem_nil)
  have hnumbers : old.Pairwise fun a b => ∀ k, id? a = some k → ∀ j, id? b = some j → k ≠ j :=
    List.pairwise_filterMap.1 hids
  refine ⟨List.pairwise_append.2 ⟨?_, hfits.apart, ?_⟩, ?_,
    List.pairwise_append.2 ⟨?_, hfits.inOrder, ?_⟩⟩
  · refine hnumbers.imp_of_mem fun {a b} ha hb hne => ?_
    obtain ⟨r, hr, hid, hkey, hpath⟩ := hold a ha
    have hba := (hold b hb).hasRoom h r hr fun hid' => hne _ hid _ hid' rfl
    rwa [Apart, hkey, hpath] at hba
  · intro a ha b hb
    obtain ⟨r, hr, -, hkey, hpath⟩ := hold a ha
    have hab := hothers b hb r hr
    rwa [Apart, hkey, hpath] at hab
  · intro a ha q hq hno
    rcases List.mem_append.1 ha with ha' | ha'
    · refine (hold a ha').hasRoom h q hq fun hid => hno ?_
      exact List.mem_filterMap.2 ⟨a, ha, hid⟩
    · exact hothers a ha' q hq
  · refine hnumbers.imp_of_mem fun {a b} ha _ hne q hq hbq => ?_
    exact (hold a ha).hasRoom h q hq fun hid => hne _ hid _ hbq rfl
  · intro a _ b hb q _ hbq
    rw [hnew b hb] at hbq
    cases hbq

end Append

/-- Whether values fit is a matter of their numbers and rows. -/
theorem fits_map_iff (f : α → α) (hid : ∀ a, id? (f a) = id? a) (hrow : ∀ a k, row (f a) k = row a k)
    (as : List α) :
    Fits num key path rows id? row (as.map f) ↔ Fits num key path rows id? row as := by
  have hids : (as.map f).filterMap id? = as.filterMap id? := by
    rw [List.filterMap_map]
    exact List.filterMap_congr fun a _ => hid a
  constructor
  · rintro ⟨hapart, hothers, hinOrder⟩
    rw [List.pairwise_map] at hapart hinOrder
    rw [List.forall_mem_map] at hothers
    simp only [hid, hrow, hids] at hapart hothers hinOrder
    exact ⟨hapart, hothers, hinOrder⟩
  · rintro ⟨hapart, hothers, hinOrder⟩
    refine ⟨List.pairwise_map.2 ?_, List.forall_mem_map.2 ?_, List.pairwise_map.2 ?_⟩
    · simpa only [hrow] using hapart
    · simpa only [hrow, hids] using hothers
    · simpa only [hid, hrow] using hinOrder

end Keys

/-- An album is known by its artist, its title and its year. -/
def AlbumInfo.identity (i : AlbumInfo) : String × String × Int := (i.artist, i.title, i.year)

/-- An album keeps its identity when one of the same identity is merged into it. -/
theorem AlbumInfo.identity_merge {i j : AlbumInfo} (h : i.identity = j.identity) (overwrite : Bool) :
    (i.merge overwrite j).identity = i.identity := by
  cases overwrite
  · rfl
  · exact h.symm

namespace Store

variable {st st' : Store} {n : Int} {s s' : Shelf} {a a' b : Album} {r : AlbumRow} {place : Handle}
  {settings : ImportSettings} {i : AlbumInfo}

/-! ## Joining a stored album -/

theorem stored_of_mem_albumAt_tracks {t : Track} (ht : t ∈ (st.albumAt n place).tracks) :
    Stored TrackRow.id TrackRow.position TrackRow.path st.tracks (·.id?) (fun t k => t.row k n) t := by
  obtain ⟨q, hq, rfl, rfl⟩ := mem_albumAt_tracks.1 ht
  exact ⟨q, hq, rfl, rfl, (Path.text_ofText q.path).symm⟩

theorem stored_of_mem_albumAt_extras (h : st.Consistent) {e : Extra}
    (he : e ∈ (st.albumAt n place).extras) :
    Stored ExtraRow.id ExtraRow.position ExtraRow.path st.extras (·.id?) (fun e k => e.row k n) e := by
  obtain ⟨q, hq, rfl, rfl⟩ := mem_albumAt_extras.1 he
  have hname : (q.extra place).filename = q.filename := h.filename_extra hq place
  exact ⟨q, hq, rfl, congrArg (q.albumId, ·) hname.symm, (Path.text_ofText q.path).symm⟩

/-- New members that join a stored album fit exactly if they are free. -/
theorem fits_join_iff (h : st.Consistent) (ha : a.New) (hd : (st.albumAt n place).Disjoint a) :
    st.MembersFree a ↔
      Fits TrackRow.id TrackRow.position TrackRow.path st.tracks (·.id?) (fun t k => t.row k n)
          ((st.albumAt n place).join a).tracks ∧
        Fits ExtraRow.id ExtraRow.position ExtraRow.path st.extras (·.id?) (fun e k => e.row k n)
          ((st.albumAt n place).join a).extras := by
  have hlists := h.lists_albumAt n place
  have htracks : ∀ t ∈ a.tracks, ∀ r ∈ st.tracks, r.albumId = n → (r.trackNum, r.disc) ≠ t.position :=
    fun t ht r hr hrn => hd.positions _ (mem_albumAt_tracks.2 ⟨r, hr, hrn, rfl⟩) t ht
  have hextras : ∀ e ∈ a.extras, ∀ r ∈ st.extras, r.albumId = n → r.filename ≠ e.filename :=
    fun e he r hr hrn => h.filename_extra hr place ▸
      hd.names _ (mem_albumAt_extras.2 ⟨r, hr, hrn, rfl⟩) e he
  have hnewTracks : ∀ t ∈ a.tracks.map (·.on place), t.id? = none := List.forall_mem_map.2 ha.tracks
  have hnewExtras : ∀ e ∈ a.extras.map (·.on place), e.id? = none := List.forall_mem_map.2 ha.extras
  rw [membersFree_iff_fits ha htracks hextras,
    ← fits_map_iff (Track.on place) (fun _ => rfl) (fun _ _ => rfl) a.tracks,
    ← fits_map_iff (Extra.on place) (fun _ => rfl) (fun _ _ => rfl) a.extras]
  constructor
  · rintro ⟨hfitTracks, hfitExtras⟩
    exact ⟨hfitTracks.append_of_stored h.tracks (fun t ht => stored_of_mem_albumAt_tracks ht)
        hlists.trackIds hnewTracks,
      hfitExtras.append_of_stored h.extras (fun e he => stored_of_mem_albumAt_extras h he)
        hlists.extraIds hnewExtras⟩
  · rintro ⟨hfitTracks, hfitExtras⟩
    exact ⟨hfitTracks.of_append h.tracks (fun t ht => stored_of_mem_albumAt_tracks ht),
      hfitExtras.of_append h.extras (fun e he => stored_of_mem_albumAt_extras h he)⟩

/-- Once the row of a stored album has been written, so are its members with those of a new album
that is disjoint from it, exactly if the latter are free. -/
theorem writeMembers_join_iff {st₁ : Store} (h : st.Consistent) (hst₁ : st₁.Consistent)
    (hn : st₁.HasAlbum n) (htracks : st₁.tracks = st.tracks) (hextras : st₁.extras = st.extras)
    {overwrite : Bool} {threshold : Score} (ht : threshold.WithinOne) (ha : a.New)
    (hnames : (a.extras.map (·.filename)).Nodup) (hd : (st.albumAt n place).Disjoint a) (s : Shelf) :
    (st₁.writeMembers n ((st.albumAt n place).merge overwrite threshold a s).1).fault? = none ↔
      st.MembersFree a := by
  obtain ⟨hlistedTracks, hlistedExtras⟩ := h.mem_ids_merge n place ha overwrite threshold s
  have hdrop := deleteDropped_eq (htracks ▸ hlistedTracks) (hextras ▸ hlistedExtras)
  have hlists := (h.lists_merge n place ha overwrite threshold s).of_members htracks hextras
  have houtcome := writeMembers_outcome hst₁ hn hlists
  simp only [hdrop, htracks, hextras] at houtcome
  have hmerged : ((st.albumAt n place).merge overwrite threshold a s).1 =
      (st.albumAt n place).join a := Album.merge_of_disjoint ht hnames hd s
  rw [hmerged, ← fits_join_iff h ha hd] at houtcome
  rw [hmerged]
  rcases houtcome with ⟨hok, hfree⟩ | ⟨⟨k, hk⟩, hno⟩
  · exact iff_of_true hok hfree
  · refine iff_of_false ?_ hno
    rw [hk]
    exact Option.some_ne_none _

/-- What is merged into a stored album has no rival if the album it is merged from collides with no
other row. -/
theorem not_hasRival_merge_of_only (h : st.Consistent) (hr : r ∈ st.albums) (hid : i.id? = none)
    (honly : ∀ q ∈ st.albums, q.id ≠ r.id → i.collides q = false) (overwrite : Bool) :
    ¬ st.HasRival (some r.id) (r.info.merge overwrite i) := by
  cases overwrite
  · exact not_hasRival_merge h hr
  · rintro ⟨q, hq, hne, hkeys⟩
    have hcollides : i.collides q = true := (collides_iff hid).2 (hkeys.imp_right .inl)
    have hno := honly q hq fun he => hne (congrArg some he.symm)
    rw [hno] at hcollides
    cases hcollides

/-- Adding a new album whose members join those of the one row it collides with goes well exactly if
they are free. -/
theorem addAlbum_join_iff (h : st.Consistent) (ht : settings.threshold.WithinOne)
    (hs : s.Holds a.handle) (hid : (a.info s).id? = none) (ha : a.New)
    (hnames : (a.extras.map (·.filename)).Nodup) (hr : st.colliding? (a.info s) = some r)
    (honly : ∀ q ∈ st.albums, q.id ≠ r.id → (a.info s).collides q = false)
    (hd : ∀ place, (st.albumAt r.id place).Disjoint a) :
    (st.addAlbum settings s a).fault? = none ↔ st.MembersFree a := by
  have hmem := ((colliding?_eq_some h).1 hr).1
  obtain ⟨place, s₁, m, rfl, -, hinfo, heq⟩ := @addAlbum_of_some st r h settings s a hs hr
  obtain ⟨st₁, hw, hst₁, hn, htracks, hextras⟩ :=
    writeAlbum_merge h hmem (not_hasRival_merge_of_only h hmem hid honly settings.overwrite)
  rw [heq, saveAlbum_of_writeAlbum ((congrArg st.writeAlbum hinfo).trans hw)]
  exact writeMembers_join_iff h hst₁ hn htracks hextras ht ha hnames (hd place) s₁

/-! ## After a save -/

theorem MembersSaved.sameMembers (h : MembersSaved n st a a' st') (place : Handle) :
    (st'.albumAt n place).SameMembers a := by
  refine ⟨⟨fun u hu => ?_, fun f hf => ?_⟩, fun t ht => h.exists_track ht place,
    fun e he => h.exists_extra he place⟩
  · obtain ⟨t, ht, halike⟩ := h.exists_saved_track hu
    exact ⟨t, ht, halike.symm⟩
  · obtain ⟨e, he, halike⟩ := h.exists_saved_extra hf
    exact ⟨e, he, Eq.symm halike⟩

/-- Members that are disjoint from those of a new album that has been saved are free if they were
before. -/
theorem AlbumSaved.membersFree_iff (h : st.Consistent) (hsaved : AlbumSaved n st s a st' s' a')
    (hid : (a.info s).id? = none) (ha : a.New) (hd : a.Disjoint b) :
    st'.MembersFree b ↔ st.MembersFree b := by
  have hnew := not_hasAlbum_of_above (above_of_unnumbered hid hsaved.own)
  obtain ⟨hnoTracks, hnoExtras⟩ := h.noMembers hnew
  constructor
  · intro hfree
    refine { hfree with storedTracks := fun t ht r hr => ?_, storedExtras := fun e he r hr => ?_ }
    · refine hfree.storedTracks t ht r (hsaved.sparesOthers.tracks r hr (hnoTracks r hr) ?_).1
      rw [List.filterMap_eq_nil_iff.2 ha.tracks]
      exact List.not_mem_nil
    · refine hfree.storedExtras e he r (hsaved.sparesOthers.extras r hr (hnoExtras r hr) ?_)
      rw [List.filterMap_eq_nil_iff.2 ha.extras]
      exact List.not_mem_nil
  · intro hfree
    refine { hfree with storedTracks := fun t ht r hr => ?_, storedExtras := fun e he r hr => ?_ }
    · rcases hsaved.members.track_cases hr with ⟨u, hu, k, -, rfl⟩ | ⟨hr, -⟩
      · exact hd.trackPaths u hu t ht
      · exact hfree.storedTracks t ht r hr
    · rcases hsaved.members.extra_cases hr with ⟨f, hf, k, rfl⟩ | ⟨hr, -⟩
      · exact hd.extraPaths f hf e he
      · exact hfree.storedExtras e he r hr

/-- After an album has been saved, an album of the same identity that collided with no row collides
with that of the saved album, and with no other. -/
theorem AlbumSaved.collides_only (hsaved : AlbumSaved n st s a st' s' a') (hst' : st'.Consistent)
    (hid : i.id? = none) (hnone : st.colliding? i = none)
    (hidentity : (a.info s).identity = i.identity) :
    st'.colliding? i = some ((a.info s).row n) ∧
      ∀ q ∈ st'.albums, q.id ≠ n → i.collides q = false := by
  have honly : ∀ q ∈ st'.albums, q.id ≠ n → i.collides q = false := by
    intro q hq hne
    rcases (hsaved.albums q).1 hq with hq | ⟨hq, -⟩
    · exact absurd (congrArg AlbumRow.id (List.mem_singleton.1 hq)) hne
    · simpa using List.find?_eq_none.1 hnone q hq
  refine ⟨(colliding?_eq_some hst').2 ⟨?_, ?_, fun q hq hlt => honly q hq (Int.ne_of_lt hlt)⟩, honly⟩
  · exact (hsaved.albums _).2 (.inl (List.mem_singleton_self _))
  · exact (collides_iff hid).2 (.inr (.inl hidentity))

/-! ## Discs -/

/-- An album, on a shelf, that has not been saved and has extras of different names, and for which a
store has no album that it would be merged into. -/
structure Fresh (st : Store) (x : Album × Shelf) : Prop where
  unsaved : Album.Unsaved x
  names : (x.1.extras.map (·.filename)).Nodup
  unfound : (st.findExisting x.1 x.2).1 = none

/-- Two discs of an album that a store does not have: they have the same artist, title and year, and
no position, name or path in common. -/
structure Discs (st : Store) (x y : Album × Shelf) : Prop where
  left : st.Fresh x
  right : st.Fresh y
  identity : (x.1.info x.2).identity = (y.1.info y.2).identity
  disjoint : x.1.Disjoint y.1

/-- A row is the one album of an artist, a title and a year. -/
def OnlyAlbum (st : Store) (identity : String × String × Int) (r : AlbumRow) : Prop :=
  ∀ q, q ∈ st.albums ∧ q.identity = identity ↔ q = r

variable {x y : Album × Shelf}

theorem Discs.symm (h : st.Discs x y) : st.Discs y x :=
  ⟨h.right, h.left, h.identity.symm, h.disjoint.symm⟩

theorem onlyAlbum_of_mem (h : st.Consistent) (hr : r ∈ st.albums) {identity : String × String × Int}
    (hidentity : r.identity = identity) : st.OnlyAlbum identity r := by
  refine fun q => ⟨fun ⟨hq, he⟩ => h.albums.eq_of_key hq hr (he.trans hidentity.symm), ?_⟩
  rintro rfl
  exact ⟨hr, hidentity⟩

theorem Fresh.colliding?_eq_none (hx : st.Fresh x) (h : st.Consistent) :
    st.colliding? (x.1.info x.2) = none := by
  rcases hc : st.colliding? (x.1.info x.2) with _ | r
  · rfl
  · have hfound := (findExisting_eq_some h).2 ⟨r, hc, rfl, rfl⟩
    have hnone := hx.unfound
    rw [hfound] at hnone
    cases hnone

/-- Adding a fresh album goes well exactly if its members are free. -/
theorem Fresh.addAlbum_ok_iff (hx : st.Fresh x) (h : st.Consistent) :
    (st.addAlbum settings x.2 x.1).fault? = none ↔ st.MembersFree x.1 := by
  obtain ⟨-, hid, hnew⟩ := hx.unsaved
  have hc := hx.colliding?_eq_none h
  have htaken := not_hasRival_of_colliding?_eq_none hc
  rw [hid, hasRival_none_iff] at htaken
  rw [addAlbum_of_none hc]
  rcases saveAlbum_new_cases h hid hnew with ⟨-, htaken'⟩ | ⟨⟨text, hfault⟩, -, hno⟩ | ⟨hok, -, hfree⟩
  · exact absurd htaken' htaken
  · exact iff_of_false (fun hok => nomatch hfault.symm.trans hok) hno
  · exact iff_of_true hok hfree

theorem Fresh.exists_saved (hx : st.Fresh x) (h : st.Consistent)
    (hok : (st.addAlbum settings x.2 x.1).fault? = none) :
    ∃ n s' a', AlbumSaved n st x.2 x.1 (st.addAlbum settings x.2 x.1).store s' a' := by
  obtain ⟨hs, -, hnew⟩ := hx.unsaved
  obtain ⟨n, s₁, m, -, hsaved, ⟨-, rfl, rfl⟩ | ⟨r, place, hr, -⟩⟩ := addAlbum_of_ok h hs hnew hok
  · exact ⟨n, _, _, hsaved⟩
  · exact absurd (hr.symm.trans (hx.colliding?_eq_none h)) (Option.some_ne_none r)

/-- The stored members of a disc that has been added are disjoint from those of another one. -/
theorem Discs.disjoint_albumAt (hd : st.Discs x y) (hsaved : AlbumSaved n st x.2 x.1 st' s' a')
    (place : Handle) : (st'.albumAt n place).Disjoint y.1 :=
  hd.disjoint.of_within (hsaved.members.sameMembers place).1

/-- Once a disc has been added, adding another one goes well exactly if its members were free before. -/
theorem Discs.addAlbum_ok_iff (hd : st.Discs x y) (h : st.Consistent) (h' : st'.Consistent)
    (ht : settings.threshold.WithinOne) (hsaved : AlbumSaved n st x.2 x.1 st' s' a') :
    (st'.addAlbum settings y.2 y.1).fault? = none ↔ st.MembersFree y.1 := by
  obtain ⟨-, hid, hnew⟩ := hd.left.unsaved
  obtain ⟨hs, hid', hnew'⟩ := hd.right.unsaved
  obtain ⟨hr, honly⟩ :=
    hsaved.collides_only h' hid' (hd.right.colliding?_eq_none h) hd.identity
  rw [← hsaved.membersFree_iff h hid hnew hd.disjoint]
  exact addAlbum_join_iff h' ht hs hid' hnew' hd.right.names hr honly (hd.disjoint_albumAt hsaved)

/-- Once two discs have been added, there is one album of their artist, title and year, which has the
members of both. -/
theorem Discs.exists_onlyAlbum (hd : st.Discs x y) (h : st.Consistent) (h' : st'.Consistent)
    (ht : settings.threshold.WithinOne) (hsaved : AlbumSaved n st x.2 x.1 st' s' a')
    (hok : (st'.addAlbum settings y.2 y.1).fault? = none) :
    let st₂ := (st'.addAlbum settings y.2 y.1).store
    ∃ r, st₂.OnlyAlbum (x.1.info x.2).identity r ∧
      ∀ place, (st₂.albumAt r.id place).SameMembers (x.1.join y.1) := by
  intro st₂
  have h₂ : st₂.Consistent := h'.addAlbum settings y.2 y.1
  obtain ⟨hs, hid, hnew⟩ := hd.right.unsaved
  obtain ⟨hr, -⟩ := hsaved.collides_only h' hid (hd.right.colliding?_eq_none h) hd.identity
  obtain ⟨k, s₁, m, -, hsaved₂, ⟨hc, -⟩ | ⟨r, place₁, hc, rfl, hinfo⟩⟩ := addAlbum_of_ok h' hs hnew hok
  · exact absurd (hr.symm.trans hc) (Option.some_ne_none _)
  obtain rfl := Option.some.inj (hr.symm.trans hc)
  have hstored := ((colliding?_eq_some h').1 hr).1
  obtain rfl : n = k := hsaved₂.number_eq (hinfo ▸ AlbumInfo.merge_id?) ⟨_, hstored, rfl⟩
  let i := ((x.1.info x.2).row n).info.merge settings.overwrite (y.1.info y.2)
  have hidentity : (i.row n).identity = (x.1.info x.2).identity :=
    AlbumInfo.identity_merge (i := ((x.1.info x.2).row n).info) hd.identity settings.overwrite
  have hrow : i.row n ∈ st₂.albums := by
    rw [hsaved₂.albums, hinfo]
    exact .inl (List.mem_singleton_self _)
  refine ⟨i.row n, onlyAlbum_of_mem h₂ hrow hidentity, fun place => ?_⟩
  refine (hsaved₂.members.sameMembers place).trans ?_
  show ((st'.albumAt n place₁).merge _ _ y.1 s₁).1.SameMembers _
  rw [Album.merge_of_disjoint ht hd.right.names (hd.disjoint_albumAt hsaved place₁)]
  exact (hsaved.members.sameMembers place₁).join_right y.1

/-- Two discs may be added if the members of both are free. Then there is one album of their artist,
title and year, which has the members of both. -/
theorem addAll_discs (h : st.Consistent) (ht : settings.threshold.WithinOne) (hd : st.Discs x y) :
    let p := addAll settings st [x, y]
    (p.fault? = none ↔ st.MembersFree x.1 ∧ st.MembersFree y.1) ∧
    (p.fault? = none → ∃ r, p.store.OnlyAlbum (x.1.info x.2).identity r ∧
      ∀ place, (p.store.albumAt r.id place).SameMembers (x.1.join y.1)) := by
  intro p
  have h₁ := h.addAlbum settings x.2 x.1
  constructor
  · refine each_pair_ok_iff.trans ?_
    rw [← hd.left.addAlbum_ok_iff h]
    refine and_congr_right fun hok => ?_
    obtain ⟨n, s', a', hsaved⟩ := hd.left.exists_saved h hok
    exact hd.addAlbum_ok_iff h h₁ ht hsaved
  · intro hok
    obtain ⟨hok₁, hok₂⟩ := each_pair_ok_iff.1 hok
    obtain ⟨n, s', a', hsaved⟩ := hd.left.exists_saved h hok₁
    have hstore : p.store = _ := each_pair_store hok₁
    rw [hstore]
    exact hd.exists_onlyAlbum h h₁ ht hsaved hok₂

/-- Two discs may be added in either order if they may be in one. After that, there is one album of
their artist, title and year, and it has the same set of tracks and the same set of extras, namely
those of both discs. -/
theorem addAll_swap (h : st.Reachable) (settings : ImportSettings)
    (ht : settings.threshold.WithinOne) (hd : st.Discs x y) :
    let p := addAll settings st [x, y]
    let q := addAll settings st [y, x]
    (p.fault? = none ↔ q.fault? = none) ∧
    (p.fault? = none → ∃ r r', p.store.OnlyAlbum (x.1.info x.2).identity r ∧
      q.store.OnlyAlbum (x.1.info x.2).identity r' ∧
      ∀ place, (p.store.albumAt r.id place).SameMembers (q.store.albumAt r'.id place) ∧
        (p.store.albumAt r.id place).SameMembers (x.1.join y.1)) := by
  intro p q
  obtain ⟨hp, hpAlbum⟩ := addAll_discs h.consistent ht hd
  obtain ⟨hq, hqAlbum⟩ := addAll_discs h.consistent ht hd.symm
  have hiff : p.fault? = none ↔ q.fault? = none := hp.trans (and_comm.trans hq.symm)
  refine ⟨hiff, fun hok => ?_⟩
  obtain ⟨r, hr, hmembers⟩ := hpAlbum hok
  obtain ⟨r', hr', hmembers'⟩ := hqAlbum (hiff.1 hok)
  rw [← hd.identity] at hr'
  refine ⟨r, r', hr, hr', fun place => ⟨?_, hmembers place⟩⟩
  exact (hmembers place).trans ((Album.sameMembers_join_comm x.1 y.1).trans (hmembers' place).symm)

/-- A disc of an album, from a folder of its own, with a track and an extra. -/
def nightDisc (disc : Int) (folder extra : String) : Album × Shelf :=
  let s : Shelf := ⟨#[.create "Nina" "Night" 1970 (.ofText folder)]⟩
  (⟨⟨0⟩, [{ Track.create s ⟨0⟩ 1 "One" (.ofText (folder ++ "/1.flac")) with disc := disc }],
    [.create ⟨0⟩ (.ofText (folder ++ extra))]⟩, s)

theorem unsaved_nightDisc (disc : Int) (folder extra : String) :
    Album.Unsaved (nightDisc disc folder extra) :=
  ⟨Nat.one_pos, rfl, by simp [nightDisc, Track.create], by simp [nightDisc, Extra.create]⟩

theorem identity_nightDisc (disc : Int) (folder extra : String) :
    ((nightDisc disc folder extra).1.info (nightDisc disc folder extra).2).identity =
      ("Nina", "Night", 1970) := rfl

/-- Two discs, added to a store with another album. -/
theorem addAll_swap_nightDiscs :
    let st := (Session.after [.saveAlbum nightAndDay emptyDay]).working
    let x := nightDisc 1 "/night/1" "/front.jpg"
    let y := nightDisc 2 "/night/2" "/back.jpg"
    let p := addAll ⟨.one, true⟩ st [x, y]
    let q := addAll ⟨.one, true⟩ st [y, x]
    p.fault? = none ∧ q.fault? = none ∧ ∃ r r', p.store.OnlyAlbum ("Nina", "Night", 1970) r ∧
      q.store.OnlyAlbum ("Nina", "Night", 1970) r' ∧
      ∀ place, (p.store.albumAt r.id place).SameMembers (q.store.albumAt r'.id place) ∧
        (p.store.albumAt r.id place).SameMembers (x.1.join y.1) := by
  intro st x y p q
  have hdiscs : st.Discs x y := {
    left := ⟨unsaved_nightDisc .., List.nodup_singleton _, by decide +kernel⟩
    right := ⟨unsaved_nightDisc .., List.nodup_singleton _, by decide +kernel⟩
    identity := (identity_nightDisc ..).trans (identity_nightDisc ..).symm
    disjoint := by constructor <;> decide +kernel }
  obtain ⟨hiff, hmembers⟩ :=
    addAll_swap ⟨_, rfl⟩ ⟨.one, true⟩ ⟨by decide, by decide, by decide⟩ hdiscs
  have hok : p.fault? = none := by decide +kernel
  exact ⟨hok, hiff.1 hok, hmembers hok⟩

end Store

end MusicLibrary

import MusicLibrary.Proofs.Album.Merge
import MusicLibrary.Proofs.Store.Loaded

/-!
# Merging albums without common members

Tracks at different positions are no partners, and extras of different names are not the same. So an
album gets all members of another one with which it has no position and no name in common when the
two are merged, with or without `overwrite`, and its own members stay as they are
(`Album.merge_of_disjoint`). Which of the two is merged into the other makes no difference to the
members (`Album.sameMembers_join_comm`).
-/

namespace MusicLibrary

theorem filterMap_range_getElem? {α : Type} (as : List α) :
    (List.range as.length).filterMap (as[·]?) = as := by
  simpa using filterMap_filter_range as fun _ => true

/-! ## Pairing -/

section Pairing

variable {n m : Nat} {threshold : Score} {score : Nat → Nat → Score}

theorem accepted_eq_nil (h : ∀ i < n, ∀ j < m, ¬ (score i j).Reaches threshold) :
    accepted n m threshold score = [] := by
  refine List.eq_nil_iff_forall_not_mem.2 fun c hc => ?_
  obtain ⟨hi, hj, hreaches⟩ := of_mem_accepted hc
  exact h c.left hi c.right hj hreaches

/-- If no two items could be partners, all left items come first and then all right items. -/
theorem pairing_of_not_reaches (h : ∀ i < n, ∀ j < m, ¬ (score i j).Reaches threshold) :
    pairing n m threshold score = (List.range n).map .left ++ (List.range m).map .right := by
  have hall : ∀ k, leftOver k [] = List.range k := fun k => List.filter_eq_self.2 fun _ _ => rfl
  simp only [pairing, accepted_eq_nil h, List.map_nil, List.nil_append, hall]

theorem partner?_left_append_right (is js : List Nat) (i : Nat) :
    partner? (is.map .left ++ js.map .right) i = none := by
  refine List.findSome?_eq_none_iff.2 fun p hp => ?_
  rcases List.mem_append.1 hp with hp | hp <;> obtain ⟨k, -, rfl⟩ := List.mem_map.1 hp <;> rfl

theorem newcomers_left_append_right (is js : List Nat) :
    newcomers (is.map .left ++ js.map .right) = js := by
  simp [newcomers, List.filterMap_append, List.filterMap_map]

end Pairing

namespace Album

variable {overwrite : Bool} {threshold : Score} {a a' b b' c : Album}

/-! ## Joining -/

/-- An album with the members of another one behind its own. -/
def join (a b : Album) : Album :=
  { a with
    tracks := a.tracks ++ b.tracks.map (·.on a.handle)
    extras := a.extras ++ b.extras.map (·.on a.handle) }

/-- No two tracks of two albums share a position or a path, and no two extras a name or a path. -/
structure Disjoint (a b : Album) : Prop where
  positions : ∀ t ∈ a.tracks, ∀ u ∈ b.tracks, t.position ≠ u.position
  trackPaths : ∀ t ∈ a.tracks, ∀ u ∈ b.tracks, t.path.text ≠ u.path.text
  names : ∀ e ∈ a.extras, ∀ f ∈ b.extras, e.filename ≠ f.filename
  extraPaths : ∀ e ∈ a.extras, ∀ f ∈ b.extras, e.path.text ≠ f.path.text

theorem Disjoint.symm (h : a.Disjoint b) : b.Disjoint a where
  positions t ht u hu := (h.positions u hu t ht).symm
  trackPaths t ht u hu := (h.trackPaths u hu t ht).symm
  names e he f hf := (h.names f hf e he).symm
  extraPaths e he f hf := (h.extraPaths f hf e he).symm

/-- Tracks at other positions than those of an album are added to it. -/
theorem mergeTracks_of_disjoint (h : threshold.WithinOne) {source : List Track}
    (hpositions : ∀ t ∈ a.tracks, ∀ u ∈ source, t.position ≠ u.position) :
    a.mergeTracks overwrite threshold source =
      { a with tracks := a.tracks ++ source.map (·.on a.handle) } := by
  have hpairs : Track.pairing a.tracks source threshold =
      (List.range a.tracks.length).map .left ++ (List.range source.length).map .right := by
    refine pairing_of_not_reaches fun i hi j hj hreaches => ?_
    exact hpositions _ (List.getElem_mem hi) _ (List.getElem_mem hj)
      ((Track.scoreAt_reaches h hi hj).1 hreaches)
  have hown : ∀ is js : List Nat,
      a.tracks.mapIdx (mergedTrack overwrite (is.map .left ++ js.map .right) source) = a.tracks := by
    intro is js
    refine List.ext_getElem (by simp) fun i hi hi' => ?_
    rw [List.getElem_mapIdx, mergedTrack, partner?_left_append_right]
    rfl
  rw [mergeTracks_eq, hpairs, hown, newcomers_left_append_right, filterMap_range_getElem?]
  rfl

/-- Extras of different names, none of which is a name of an album's, are added to it. -/
theorem foldl_mergeExtra_of_disjoint {source : List Extra} (hsource : (source.map (·.filename)).Nodup)
    (hnames : ∀ e ∈ a.extras, ∀ f ∈ source, e.filename ≠ f.filename) :
    source.foldl (mergeExtra overwrite) a =
      { a with extras := a.extras ++ source.map (·.on a.handle) } := by
  induction source generalizing a with
  | nil => simp
  | cons f source ih =>
    rw [List.map_cons, List.nodup_cons] at hsource
    have hnew : f.filename ∉ a.extras.map (·.filename) := by
      rw [List.mem_map]
      rintro ⟨e, he, hname⟩
      exact hnames e he f (.head _) hname
    have hlater : ∀ e ∈ (a.addExtra f).extras, ∀ g ∈ source, e.filename ≠ g.filename := by
      intro e he g hg
      rcases List.mem_append.1 he with he | he
      · exact hnames e he g (.tail _ hg)
      · rw [List.mem_singleton.1 he]
        exact fun hname => hsource.1 (List.mem_map.2 ⟨g, hg, hname.symm⟩)
    rw [List.foldl_cons, mergeExtra_of_new hnew, ih hsource.2 hlater]
    simp [addExtra, Extra.on]

/-- Merging an album into one that is disjoint from it joins the two. -/
theorem merge_of_disjoint (h : threshold.WithinOne) (hb : (b.extras.map (·.filename)).Nodup)
    (hd : a.Disjoint b) (s : Shelf) : (a.merge overwrite threshold b s).1 = a.join b := by
  simp only [merge, mergeTracks_of_disjoint h hd.positions]
  exact foldl_mergeExtra_of_disjoint hb hd.names

/-! ## The same members -/

/-- A store keeps the same of each member of an album as of some member of another one. -/
structure Within (a b : Album) : Prop where
  tracks : ∀ t ∈ a.tracks, ∃ u ∈ b.tracks, u.Alike t
  extras : ∀ e ∈ a.extras, ∃ f ∈ b.extras, f.Alike e

theorem Within.trans (h : a.Within b) (h' : b.Within c) : a.Within c where
  tracks t ht := by
    obtain ⟨u, hu, hut⟩ := h.tracks t ht
    obtain ⟨v, hv, hvu⟩ := h'.tracks u hu
    exact ⟨v, hv, hvu.trans hut⟩
  extras e he := by
    obtain ⟨f, hf, hfe⟩ := h.extras e he
    obtain ⟨g, hg, hgf⟩ := h'.extras f hf
    exact ⟨g, hg, Eq.trans hgf hfe⟩

theorem Within.join_right (h : a.Within b) (c : Album) : (a.join c).Within (b.join c) where
  tracks t ht := by
    rcases List.mem_append.1 ht with ht | ht
    · obtain ⟨u, hu, hut⟩ := h.tracks t ht
      exact ⟨u, List.mem_append_left _ hu, hut⟩
    · obtain ⟨u, hu, rfl⟩ := List.mem_map.1 ht
      exact ⟨u.on b.handle, List.mem_append_right _ (List.mem_map_of_mem hu), rfl, rfl⟩
  extras e he := by
    rcases List.mem_append.1 he with he | he
    · obtain ⟨f, hf, hfe⟩ := h.extras e he
      exact ⟨f, List.mem_append_left _ hf, hfe⟩
    · obtain ⟨f, hf, rfl⟩ := List.mem_map.1 he
      exact ⟨f.on b.handle, List.mem_append_right _ (List.mem_map_of_mem hf), rfl⟩

theorem within_join_comm (a b : Album) : (a.join b).Within (b.join a) where
  tracks t ht := by
    rcases List.mem_append.1 ht with ht | ht
    · exact ⟨t.on b.handle, List.mem_append_right _ (List.mem_map_of_mem ht), rfl, rfl⟩
    · obtain ⟨u, hu, rfl⟩ := List.mem_map.1 ht
      exact ⟨u, List.mem_append_left _ hu, rfl, rfl⟩
  extras e he := by
    rcases List.mem_append.1 he with he | he
    · exact ⟨e.on b.handle, List.mem_append_right _ (List.mem_map_of_mem he), rfl⟩
    · obtain ⟨f, hf, rfl⟩ := List.mem_map.1 he
      exact ⟨f, List.mem_append_left _ hf, rfl⟩

/-- A store keeps the same set of tracks and the same set of extras of two albums, apart from
numbers. -/
def SameMembers (a b : Album) : Prop := a.Within b ∧ b.Within a

theorem SameMembers.symm (h : a.SameMembers b) : b.SameMembers a := ⟨h.2, h.1⟩

theorem SameMembers.trans (h : a.SameMembers b) (h' : b.SameMembers c) : a.SameMembers c :=
  ⟨h.1.trans h'.1, h'.2.trans h.2⟩

theorem SameMembers.join_right (h : a.SameMembers b) (c : Album) :
    (a.join c).SameMembers (b.join c) := ⟨h.1.join_right c, h.2.join_right c⟩

/-- The members of two albums are the same in either order. -/
theorem sameMembers_join_comm (a b : Album) : (a.join b).SameMembers (b.join a) :=
  ⟨within_join_comm a b, within_join_comm b a⟩

/-- Whether two albums are disjoint is a matter of what a store keeps. -/
theorem Disjoint.of_within (h : b.Disjoint c) (hab : a.Within b) : a.Disjoint c where
  positions t ht u hu := by
    obtain ⟨v, hv, hvt⟩ := hab.tracks t ht
    exact hvt.position_eq ▸ h.positions v hv u hu
  trackPaths t ht u hu := by
    obtain ⟨v, hv, hvt⟩ := hab.tracks t ht
    have hpath : v.path.text = t.path.text := congrArg TrackRow.path hvt.1
    exact hpath ▸ h.trackPaths v hv u hu
  names e he f hf := by
    obtain ⟨g, hg, hge⟩ := hab.extras e he
    exact hge.filename_eq ▸ h.names g hg f hf
  extraPaths e he f hf := by
    obtain ⟨g, hg, hge⟩ := hab.extras e he
    exact Eq.trans_ne (Eq.symm hge) (h.extraPaths g hg f hf)

end Album

end MusicLibrary

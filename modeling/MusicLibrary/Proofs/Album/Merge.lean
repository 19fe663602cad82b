import MusicLibrary.Proofs.Album.MergeExtras

/-!
# Merging the same album again

An album that absorbs a source, by its tracks and by its extras, is to a store what it was before
the source is merged into it (`merge_alike`). It absorbs whatever has been merged into it
(`absorbs_merge`).
-/

namespace MusicLibrary.Album

variable {overwrite : Bool} {threshold : Score} {a b source : Album} {s : Shelf}

/-- No two tracks of an album share a position, and no two extras a name. -/
structure Tidy (a : Album) : Prop where
  positions : (a.tracks.map (·.position)).Nodup
  names : (a.extras.map (·.filename)).Nodup

/-- No member of an album has a number. -/
structure New (a : Album) : Prop where
  tracks : ∀ t ∈ a.tracks, t.id? = none
  extras : ∀ e ∈ a.extras, e.id? = none

/-- A store keeps the same of two albums under the same numbers. -/
structure Alike (a b : Album) : Prop where
  tracks : ∀ t ∈ a.tracks, ∃ u ∈ b.tracks, t.id? = u.id? ∧ t.Alike u
  extras : ∀ e ∈ a.extras, ∃ f ∈ b.extras, e.id? = f.id? ∧ e.Alike f
  trackIds : a.tracks.filterMap (·.id?) = b.tracks.filterMap (·.id?)
  extraIds : a.extras.filterMap (·.id?) = b.extras.filterMap (·.id?)

/-- Merging the members of a source leaves all that a store keeps of an album's as it is. -/
structure Absorbs (overwrite : Bool) (a source : Album) : Prop where
  tracks : ∀ u ∈ source.tracks, ∃ t ∈ a.tracks, t.position = u.position ∧ t.Absorbs overwrite u
  extras : AbsorbsExtras overwrite a.extras source.extras

theorem exists_extrasMerged_merge (overwrite : Bool) (threshold : Score) (source : Album) (s : Shelf)
    (ha : (a.extras.map (·.filename)).Nodup) :
    ∃ new, ExtrasMerged overwrite (a.mergeTracks overwrite threshold source.tracks) source.extras
      (a.merge overwrite threshold source s).1 new :=
  exists_extrasMerged (by rw [mergeTracks_eq]; exact ha) source.extras

theorem merge_handle (overwrite : Bool) (threshold : Score) (a source : Album) (s : Shelf) :
    (a.merge overwrite threshold source s).1.handle = a.handle := by
  rw [merge, foldl_mergeExtra_eq_extras, mergeTracks_eq]

theorem merge_tracks : (a.merge overwrite threshold source s).1.tracks =
    (a.mergeTracks overwrite threshold source.tracks).tracks := by
  rw [merge, foldl_mergeExtra_eq_extras]

/-- An album of extras with different names absorbs itself. -/
theorem absorbs_self (ha : (a.extras.map (·.filename)).Nodup) : a.Absorbs overwrite a :=
  ⟨fun u hu => ⟨u, hu, rfl, Track.absorbs_of_alike (Track.alike_refl u)⟩, absorbsExtras_self ha⟩

/-- What has been merged is absorbed. -/
theorem absorbs_merge (h : threshold.WithinOne) (ha : (a.extras.map (·.filename)).Nodup) :
    (a.merge overwrite threshold source s).1.Absorbs overwrite source := by
  obtain ⟨new, hm⟩ := exists_extrasMerged_merge overwrite threshold source s ha
  refine ⟨fun u hu => ?_, hm.absorbs⟩
  rw [merge_tracks]
  exact exists_absorbs_mergeTracks h hu

/-- If a merged album is tidy, no two source tracks share a position. -/
theorem nodup_positions_of_merge (h : threshold.WithinOne)
    (hm : ((a.merge overwrite threshold source s).1.tracks.map (·.position)).Nodup) :
    (source.tracks.map (·.position)).Nodup := by
  rw [merge_tracks] at hm
  exact nodup_positions_source h hm

/-- Merging a new album keeps the numbers of the members. -/
theorem filterMap_id?_merge (overwrite : Bool) (threshold : Score) (s : Shelf)
    (ha : (a.extras.map (·.filename)).Nodup) (hs : source.New) :
    (a.merge overwrite threshold source s).1.tracks.filterMap (·.id?) = a.tracks.filterMap (·.id?) ∧
      (a.merge overwrite threshold source s).1.extras.filterMap (·.id?) =
        a.extras.filterMap (·.id?) := by
  obtain ⟨new, hm⟩ := exists_extrasMerged_merge overwrite threshold source s ha
  refine ⟨?_, ?_⟩
  · rw [merge_tracks]
    exact filterMap_id?_mergeTracks hs.tracks
  · rw [hm.filterMap_id? hs.extras, mergeTracks_eq]

/-- Merging what is absorbed makes no difference to a store. -/
theorem merge_alike (h : threshold.WithinOne) (ha : a.Tidy) (hs : source.New)
    (hpositions : (source.tracks.map (·.position)).Nodup) (habs : a.Absorbs overwrite source) :
    (a.merge overwrite threshold source s).1.Alike a where
  tracks t ht := by
    rw [merge_tracks] at ht
    exact mergeTracks_alike h ha.positions hpositions habs.tracks ht
  extras e he := by
    obtain ⟨new, hm⟩ := exists_extrasMerged_merge overwrite threshold source s ha.names
    have hextras : (a.mergeTracks overwrite threshold source.tracks).extras = a.extras := by
      rw [mergeTracks_eq]
    obtain ⟨f, hf, hid, hef⟩ := hm.alike (hextras.symm ▸ habs.extras) he
    exact ⟨f, hextras ▸ hf, hid, hef⟩
  trackIds := (filterMap_id?_merge overwrite threshold s ha.names hs).1
  extraIds := (filterMap_id?_merge overwrite threshold s ha.names hs).2

end MusicLibrary.Album

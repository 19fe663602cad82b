import MusicLibrary.Proofs.Store.NewAlbum
import MusicLibrary.Tags.Basic

/-!
# Numbers of tracks

A file without a track number is numbered by its place among the files of its album, whatever numbers
the other files carry. So the positions of an album's tracks may coincide although the numbers that
are given all differ: they are distinct exactly if no number that is made up for a file is given to
another file on the same disc (`Album.nodup_positions_ofTags_iff`). If they are distinct, saving the
album is never refused for a position, and otherwise it never succeeds.
-/

namespace MusicLibrary

/-! ## Places in a list -/

theorem nodup_mapIdx_iff {α β : Type} {f : Nat → α → β} {as : List α} :
    (as.mapIdx f).Nodup ↔
      ∀ i j a b, as[i]? = some a → as[j]? = some b → f i a = f j b → i = j := by
  constructor
  · intro h i j a b hi hj hab
    have hlt : i < (as.mapIdx f).length := by
      simpa using (List.getElem?_eq_some_iff.1 hi).1
    refine (List.getElem?_inj hlt h).1 ?_
    rw [List.getElem?_mapIdx, List.getElem?_mapIdx, hi, hj]
    exact congrArg some hab
  · intro h
    refine List.pairwise_iff_getElem.2 fun i j hi hj hij hab => Nat.ne_of_lt hij ?_
    rw [List.length_mapIdx] at hi hj
    rw [List.getElem_mapIdx, List.getElem_mapIdx] at hab
    exact h i j _ _ (List.getElem?_eq_getElem hi) (List.getElem?_eq_getElem hj) hab

/-- A key without repeats is found at one place of a list only. -/
theorem place_eq_of_nodup_filterMap {α κ : Type} {key? : α → Option κ} {as : List α}
    (h : (as.filterMap key?).Nodup) {i j : Nat} {a b : α} {k : κ} (hi : as[i]? = some a)
    (hj : as[j]? = some b) (ha : key? a = some k) (hb : key? b = some k) : i = j := by
  obtain ⟨hilt, rfl⟩ := List.getElem?_eq_some_iff.1 hi
  obtain ⟨hjlt, rfl⟩ := List.getElem?_eq_some_iff.1 hj
  have hpairs := List.pairwise_iff_getElem.1 (List.pairwise_filterMap.1 h)
  rcases Nat.lt_trichotomy i j with hlt | heq | hlt
  · exact absurd rfl (hpairs i j hilt hjlt hlt k ha k hb)
  · exact heq
  · exact absurd rfl (hpairs j i hjlt hilt hlt k hb k ha)

/-! ## Given positions and positions made up -/

namespace TrackTags

/-- The disc of a file. -/
def discNumber (t : TrackTags) : Int := t.disc?.getD 1

/-- The position that a file is given by its tags, if they number it. -/
def givenPosition? (t : TrackTags) : Option (Int × Int) := t.trackNum?.map (·, t.discNumber)

/-- The position of a file at a place of the list, counted from zero. -/
def positionAt (index : Nat) (t : TrackTags) : Int × Int :=
  (t.trackNum?.getD (index + 1), t.discNumber)

/-- No file is given a position that is made up for a file without a number. -/
def PlacesFree (tags : List TrackTags) : Prop :=
  ∀ (i : Nat) (t : TrackTags), tags[i]? = some t → t.trackNum?.isNone →
    t.positionAt i ∉ tags.filterMap givenPosition?

/-- A file is given its position, or has one made up for it by its place. -/
theorem given_or_made (t : TrackTags) (i : Nat) :
    t.givenPosition? = some (t.positionAt i) ∨
      t.trackNum?.isNone ∧ t.positionAt i = ((i : Int) + 1, t.discNumber) := by
  rcases h : t.trackNum? with _ | n <;> simp [givenPosition?, positionAt, h]

theorem positionAt_of_given {t : TrackTags} {p : Int × Int} (h : t.givenPosition? = some p) (i : Nat) :
    t.positionAt i = p := by
  obtain ⟨n, hn, rfl⟩ := Option.map_eq_some_iff.1 h
  simp [positionAt, hn]

/-- Positions are distinct exactly if the given ones are, and none of them is made up for a file. -/
theorem nodup_positionAt_iff {tags : List TrackTags} (hgiven : (tags.filterMap givenPosition?).Nodup) :
    (tags.mapIdx positionAt).Nodup ↔ PlacesFree tags := by
  rw [nodup_mapIdx_iff]
  constructor
  · intro hdistinct i t hi hnone hmem
    obtain ⟨u, hu, hgivenU⟩ := List.mem_filterMap.1 hmem
    obtain ⟨j, hj⟩ := List.mem_iff_getElem?.1 hu
    obtain rfl := hdistinct i j t u hi hj (positionAt_of_given hgivenU j).symm
    obtain rfl : t = u := Option.some.inj (hi.symm.trans hj)
    rw [givenPosition?, Option.isNone_iff_eq_none.1 hnone] at hgivenU
    cases hgivenU
  · intro hfree i j t u hi hj hsame
    have hmem : ∀ {k : Nat} {v : TrackTags} {p}, tags[k]? = some v → v.givenPosition? = some p →
        p ∈ tags.filterMap givenPosition? :=
      fun hk hv => List.mem_filterMap.2 ⟨_, List.mem_of_getElem? hk, hv⟩
    rcases given_or_made t i with ht | ⟨ht, hti⟩ <;> rcases given_or_made u j with hu | ⟨hu, huj⟩
    · exact place_eq_of_nodup_filterMap hgiven hi hj ht (hsame ▸ hu)
    · exact absurd (hsame ▸ hmem hi ht) (hfree j u hj hu)
    · exact absurd (hsame ▸ hmem hj hu) (hfree i t hi ht)
    · -- two numbers that are made up differ as the places do
      rw [hti, huj] at hsame
      have hnum := congrArg Prod.fst hsame
      simp only at hnum
      omega

end TrackTags

/-! ## Positions that are refused -/

theorem Fault.duplicate_injective : Function.Injective Fault.duplicate := by
  intro j k h
  cases j <;> cases k <;> first | rfl | exact absurd h (by decide +kernel)

theorem TrackRow.exists_position_of_conflict? {rows : List TrackRow} {r : TrackRow}
    (h : r.conflict? rows = some .trackPosition) : ∃ q ∈ rows, q.position = r.position := by
  simp only [conflict?] at h
  split_ifs at h with hposition
  · obtain ⟨q, hq, he⟩ := List.any_eq_true.1 hposition
    exact ⟨q, List.mem_of_mem_filter hq, of_decide_eq_true he⟩
  · cases h

theorem ExtraRow.conflict?_ne_trackPosition {rows : List ExtraRow} {r : ExtraRow} :
    r.conflict? rows ≠ some .trackPosition := by
  simp only [conflict?]
  split_ifs <;> simp

namespace Store

open Progress

variable {st : Store} {n : Int} {s : Shelf} {a : Album}

/-- Tracks without rows are not refused for a position if theirs differ and none is stored. -/
theorem each_writeTrack_position (h : st.Consistent ∧ st.HasAlbum n) {ts : List Track}
    (hid : ∀ t ∈ ts, t.id? = none) (hdistinct : (ts.map Track.position).Nodup)
    (hfree : ∀ t ∈ ts, ∀ r ∈ st.tracks, r.albumId = n → (r.trackNum, r.disc) ≠ t.position) :
    (each (writeTrack n) st ts).fault? ≠ some (.duplicate .trackPosition) := by
  induction ts generalizing st with
  | nil => exact fun he => nomatch he
  | cons t ts ih =>
    obtain ⟨hposition, hdistinct⟩ := List.nodup_cons.1 hdistinct
    have ht : ∀ k, t.id? = some k → st.HasTrack k := fun k hk =>
      nomatch (hid t (.head _)).symm.trans hk
    rcases hfault : (writeTrack n st t).fault? with _ | e
    · obtain ⟨k, hvalue, -, hst₁, hw⟩ := eachWrites_tracks.one h ht hfault
      rw [each_cons_of_ok hfault]
      refine ih hst₁ (fun u hu => hid u (.tail _ hu)) hdistinct fun u hu r hr hrn => ?_
      rcases (hw.rows r).1 hr with hr | ⟨hr, -⟩
      · obtain ⟨t', ht', hrow⟩ := mem_trackRows.1 hr
        obtain rfl := List.mem_singleton.1 ht'
        obtain rfl := Option.some.inj hrow
        intro he
        exact hposition (List.mem_map.2 ⟨u, hu, he.symm⟩)
      · exact hfree u (.tail _ hu) r hr hrn
    · rw [each_cons_of_fault ts hfault]
      obtain ⟨k, -, hconflict⟩ := writeTrack_fault? (n := n) h.1 ht
      rw [hconflict] at hfault
      obtain ⟨key, hkey, rfl⟩ := Option.map_eq_some_iff.1 hfault
      intro he
      obtain rfl := Fault.duplicate_injective (Option.some.inj he)
      obtain ⟨q, hq, hqr⟩ := TrackRow.exists_position_of_conflict? hkey
      obtain ⟨hqn, hplace⟩ := Prod.mk.inj hqr
      exact hfree t (.head _) q hq hqn hplace

theorem writeExtra_not_trackPosition (x : Extra) :
    (writeExtra n st x).fault? ≠ some (.duplicate .trackPosition) := by
  have hkey : ∀ {k rows} {r : ExtraRow}, r.conflict? rows = some k →
      some (Fault.duplicate k) ≠ some (.duplicate .trackPosition) := by
    intro k rows r hk he
    obtain rfl := Fault.duplicate_injective (Option.some.inj he)
    exact ExtraRow.conflict?_ne_trackPosition hk
  unfold writeExtra
  split
  · split
    · rename_i hu
      exact hkey (updateExtra_eq_error.1 hu).2
    · exact fun he => nomatch he
  · split
    · rename_i hi
      exact hkey (insertExtra_eq_error.1 hi)
    · exact fun he => nomatch he

/-- A new album whose tracks stand at different positions is never refused for a position. -/
theorem saveAlbum_not_trackPosition (h : st.Consistent) (hid : (a.info s).id? = none) (ha : a.New)
    (hdistinct : (a.tracks.map Track.position).Nodup) :
    (st.saveAlbum s a).fault? ≠ some (.duplicate .trackPosition) := by
  rcases hw : st.writeAlbum (a.info s) with k | ⟨n, st₁⟩
  · have hfault : (st.saveAlbum s a).fault? = some (.duplicate k) := by
      unfold saveAlbum
      rw [hw]
    rw [hfault]
    intro he
    obtain rfl := Fault.duplicate_injective (Option.some.inj he)
    cases isAlbumKey_of_writeAlbum h hw
  · obtain ⟨-, htracks, hextras, -, hown⟩ := writeAlbum_written h hw
    obtain ⟨h₁, hn⟩ := h.writeAlbum hw
    obtain ⟨hnoTracks, hnoExtras⟩ := h.noMembers (not_hasAlbum_of_above (above_of_unnumbered hid hown))
    rw [← htracks] at hnoTracks
    rw [← hextras] at hnoExtras
    have hdrop : st₁.deleteDropped n a = st₁ :=
      deleteDropped_eq (fun r hr hrn => absurd hrn (hnoTracks r hr))
        fun r hr hrn => absurd hrn (hnoExtras r hr)
    have hposition := each_writeTrack_position ⟨h₁, hn⟩ ha.tracks hdistinct
      fun _ _ r hr hrn => absurd hrn (hnoTracks r hr)
    rw [saveAlbum_of_writeAlbum hw]
    show (st₁.writeMembers n a).fault? ≠ _
    rw [← hdrop] at hposition
    rcases hp : (each (writeTrack n) (st₁.deleteDropped n a) a.tracks).fault? with _ | e
    · rw [writeMembers_eq hp]
      exact fun he => of_each_fault? (P := (· ≠ .duplicate .trackPosition))
        (fun _ x _ hx he => writeExtra_not_trackPosition x (he ▸ hx)) a.extras he rfl
    · rw [writeMembers_of_fault hp]
      exact hp ▸ hposition

end Store

/-! ## Albums made up from tags -/

namespace Album

open TrackTags (positionAt givenPosition? PlacesFree)

/-- An album is made up from any tags but none at all; its tracks stand at the positions of the
files. -/
theorem ofTags_eq_ok {tags : List TrackTags} (hne : tags ≠ []) (dir : Path) (extras : List Path)
    (s : Shelf) :
    ∃ a s', ofTags dir tags extras s = .ok (a, s') ∧ a.New ∧ (a.info s').id? = none ∧
      a.tracks.map Track.position = tags.mapIdx positionAt := by
  have hempty : tags.isEmpty = false := by simpa using hne
  refine ⟨_, _, by rw [ofTags, hempty]; rfl, ⟨?_, ?_⟩, ?_, ?_⟩
  · intro t ht
    obtain ⟨i, hi, rfl⟩ := List.mem_mapIdx.1 ht
    rfl
  · intro x hx
    obtain ⟨p, -, rfl⟩ := List.mem_map.1 hx
    rfl
  · exact congrArg AlbumInfo.id? (Shelf.read_add s (TrackTags.albumInfo dir tags))
  · refine List.ext_getElem? fun i => ?_
    simp only [List.getElem?_map, List.getElem?_mapIdx, Option.map_map]
    rfl

/-- Files are given different positions by their tags. Then the tracks of the album that the tags make
up stand at different positions exactly if none of those is made up for a file without a number, and
if so, saving the album is never refused for a position; if not, it never succeeds. -/
theorem nodup_positions_ofTags_iff {tags : List TrackTags} (hne : tags ≠ [])
    (hgiven : (tags.filterMap givenPosition?).Nodup) (dir : Path) (extras : List Path) (s : Shelf) :
    ∃ a s', ofTags dir tags extras s = .ok (a, s') ∧
      ((a.tracks.map Track.position).Nodup ↔ PlacesFree tags) ∧
      ∀ st : Store, st.Reachable →
        (PlacesFree tags → (st.saveAlbum s' a).fault? ≠ some (.duplicate .trackPosition)) ∧
        (¬ PlacesFree tags → (st.saveAlbum s' a).fault? ≠ none) := by
  obtain ⟨a, s', hok, hnew, hid, hpositions⟩ := ofTags_eq_ok hne dir extras s
  have hiff : (a.tracks.map Track.position).Nodup ↔ PlacesFree tags := by
    rw [hpositions]
    exact TrackTags.nodup_positionAt_iff hgiven
  refine ⟨a, s', hok, hiff, fun st hst => ⟨fun hfree => ?_, fun hno hsaved => hno ?_⟩⟩
  · exact Store.saveAlbum_not_trackPosition hst.consistent hid hnew (hiff.2 hfree)
  · rcases Store.saveAlbum_new_cases hst.consistent hid hnew with ⟨⟨text, hfault⟩, -⟩ |
      ⟨⟨text, hfault⟩, -⟩ | ⟨-, -, hfree⟩
    · cases hsaved.symm.trans hfault
    · cases hsaved.symm.trans hfault
    · exact hiff.1 hfree.trackPositions

/-- The tags of a file of one directory that carry at most a number and a disc. -/
def numberedFile (name : String) (trackNum? disc? : Option Int) : TrackTags :=
  { TrackTags.none (.ofText ("/night/" ++ name)) with trackNum? := trackNum?, disc? := disc? }

/-- Files of two discs, the first of them without a number. -/
def mixedFiles : List TrackTags :=
  [numberedFile "1.flac" none none, numberedFile "2.flac" (some 1) (some 2),
    numberedFile "3.flac" (some 2) none]

theorem nodup_positions_ofTags_mixedFiles :
    mixedFiles ≠ [] ∧ (mixedFiles.filterMap givenPosition?).Nodup ∧ PlacesFree mixedFiles ∧
    ∃ a s', ofTags (.ofText "/night") mixedFiles [] .empty = .ok (a, s') ∧
      (a.tracks.map Track.position).Nodup ∧ ∀ st : Store, st.Reachable →
        (st.saveAlbum s' a).fault? ≠ some (.duplicate .trackPosition) := by
  have hne : mixedFiles ≠ [] := List.cons_ne_nil _ _
  have hgiven : (mixedFiles.filterMap givenPosition?).Nodup := by decide
  have hfree : PlacesFree mixedFiles := (TrackTags.nodup_positionAt_iff hgiven).1 (by decide)
  obtain ⟨a, s', hok, hiff, hsave⟩ :=
    nodup_positions_ofTags_iff hne hgiven (.ofText "/night") [] .empty
  exact ⟨hne, hgiven, hfree, a, s', hok, hiff.2 hfree, fun st hst => (hsave st hst).1 hfree⟩

/-- The second of two files is numbered 2 by its place, as the first one is by its tags. -/
theorem positions_ofTags_meet :
    let tags := [numberedFile "1.flac" (some 2) none, numberedFile "2.flac" none none]
    tags ≠ [] ∧ (tags.filterMap givenPosition?).Nodup ∧
    ∃ a s', ofTags (.ofText "/night") tags [] .empty = .ok (a, s') ∧
      ¬ (a.tracks.map Track.position).Nodup ∧
      (Store.empty.saveAlbum s' a).fault? = some (.duplicate .trackPosition) :=
  ⟨List.cons_ne_nil _ _, by decide, _, _, rfl, by decide +kernel, by decide +kernel⟩

end Album

end MusicLibrary

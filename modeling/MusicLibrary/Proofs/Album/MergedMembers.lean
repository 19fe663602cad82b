import MusicLibrary.Proofs.Album.Greedy
import MusicLibrary.Proofs.Album.Memory

/-!
# What a merge keeps and what it adds

A merge loses nothing of the target. Its tracks stay in their places, partners with the gaps of the one
filled from the other (`TracksMerged`), and so do its extras (`ExtrasJoined`). The source tracks without
partner follow, and so does one extra of each name that the target lacks. `merge_keeps_and_adds` says so of
whole albums, for every threshold.
-/

namespace MusicLibrary

/-! ## Gaps that are filled -/

/-- An optional value that takes the place of another one only where that one is missing. -/
structure FillsGap {α : Type} (preferred other result : Option α) : Prop where
  kept : ∀ x, preferred = some x → result = some x
  filled : preferred = none → result = other

theorem fillsGap_or {α : Type} (x y : Option α) : FillsGap x y (x.or y) := by
  cases x
  · exact ⟨nofun, fun _ => rfl⟩
  · exact ⟨fun _ h => h, nofun⟩

/-- The fields of an album whose gaps are filled from another one, whatever its number. -/
structure AlbumInfo.FilledFrom (preferred other result : AlbumInfo) : Prop where
  artist : result.artist = preferred.artist
  title : result.title = preferred.title
  year : result.year = preferred.year
  path : result.path = preferred.path
  discTotal : result.discTotal = preferred.discTotal
  date : FillsGap preferred.date? other.date? result.date?
  originalDate : FillsGap preferred.originalDate? other.originalDate? result.originalDate?
  label : FillsGap preferred.label? other.label? result.label?
  mbAlbumId : FillsGap preferred.mbAlbumId? other.mbAlbumId? result.mbAlbumId?
  trackTotal : FillsGap preferred.trackTotal? other.trackTotal? result.trackTotal?

/-- A track whose gaps are filled from another one, whatever its number and album. -/
structure Track.FilledFrom (preferred other result : Track) : Prop where
  title : result.title = preferred.title
  artist : result.artist = preferred.artist
  trackNum : result.trackNum = preferred.trackNum
  disc : result.disc = preferred.disc
  path : result.path = preferred.path
  genresKept : preferred.genres.names ≠ [] → result.genres = preferred.genres
  genresFilled : preferred.genres.names = [] → result.genres = other.genres
  mbTrackId : FillsGap preferred.mbTrackId? other.mbTrackId? result.mbTrackId?

theorem AlbumInfo.filledFrom_merge (overwrite : Bool) (i source : AlbumInfo) :
    if overwrite then source.FilledFrom i (i.merge overwrite source)
    else i.FilledFrom source (i.merge overwrite source) := by
  cases overwrite
  · exact ⟨rfl, rfl, rfl, rfl, rfl, fillsGap_or _ _, fillsGap_or _ _, fillsGap_or _ _, fillsGap_or _ _,
      fillsGap_or _ _⟩
  · exact ⟨rfl, rfl, rfl, rfl, rfl, fillsGap_or _ _, fillsGap_or _ _, fillsGap_or _ _, fillsGap_or _ _,
      fillsGap_or _ _⟩

theorem GenreSet.orElse_of_ne {s : GenreSet} (h : s.names ≠ []) (t : GenreSet) : s.orElse t = s := by
  simp [orElse, isEmpty, h]

theorem GenreSet.orElse_of_eq {s : GenreSet} (h : s.names = []) (t : GenreSet) : s.orElse t = t := by
  simp [orElse, isEmpty, h]

theorem Track.filledFrom_merge (overwrite : Bool) (t source : Track) :
    if overwrite then source.FilledFrom t (t.merge overwrite source)
    else t.FilledFrom source (t.merge overwrite source) := by
  cases overwrite
  · exact ⟨rfl, rfl, rfl, rfl, rfl, fun h => GenreSet.orElse_of_ne h _, fun h => GenreSet.orElse_of_eq h _,
      fillsGap_or _ _⟩
  · exact ⟨rfl, rfl, rfl, rfl, rfl, fun h => GenreSet.orElse_of_ne h _, fun h => GenreSet.orElse_of_eq h _,
      fillsGap_or _ _⟩

/-! ## Tracks -/

/-- The tracks of the right list that a pairing leaves without partner, in their order. -/
def Track.unpaired (pairs : List (Pair Nat Nat)) (us : List Track) : List Track :=
  (us.zipIdx.filter fun u => .right u.2 ∈ pairs).map (·.1)

/-- The tracks `vs` that a merge makes of those of a target with handle `h` and of those of a source. -/
structure TracksMerged (overwrite : Bool) (threshold : Score) (h : Handle) (ts us vs : List Track) : Prop where
  own : (vs.take ts.length).map (fun v => (v.id?, v.album)) = ts.map fun t => (t.id?, t.album)
  partners : ∀ i j, .both i j ∈ Track.pairing ts us threshold →
    ∃ t u v, ts[i]? = some t ∧ us[j]? = some u ∧ vs[i]? = some v ∧
      if overwrite then u.FilledFrom t v else t.FilledFrom u v
  others : ∀ i, .left i ∈ Track.pairing ts us threshold → vs[i]? = ts[i]?
  added : vs.drop ts.length = (Track.unpaired (Track.pairing ts us threshold) us).map (·.on h)

namespace Album

variable {overwrite : Bool} {threshold : Score} {a : Album} {source : List Track} {i j : Nat}

theorem filterMap_getElem?_eq_pmap {α : Type} (as : List α) (is : List Nat) (h : ∀ i ∈ is, i < as.length) :
    is.filterMap (as[·]?) = is.pmap (fun i hi => as[i]) h := by
  induction is with
  | nil => rfl
  | cons i is ih =>
    obtain ⟨hi, his⟩ := List.forall_mem_cons.1 h
    rw [List.filterMap_cons, List.getElem?_eq_getElem hi, List.pmap, ih his]

theorem lt_of_mem_newcomers (hj : j ∈ newcomers (Track.pairing a.tracks source threshold)) :
    j < source.length :=
  (mem_newcomers_pairing.1 hj).1

theorem length_tracks_mergeTracks : (a.mergeTracks overwrite threshold source).tracks.length =
    a.tracks.length + (newcomers (Track.pairing a.tracks source threshold)).length := by
  rw [mergeTracks_eq, filterMap_getElem?_eq_pmap _ _ fun _ => lt_of_mem_newcomers]
  simp

theorem getElem?_tracks_mergeTracks (hi : i < a.tracks.length) :
    (a.mergeTracks overwrite threshold source).tracks[i]? =
      some (mergedTrack overwrite (Track.pairing a.tracks source threshold) source i a.tracks[i]) := by
  rw [mergeTracks_eq, List.getElem?_append_left (by simpa using hi), List.getElem?_mapIdx,
    List.getElem?_eq_getElem hi, Option.map_some]

theorem getElem?_tracks_mergeTracks_add {k : Nat}
    (hk : (newcomers (Track.pairing a.tracks source threshold))[k]? = some j) (hj : j < source.length) :
    (a.mergeTracks overwrite threshold source).tracks[a.tracks.length + k]? =
      some (source[j].on a.handle) := by
  obtain ⟨hlt, rfl⟩ := List.getElem?_eq_some_iff.1 hk
  rw [mergeTracks_eq, filterMap_getElem?_eq_pmap _ _ fun _ => lt_of_mem_newcomers,
    List.getElem?_append_right (by simp)]
  simp [hlt, Track.on]

theorem filterMap_newcomers (ts us : List Track) (threshold : Score) :
    (newcomers (Track.pairing ts us threshold)).filterMap (us[·]?) =
      Track.unpaired (Track.pairing ts us threshold) us := by
  rw [(Track.greedyPairing ts us threshold).newcomers_eq, filterMap_filter_range]
  rfl

theorem tracksMerged_mergeTracks (overwrite : Bool) (threshold : Score) (a : Album) (source : List Track) :
    TracksMerged overwrite threshold a.handle a.tracks source
      (a.mergeTracks overwrite threshold source).tracks where
  own := by
    rw [mergeTracks_eq, List.take_left' (by simp)]
    refine List.ext_getElem (by simp) fun i hi hi' => ?_
    simp only [List.getElem_map, List.getElem_mapIdx, mergedTrack_id?, mergedTrack_album]
  partners i j hij := by
    have hp : partner? (Track.pairing a.tracks source threshold) i = some j := partner?_pairing_iff.2 hij
    obtain ⟨hi, hj, -⟩ := (Track.greedyPairing a.tracks source threshold).both_mem_iff.1 hij
    refine ⟨a.tracks[i], source[j], _, List.getElem?_eq_getElem hi, List.getElem?_eq_getElem hj,
      getElem?_tracks_mergeTracks hi, ?_⟩
    rw [mergedTrack_of_partner? _ hp hj]
    exact Track.filledFrom_merge ..
  others i hi := by
    obtain ⟨hlt, hno⟩ := (Track.greedyPairing a.tracks source threshold).left_mem_iff.1 hi
    have hnone : partner? (Track.pairing a.tracks source threshold) i = none :=
      Option.eq_none_iff_forall_ne_some.2 fun j hp => hno j (partner?_pairing_iff.1 hp)
    rw [getElem?_tracks_mergeTracks hlt, List.getElem?_eq_getElem hlt, mergedTrack, hnone]
    rfl
  added := by
    rw [mergeTracks_eq, List.drop_left' (by simp), filterMap_newcomers]
    rfl

end Album

/-! ## Extras -/

/-- The extras `gs` that merging makes of those of a target with handle `h` and of those of a source. -/
structure ExtrasJoined (overwrite : Bool) (h : Handle) (es fs gs : List Extra) : Prop where
  own : (gs.take es.length).map (fun g => (g.id?, g.album, g.filename)) =
    es.map fun e => (e.id?, e.album, e.filename)
  paths : ∀ i e, es[i]? = some e → ∃ g, gs[i]? = some g ∧
    g.path = if overwrite ∧ ¬ Extra.NamedBefore es i e.filename then
      ((Extra.lastNamed? fs e.filename).map (·.path)).getD e.path else e.path
  names : (gs.drop es.length).map (·.filename) = Extra.lackedNames es fs
  added : ∀ g ∈ gs.drop es.length, ∃ f, fs.find? (·.filename = g.filename) = some f ∧
    g.id? = f.id? ∧ g.album = h ∧
    if overwrite then (Extra.lastNamed? fs g.filename).map (·.path) = some g.path else g.path = f.path

namespace Album

theorem extrasJoined_foldl_mergeExtra (overwrite : Bool) (a : Album) (fs : List Extra) :
    ExtrasJoined overwrite a.handle a.extras fs (fs.foldl (mergeExtra overwrite) a).extras := by
  obtain ⟨new, hnew, hnames, hfirst⟩ := exists_extras_foldl_mergeExtra a fs
  have heq : (fs.foldl (mergeExtra overwrite) a).extras =
      Extra.redirectedFirsts overwrite fs (a.extras ++ new) := by
    rw [foldl_mergeExtra_eq, hnew]
  have hlength : (Extra.redirectedFirsts overwrite fs (a.extras ++ new)).length =
      a.extras.length + new.length := by
    rw [Extra.length_redirectedFirsts, List.length_append]
  rw [heq]
  refine ⟨?_, fun i e he => ?_, ?_, fun g hg => ?_⟩
  · have hkept : (Extra.redirectedFirsts overwrite fs (a.extras ++ new)).map
        (fun g => (g.id?, g.album, g.filename)) =
          (a.extras ++ new).map fun g => (g.id?, g.album, g.filename) :=
      Extra.map_redirectedFirsts fun e => by
        rw [Extra.redirected_id?, Extra.redirected_album, Extra.redirected_filename]
    rw [List.map_take, hkept, List.map_append, List.take_left' (List.length_map _)]
  · obtain ⟨hi, rfl⟩ := List.getElem?_eq_some_iff.1 he
    have hi' : i < (a.extras ++ new).length := by
      rw [List.length_append]
      omega
    refine ⟨_, List.getElem?_eq_getElem (Extra.length_redirectedFirsts.symm ▸ hi'), ?_⟩
    rw [Extra.getElem_redirectedFirsts _ hi']
    simp only [List.getElem_append_left hi, Extra.namedBefore_append (Nat.le_of_lt hi)]
    by_cases hbefore : Extra.NamedBefore a.extras i a.extras[i].filename
    · rw [if_pos hbefore, if_neg fun h => h.2 hbefore]
    · rw [if_neg hbefore, Extra.redirected_path]
      simp only [hbefore, not_false_eq_true, and_true]
  · rw [List.map_drop, Extra.map_filename_redirectedFirsts, List.map_append, List.drop_left' (List.length_map _),
      hnames]
  · obtain ⟨k, hk, rfl⟩ := List.mem_drop_iff_getElem.1 hg
    have hk' : k < new.length := by omega
    have hadded : (Extra.redirectedFirsts overwrite fs (a.extras ++ new))[a.extras.length + k] =
        new[k].redirected overwrite fs := by
      rw [Extra.getElem_redirectedFirsts _ (by rw [List.length_append]; omega)]
      simp only [List.getElem_append_right (Nat.le_add_right _ _), Nat.add_sub_cancel_left,
        Extra.not_namedBefore_of_lacked hnames hk', if_false]
    obtain ⟨f, hf, hnewf⟩ := hfirst new[k] (List.getElem_mem hk')
    rw [hadded, Extra.redirected_filename, Extra.redirected_id?, Extra.redirected_album, Extra.redirected_path]
    refine ⟨f, hf, by rw [hnewf]; rfl, by rw [hnewf]; rfl, ?_⟩
    cases overwrite
    · rw [hnewf]
      rfl
    · have hname : f.filename = new[k].filename := by simpa using List.find?_some hf
      obtain ⟨l, hl⟩ := Extra.exists_lastNamed? (List.mem_of_find?_eq_some hf)
      rw [hname] at hl
      simp [hl]

/-- A merge keeps the handle, the number, the tracks and the extras of the target, fills gaps, and adds the
source tracks without partner and the first source extra of each name that the target lacks. With
`overwrite` fields and paths of the source are preferred, and without it those of the target. -/
theorem merge_keeps_and_adds (overwrite : Bool) (threshold : Score) {target : Album} (source : Album) {s : Shelf}
    (hs : s.Holds target.handle) :
    let r := target.merge overwrite threshold source s
    r.1.handle = target.handle ∧
    (r.1.info r.2).id? = (target.info s).id? ∧
    (if overwrite then (source.info s).FilledFrom (target.info s) (r.1.info r.2)
      else (target.info s).FilledFrom (source.info s) (r.1.info r.2)) ∧
    TracksMerged overwrite threshold target.handle target.tracks source.tracks r.1.tracks ∧
    ExtrasJoined overwrite target.handle target.extras source.extras r.1.extras ∧
    (target.Whole → r.1.Whole) := by
  intro r
  have hinfo : r.1.info r.2 = (target.info s).merge overwrite (source.info s) := by
    rw [info, merge_handle]
    exact Shelf.read_write hs _
  have hextras := extrasJoined_foldl_mergeExtra overwrite (target.mergeTracks overwrite threshold source.tracks)
    source.extras
  refine ⟨merge_handle .., ?_, ?_, ?_, ?_, fun h => h.merge source s⟩
  · rw [hinfo, AlbumInfo.merge_id?]
  · rw [hinfo]
    exact AlbumInfo.filledFrom_merge ..
  · rw [merge_tracks]
    exact tracksMerged_mergeTracks ..
  · rw [mergeTracks_eq] at hextras
    have hresult : r.1.extras = (source.extras.foldl (mergeExtra overwrite)
        (target.mergeTracks overwrite threshold source.tracks)).extras := rfl
    rw [hresult, mergeTracks_eq]
    exact hextras

/-- The fields of two albums. -/
def nightAndLive : Shelf :=
  ⟨#[.create "Nina" "Night" 1970 (.ofText "/night"),
    { AlbumInfo.create "Nina Simone" "Live" 1971 (.ofText "/live") with label? := some "Philips" }]⟩

/-- An album whose tracks all have the number 1. -/
def takes (place : Handle) (titles extras : List String) : Album where
  handle := place
  tracks := titles.map fun title => .create nightAndLive place 1 title (.ofText title)
  extras := extras.map fun path => .create place (.ofText path)

def twoTakes : Album := takes ⟨0⟩ ["One", "Uno"] ["/night/cover.jpg", "/scans/cover.jpg"]

def threeTakes : Album :=
  takes ⟨1⟩ ["Eins", "Un", "Ein"] ["/live/cover.jpg", "/a/list.txt", "/b/list.txt"]

/-- All pairs of takes have the same score, so that they find their partners in their order. -/
theorem pairing_takes : Track.pairing twoTakes.tracks threeTakes.tracks .one =
    [.both 0 0, .both 1 1, .right 2] := by
  show pairing 2 3 .one (Track.scoreAt twoTakes.tracks threeTakes.tracks) = _
  rw [pairing, accepted_of_pairwise (by decide +kernel)]
  decide +kernel

/-- Two takes find their partners among three, the third one is added, and the cover that comes first and
the list that is new end up where the last ones of their names are. -/
theorem merge_keeps_and_adds_takes :
    let r := twoTakes.merge true .one threeTakes nightAndLive
    nightAndLive.Holds twoTakes.handle ∧ twoTakes.Whole ∧ r.1.Whole ∧
      TracksMerged true .one ⟨0⟩ twoTakes.tracks threeTakes.tracks r.1.tracks ∧
      ExtrasJoined true ⟨0⟩ twoTakes.extras threeTakes.extras r.1.extras ∧
      r.1.tracks.map (·.title) = ["Eins", "Un", "Ein"] ∧
      r.1.extras.map (·.path.text) = ["/live/cover.jpg", "/scans/cover.jpg", "/b/list.txt"] := by
  intro r
  have hs : nightAndLive.Holds twoTakes.handle := Nat.zero_lt_two
  have hwhole : twoTakes.Whole := by decide +kernel
  have htitles : r.1.tracks.map (·.title) = ["Eins", "Un", "Ein"] := by
    rw [merge_tracks, mergeTracks_eq, pairing_takes]
    decide +kernel
  have hpaths : r.1.extras.map (·.path.text) = ["/live/cover.jpg", "/scans/cover.jpg", "/b/list.txt"] := by
    simp only [r, merge, mergeTracks_eq, pairing_takes]
    decide +kernel
  obtain ⟨-, -, -, htracks, hextras, hkept⟩ := merge_keeps_and_adds true .one threeTakes hs
  exact ⟨hs, hwhole, hkept hwhole, htracks, hextras, htitles, hpaths⟩

end Album

end MusicLibrary

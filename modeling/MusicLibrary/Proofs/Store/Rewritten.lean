import Mathlib.Data.List.Perm.Subperm
import MusicLibrary.Proofs.Store.Duplicates
import MusicLibrary.Proofs.Store.Placed

/-!
# Saving an album whose members have changed places

A save writes one row after the other, and each row is checked against those that are stored by then: the
rows that have been written, and the former rows of the members that are still to come. So a member cannot
take a key that a later one has yet to give up, also if no two rows would share it in the end.
`Progress.EachPlaces.outcome` says when values are all written, whatever table they go to, and
`Store.saveAlbum_duplicate_iff` says it of a stored album: the rows that are meant to be left share no
key, and no member is in the way of an earlier one.
-/

namespace MusicLibrary

/-! ## Keys -/

section Keys

variable {ρ κ α : Type} {num : ρ → Int} {key : ρ → κ} {path : ρ → String} {last : Int}
  {rows rows' : List ρ} {r : ρ}

/-- Two rows share neither of their keys. -/
def Apart (key : ρ → κ) (path : ρ → String) (r q : ρ) : Prop := key r ≠ key q ∧ path r ≠ path q

theorem pairwise_ne_and_ne_iff {β γ : Type} {as : List α} {f : α → β} {g : α → γ} :
    as.Pairwise (fun a b => f a ≠ f b ∧ g a ≠ g b) ↔ (as.map f).Nodup ∧ (as.map g).Nodup := by
  unfold List.Nodup
  rw [List.pairwise_and_iff, List.pairwise_map, List.pairwise_map]

/-- No two rows of a list share a key after further rows have joined it exactly if each of those has its
keys to itself. -/
theorem nodup_keys_append_iff (hkeys : (rows.map key).Nodup) (hpaths : (rows.map path).Nodup) :
    ((rows ++ rows').map key).Nodup ∧ ((rows ++ rows').map path).Nodup ↔
      rows'.Pairwise (Apart key path) ∧ ∀ r ∈ rows', ∀ q ∈ rows, Apart key path q r := by
  have hpairs : rows'.Pairwise (Apart key path) ↔ (rows'.map key).Nodup ∧ (rows'.map path).Nodup :=
    pairwise_ne_and_ne_iff
  have hcross : (∀ r ∈ rows', ∀ q ∈ rows, Apart key path q r) ↔
      (∀ x ∈ rows.map key, ∀ y ∈ rows'.map key, x ≠ y) ∧
        ∀ x ∈ rows.map path, ∀ y ∈ rows'.map path, x ≠ y := by
    simp only [List.forall_mem_map]
    constructor
    · intro h
      exact ⟨fun q hq r hr => (h r hr q hq).1, fun q hq r hr => (h r hr q hq).2⟩
    · intro h r hr q hq
      exact ⟨h.1 q hq r hr, h.2 q hq r hr⟩
  rw [List.map_append, List.map_append, List.nodup_append, List.nodup_append, hpairs, hcross]
  constructor
  · rintro ⟨⟨-, hk, hcrossKey⟩, -, hp, hcrossPath⟩
    exact ⟨⟨hk, hp⟩, hcrossKey, hcrossPath⟩
  · rintro ⟨⟨hk, hp⟩, hcrossKey, hcrossPath⟩
    exact ⟨⟨hkeys, hk, hcrossKey⟩, hpaths, hp, hcrossPath⟩

/-- A row may take the place of the one of its number exactly if no two rows share a key then. -/
theorem free_iff_nodup_replaceRow (h : Table num key path last rows) (hr : ∃ q ∈ rows, num q = num r) :
    Free num key path rows r ↔
      ((replaceRow num r rows).map key).Nodup ∧ ((replaceRow num r rows).map path).Nodup := by
  constructor
  · intro hfree
    exact ⟨(h.replaceRow hfree).keys, (h.replaceRow hfree).paths⟩
  · rintro ⟨hkeys, hpaths⟩ q hq hne
    have hq' : q ∈ replaceRow num r rows := mem_replaceRow.2 (.inl ⟨hq, hne⟩)
    have hr' : r ∈ replaceRow num r rows := mem_replaceRow.2 (.inr ⟨rfl, hr⟩)
    constructor
    · intro he
      exact hne (congrArg num (List.inj_on_of_nodup_map hkeys hq' hr' he))
    · intro he
      exact hne (congrArg num (List.inj_on_of_nodup_map hpaths hq' hr' he))

variable {id? : α → Option Int} {row : α → Int → ρ} {a : α} {as : List α} {k : Int}

/-- A value shares no key with the rows of other numbers, where `row` is the row of a value under a
number. -/
def HasRoom (num : ρ → Int) (key : ρ → κ) (path : ρ → String) (rows : List ρ)
    (id? : α → Option Int) (row : α → Int → ρ) (a : α) : Prop :=
  ∀ q ∈ rows, id? a ≠ some (num q) → Apart key path q (row a 0)

/-- What values have to meet in order to be written to a table one after the other: they share no key, nor
do they share one with a row that none of them has, and none takes a key that the row of a later one
has. -/
structure Fits (num : ρ → Int) (key : ρ → κ) (path : ρ → String) (rows : List ρ)
    (id? : α → Option Int) (row : α → Int → ρ) (as : List α) : Prop where
  apart : as.Pairwise fun a b => Apart key path (row a 0) (row b 0)
  others : ∀ a ∈ as, ∀ q ∈ rows, num q ∉ as.filterMap id? → Apart key path q (row a 0)
  inOrder : as.Pairwise fun a b => ∀ q ∈ rows, id? b = some (num q) → Apart key path q (row a 0)

/-- The row of a value is free under a number, its own or a new one, if the value has room. -/
theorem free_iff_hasRoom (hkey : key r = key (row a 0)) (hpath : path r = path (row a 0))
    (hnum : ∀ q ∈ rows, num q = num r ↔ id? a = some (num q)) :
    Free num key path rows r ↔ HasRoom num key path rows id? row a := by
  unfold Free HasRoom Apart
  rw [hkey, hpath]
  refine forall_congr' fun q => forall_congr' fun hq => ?_
  rw [ne_eq, hnum q hq]

theorem mem_filterMap_id?_cons {j : Int} :
    j ∈ (a :: as).filterMap id? ↔ id? a = some j ∨ j ∈ as.filterMap id? := by
  simp only [List.mem_filterMap, List.mem_cons, exists_eq_or_imp]

/-- Values fit exactly if they share no key with each other nor with the rows that none of them has, which
are `others`, and none takes a key that the row of a later one has. -/
theorem fits_iff {others all : List ρ} (hkeys : (others.map key).Nodup)
    (hpaths : (others.map path).Nodup) (hrow : ∀ a k, key (row a k) = key (row a 0) ∧
      path (row a k) = path (row a 0))
    (hothers : ∀ q, q ∈ others ↔ q ∈ rows ∧ num q ∉ as.filterMap id?)
    (hall : ∀ q, num q ∈ as.filterMap id? → (q ∈ rows ↔ q ∈ all)) :
    Fits num key path rows id? row as ↔
      (((others ++ as.map fun a => row a ((id? a).getD 0)).map key).Nodup ∧
        ((others ++ as.map fun a => row a ((id? a).getD 0)).map path).Nodup) ∧
      as.Pairwise fun a b => ∀ q ∈ all, id? b = some (num q) → Apart key path q (row a 0) := by
  have hapart : ∀ a q, Apart key path q (row a ((id? a).getD 0)) ↔ Apart key path q (row a 0) := by
    intro a q
    unfold Apart
    rw [(hrow a _).1, (hrow a _).2]
  have hpair : (as.map fun a => row a ((id? a).getD 0)).Pairwise (Apart key path) ↔
      as.Pairwise fun a b => Apart key path (row a 0) (row b 0) := by
    rw [List.pairwise_map]
    unfold Apart
    simp only [(hrow _ _).1, (hrow _ _).2]
  have hcross : (∀ r ∈ as.map fun a => row a ((id? a).getD 0), ∀ q ∈ others, Apart key path q r) ↔
      ∀ a ∈ as, ∀ q ∈ rows, num q ∉ as.filterMap id? → Apart key path q (row a 0) := by
    simp only [List.forall_mem_map, hapart, hothers, and_imp]
  have horder : (as.Pairwise fun a b => ∀ q ∈ all, id? b = some (num q) → Apart key path q (row a 0)) ↔
      as.Pairwise fun a b => ∀ q ∈ rows, id? b = some (num q) → Apart key path q (row a 0) := by
    constructor <;>
    · refine fun h => h.imp_of_mem fun _ hb hinOrder q hq hbq => hinOrder q ?_ hbq
      have hlisted := hall q (List.mem_filterMap.2 ⟨_, hb, hbq⟩)
      first | exact hlisted.1 hq | exact hlisted.2 hq
  rw [nodup_keys_append_iff hkeys hpaths, hpair, hcross, horder]
  constructor
  · intro h
    exact ⟨⟨h.apart, h.others⟩, h.inOrder⟩
  · rintro ⟨⟨hapart, hothers⟩, hinOrder⟩
    exact ⟨hapart, hothers, hinOrder⟩

theorem Fits.hasRoom (h : Fits num key path rows id? row (a :: as)) :
    HasRoom num key path rows id? row a := by
  intro q hq hown
  by_cases hlater : num q ∈ as.filterMap id?
  · obtain ⟨b, hb, hbq⟩ := List.mem_filterMap.1 hlater
    exact (List.pairwise_cons.1 h.inOrder).1 b hb q hq hbq
  · refine h.others a (.head _) q hq ?_
    rw [mem_filterMap_id?_cons]
    rintro (hq' | hq')
    · exact hown hq'
    · exact hlater hq'

section Cons

variable (hw : Written num rows rows' [row a k]) (hnum : num (row a k) = k)

/-- The row that the first value has, if it has one, is the one that it is written to. -/
theorem own_iff_of_written (hk : id? a = some k ∨ id? a = none ∧ ∀ q ∈ rows, num q ≠ k) {q : ρ}
    (hq : q ∈ rows) : id? a = some (num q) ↔ num q = k := by
  rcases hk with hk | ⟨hk, hnew⟩
  · rw [hk, Option.some.injEq]
    exact eq_comm
  · rw [hk]
    exact iff_of_false (fun he => nomatch he) (hnew q hq)

include hw hnum

theorem mem_of_written {q : ρ} : q ∈ rows' ↔ q = row a k ∨ q ∈ rows ∧ num q ≠ k := by
  rw [hw q, List.mem_singleton]
  refine or_congr_right (and_congr_right fun _ => ?_)
  rw [List.forall_mem_singleton, hnum]
  exact ne_comm

/-- Once the first of several values that fit has been written, those after it fit. -/
theorem Fits.tail (h : Fits num key path rows id? row (a :: as))
    (hkeys : ∀ b, Apart key path (row a k) (row b 0) ↔ Apart key path (row a 0) (row b 0))
    (hown : ∀ q ∈ rows, id? a = some (num q) ↔ num q = k) (hlater : k ∉ as.filterMap id?) :
    Fits num key path rows' id? row as := by
  obtain ⟨hapart, hapartTail⟩ := List.pairwise_cons.1 h.apart
  refine ⟨hapartTail, ?_, ?_⟩
  · intro b hb q hq hno
    rcases (mem_of_written hw hnum).1 hq with rfl | ⟨hq, hne⟩
    · exact (hkeys b).2 (hapart b hb)
    · refine h.others b (.tail _ hb) q hq ?_
      rw [mem_filterMap_id?_cons, hown q hq]
      exact not_or.2 ⟨hne, hno⟩
  · refine (List.pairwise_cons.1 h.inOrder).2.imp_of_mem ?_
    intro b c _ hc hinOrder q hq hcq
    rcases (mem_of_written hw hnum).1 hq with rfl | ⟨hq, -⟩
    · rw [hnum] at hcq
      exact absurd (List.mem_filterMap.2 ⟨c, hc, hcq⟩) hlater
    · exact hinOrder q hq hcq

/-- If values fit once another one has been written, which had room, then all of them fit. -/
theorem Fits.cons (h : Fits num key path rows' id? row as) (hroom : HasRoom num key path rows id? row a)
    (hkeys : ∀ b, Apart key path (row a k) (row b 0) ↔ Apart key path (row a 0) (row b 0))
    (hown : ∀ q ∈ rows, id? a = some (num q) ↔ num q = k) (hlater : k ∉ as.filterMap id?) :
    Fits num key path rows id? row (a :: as) := by
  have hkept : ∀ q ∈ rows, num q ∈ as.filterMap id? → num q ≠ k := by
    rintro q - hq rfl
    exact hlater hq
  have hfirst : ∀ q ∈ rows, num q ≠ k → Apart key path q (row a 0) := by
    intro q hq hne
    exact hroom q hq fun he => hne ((hown q hq).1 he)
  refine ⟨List.pairwise_cons.2 ⟨?_, h.apart⟩, ?_, List.pairwise_cons.2 ⟨?_, ?_⟩⟩
  · intro b hb
    refine (hkeys b).1 (h.others b hb (row a k) ((mem_of_written hw hnum).2 (.inl rfl)) ?_)
    rw [hnum]
    exact hlater
  · intro b hb q hq hno
    rw [mem_filterMap_id?_cons, not_or, hown q hq] at hno
    rcases List.mem_cons.1 hb with rfl | hb
    · exact hfirst q hq hno.1
    · exact h.others b hb q ((mem_of_written hw hnum).2 (.inr ⟨hq, hno.1⟩)) hno.2
  · intro b hb q hq hbq
    exact hfirst q hq (hkept q hq (List.mem_filterMap.2 ⟨b, hb, hbq⟩))
  · refine h.inOrder.imp_of_mem ?_
    intro b c _ hc hinOrder q hq hcq
    have hne := hkept q hq (List.mem_filterMap.2 ⟨c, hc, hcq⟩)
    exact hinOrder q ((mem_of_written hw hnum).2 (.inr ⟨hq, hne⟩)) hcq

end Cons

/-- Once the first of several values has been written, those after it fit if they all did. -/
theorem fits_cons (hroom : HasRoom num key path rows id? row a)
    (hw : Written num rows rows' [row a k])
    (hrow : num (row a k) = k ∧ key (row a k) = key (row a 0) ∧ path (row a k) = path (row a 0))
    (hk : id? a = some k ∨ id? a = none ∧ ∀ q ∈ rows, num q ≠ k) (hlater : k ∉ as.filterMap id?) :
    Fits num key path rows id? row (a :: as) ↔ Fits num key path rows' id? row as := by
  obtain ⟨hnum, hkey, hpath⟩ := hrow
  have hkeys : ∀ b, Apart key path (row a k) (row b 0) ↔ Apart key path (row a 0) (row b 0) := by
    intro b
    unfold Apart
    rw [hkey, hpath]
  have hown : ∀ q ∈ rows, id? a = some (num q) ↔ num q = k := fun _ => own_iff_of_written hk
  exact ⟨fun h => h.tail hw hnum hkeys hown hlater, fun h => h.cons hw hnum hroom hkeys hown hlater⟩

end Keys

/-! ## Writing values one after the other -/

/-- How values are written one by one to a table that refuses a row for its keys. -/
structure Progress.EachPlaces {α ρ κ : Type} (f : Store → α → Progress α) (id? : α → Option Int)
    (number : α → Int → α) (Inv : Store → Prop) (Has : Store → Int → Prop)
    (Wrote : Store → List α → Store → Prop) (num : ρ → Int) (key : ρ → κ) (path : ρ → String)
    (rows : Store → List ρ) (row : α → Int → ρ) : Prop
    extends EachWrites f id? number Inv Has Wrote where
  has_iff : ∀ {st k}, Has st k ↔ ∃ q ∈ rows st, num q = k
  row_eq : ∀ a k, num (row a k) = k ∧ key (row a k) = key (row a 0) ∧ path (row a k) = path (row a 0)
  written : ∀ {st st' a k}, Wrote st [number a k] st' → Written num (rows st) (rows st') [row a k]
  accepted : ∀ {st a}, Inv st → (∀ k, id? a = some k → Has st k) →
    HasRoom num key path (rows st) id? row a → (f st a).fault? = none
  refused : ∀ {st a}, Inv st → (∀ k, id? a = some k → Has st k) →
    ¬ HasRoom num key path (rows st) id? row a → ∃ k, (f st a).fault? = some (.duplicate k)

/-- Values that fit are all written, and otherwise one of them is refused for a key. -/
theorem Progress.EachPlaces.outcome {α ρ κ : Type} {f : Store → α → Progress α}
    {id? : α → Option Int} {number : α → Int → α} {Inv : Store → Prop} {Has : Store → Int → Prop}
    {Wrote : Store → List α → Store → Prop} {num : ρ → Int} {key : ρ → κ} {path : ρ → String}
    {rows : Store → List ρ} {row : α → Int → ρ}
    (h : EachPlaces f id? number Inv Has Wrote num key path rows row) {as : List α} {st : Store}
    (hst : Inv st) (hnodup : (as.filterMap id?).Nodup) (hknown : ∀ k ∈ as.filterMap id?, Has st k) :
    (each f st as).fault? = none ∧ Fits num key path (rows st) id? row as ∨
      (∃ k, (each f st as).fault? = some (.duplicate k)) ∧
        ¬ Fits num key path (rows st) id? row as := by
  induction as generalizing st with
  | nil => exact .inl ⟨rfl, .nil, fun a ha => absurd ha List.not_mem_nil, .nil⟩
  | cons a as ih =>
    have ha : ∀ k, id? a = some k → Has st k := fun k hk =>
      hknown k (List.mem_filterMap.2 ⟨a, .head _, hk⟩)
    by_cases hroom : HasRoom num key path (rows st) id? row a
    · have hok := h.accepted hst ha hroom
      obtain ⟨k, -, hcase, hst₁, hw⟩ := h.one hst ha hok
      have hsub : (as.filterMap id?).Sublist ((a :: as).filterMap id?) :=
        (List.sublist_cons_self a as).filterMap id?
      have hlater : k ∉ as.filterMap id? := by
        rcases hcase with hak | ⟨-, hfresh⟩
        · rw [List.filterMap_cons_some hak, List.nodup_cons] at hnodup
          exact hnodup.1
        · exact fun hmem => hfresh (hknown k (hsub.subset hmem))
      have hk : id? a = some k ∨ id? a = none ∧ ∀ q ∈ rows st, num q ≠ k := by
        refine hcase.imp_right fun hnew => ⟨hnew.1, fun q hq he => hnew.2 ?_⟩
        exact h.has_iff.2 ⟨q, hq, he⟩
      rw [fits_cons hroom (h.written hw) (h.row_eq a k) hk hlater, each_cons_of_ok hok]
      exact ih hst₁ (hnodup.sublist hsub) fun j hj => h.keeps hw (hknown j (hsub.subset hj))
    · obtain ⟨e, he⟩ := h.refused hst ha hroom
      exact .inr ⟨⟨e, each_cons_of_fault as he⟩, fun hfits => hroom hfits.hasRoom⟩

namespace Store

open Progress

variable {st : Store} {n : Int} {s : Shelf} {i : AlbumInfo} {a : Album}

/-! ## Members -/

/-- A track is written under a number that no row but its own has, and refused for the key that its row
would then share. -/
theorem writeTrack_fault? (h : st.Consistent) {t : Track} (ht : ∀ k, t.id? = some k → st.HasTrack k) :
    ∃ k, (∀ q ∈ st.tracks, q.id = k ↔ t.id? = some q.id) ∧
      (writeTrack n st t).fault? = ((t.row k n).conflict? st.tracks).map .duplicate := by
  rcases hid : t.id? with _ | k
  · refine ⟨st.lastTrack + 1, fun q hq => ?_, ?_⟩
    · have hlast := h.tracks.numbered q hq
      exact iff_of_false (by omega) fun he => nomatch he
    · rcases hi : st.insertTrack (t.row 0 n) with e | ⟨k, st₁⟩
      · have hconflict : (t.row (st.lastTrack + 1) n).conflict? st.tracks = some e :=
          insertTrack_eq_error.1 hi
        simp [writeTrack, hid, hi, hconflict]
      · obtain ⟨rfl, hfree, -⟩ := insertTrack_eq_ok hi
        have hconflict : (t.row (st.lastTrack + 1) n).conflict? st.tracks = none :=
          TrackRow.conflict?_eq_none.2 hfree
        rw [writeTrack_of_insert hid hi, hconflict]
        rfl
  · have hk := ht k hid
    refine ⟨k, fun q _ => by rw [Option.some.injEq, eq_comm], ?_⟩
    rcases hu : st.updateTrack (t.row k n) with e | st₁
    · have hconflict := (updateTrack_eq_error.1 hu).2
      simp [writeTrack, hid, hu, hconflict]
    · have hfree := (updateTrack_eq_ok (r := t.row k n) hk hu).1
      rw [writeTrack_of_update hid hk hu, TrackRow.conflict?_eq_none.2 hfree]
      rfl

/-- An extra is written under a number that no row but its own has, and refused for the key that its row
would then share. -/
theorem writeExtra_fault? (h : st.Consistent) {x : Extra} (hx : ∀ k, x.id? = some k → st.HasExtra k) :
    ∃ k, (∀ q ∈ st.extras, q.id = k ↔ x.id? = some q.id) ∧
      (writeExtra n st x).fault? = ((x.row k n).conflict? st.extras).map .duplicate := by
  rcases hid : x.id? with _ | k
  · refine ⟨st.lastExtra + 1, fun q hq => ?_, ?_⟩
    · have hlast := h.extras.numbered q hq
      exact iff_of_false (by omega) fun he => nomatch he
    · rcases hi : st.insertExtra (x.row 0 n) with e | ⟨k, st₁⟩
      · have hconflict : (x.row (st.lastExtra + 1) n).conflict? st.extras = some e :=
          insertExtra_eq_error.1 hi
        simp [writeExtra, hid, hi, hconflict]
      · obtain ⟨rfl, hfree, -⟩ := insertExtra_eq_ok hi
        have hconflict : (x.row (st.lastExtra + 1) n).conflict? st.extras = none :=
          ExtraRow.conflict?_eq_none.2 hfree
        rw [writeExtra_of_insert hid hi, hconflict]
        rfl
  · have hk := hx k hid
    refine ⟨k, fun q _ => by rw [Option.some.injEq, eq_comm], ?_⟩
    rcases hu : st.updateExtra (x.row k n) with e | st₁
    · have hconflict := (updateExtra_eq_error.1 hu).2
      simp [writeExtra, hid, hu, hconflict]
    · have hfree := (updateExtra_eq_ok (r := x.row k n) hk hu).1
      rw [writeExtra_of_update hid hu, ExtraRow.conflict?_eq_none.2 hfree]
      rfl

/-- Tracks are refused for the keys of their rows only. -/
theorem eachPlaces_tracks : EachPlaces (writeTrack n) (·.id?) Track.numbered
    (fun st => st.Consistent ∧ st.HasAlbum n) HasTrack (TracksWritten n) TrackRow.id
    TrackRow.position TrackRow.path Store.tracks fun t k => t.row k n where
  toEachWrites := eachWrites_tracks
  has_iff := Iff.rfl
  row_eq _ _ := ⟨rfl, rfl, rfl⟩
  written h := h.rows
  accepted {st t} h ht hroom := by
    obtain ⟨k, hnum, hfault⟩ := writeTrack_fault? (n := n) h.1 ht
    have hfree := (free_iff_hasRoom (r := t.row k n) rfl rfl hnum).2 hroom
    rw [hfault, TrackRow.conflict?_eq_none.2 hfree]
    rfl
  refused {st t} h ht hroom := by
    obtain ⟨k, hnum, hfault⟩ := writeTrack_fault? (n := n) h.1 ht
    rcases hc : (t.row k n).conflict? st.tracks with _ | e
    · exact absurd ((free_iff_hasRoom (r := t.row k n) rfl rfl hnum).1 (TrackRow.conflict?_eq_none.1 hc)) hroom
    · rw [hfault, hc]
      exact ⟨e, rfl⟩

/-- Extras are refused for the keys of their rows only. -/
theorem eachPlaces_extras : EachPlaces (writeExtra n) (·.id?) Extra.numbered
    (fun st => st.Consistent ∧ st.HasAlbum n) HasExtra (ExtrasWritten n) ExtraRow.id
    ExtraRow.position ExtraRow.path Store.extras fun x k => x.row k n where
  toEachWrites := eachWrites_extras
  has_iff := Iff.rfl
  row_eq _ _ := ⟨rfl, rfl, rfl⟩
  written h := h.rows
  accepted {st x} h hx hroom := by
    obtain ⟨k, hnum, hfault⟩ := writeExtra_fault? (n := n) h.1 hx
    have hfree := (free_iff_hasRoom (r := x.row k n) rfl rfl hnum).2 hroom
    rw [hfault, ExtraRow.conflict?_eq_none.2 hfree]
    rfl
  refused {st x} h hx hroom := by
    obtain ⟨k, hnum, hfault⟩ := writeExtra_fault? (n := n) h.1 hx
    rcases hc : (x.row k n).conflict? st.extras with _ | e
    · exact absurd ((free_iff_hasRoom (r := x.row k n) rfl rfl hnum).1 (ExtraRow.conflict?_eq_none.1 hc)) hroom
    · rw [hfault, hc]
      exact ⟨e, rfl⟩

/-! ## Albums -/

/-- No two albums, tracks or extras of a store share a key. -/
structure KeysUnique (st : Store) : Prop where
  albumIdentities : (st.albums.map (·.identity)).Nodup
  albumPaths : (st.albums.map (·.path)).Nodup
  trackPositions : (st.tracks.map (·.position)).Nodup
  trackPaths : (st.tracks.map (·.path)).Nodup
  extraPositions : (st.extras.map (·.position)).Nodup
  extraPaths : (st.extras.map (·.path)).Nodup

/-- The albums, tracks and extras that saving a stored album is meant to leave: its row and its members
are replaced by what they are in memory. A member that has no number yet has the number 0 here. -/
def replacing (st : Store) (n : Int) (i : AlbumInfo) (a : Album) : Store :=
  { st with
    albums := replaceRow AlbumRow.id (i.row n) st.albums
    tracks := st.tracks.filter (·.albumId ≠ n) ++ a.tracks.map fun t => t.row (t.id?.getD 0) n
    extras := st.extras.filter (·.albumId ≠ n) ++ a.extras.map fun x => x.row (x.id?.getD 0) n }

/-- A value is a stored album that has been changed in memory. Those of its members that have numbers are
members that are stored with it. -/
structure Revises (st : Store) (s : Shelf) (n : Int) (a : Album) : Prop where
  id : (a.info s).id? = some n
  stored : st.HasAlbum n
  trackIds : (a.tracks.filterMap (·.id?)).Nodup
  extraIds : (a.extras.filterMap (·.id?)).Nodup
  ownTracks : ∀ k ∈ a.tracks.filterMap (·.id?), ∃ r ∈ st.tracks, r.id = k ∧ r.albumId = n
  ownExtras : ∀ k ∈ a.extras.filterMap (·.id?), ∃ r ∈ st.extras, r.id = k ∧ r.albumId = n

/-- A loaded album may have been changed in any way that keeps its number, and the numbers of those of its
members that it still has. -/
theorem Shows.revises (h : st.Consistent) (ha : Shows st s n a) {s' : Shelf} {b : Album}
    (hid : (b.info s').id? = some n)
    (htracks : (b.tracks.filterMap (·.id?)).Subperm (a.tracks.filterMap (·.id?)))
    (hextras : (b.extras.filterMap (·.id?)).Subperm (a.extras.filterMap (·.id?))) :
    st.Revises s' n b := by
  obtain ⟨r, hr, hrn, -⟩ := ha.row
  have hlists := h.lists_albumAt n a.handle
  rw [ha.members] at htracks hextras
  obtain ⟨ks, hksPerm, hks⟩ := htracks
  obtain ⟨js, hjsPerm, hjs⟩ := hextras
  refine ⟨hid, ⟨r, hr, hrn⟩, hksPerm.nodup_iff.1 (hlists.trackIds.sublist hks),
    hjsPerm.nodup_iff.1 (hlists.extraIds.sublist hjs), ?_, ?_⟩
  · intro k hk
    obtain ⟨t, ht, htk⟩ := List.mem_filterMap.1 (hks.subset (hksPerm.mem_iff.2 hk))
    obtain ⟨q, hq, hqn, rfl⟩ := mem_albumAt_tracks.1 ht
    exact ⟨q, hq, Option.some.inj htk, hqn⟩
  · intro k hk
    obtain ⟨x, hx, hxk⟩ := List.mem_filterMap.1 (hjs.subset (hjsPerm.mem_iff.2 hk))
    obtain ⟨q, hq, hqn, rfl⟩ := mem_albumAt_extras.1 hx
    exact ⟨q, hq, Option.some.inj hxk, hqn⟩

/-- No member of an album takes a key that a later member has yet to give up. -/
structure InOrder (st : Store) (n : Int) (a : Album) : Prop where
  tracks : a.tracks.Pairwise fun t u => ∀ q ∈ st.tracks, u.id? = some q.id →
    Apart TrackRow.position TrackRow.path q (t.row 0 n)
  extras : a.extras.Pairwise fun x y => ∀ q ∈ st.extras, y.id? = some q.id →
    Apart ExtraRow.position ExtraRow.path q (x.row 0 n)

/-- The row of a stored album is replaced exactly if no two albums share a key then. -/
theorem writeAlbum_outcome (h : st.Consistent) (hid : i.id? = some n) (hn : st.HasAlbum n) :
    let albums := replaceRow AlbumRow.id (i.row n) st.albums
    st.writeAlbum i = .ok (n, { st with albums := albums }) ∧
        ((albums.map (·.identity)).Nodup ∧ (albums.map (·.path)).Nodup) ∨
      (∃ k, st.writeAlbum i = .error k) ∧
        ¬ ((albums.map (·.identity)).Nodup ∧ (albums.map (·.path)).Nodup) := by
  intro albums
  have hfree := free_iff_nodup_replaceRow (r := i.row n) h.albums hn
  unfold writeAlbum
  rw [hid]
  rcases hu : st.updateAlbum (i.row n) with k | ⟨found, st₁⟩
  · have hconflict := (updateAlbum_eq_error.1 hu).2
    refine .inr ⟨⟨k, by simp only [hu]⟩, fun hunique => ?_⟩
    rw [AlbumRow.conflict?_eq_none.2 (hfree.2 hunique)] at hconflict
    cases hconflict
  · obtain ⟨rfl, hrow, rfl⟩ := updateAlbum_eq_ok (r := i.row n) hn hu
    exact .inl ⟨by simp only [hu]; rfl, hfree.1 hrow⟩

/-- The tracks of a changed album fit exactly if the tracks that are meant to be left share no key, and
none is in the way of an earlier one. -/
theorem Revises.fits_tracks (h : st.Consistent) (ha : st.Revises s n a) :
    Fits TrackRow.id TrackRow.position TrackRow.path (st.deleteDropped n a).tracks (·.id?)
        (fun t k => t.row k n) a.tracks ↔
      (((st.replacing n i a).tracks.map (·.position)).Nodup ∧
        ((st.replacing n i a).tracks.map (·.path)).Nodup) ∧
      a.tracks.Pairwise fun t u => ∀ q ∈ st.tracks, u.id? = some q.id →
        Apart TrackRow.position TrackRow.path q (t.row 0 n) := by
  have hown : ∀ q ∈ st.tracks, q.id ∈ a.tracks.filterMap (·.id?) → q.albumId = n := by
    intro q hq hlisted
    obtain ⟨r, hr, hid, hn⟩ := ha.ownTracks q.id hlisted
    rwa [h.tracks.eq_of_num hq hr hid.symm]
  refine fits_iff (h.tracks.filter _).keys (h.tracks.filter _).paths (fun _ _ => ⟨rfl, rfl⟩) ?_ ?_
  · intro q
    rw [List.mem_filter, mem_deleteDropped_tracks, decide_eq_true_eq, and_assoc]
    refine and_congr_right fun hq => ⟨fun hne => ⟨.inl hne, fun hlisted => hne (hown q hq hlisted)⟩, ?_⟩
    rintro ⟨hne | hlisted, hno⟩
    · exact hne
    · exact absurd hlisted hno
  · intro q hlisted
    rw [mem_deleteDropped_tracks]
    exact and_iff_left (.inr hlisted)

/-- The extras of a changed album fit exactly if the extras that are meant to be left share no key, and
none is in the way of an earlier one. -/
theorem Revises.fits_extras (h : st.Consistent) (ha : st.Revises s n a) :
    Fits ExtraRow.id ExtraRow.position ExtraRow.path (st.deleteDropped n a).extras (·.id?)
        (fun x k => x.row k n) a.extras ↔
      (((st.replacing n i a).extras.map (·.position)).Nodup ∧
        ((st.replacing n i a).extras.map (·.path)).Nodup) ∧
      a.extras.Pairwise fun x y => ∀ q ∈ st.extras, y.id? = some q.id →
        Apart ExtraRow.position ExtraRow.path q (x.row 0 n) := by
  have hown : ∀ q ∈ st.extras, q.id ∈ a.extras.filterMap (·.id?) → q.albumId = n := by
    intro q hq hlisted
    obtain ⟨r, hr, hid, hn⟩ := ha.ownExtras q.id hlisted
    rwa [h.extras.eq_of_num hq hr hid.symm]
  refine fits_iff (h.extras.filter _).keys (h.extras.filter _).paths (fun _ _ => ⟨rfl, rfl⟩) ?_ ?_
  · intro q
    rw [List.mem_filter, mem_deleteDropped_extras, decide_eq_true_eq, and_assoc]
    refine and_congr_right fun hq => ⟨fun hne => ⟨.inl hne, fun hlisted => hne (hown q hq hlisted)⟩, ?_⟩
    rintro ⟨hne | hlisted, hno⟩
    · exact hne
    · exact absurd hlisted hno
  · intro q hlisted
    rw [mem_deleteDropped_extras]
    exact and_iff_left (.inr hlisted)

/-- The members of an album are all written if they fit, and otherwise one of them is refused for a key. -/
theorem writeMembers_outcome (h : st.Consistent) (hn : st.HasAlbum n) (ha : st.Lists a) :
    let st₁ := st.deleteDropped n a
    let fits := Fits TrackRow.id TrackRow.position TrackRow.path st₁.tracks (·.id?)
        (fun t k => t.row k n) a.tracks ∧
      Fits ExtraRow.id ExtraRow.position ExtraRow.path st₁.extras (·.id?)
        (fun x k => x.row k n) a.extras
    (st.writeMembers n a).fault? = none ∧ fits ∨
      (∃ k, (st.writeMembers n a).fault? = some (.duplicate k)) ∧ ¬ fits := by
  intro st₁ fits
  have hlistedTracks : ∀ k ∈ a.tracks.filterMap (·.id?), st₁.HasTrack k := by
    intro k hk
    obtain ⟨r, hr, rfl⟩ := ha.hasTrack k hk
    exact ⟨r, mem_deleteDropped_tracks.2 ⟨hr, .inr hk⟩, rfl⟩
  have hst₁ : st₁.Consistent ∧ st₁.HasAlbum n := ⟨h.deleteDropped n a, hn⟩
  rcases eachPlaces_tracks.outcome hst₁ ha.trackIds hlistedTracks with ⟨hok, hfits⟩ | ⟨⟨k, hk⟩, hno⟩
  · obtain ⟨hst₂, hw, -⟩ := eachWrites_tracks.run hst₁ ha.trackIds hlistedTracks hok
    rw [writeMembers_eq hok]
    have hlistedExtras : ∀ k ∈ a.extras.filterMap (·.id?),
        (each (writeTrack n) st₁ a.tracks).store.HasExtra k := by
      intro k hk
      obtain ⟨r, hr, rfl⟩ := ha.hasExtra k hk
      exact ⟨r, hw.extras ▸ mem_deleteDropped_extras.2 ⟨hr, .inr hk⟩, rfl⟩
    have houtcome := eachPlaces_extras.outcome hst₂ ha.extraIds hlistedExtras
    rw [hw.extras] at houtcome
    exact houtcome.imp (fun hx => ⟨hx.1, hfits, hx.2⟩) fun hx => ⟨hx.1, fun hboth => hx.2 hboth.2⟩
  · exact .inr ⟨⟨k, writeMembers_of_fault hk⟩, fun hboth => hno hboth.1⟩

theorem Revises.lists (ha : st.Revises s n a) : st.Lists a where
  trackIds := ha.trackIds
  extraIds := ha.extraIds
  hasTrack k hk := by
    obtain ⟨r, hr, hrk, -⟩ := ha.ownTracks k hk
    exact ⟨r, hr, hrk⟩
  hasExtra k hk := by
    obtain ⟨r, hr, hrk, -⟩ := ha.ownExtras k hk
    exact ⟨r, hr, hrk⟩

/-- A stored album that has been changed in memory is refused as a duplicate exactly if two of the rows that
are meant to be left share a key, or if one of its members takes a key that a later one has yet to give
up. Otherwise it is saved. -/
theorem saveAlbum_duplicate_iff (h : st.Reachable) (ha : st.Revises s n a) :
    ((∃ k, (st.saveAlbum s a).fault? = some (.duplicate k)) ↔
      ¬ (st.replacing n (a.info s) a).KeysUnique ∨ ¬ st.InOrder n a) ∧
    ((st.saveAlbum s a).fault? = none ↔
      (st.replacing n (a.info s) a).KeysUnique ∧ st.InOrder n a) := by
  suffices houtcome : (st.saveAlbum s a).fault? = none ∧
        (st.replacing n (a.info s) a).KeysUnique ∧ st.InOrder n a ∨
      (∃ k, (st.saveAlbum s a).fault? = some (.duplicate k)) ∧
        (¬ (st.replacing n (a.info s) a).KeysUnique ∨ ¬ st.InOrder n a) by
    rcases houtcome with ⟨hok, hkeys, horder⟩ | ⟨⟨k, hk⟩, hno⟩
    · refine ⟨iff_of_false ?_ (by tauto), iff_of_true hok ⟨hkeys, horder⟩⟩
      rw [hok]
      exact fun ⟨_, he⟩ => nomatch he
    · refine ⟨iff_of_true ⟨k, hk⟩ hno, iff_of_false ?_ (by tauto)⟩
      rw [hk]
      exact fun he => nomatch he
  have hcon := h.consistent
  rcases writeAlbum_outcome hcon ha.id ha.stored with ⟨hw, hidentities, hpaths⟩ | ⟨⟨k, hk⟩, hno⟩
  · obtain ⟨hcon₁, hn⟩ := hcon.writeAlbum hw
    have ha₁ : Store.Revises { st with albums := replaceRow AlbumRow.id ((a.info s).row n) st.albums }
        s n a := { ha with stored := hn }
    rw [saveAlbum_of_writeAlbum hw]
    have htracks := ha₁.fits_tracks (i := a.info s) hcon₁
    have hextras := ha₁.fits_extras (i := a.info s) hcon₁
    rcases writeMembers_outcome hcon₁ hn ha₁.lists with ⟨hok, hfitTracks, hfitExtras⟩ | ⟨hfault, hno⟩
    · obtain ⟨⟨hpositions, htrackPaths⟩, horderTracks⟩ := htracks.1 hfitTracks
      obtain ⟨⟨hnames, hextraPaths⟩, horderExtras⟩ := hextras.1 hfitExtras
      exact .inl ⟨hok, ⟨hidentities, hpaths, hpositions, htrackPaths, hnames, hextraPaths⟩,
        horderTracks, horderExtras⟩
    · refine .inr ⟨hfault, not_and_or.1 ?_⟩
      rintro ⟨hkeys, horder⟩
      exact hno ⟨htracks.2 ⟨⟨hkeys.trackPositions, hkeys.trackPaths⟩, horder.tracks⟩,
        hextras.2 ⟨⟨hkeys.extraPositions, hkeys.extraPaths⟩, horder.extras⟩⟩
  · refine .inr ⟨⟨k, ?_⟩, .inl fun hkeys => hno ⟨hkeys.albumIdentities, hkeys.albumPaths⟩⟩
    unfold saveAlbum
    rw [hk]

/-- An album with two tracks. -/
def twoTracks : Album where
  handle := ⟨0⟩
  tracks := [.create nightAndDay ⟨0⟩ 1 "One" (.ofText "/night/1.flac"),
    .create nightAndDay ⟨0⟩ 2 "Two" (.ofText "/night/2.flac")]
  extras := []

/-- A store with that album under the number 1. -/
def twoStored : Store := (Session.after [.saveAlbum nightAndDay twoTracks]).working

/-- The album as it is loaded, with each track's number changed. -/
def renumbered (f : Int → Int) : Album :=
  { twoTracks with
    tracks := [{ Track.create nightAndDay ⟨0⟩ (f 1) "One" (.ofText "/night/1.flac") with id? := some 1 },
      { Track.create nightAndDay ⟨0⟩ (f 2) "Two" (.ofText "/night/2.flac") with id? := some 2 }] }

theorem revises_renumbered (f : Int → Int) :
    twoStored.Revises (twoStored.loadAlbums [1] .empty).2 1 (renumbered f) := by
  have hcon : twoStored.Consistent := Reachable.consistent ⟨_, rfl⟩
  have hshows : Shows twoStored (twoStored.loadAlbums [1] .empty).2 1 (twoStored.albumAt 1 ⟨0⟩) :=
    shows_albumAt hcon (by decide +kernel)
  have hsorted : List.Perm ((twoStored.albumAt 1 ⟨0⟩).tracks.filterMap (·.id?))
      (((twoStored.tracks.filter (·.albumId = 1)).map fun r =>
        r.track ⟨0⟩ (twoStored.genresOf r.id)).filterMap (·.id?)) :=
    ((List.mergeSort_perm _ _).map _).filterMap _
  have hids : List.Perm ((renumbered f).tracks.filterMap (·.id?))
      ((twoStored.albumAt 1 ⟨0⟩).tracks.filterMap (·.id?)) := by
    refine .trans ?_ hsorted.symm
    show List.Perm [1, 2] _
    exact .of_eq (by decide +kernel)
  refine hshows.revises hcon ?_ hids.subperm (List.nil_subperm)
  show ((twoStored.loadAlbums [1] .empty).2.read ⟨0⟩).id? = some 1
  decide +kernel

/-- Tracks may move up one after the other, from the last to the first, but these are listed from the
first to the last. -/
theorem saveAlbum_duplicate_movedUp :
    ¬ (twoStored.replacing 1 ((renumbered (· + 1)).info (twoStored.loadAlbums [1] .empty).2)
        (renumbered (· + 1))).KeysUnique ∨ ¬ twoStored.InOrder 1 (renumbered (· + 1)) :=
  (saveAlbum_duplicate_iff ⟨_, rfl⟩ (revises_renumbered (· + 1))).1.1
    ⟨.trackPosition, by decide +kernel⟩

/-- Two tracks that have changed their numbers are refused, although no two rows would share a key. -/
theorem saveAlbum_swapped :
    let s := (twoStored.loadAlbums [1] .empty).2
    let a := renumbered (3 - ·)
    twoStored.Reachable ∧ twoStored.Revises s 1 a ∧ (twoStored.replacing 1 (a.info s) a).KeysUnique ∧
      (twoStored.saveAlbum s a).fault? = some (.duplicate .trackPosition) := by
  refine ⟨⟨_, rfl⟩, revises_renumbered _, ?_, by decide +kernel⟩
  constructor <;> decide +kernel

end Store

end MusicLibrary

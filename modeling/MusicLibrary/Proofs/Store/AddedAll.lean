import MusicLibrary.Proofs.Store.Filled

/-!
# Adding a list of albums again

An import adds albums one after the other. Run again, it leaves all rows as they are as long as each
album finds the row it was stored under before (`addAll_again`). This need not be so: a later album
may have given a row of a lower number the release number of an earlier one, which then finds that
row first (`addAll_dawns`).
-/

namespace MusicLibrary

open Progress

section Lists

variable {α β : Type} {as : List α} {bs : List β}

theorem forall_of_forall₂ {P : α → Prop} (h : List.Forall₂ (fun a _ => P a) as bs) :
    ∀ a ∈ as, P a := by
  have hand : List.Forall₂ (fun a _ => P a ∧ True) as bs := h.imp fun _ _ ha => ⟨ha, trivial⟩
  exact ((List.forall₂_and_left as bs).1 hand).1

/-- What holds of all members of a list holds of their counterparts in another. -/
theorem forall_of_forall₂_right {P : α → Prop} {Q : β → Prop} {R : α → β → Prop}
    (h : List.Forall₂ R as bs) (has : ∀ a ∈ as, P a) (hQ : ∀ a b, P a → R a b → Q b) :
    ∀ b ∈ bs, Q b := by
  have hand := (List.forall₂_and_left as bs).2 ⟨has, h⟩
  exact forall_of_forall₂ (List.Forall₂.flip (hand.imp fun a b hab => hQ a b hab.1 hab.2))

end Lists

/-- An album on a shelf that has not been saved, nor any of its members. -/
def Album.Unsaved (x : Album × Shelf) : Prop :=
  x.2.Holds x.1.handle ∧ (x.1.info x.2).id? = none ∧ x.1.New

namespace Store

variable {st st' : Store} {n : Int}

/-- Adds albums, each on a shelf, one after the other. -/
def addAll (settings : ImportSettings) (st : Store) (xs : List (Album × Shelf)) :
    Progress (List (Album × Shelf)) := each (fun st x => st.addAlbum settings x.2 x.1) st xs

/-- No row below the one that an album has been stored under has the album's release number. -/
def NoLowerRelease (st : Store) (x x' : Album × Shelf) : Prop :=
  ∀ n ∈ (x'.1.info x'.2).id?, ∀ q ∈ st.albums, q.id < n →
    (x.1.info x.2).mbAlbumId?.isSome → q.mbAlbumId? ≠ (x.1.info x.2).mbAlbumId?

instance (x x' : Album × Shelf) : Decidable (st.NoLowerRelease x x') :=
  inferInstanceAs (Decidable (∀ _ ∈ _, ∀ _ ∈ _, _))

theorem Consistent.addAll (h : st.Consistent) (settings : ImportSettings)
    (xs : List (Album × Shelf)) : (addAll settings st xs).store.Consistent :=
  each_store (fun _ x hst => hst.addAlbum settings x.2 x.1) xs h

theorem filledIn_addAll (h : st.Consistent) {threshold : Score} {xs : List (Album × Shelf)}
    (hxs : ∀ x ∈ xs, Album.Unsaved x) (hok : (addAll ⟨threshold, false⟩ st xs).fault? = none) :
    st.FilledIn (addAll ⟨threshold, false⟩ st xs).store := by
  induction xs generalizing st with
  | nil => exact filledIn_refl st
  | cons x xs ih =>
    obtain ⟨hs, hid, hnew⟩ := hxs x (.head _)
    obtain ⟨hok₁, hok₂⟩ := ok_of_each_cons hok
    rw [addAll, each_cons_of_ok hok₁]
    exact (filledIn_addAlbum h hs hid hnew hok₁).trans
      (ih (h.addAlbum ⟨threshold, false⟩ x.2 x.1) (fun y hy => hxs y (.tail _ hy)) hok₂)

/-- All albums of a list that has been added are absorbed in the end, each by the row it was stored
under, and none has collided with a row of a lower number at the start. -/
theorem absorbed_of_addAll (h : st.Consistent) {threshold : Score} (ht : threshold.WithinOne)
    {xs : List (Album × Shelf)} (hxs : ∀ x ∈ xs, Album.Unsaved x)
    (hok : (addAll ⟨threshold, false⟩ st xs).fault? = none) :
    List.Forall₂ (fun x x' => ∃ n, (x'.1.info x'.2).id? = some n ∧
        (addAll ⟨threshold, false⟩ st xs).store.Absorbed n (x.1.info x.2) x.1 ∧
        ∀ q ∈ st.albums, q.id < n → (x.1.info x.2).collides q = false)
      xs (addAll ⟨threshold, false⟩ st xs).value := by
  induction xs generalizing st with
  | nil => exact .nil
  | cons x xs ih =>
    obtain ⟨hs, hid, hnew⟩ := hxs x (.head _)
    have hxs' : ∀ y ∈ xs, Album.Unsaved y := fun y hy => hxs y (.tail _ hy)
    obtain ⟨hok₁, hok₂⟩ := ok_of_each_cons hok
    have h₁ := h.addAlbum ⟨threshold, false⟩ x.2 x.1
    have hfilled := filledIn_addAlbum h hs hid hnew hok₁
    have hfilled' := filledIn_addAll h₁ hxs' hok₂
    obtain ⟨n, hn, hsettled⟩ := settled_of_addAlbum h ht hs hid hnew hok₁
    have habsorbed := (hsettled.absorbed h₁ hid).filledIn hid hfilled' (h₁.addAll _ xs)
    obtain ⟨r, hr, rfl, -⟩ := hsettled.row
    have hlower := ((colliding?_eq_some h₁).1 hr).2.2
    rw [addAll, each_cons_of_ok hok₁]
    refine .cons ⟨r.id, hn, habsorbed, fun q => hfilled.not_collides hid hlower⟩ ?_
    -- what holds of the rows after the first run is taken back to the rows before it
    refine ((List.forall₂_and_left xs _).2 ⟨hxs', ih h₁ hxs' hok₂⟩).imp ?_
    rintro y y' ⟨⟨-, hid', -⟩, m, hm, habsorbed', hlower'⟩
    exact ⟨m, hm, habsorbed', fun q => hfilled.not_collides hid' hlower'⟩

theorem Settled.of_sameRows {overwrite : Bool} {i : AlbumInfo} {a : Album}
    (ha : st.Settled overwrite n i a) (h : SameRows st st') : st'.Settled overwrite n i a where
  row := by
    rw [colliding?, h.albums]
    exact ha.row
  members place := h.albumAt_eq n place ▸ ha.members place
  positions := ha.positions

theorem addAll_of_settled (h : st.Consistent) {settings : ImportSettings}
    (ht : settings.threshold.WithinOne) {ys : List (Album × Shelf)}
    (hys : ∀ y ∈ ys, y.2.Holds y.1.handle ∧ y.1.New ∧
      ∃ n, st.Settled settings.overwrite n (y.1.info y.2) y.1) :
    (addAll settings st ys).fault? = none ∧ SameRows st (addAll settings st ys).store := by
  obtain ⟨hok, -, hsame, -⟩ := each_of_sameRows (fun st x => st.addAlbum settings x.2 x.1)
    Consistent (fun st y => y.2.Holds y.1.handle ∧ y.1.New ∧
      ∃ n, st.Settled settings.overwrite n (y.1.info y.2) y.1) (fun _ _ => True) h hys
    (fun st y hst ⟨hs, hnew, n, hy⟩ =>
      have ⟨hok, _, hsame⟩ := addAlbum_of_settled hst ht hs hnew hy
      ⟨hok, trivial, hsame⟩)
    (fun st y hst => hst.addAlbum settings y.2 y.1)
    (fun st st' y hsame ⟨hs, hnew, n, hy⟩ => ⟨hs, hnew, n, hy.of_sameRows hsame⟩)
  exact ⟨hok, hsame⟩

/-- Adding new albums without `overwrite` succeeds and leaves all rows as they are if and only if all
of them are settled. -/
theorem addAll_sameRows_iff (h : st.Consistent) {threshold : Score} (ht : threshold.WithinOne)
    {ys : List (Album × Shelf)} (hys : ∀ y ∈ ys, Album.Unsaved y) :
    ((addAll ⟨threshold, false⟩ st ys).fault? = none ∧
      SameRows st (addAll ⟨threshold, false⟩ st ys).store) ↔
    ∀ y ∈ ys, ∃ n, st.Settled false n (y.1.info y.2) y.1 := by
  constructor
  · rintro ⟨hok, hsame⟩
    refine forall_of_forall₂ ((absorbed_of_addAll h ht hys hok).imp ?_)
    rintro y y' ⟨n, -, habsorbed, hlower⟩
    exact ⟨n, (habsorbed.of_sameRows hsame).settled_of_lower h hlower⟩
  · intro hsettled
    refine addAll_of_settled h ht fun y hy => ?_
    exact ⟨(hys y hy).1, (hys y hy).2.2, hsettled y hy⟩

/-- When albums that have been added to an empty store are added once more, this succeeds and leaves
all rows as they are if and only if each is settled after the first time. It is so if no row below
the one that an album was stored under has come to have the album's release number. -/
theorem addAll_again {xs ys : List (Album × Shelf)} (hxs : ∀ x ∈ xs, Album.Unsaved x)
    (hys : List.Forall₂ (fun x y => y.2.Holds y.1.handle ∧ Album.Copies x.2 x.1 y.2 y.1) xs ys)
    (hok : (addAll default .empty xs).fault? = none) :
    let p := addAll default .empty xs
    let q := addAll default p.store ys
    (q.fault? = none ∧ SameRows p.store q.store ↔
      ∀ y ∈ ys, ∃ n, p.store.Settled false n (y.1.info y.2) y.1) ∧
    (List.Forall₂ p.store.NoLowerRelease xs p.value →
      q.fault? = none ∧ SameRows p.store q.store) := by
  intro p q
  have ht : defaultThreshold.WithinOne := ⟨by decide, by decide, by decide⟩
  have hp : p.store.Consistent := consistent_empty.addAll _ xs
  have hunsaved : ∀ y ∈ ys, Album.Unsaved y := by
    refine forall_of_forall₂_right hys hxs ?_
    rintro x y ⟨-, hid, hnew⟩ ⟨hy, hinfo, hon⟩
    exact ⟨hy, hinfo ▸ hid, hnew.of_on hon⟩
  have hiff := addAll_sameRows_iff hp ht hunsaved
  refine ⟨hiff, fun hrelease => hiff.2 ?_⟩
  have hsettled : ∀ x ∈ xs, ∃ n, p.store.Settled false n (x.1.info x.2) x.1 := by
    have habsorbed := absorbed_of_addAll consistent_empty ht hxs hok
    refine forall_of_forall₂ (hrelease.mp ?_ ((List.forall₂_and_left xs _).2 ⟨hxs, habsorbed⟩))
    rintro x x' hno ⟨⟨-, hid, -⟩, n, hn, habs, -⟩
    exact ⟨n, habs.settled hp hid (hno n hn)⟩
  refine forall_of_forall₂_right hys hsettled ?_
  rintro x y ⟨n, hx⟩ ⟨-, hinfo, hon⟩
  exact ⟨n, hinfo ▸ hx.of_on hon⟩

/-- A release of one track, on a shelf of its own. -/
def release (i : AlbumInfo) (number : Int) (title path : String) : Album × Shelf :=
  (⟨⟨0⟩, [.create ⟨#[i]⟩ ⟨0⟩ number title (.ofText path)], []⟩, ⟨#[i]⟩)

theorem unsaved_release {i : AlbumInfo} (hi : i.id? = none) (number : Int) (title path : String) :
    Album.Unsaved (release i number title path) :=
  ⟨Nat.one_pos, hi, by simp [release, Track.create], by simp [release]⟩

/-- A release without a number, one with a number, and the latter once more from another place. -/
def dusks : List (Album × Shelf) :=
  [release (.create "Nina" "Dawn" 1970 (.ofText "/dawn")) 1 "One" "/dawn/1.flac",
    release { AlbumInfo.create "Nina" "Dusk" 1971 (.ofText "/dusk") with mbAlbumId? := some "mb-9" }
      2 "Two" "/dusk/2.flac",
    release { AlbumInfo.create "Nina" "Dusk" 1972 (.ofText "/again") with mbAlbumId? := some "mb-9" }
      2 "Two" "/again/2.flac"]

/-- The release that comes twice has one row, and none below has its number. -/
theorem addAll_again_dusks :
    (addAll default (addAll default .empty dusks).store dusks).fault? = none ∧
      SameRows (addAll default .empty dusks).store
        (addAll default (addAll default .empty dusks).store dusks).store := by
  have hunsaved : ∀ x ∈ dusks, Album.Unsaved x := by
    simp [dusks, unsaved_release, AlbumInfo.create]
  refine (addAll_again hunsaved (List.forall₂_same.2 fun x hx => ?_) (by decide +kernel)).2
    (by decide +kernel)
  exact ⟨(hunsaved x hx).1, rfl, fun _ => rfl⟩

/-- A release without a number, one with a number, and the former once more with the number of the
latter. -/
def dawns : List (Album × Shelf) :=
  [release (.create "Nina" "Dawn" 1970 (.ofText "/dawn")) 1 "One" "/dawn/1.flac",
    release { AlbumInfo.create "Nina" "Dusk" 1971 (.ofText "/dusk") with mbAlbumId? := some "mb-9" }
      2 "Two" "/dusk/2.flac",
    release { AlbumInfo.create "Nina" "Dawn" 1970 (.ofText "/again") with mbAlbumId? := some "mb-9" }
      1 "One" "/again/1.flac"]

/-- The first row has the number of the second release in the end, which therefore finds the first
row when it is added again. Its track is stored with the second row. -/
theorem addAll_dawns : (∀ x ∈ dawns, Album.Unsaved x) ∧
    (addAll default .empty dawns).fault? = none ∧
    (addAll default (addAll default .empty dawns).store dawns).fault? =
      some (.duplicateItem "UNIQUE constraint failed: tracks.path") := by
  refine ⟨?_, by decide +kernel, by decide +kernel⟩
  simp [dawns, unsaved_release, AlbumInfo.create]

end Store

end MusicLibrary

import MusicLibrary.Proofs.Store.Loaded
import MusicLibrary.Proofs.Store.Resaved

/-!
# Saving a single member

A track or an extra is saved with the fields of its album. The row of an album that is gone is
inserted anew, under the next number, and the shelf is not told of it. The row of a member that is
gone is not. So a save that succeeds leaves the member as it is in memory exactly if the member is new
or has its row, and the number of its album on the shelf is that of the row which is written
(`saveMember_holds_iff`).
-/

namespace MusicLibrary.Store

variable {st st₁ : Store} {m n : Int}

/-! ## Writing one member -/

/-- A track that has been written is held by its album. -/
theorem TracksWritten.holdsTrack {t : Track} {k : Int} (h : TracksWritten n st [t.numbered k] st₁) :
    st₁.HoldsTrack n (t.numbered k) := by
  refine ⟨k, rfl, (h.rows _).2 (.inl (List.mem_singleton_self _)), fun g => ?_⟩
  rw [mem_genresOf, h.links]
  constructor
  · rintro (⟨u, hu, -, hg⟩ | ⟨-, hno⟩)
    · obtain rfl := List.mem_singleton.1 hu
      exact hg
    · exact absurd rfl (hno _ (List.mem_singleton_self _))
  · exact fun hg => .inl ⟨_, List.mem_singleton_self _, rfl, hg⟩

theorem ExtrasWritten.holdsExtra {e : Extra} {k : Int} (h : ExtrasWritten n st [e.numbered k] st₁) :
    st₁.HoldsExtra n (e.numbered k) :=
  ⟨k, rfl, (h.rows _).2 (.inl (List.mem_singleton_self _))⟩

/-- A track is held by one album only. -/
theorem HoldsTrack.album_eq (h : st.Consistent) {t : Track} (hm : st.HoldsTrack m t)
    (hn : st.HoldsTrack n t) : n = m := by
  obtain ⟨k, hk, hrow, -⟩ := hm
  obtain ⟨k', hk', hrow', -⟩ := hn
  obtain rfl := Option.some.inj (hk.symm.trans hk')
  exact congrArg TrackRow.albumId (h.tracks.eq_of_num hrow' hrow rfl)

theorem HoldsExtra.album_eq (h : st.Consistent) {e : Extra} (hm : st.HoldsExtra m e)
    (hn : st.HoldsExtra n e) : n = m := by
  obtain ⟨k, hk, hrow⟩ := hm
  obtain ⟨k', hk', hrow'⟩ := hn
  obtain rfl := Option.some.inj (hk.symm.trans hk')
  exact congrArg ExtraRow.albumId (h.extras.eq_of_num hrow' hrow rfl)

/-- What is written as a track of an album is held by that album, unless its row was gone. -/
theorem writeTrack_holds_iff (h : st.Consistent) (hm : st.HasAlbum m) {t : Track}
    (hok : (writeTrack m st t).fault? = none) :
    (writeTrack m st t).store.HoldsTrack n (writeTrack m st t).value ↔
      n = m ∧ ∀ k, t.id? = some k → st.HasTrack k := by
  have hst := (Consistent.writeTrack_hasAlbum ⟨h, hm⟩ t).1
  by_cases hrow : ∀ k, t.id? = some k → st.HasTrack k
  · obtain ⟨k, hvalue, -, hw⟩ := writeTrack_of_ok h hrow hok
    rw [hvalue]
    constructor
    · intro hholds
      exact ⟨hw.holdsTrack.album_eq hst hholds, hrow⟩
    · rintro ⟨rfl, -⟩
      exact hw.holdsTrack
  · push Not at hrow
    obtain ⟨k, hid, hk⟩ := hrow
    rw [writeTrack_of_gone hid hk]
    refine iff_of_false ?_ fun hall => hk (hall.2 k hid)
    rintro ⟨k', hk', hmem, -⟩
    obtain rfl := Option.some.inj hk'
    rw [(writeGenres_rows t k).2] at hmem
    exact hk ⟨_, hmem, rfl⟩

theorem writeExtra_holds_iff (h : st.Consistent) (hm : st.HasAlbum m) {e : Extra}
    (hok : (writeExtra m st e).fault? = none) :
    (writeExtra m st e).store.HoldsExtra n (writeExtra m st e).value ↔
      n = m ∧ ∀ k, e.id? = some k → st.HasExtra k := by
  have hst := (Consistent.writeExtra_hasAlbum ⟨h, hm⟩ e).1
  by_cases hrow : ∀ k, e.id? = some k → st.HasExtra k
  · obtain ⟨k, hvalue, -, hw⟩ := writeExtra_of_ok h hrow hok
    rw [hvalue]
    constructor
    · intro hholds
      exact ⟨hw.holdsExtra.album_eq hst hholds, hrow⟩
    · rintro ⟨rfl, -⟩
      exact hw.holdsExtra
  · push Not at hrow
    obtain ⟨k, hid, hk⟩ := hrow
    rw [writeExtra_of_gone hid hk]
    refine iff_of_false ?_ fun hall => hk (hall.2 k hid)
    rintro ⟨k', hk', hmem⟩
    obtain rfl := Option.some.inj hk'
    exact hk ⟨_, hmem, rfl⟩

theorem writeTrack_value_album (t : Track) : (writeTrack n st t).value.album = t.album := by
  unfold writeTrack
  split
  · split <;> rfl
  · split <;> rfl

theorem writeExtra_value_album (e : Extra) : (writeExtra n st e).value.album = e.album := by
  unfold writeExtra
  split
  · split <;> rfl
  · split <;> rfl

/-! ## Writing the album -/

/-- An album has the number that its row has once it has been written: there is a row of that number,
or it is the next one to be given. -/
def KeepsNumber (st : Store) (i : AlbumInfo) : Prop :=
  ∃ n, i.id? = some n ∧ (st.HasAlbum n ∨ n = st.lastAlbum + 1)

theorem keepsNumber_iff {i : AlbumInfo} (hw : st.writeAlbum i = .ok (m, st₁)) :
    st.KeepsNumber i ↔ i.id? = some m := by
  unfold KeepsNumber
  rcases writeAlbum_eq_ok hw with ⟨hid, hm, -⟩ | ⟨hgone, hi⟩
  · exact iff_of_true ⟨m, hid, .inl hm⟩ hid
  · obtain ⟨rfl, -⟩ := insertAlbum_eq_ok hi
    constructor
    · rintro ⟨n, hid, hn | rfl⟩
      · exact absurd hn (hgone n hid)
      · exact hid
    · intro hid
      exact ⟨_, hid, .inr rfl⟩

/-- What is held by the album that has been written, on a condition, is held by the album on the shelf
if that keeps its number. -/
theorem exists_number_iff {i : AlbumInfo} (hw : st.writeAlbum i = .ok (m, st₁)) {H : Int → Prop}
    {C : Prop} (hH : ∀ n, H n ↔ n = m ∧ C) :
    (∃ n, i.id? = some n ∧ H n) ↔ st.KeepsNumber i ∧ C := by
  rw [keepsNumber_iff hw]
  constructor
  · rintro ⟨n, hid, hn⟩
    obtain ⟨rfl, hC⟩ := (hH n).1 hn
    exact ⟨hid, hC⟩
  · rintro ⟨hid, hC⟩
    exact ⟨m, hid, (hH m).2 ⟨rfl, hC⟩⟩

/-- Writing the row of an album leaves the rows of members as they are. -/
theorem writeAlbum_members {i : AlbumInfo} (h : st.Consistent) (hw : st.writeAlbum i = .ok (m, st₁)) :
    st₁.Consistent ∧ st₁.HasAlbum m ∧ (∀ k, st₁.HasTrack k ↔ st.HasTrack k) ∧
      ∀ k, st₁.HasExtra k ↔ st.HasExtra k := by
  obtain ⟨hst₁, hm⟩ := h.writeAlbum hw
  obtain ⟨-, htracks, hextras, -⟩ := writeAlbum_written h hw
  refine ⟨hst₁, hm, fun k => ?_, fun k => ?_⟩
  · unfold HasTrack
    rw [htracks]
  · unfold HasExtra
    rw [hextras]

/-! ## Saving -/

theorem saveTrack_of_ok {s : Shelf} {t : Track} (hok : (st.saveTrack s t).fault? = none) :
    ∃ m st₁, st.writeAlbum (s.read t.album) = .ok (m, st₁) ∧
      st.saveTrack s t = writeTrack m st₁ t := by
  unfold saveTrack at hok ⊢
  by_cases hid : (s.read t.album).id?.isNone = true
  · rw [if_pos hid] at hok
    cases hok
  · rw [if_neg hid] at hok ⊢
    rcases hw : st.writeAlbum (s.read t.album) with k | ⟨m, st₁⟩
    · rw [hw] at hok
      cases hok
    · exact ⟨m, st₁, rfl, rfl⟩

theorem saveExtra_of_ok {s : Shelf} {e : Extra} (hok : (st.saveExtra s e).fault? = none) :
    ∃ m st₁, st.writeAlbum (s.read e.album) = .ok (m, st₁) ∧
      st.saveExtra s e = writeExtra m st₁ e := by
  unfold saveExtra at hok ⊢
  by_cases hid : (s.read e.album).id?.isNone = true
  · rw [if_pos hid] at hok
    cases hok
  · rw [if_neg hid] at hok ⊢
    rcases hw : st.writeAlbum (s.read e.album) with k | ⟨m, st₁⟩
    · rw [hw] at hok
      cases hok
    · exact ⟨m, st₁, rfl, rfl⟩

/-- A track whose save succeeds is held by the album on the shelf, under the number that the album has
there, exactly if the album keeps its number and the track is new or has its row. -/
theorem saveTrack_holds_iff (h : st.Consistent) {s : Shelf} {t : Track}
    (hok : (st.saveTrack s t).fault? = none) :
    let p := st.saveTrack s t
    (∃ n, (s.read p.value.album).id? = some n ∧ p.store.HoldsTrack n p.value) ↔
      st.KeepsNumber (s.read t.album) ∧ ∀ k, t.id? = some k → st.HasTrack k := by
  intro p
  obtain ⟨m, st₁, hw, hp⟩ := saveTrack_of_ok hok
  obtain ⟨hst₁, hm, htracks, -⟩ := writeAlbum_members h hw
  have hwrite : ∀ n, p.store.HoldsTrack n p.value ↔ n = m ∧ ∀ k, t.id? = some k → st.HasTrack k := by
    intro n
    have hiff := writeTrack_holds_iff (n := n) hst₁ hm (hp ▸ hok)
    simp only [htracks] at hiff
    show (st.saveTrack s t).store.HoldsTrack n (st.saveTrack s t).value ↔ _
    rw [hp]
    exact hiff
  have halbum : p.value.album = t.album := by
    show (st.saveTrack s t).value.album = t.album
    rw [hp]
    exact writeTrack_value_album t
  rw [halbum]
  exact exists_number_iff hw hwrite

theorem saveExtra_holds_iff (h : st.Consistent) {s : Shelf} {e : Extra}
    (hok : (st.saveExtra s e).fault? = none) :
    let p := st.saveExtra s e
    (∃ n, (s.read p.value.album).id? = some n ∧ p.store.HoldsExtra n p.value) ↔
      st.KeepsNumber (s.read e.album) ∧ ∀ k, e.id? = some k → st.HasExtra k := by
  intro p
  obtain ⟨m, st₁, hw, hp⟩ := saveExtra_of_ok hok
  obtain ⟨hst₁, hm, -, hextras⟩ := writeAlbum_members h hw
  have hwrite : ∀ n, p.store.HoldsExtra n p.value ↔ n = m ∧ ∀ k, e.id? = some k → st.HasExtra k := by
    intro n
    have hiff := writeExtra_holds_iff (n := n) hst₁ hm (hp ▸ hok)
    simp only [hextras] at hiff
    show (st.saveExtra s e).store.HoldsExtra n (st.saveExtra s e).value ↔ _
    rw [hp]
    exact hiff
  have halbum : p.value.album = e.album := by
    show (st.saveExtra s e).value.album = e.album
    rw [hp]
    exact writeExtra_value_album e
  rw [halbum]
  exact exists_number_iff hw hwrite

/-- After a save that succeeds, the row of a track or an extra, the genres of the track included, is as
in memory and of the album whose number stands on the shelf, exactly if that album keeps its number
and the member is new or had a row before. -/
theorem saveMember_holds_iff (h : st.Reachable) (s : Shelf) :
    (∀ t : Track, (st.saveTrack s t).fault? = none →
      let p := st.saveTrack s t
      ((∃ n, (s.read p.value.album).id? = some n ∧ p.store.HoldsTrack n p.value) ↔
        st.KeepsNumber (s.read t.album) ∧ ∀ k, t.id? = some k → st.HasTrack k)) ∧
    ∀ e : Extra, (st.saveExtra s e).fault? = none →
      let p := st.saveExtra s e
      ((∃ n, (s.read p.value.album).id? = some n ∧ p.store.HoldsExtra n p.value) ↔
        st.KeepsNumber (s.read e.album) ∧ ∀ k, e.id? = some k → st.HasExtra k) :=
  ⟨fun _ hok => saveTrack_holds_iff h.consistent hok,
    fun _ hok => saveExtra_holds_iff h.consistent hok⟩

/-- The fields of two albums, the first of which has been saved. -/
def nightSaved : Shelf := nightAndDay.modify ⟨0⟩ ({ · with id? := some 1 })

/-- The first track that has been saved, under another title. -/
def retitledTrack : Track :=
  { Track.create nightSaved ⟨0⟩ 1 "Uno" (.ofText "/night/1.flac") with
    id? := some 1
    genres := .ofList ["jazz"] }

/-- A stored track is held under its new title with its new genre, and so is a new extra. -/
theorem saveMember_holds_night :
    let st := (Session.after [.saveAlbum nightAndDay night]).working
    let p := st.saveTrack nightSaved retitledTrack
    let q := st.saveExtra nightSaved (.create ⟨0⟩ (.ofText "/night/rip.log"))
    (∃ n, (nightSaved.read p.value.album).id? = some n ∧ p.store.HoldsTrack n p.value) ∧
      ∃ n, (nightSaved.read q.value.album).id? = some n ∧ q.store.HoldsExtra n q.value := by
  intro st p q
  have halbum : st.HasAlbum 1 := any_album_iff.1 (by decide +kernel)
  have htrack : st.HasTrack 1 := any_track_iff.1 (by decide +kernel)
  have hnumber : st.KeepsNumber (nightSaved.read ⟨0⟩) := ⟨1, rfl, .inl halbum⟩
  have hst : st.Reachable := ⟨_, rfl⟩
  have hholds := saveMember_holds_iff hst nightSaved
  refine ⟨(hholds.1 retitledTrack (by decide +kernel)).2 ⟨hnumber, ?_⟩,
    (hholds.2 (.create ⟨0⟩ (.ofText "/night/rip.log")) (by decide +kernel)).2 ⟨hnumber, ?_⟩⟩
  · intro k hk
    obtain rfl : 1 = k := Option.some.inj hk
    exact htrack
  · intro k hk
    cases hk

/-- Saving a track whose row has been removed succeeds and stores no track. Saving a new track of an
album whose row has been removed stores it with the album 2, while the album has the number 1. -/
theorem saveTrack_removed :
    let track : Track := { retitledTrack with genres := .empty }
    let st := (Session.after [.saveAlbum nightAndDay night, .removeTrack track]).working
    let p := st.saveTrack nightSaved track
    let st' := (Session.after [.saveAlbum nightAndDay night, .removeAlbum nightSaved night]).working
    let p' := st'.saveTrack nightSaved { track with id? := none }
    (p.fault? = none ∧ p.value.id? = some 1 ∧ p.store.tracks = []) ∧
      p'.fault? = none ∧ (nightSaved.read p'.value.album).id? = some 1 ∧
        p'.store.tracks.map (·.albumId) = [2] := by
  decide +kernel

end MusicLibrary.Store

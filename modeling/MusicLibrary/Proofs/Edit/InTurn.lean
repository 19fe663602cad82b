import MusicLibrary.Proofs.Edit

/-!
# Edits of an album and its track, one after the other

A field of an album may be edited through the album or through one of its tracks, and an edit is carried
out as a whole or not at all. So edits that are applied one after the other, through either, come to the
assignment of the last value that was accepted for each field (`FieldEdit.inTurn_assigns`). Nothing but
the field that an edit names is ever changed (`Track.UnchangedBut`, `AlbumInfo.UnchangedBut`).
-/

namespace MusicLibrary

/-! ## What an edit leaves alone -/

/-- A track is what it was but for the field of a name. -/
structure Track.UnchangedBut (field : String) (t t' : Track) : Prop where
  id? : t'.id? = t.id?
  album : t'.album = t.album
  path : t'.path = t.path
  title : field ≠ "title" → t'.title = t.title
  artist : field ≠ "artist" → t'.artist = t.artist
  trackNum : field ≠ "track_num" → t'.trackNum = t.trackNum
  disc : field ≠ "disc" → t'.disc = t.disc
  genres : field ≠ "genre" → t'.genres = t.genres
  mbTrackId? : field ≠ "mb_track_id" → t'.mbTrackId? = t.mbTrackId?

/-- The fields of an album are what they were but for the field of a name. -/
structure AlbumInfo.UnchangedBut (field : String) (i i' : AlbumInfo) : Prop where
  id? : i'.id? = i.id?
  path : i'.path = i.path
  title : field ≠ "album" → i'.title = i.title
  artist : field ≠ "albumartist" → i'.artist = i.artist
  year : field ≠ "year" → i'.year = i.year
  date? : field ≠ "date" → i'.date? = i.date?
  originalDate? : field ≠ "original_date" → i'.originalDate? = i.originalDate?
  label? : field ≠ "label" → i'.label? = i.label?
  mbAlbumId? : field ≠ "mb_album_id" → i'.mbAlbumId? = i.mbAlbumId?
  trackTotal? : field ≠ "track_total" → i'.trackTotal? = i.trackTotal?
  discTotal : field ≠ "disc_total" → i'.discTotal = i.discTotal

namespace FieldEdit

variable {kind : Kind} {e : FieldEdit} {a : Album} {t t' : Track} {s s' : Shelf}

theorem getD_given_of_ne {α : Type} {read : FieldEdit → Option α} {field : String} {old : α}
    (h : e.field ≠ field) : (given [e] field read).getD old = old := by
  rw [given_singleton, valueFor, if_neg h]
  rfl

theorem unchangedBut_assign (e : FieldEdit) (t : Track) : t.UnchangedBut e.field (t.assign [e]) := by
  constructor <;> first | rfl | exact getD_given_of_ne

theorem info_unchangedBut_assign (e : FieldEdit) (i : AlbumInfo) :
    i.UnchangedBut e.field (i.assign [e]) := by
  constructor <;> first | rfl | exact getD_given_of_ne

/-! ## Through a track and through its album -/

/-- The kind of the item through which an edit reaches the fields of an album matters for a name that is
unknown only. -/
theorem applyToInfo_congr (kind kind' : Kind) (i : AlbumInfo) (h : e.field ∈ albumFields) :
    e.applyToInfo kind i = e.applyToInfo kind' i := by
  simp only [albumFields, List.mem_cons, List.not_mem_nil, or_false] at h
  unfold applyToInfo
  rcases h with h | h | h | h | h | h | h | h | h | h <;> simp only [h]

/-- An edit of a field of an album comes to the same through the album and through one of its tracks,
which it leaves as it is. -/
theorem applyToTrack_eq_applyToAlbum (ht : t.album = a.handle) (h : e.field ∈ albumFields) :
    e.applyToTrack t s = (e.applyToAlbum a s).map (t, ·) := by
  rw [applyToTrack_eq_applyToInfo t s (not_mem_trackFields h),
    applyToInfo_congr .track .album _ h, ht, applyToAlbum, Album.info]
  rcases e.applyToInfo .album (s.read a.handle) with f | i <;> rfl

/-! ## Applying edits in turn -/

/-- Applies an edit to a track of an album, to the album, or to one of its extras. -/
def applyTo (kind : Kind) (e : FieldEdit) (a : Album) (t : Track) (s : Shelf) :
    Except EditFault (Track × Shelf) :=
  match kind with
  | .track => e.applyToTrack t s
  | .album => (e.applyToAlbum a s).map (t, ·)
  | .extra => .error e.refusalByExtra

/-- Applies edits one after the other; one that is refused is passed over. -/
def inTurn (a : Album) (edits : List (Kind × FieldEdit)) (t : Track) (s : Shelf) : Track × Shelf :=
  edits.foldl (fun (t, s) (kind, e) => (applyTo kind e a t s).toOption.getD (t, s)) (t, s)

/-- The edits that are valid for the kinds they are applied to. -/
def accepted (edits : List (Kind × FieldEdit)) : List FieldEdit :=
  (edits.filter fun (kind, e) => e.fits kind).map (·.2)

theorem inTurn_cons (edits : List (Kind × FieldEdit)) :
    inTurn a ((kind, e) :: edits) t s =
      let (t', s') := (applyTo kind e a t s).toOption.getD (t, s)
      inTurn a edits t' s' := rfl

theorem accepted_cons (edits : List (Kind × FieldEdit)) :
    accepted ((kind, e) :: edits) =
      if e.fits kind then e :: accepted edits else accepted edits := by
  unfold accepted
  rw [List.filter_cons]
  split_ifs <;> rfl

/-- A valid edit assigns, through whatever it is applied to. -/
theorem applyTo_of_fits (ht : t.album = a.handle) (hs : s.Holds a.handle) (h : e.fits kind = true) :
    ∃ s', applyTo kind e a t s = .ok (t.assign [e], s') ∧ s.Assigned [e] a.handle s' := by
  cases kind with
  | track =>
    rw [← ht] at hs ⊢
    exact applyToTrack_of_fits hs h
  | album =>
    refine ⟨_, ?_, Shelf.assigned_write hs [e]⟩
    rw [applyTo, applyToAlbum, applyToInfo_of_fits .album _ h, (applyToTrack_of_fitsAlbum t s h).1]
    rfl
  | extra => cases h

theorem applyTo_of_not_fits (a : Album) (t : Track) (s : Shelf) (h : e.fits kind = false) :
    ∃ f, applyTo kind e a t s = .error f := by
  cases kind with
  | track => exact applyToTrack_of_not_fits t s h
  | album =>
    obtain ⟨f, hf⟩ := applyToInfo_of_not_fits .album (a.info s) h
    exact ⟨f, by rw [applyTo, applyToAlbum, hf]; rfl⟩
  | extra => exact ⟨_, rfl⟩

/-- Whether an edit is accepted does not depend on the values that it meets. -/
theorem applyTo_ok_iff (ht : t.album = a.handle) (hs : s.Holds a.handle) :
    (∃ p, applyTo kind e a t s = .ok p) ↔ e.fits kind = true := by
  constructor
  · rintro ⟨p, hp⟩
    by_contra hno
    obtain ⟨f, hf⟩ := applyTo_of_not_fits a t s (Bool.not_eq_true _ ▸ hno)
    cases hf.symm.trans hp
  · intro h
    obtain ⟨s', hok, -⟩ := applyTo_of_fits ht hs h
    exact ⟨_, hok⟩

/-- Edits that are applied in turn assign the last accepted value of each field. -/
theorem inTurn_eq (edits : List (Kind × FieldEdit)) (ht : t.album = a.handle) (hs : s.Holds a.handle) :
    ∃ s', inTurn a edits t s = (t.assign (accepted edits), s') ∧
      s.Assigned (accepted edits) a.handle s' := by
  induction edits generalizing t s with
  | nil => exact ⟨s, rfl, fun _ hk => hk, rfl, fun _ _ => rfl⟩
  | cons first edits ih =>
    obtain ⟨kind, e⟩ := first
    rw [inTurn_cons, accepted_cons]
    by_cases h : e.fits kind = true
    · obtain ⟨s₁, hok, hfirst⟩ := applyTo_of_fits ht hs h
      obtain ⟨s', hrun, hrest⟩ := ih (t := t.assign [e]) ht (hfirst.holds _ hs)
      rw [hok, if_pos h]
      refine ⟨s', ?_, hfirst.cons hrest⟩
      exact hrun.trans (congrArg (·, s') (Track.assign_cons t).symm)
    · obtain ⟨f, hf⟩ := applyTo_of_not_fits a t s (Bool.not_eq_true _ ▸ h)
      rw [hf, if_neg h]
      exact ih ht hs

/-- An edit of a field of an album has the same outcome through the album and through one of its tracks,
and leaves the track as it is. Any edit that is accepted changes nothing but the field it names, and any
that is refused changes nothing. So a list of edits, each applied to the track, to the album or to one of
its extras, assigns to each field the last value that was accepted for it, and changes nothing else. -/
theorem inTurn_assigns (ht : t.album = a.handle) (hs : s.Holds a.handle) :
    (∀ e : FieldEdit, e.field ∈ albumFields → e.applyToTrack t s = (e.applyToAlbum a s).map (t, ·)) ∧
    (∀ (kind : Kind) (e : FieldEdit),
      (∀ t' s', applyTo kind e a t s = .ok (t', s') →
        inTurn a [(kind, e)] t s = (t', s') ∧ t.UnchangedBut e.field t' ∧
        (a.info s).UnchangedBut e.field (a.info s') ∧ ∀ h, h ≠ a.handle → s'.read h = s.read h) ∧
      ∀ f, applyTo kind e a t s = .error f → inTurn a [(kind, e)] t s = (t, s)) ∧
    ∀ edits : List (Kind × FieldEdit), ∃ s',
      let succeeded := (edits.filter fun x => (applyTo x.1 x.2 a t s).isOk).map (·.2)
      inTurn a edits t s = (t.assign succeeded, s') ∧
      a.info s' = (a.info s).assign succeeded ∧ ∀ h, h ≠ a.handle → s'.read h = s.read h := by
  refine ⟨fun e he => applyToTrack_eq_applyToAlbum ht he, fun kind e => ⟨fun t' s' hok => ?_, ?_⟩, ?_⟩
  · have hfits := (applyTo_ok_iff ht hs).1 ⟨_, hok⟩
    obtain ⟨s₁, hok₁, hassigned⟩ := applyTo_of_fits ht hs hfits
    obtain ⟨rfl, rfl⟩ := Prod.mk.inj (Except.ok.inj (hok.symm.trans hok₁))
    refine ⟨?_, unchangedBut_assign e t, ?_, hassigned.others⟩
    · rw [inTurn_cons, hok]
      rfl
    · rw [Album.info, Album.info, hassigned.read]
      exact info_unchangedBut_assign e _
  · intro f hf
    rw [inTurn_cons, hf]
    rfl
  · intro edits
    have hsucceeded : (edits.filter fun x => (applyTo x.1 x.2 a t s).isOk).map (·.2) =
        accepted edits := by
      unfold accepted
      refine congrArg _ (List.filter_congr fun x _ => Bool.eq_iff_iff.2 ?_)
      refine Iff.trans ?_ (applyTo_ok_iff ht hs)
      rcases applyTo x.1 x.2 a t s with f | p
      · constructor
        · intro h
          cases h
        · rintro ⟨p, hp⟩
          cases hp
      · exact ⟨fun _ => ⟨p, rfl⟩, fun _ => rfl⟩
    obtain ⟨s', hrun, hassigned⟩ := inTurn_eq edits ht hs
    refine ⟨s', ?_⟩
    rw [hsucceeded]
    exact ⟨hrun, hassigned.read, hassigned.others⟩

/-- The fields of one album. -/
def nightOnly : Shelf := ⟨#[.create "Nina" "Night" 1970 (.ofText "/night")]⟩

/-- The album with one track. -/
def nightWithOne : Album :=
  ⟨⟨0⟩, [.create nightOnly ⟨0⟩ 1 "One" (.ofText "/night/1.flac")], []⟩

/-- A year through the album and another one through the track, of which the third is refused. -/
theorem inTurn_assigns_years :
    let t : Track := .create nightOnly ⟨0⟩ 1 "One" (.ofText "/night/1.flac")
    let edits : List (Kind × FieldEdit) :=
      [(.album, ⟨"year", "1971"⟩), (.track, ⟨"title", "Uno"⟩), (.track, ⟨"year", " 1972 "⟩),
        (.album, ⟨"year", "soon"⟩), (.extra, ⟨"title", "Eins"⟩)]
    t ∈ nightWithOne.tracks ∧ t.album = nightWithOne.handle ∧ nightOnly.Holds nightWithOne.handle ∧
    ∃ s', inTurn nightWithOne edits t nightOnly = ({ t with title := "Uno" }, s') ∧
      nightWithOne.info s' = { nightWithOne.info nightOnly with year := 1972 } := by
  intro t edits
  have ht : t.album = nightWithOne.handle := rfl
  have hs : nightOnly.Holds nightWithOne.handle := Nat.one_pos
  obtain ⟨s', hrun, hinfo, -⟩ := (inTurn_assigns ht hs).2.2 edits
  refine ⟨List.mem_singleton_self _, ht, hs, s', hrun.trans (congrArg (·, s') ?_), hinfo.trans ?_⟩ <;>
    decide +kernel

end FieldEdit

end MusicLibrary

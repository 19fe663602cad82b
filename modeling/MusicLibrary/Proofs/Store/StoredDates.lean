import MusicLibrary.Proofs.Store.Kept
import MusicLibrary.Proofs.Store.Reachable

/-!
# Stored dates

A store holds a date as its text. Whatever text a date was read from, it is read again from the text that is
stored for it, and different dates are stored as different texts. So no date is lost between an album and its
row (`Date.format_lossless`).
-/

namespace MusicLibrary

theorem AlbumInfo.dates_info_row (i : AlbumInfo) (n : Int) :
    (i.row n).info.date? = i.date? ∧ (i.row n).info.originalDate? = i.originalDate? :=
  ⟨bind_parse?_map_format i.date?, bind_parse?_map_format i.originalDate?⟩

theorem AlbumRow.dates_row_info {r : AlbumRow} (h : r.Dated) :
    r.info.date?.map Date.format = r.date? ∧ r.info.originalDate?.map Date.format = r.originalDate? :=
  ⟨map_format_bind_parse? h.1, map_format_bind_parse? h.2⟩

namespace Date

theorem format_injective : Function.Injective format := by
  intro d d' h
  have hparse : parse? d.format = parse? d'.format := congrArg parse? h
  simpa using hparse

/-- Dates survive being stored, for every day of the calendar. The text of a date denotes that date, the date
that any text denotes is stored as a text that denotes the same, and no two dates have the same text. So an
album has the dates of its row, and a row of a store that can come about has the dates of its album. -/
theorem format_lossless :
    (∀ d : Date, parse? d.format = some d) ∧
    (∀ text, ((parse? text).map format).bind parse? = parse? text) ∧
    (∀ d d' : Date, d.format = d'.format → d = d') ∧
    (∀ (i : AlbumInfo) (n : Int),
      (i.row n).info.date? = i.date? ∧ (i.row n).info.originalDate? = i.originalDate?) ∧
    ∀ st : Store, st.Reachable → ∀ r ∈ st.albums,
      r.info.date?.map format = r.date? ∧ r.info.originalDate?.map format = r.originalDate? := by
  refine ⟨parse?_format, fun text => bind_parse?_map_format (parse? text),
    fun d d' h => format_injective h, AlbumInfo.dates_info_row, fun st hst r hr => ?_⟩
  exact AlbumRow.dates_row_info (hst.consistent.dated r hr)

/-- A day before year 0, written with blanks and without zeros in front. -/
theorem format_lossless_earlyDay :
    let text := " -45-3- 15"
    let i := { AlbumInfo.create "Nina" "Ides" (-45) (.ofText "/ides") with date? := parse? text }
    let st := (Session.after [.saveAlbum ⟨#[i]⟩ ⟨⟨0⟩, [], []⟩]).working
    ∃ r ∈ st.albums, st.Reachable ∧ (parse? text).isSome = true ∧ r.date? = some "-0045-03-15" ∧
      r.info.date? = parse? text ∧ r.info.date?.map format = r.date? ∧
      ((parse? text).map format).bind parse? = parse? text := by
  intro text i st
  have hreach : st.Reachable := ⟨_, rfl⟩
  have hrows : st.albums = [i.row 1] := by decide +kernel
  have hr : i.row 1 ∈ st.albums := by rw [hrows]; exact .head _
  obtain ⟨-, htext, -, hinfo, hstored⟩ := format_lossless
  exact ⟨_, hr, hreach, by decide +kernel, by decide +kernel, (hinfo i 1).1, (hstored st hreach _ hr).1,
    htext text⟩

end Date

end MusicLibrary

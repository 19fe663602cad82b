import MusicLibrary.Date
import MusicLibrary.Proofs.Text.Plain

/-!
# The texts of dates

A text denotes a date if it spells the date's year, month and day with hyphens in between: the year in at
most four digits or behind a sign, month and day in one or two digits, with blanks in front of each and at
the end (`Date.parse?_eq_some_iff`). What is written for a date is such a spelling, for every day of the
calendar, so it denotes that date (`Date.parse?_format`).
-/

namespace MusicLibrary.Date

open Text

variable {cs ds rest year part : List Char} {limit n : Nat} {y : Int} {d : Date}

/-! ## Spellings -/

/-- A run of digits. -/
def IsNumber (ds : List Char) : Prop := ds ≠ [] ∧ ∀ c ∈ ds, c.isDigit = true

/-- The spellings of a year: without a sign it has at most four digits. -/
inductive SpellsYear : List Char → Int → Prop
  | unsigned {ds : List Char} (hds : IsNumber ds) (hlength : ds.length ≤ 4) : SpellsYear ds (digitsValue ds)
  | minus {ds : List Char} (hds : IsNumber ds) : SpellsYear ('-' :: ds) (-(digitsValue ds : Int))
  | plus {ds : List Char} (hds : IsNumber ds) : SpellsYear ('+' :: ds) (digitsValue ds)

/-- The spellings of a month or a day: one or two digits behind blanks. -/
inductive SpellsPart : List Char → Nat → Prop
  | intro {blanks ds : List Char} (hblanks : ∀ c ∈ blanks, isBlank c = true) (hds : IsNumber ds)
      (hlength : ds.length ≤ 2) : SpellsPart (blanks ++ ds) (digitsValue ds)

/-- The spellings of a date, with blanks around them. -/
inductive Spells : List Char → Date → Prop
  | intro {before year month day after : List Char} {d : Date}
      (hbefore : ∀ c ∈ before, isBlank c = true) (hafter : ∀ c ∈ after, isBlank c = true)
      (hyear : SpellsYear year d.year) (hmonth : SpellsPart month d.month)
      (hday : SpellsPart day d.day) :
      Spells (before ++ (year ++ '-' :: (month ++ '-' :: day)) ++ after) d

/-! ## Reading -/

/-- A run of digits that ends where something else starts is read as a whole. -/
theorem readNumber?_append (hds : IsNumber ds) (hlength : ds.length ≤ limit)
    (hrest : ∀ c ∈ rest.head?, c.isDigit = false) :
    readNumber? limit (ds ++ rest) = some (digitsValue ds, rest) := by
  have hrun : ((ds ++ rest).take limit).takeWhile Char.isDigit = ds := by
    rw [List.take_append, List.take_of_length_le hlength, List.takeWhile_append_of_pos hds.2]
    rcases rest with _ | ⟨c, rest⟩
    · simp
    · cases limit - ds.length <;> simp [hrest c rfl]
  have hempty : ds.isEmpty = false := by simpa using hds.1
  simp [readNumber?, hrun, hempty]

theorem exists_isNumber (h : readNumber? limit cs = some (n, rest)) :
    ∃ ds, cs = ds ++ rest ∧ IsNumber ds ∧ ds.length ≤ limit ∧ digitsValue ds = n := by
  have hrun : (cs.take limit).takeWhile Char.isDigit <+: cs.take limit := List.takeWhile_prefix _
  simp only [readNumber?] at h
  split_ifs at h with hempty
  obtain ⟨rfl, rfl⟩ := Prod.mk.inj (Option.some.inj h)
  refine ⟨_, ?_, ⟨by simpa using hempty, fun c hc => List.mem_takeWhile_imp hc⟩, ?_, rfl⟩
  · exact (List.prefix_iff_eq_append.1 (hrun.trans (List.take_prefix _ _))).symm
  · exact hrun.length_le.trans (List.length_take_le _ _)

theorem exists_isNumber_of_map {f : Nat → Int}
    (h : (readNumber? limit cs).map (fun (n, tail) => (f n, tail)) = some (y, rest)) :
    ∃ ds, cs = ds ++ rest ∧ IsNumber ds ∧ ds.length ≤ limit ∧ f (digitsValue ds) = y := by
  obtain ⟨⟨n, tail⟩, hn, heq⟩ := Option.map_eq_some_iff.1 h
  obtain ⟨rfl, rfl⟩ := Prod.mk.inj heq
  obtain ⟨ds, hcs, hds, hlength, rfl⟩ := exists_isNumber hn
  exact ⟨ds, hcs, hds, hlength, rfl⟩

theorem readYear?_append (h : SpellsYear year y) (hrest : ∀ c ∈ rest.head?, c.isDigit = false) :
    readYear? (year ++ rest) = some (y, rest) := by
  cases h with
  | minus hds =>
    rw [readYear?, List.cons_append, trimLeft_cons (by decide)]
    show (readNumber? _ _).map _ = _
    rw [readNumber?_append hds (by simp) hrest]
    rfl
  | plus hds =>
    rw [readYear?, List.cons_append, trimLeft_cons (by decide)]
    show (readNumber? _ _).map _ = _
    rw [readNumber?_append hds (by simp) hrest]
    rfl
  | unsigned hds hlength =>
    have hread := readNumber?_append hds hlength hrest
    rw [readYear?, trimLeft_append hds.1 hds.2]
    obtain ⟨c, cs, rfl⟩ := List.exists_cons_of_ne_nil hds.1
    have hc : c.isDigit = true := hds.2 c (.head _)
    rw [List.cons_append] at hread ⊢
    split
    · rename_i heq
      cases heq
      cases hc
    · rename_i heq
      cases heq
      cases hc
    · rw [hread]
      rfl

theorem exists_spellsYear (h : readYear? cs = some (y, rest)) : ∃ blanks year,
    cs = blanks ++ (year ++ rest) ∧ (∀ c ∈ blanks, isBlank c = true) ∧ SpellsYear year y := by
  have hcs : cs = cs.takeWhile isBlank ++ trimLeft cs := List.takeWhile_append_dropWhile.symm
  have hblanks : ∀ c ∈ cs.takeWhile isBlank, isBlank c = true := fun c hc => List.mem_takeWhile_imp hc
  suffices hspells : ∃ year, trimLeft cs = year ++ rest ∧ SpellsYear year y by
    obtain ⟨year, htrim, hyear⟩ := hspells
    exact ⟨_, year, htrim ▸ hcs, hblanks, hyear⟩
  unfold readYear? at h
  split at h
  · rename_i tail htrim
    obtain ⟨ds, rfl, hds, -, rfl⟩ := exists_isNumber_of_map (f := fun n => -(n : Int)) h
    exact ⟨'-' :: ds, htrim, .minus hds⟩
  · rename_i tail htrim
    obtain ⟨ds, rfl, hds, -, rfl⟩ := exists_isNumber_of_map (f := fun n => (n : Int)) h
    exact ⟨'+' :: ds, htrim, .plus hds⟩
  · obtain ⟨ds, htrim, hds, hlength, rfl⟩ := exists_isNumber_of_map (f := fun n => (n : Int)) h
    exact ⟨ds, htrim, .unsigned hds hlength⟩

theorem readPart?_append (h : SpellsPart part n) (hrest : ∀ c ∈ rest.head?, c.isDigit = false) :
    readPart? ('-' :: (part ++ rest)) = some (n, rest) := by
  obtain ⟨hblanks, hds, hlength⟩ := h
  rename_i blanks ds
  show readNumber? 2 (trimLeft (blanks ++ ds ++ rest)) = _
  rw [List.append_assoc, trimLeft, List.dropWhile_append_of_pos hblanks]
  show readNumber? 2 (trimLeft (ds ++ rest)) = _
  rw [trimLeft_append hds.1 hds.2, readNumber?_append hds hlength hrest]

theorem exists_spellsPart (h : readPart? cs = some (n, rest)) :
    ∃ part, cs = '-' :: (part ++ rest) ∧ SpellsPart part n := by
  unfold readPart? at h
  split at h
  · rename_i tail
    obtain ⟨ds, htrim, hds, hlength, rfl⟩ := exists_isNumber h
    refine ⟨tail.takeWhile isBlank ++ ds, ?_, .intro (fun c hc => List.mem_takeWhile_imp hc) hds hlength⟩
    rw [List.append_assoc, ← htrim]
    exact congrArg _ List.takeWhile_append_dropWhile.symm
  · cases h

theorem ofNumbers?_eq_some_iff {year : Int} {month day : Nat} :
    ofNumbers? year month day = some d ↔ year = d.year ∧ month = d.month ∧ day = d.day := by
  constructor
  · intro h
    unfold ofNumbers? at h
    split_ifs at h
    obtain rfl := Option.some.inj h
    exact ⟨rfl, rfl, rfl⟩
  · rintro ⟨rfl, rfl, rfl⟩
    exact dif_pos d.onCalendar

theorem ofChars?_eq_some (hyear : SpellsYear year d.year) {month day : List Char}
    (hmonth : SpellsPart month d.month) (hday : SpellsPart day d.day) :
    ofChars? (year ++ '-' :: (month ++ '-' :: day)) = some d := by
  have hread : readPart? ('-' :: day) = some (d.day, []) := by
    rw [← List.append_nil day]
    exact readPart?_append hday nofun
  rw [ofChars?, readYear?_append hyear (by simp)]
  show (readPart? ('-' :: (month ++ '-' :: day))).bind _ = _
  rw [readPart?_append hmonth (by simp)]
  show (readPart? ('-' :: day)).bind _ = _
  rw [hread]
  exact ofNumbers?_eq_some_iff.2 ⟨rfl, rfl, rfl⟩

theorem exists_of_ofChars? (h : ofChars? cs = some d) : ∃ blanks year month day,
    cs = blanks ++ (year ++ '-' :: (month ++ '-' :: day)) ∧ (∀ c ∈ blanks, isBlank c = true) ∧
      SpellsYear year d.year ∧ SpellsPart month d.month ∧ SpellsPart day d.day := by
  obtain ⟨⟨y, cs₁⟩, hy, h₁⟩ := Option.bind_eq_some_iff.1 h
  obtain ⟨⟨m, cs₂⟩, hm, h₂⟩ := Option.bind_eq_some_iff.1 h₁
  obtain ⟨⟨n, cs₃⟩, hn, h₃⟩ := Option.bind_eq_some_iff.1 h₂
  obtain ⟨blanks, year, rfl, hblanks, hyear⟩ := exists_spellsYear hy
  obtain ⟨month, rfl, hmonth⟩ := exists_spellsPart hm
  obtain ⟨day, rfl, hday⟩ := exists_spellsPart hn
  cases cs₃ with
  | cons c cs => cases h₃
  | nil =>
    obtain ⟨rfl, rfl, rfl⟩ := ofNumbers?_eq_some_iff.1 h₃
    exact ⟨blanks, year, month, day, by simp, hblanks, hyear, hmonth, hday⟩

/-- Between the blanks around it, a spelling has none to trim. -/
theorem trim_spelling (hyear : SpellsYear year y) {day : List Char} (hday : SpellsPart day n)
    (between : List Char) : trim (year ++ between ++ day) = year ++ between ++ day := by
  have hleft : ∀ cs, trimLeft (year ++ cs) = year ++ cs := by
    intro cs
    cases hyear with
    | unsigned hds _ => exact trimLeft_append hds.1 hds.2 cs
    | minus hds => exact trimLeft_cons (by decide) _
    | plus hds => exact trimLeft_cons (by decide) _
  rw [trim, List.append_assoc, hleft]
  obtain ⟨-, hds, -⟩ := hday
  simpa using trimRight_append hds.1 hds.2 (year ++ between ++ _)

/-- A text denotes the dates that it spells. -/
theorem parse?_eq_some_iff {text : String} : parse? text = some d ↔ Spells text.toList d := by
  rw [parse?]
  constructor
  · intro h
    obtain ⟨before, after, htext, hbefore, hafter⟩ := exists_eq_append_trim text.toList
    obtain ⟨blanks, year, month, day, htrim, hblanks, hyear, hmonth, hday⟩ := exists_of_ofChars? h
    rw [htext, htrim, ← List.append_assoc before]
    refine .intro (fun c hc => ?_) hafter hyear hmonth hday
    exact (List.mem_append.1 hc).elim (hbefore c) (hblanks c)
  · intro h
    generalize text.toList = cs at h
    obtain ⟨hbefore, hafter, hyear, hmonth, hday⟩ := h
    rename_i before year month day after
    have htrim := trim_spelling hyear hday ('-' :: (month ++ ['-']))
    simp only [List.append_assoc, List.cons_append, List.nil_append] at htrim
    rw [trim_append hbefore hafter, htrim, ofChars?_eq_some hyear hmonth hday]

example : parse? " +02005- 8-30 " = parse? "2005-08-30" ∧ parse? "12345-08-30" = none ∧
    parse? "2005-08-030" = none := by decide +kernel

/-! ## Writing -/

theorem isNumber_padded (width n : Nat) : IsNumber (padded width n) :=
  ⟨padded_ne_nil width n, fun _ => isDigit_of_mem_padded⟩

theorem spellsPart_padded {n : Nat} (hn : n < 100) : SpellsPart (padded 2 n) n := by
  have h := @SpellsPart.intro [] _ nofun (isNumber_padded 2 n) (length_padded_le (by decide) hn)
  rwa [List.nil_append, digitsValue_padded] at h

theorem spellsYear_yearText (year : Int) : SpellsYear (yearText year) year := by
  have hnumber := isNumber_padded 4 year.natAbs
  have hvalue : (digitsValue (padded 4 year.natAbs) : Int) = year.natAbs := by rw [digitsValue_padded]
  rw [yearText]
  split_ifs with hneg hlong
  · have h := SpellsYear.minus hnumber
    rwa [hvalue, show -(year.natAbs : Int) = year by omega] at h
  · have h := SpellsYear.plus hnumber
    rwa [hvalue, show (year.natAbs : Int) = year by omega] at h
  · have hsize : year.natAbs < 10000 := by omega
    have h := SpellsYear.unsigned hnumber (length_padded_le (by decide) hsize)
    rwa [hvalue, show (year.natAbs : Int) = year by omega] at h

theorem daysInMonth_lt (year : Int) (month : Nat) : daysInMonth year month < 100 := by
  unfold daysInMonth
  split_ifs <;> decide

theorem day_lt (d : Date) : d.day < 100 :=
  Nat.lt_of_le_of_lt d.onCalendar.2.2.2 (daysInMonth_lt _ _)

theorem month_lt (d : Date) : d.month < 100 :=
  Nat.lt_of_le_of_lt d.onCalendar.2.1.2 (by decide)

/-- What is written for a date spells it. -/
theorem spells_chars (d : Date) : Spells d.chars d := by
  have h := @Spells.intro [] _ _ _ [] d nofun nofun (spellsYear_yearText d.year)
    (spellsPart_padded d.month_lt) (spellsPart_padded d.day_lt)
  rw [chars, List.append_assoc, List.cons_append]
  rwa [List.append_nil, List.nil_append] at h

theorem trim_chars (d : Date) : trim d.chars = d.chars := by
  have h := trim_spelling (spellsYear_yearText d.year) (spellsPart_padded d.day_lt)
    ('-' :: (padded 2 d.month ++ ['-']))
  simpa [chars] using h

/-- The text of a date denotes that date. -/
@[simp] theorem parse?_format (d : Date) : parse? d.format = some d := by
  rw [parse?_eq_some_iff, format, String.toList_ofList]
  exact d.spells_chars

example : (ofNumbers? (-45) 3 15).map format = some "-0045-03-15" ∧
    (ofNumbers? 45 3 15).map format = some "0045-03-15" ∧
    (ofNumbers? 12345 3 15).map format = some "+12345-03-15" := by decide +kernel

end MusicLibrary.Date

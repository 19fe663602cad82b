import Mathlib.Tactic.SplitIfs
import MusicLibrary.Text.Quoting
import MusicLibrary.Text.Words

/-!
# Words that are written and read

A text that leaves no quote open has no part in how the text after it is read (`words?_append`,
`opensComment_append`). A word in quotes is read back as it was, whatever it holds, and nothing in it opens
a comment (`reads_quote`). So the text of a list of words is read as that list.
-/

namespace MusicLibrary.Text

variable {p q r : Place} {c : Char} {cs ds w v acc rest : List Char} {ws : List (List Char)}

/-! ## Texts one after the other -/

/-- A place outside quotes. -/
def Place.Outside (p : Place) : Prop := p = .gap ∨ p = .word

theorem Place.Outside.next (hp : p.Outside) (c : Char) : p.next c = enter c := by
  rcases hp with rfl | rfl <;> rfl

theorem Place.Outside.kept (hp : p.Outside) (c : Char) :
    p.kept c = if enter c = .word then [c] else [] := by
  rcases hp with rfl | rfl <;> rfl

/-- Where reading a text leads. -/
def Place.after (p : Place) (cs : List Char) : Place := cs.foldl Place.next p

/-- A text whose words can be read ends outside quotes. -/
theorem outside_of_wordsFrom (h : wordsFrom p acc cs = some ws) : (p.after cs).Outside := by
  induction cs generalizing p acc ws with
  | nil =>
    cases p with
    | gap => exact .inl rfl
    | word => exact .inr rfl
    | escape | single | double | doubleEscape => cases h
  | cons c cs ih =>
    rw [wordsFrom] at h
    split_ifs at h with hgap hp
    · rw [← hgap] at h
      exact ih h
    · obtain ⟨us, hus, -⟩ := Option.map_eq_some_iff.1 h
      rw [← hgap] at hus
      exact ih hus
    · exact ih h

theorem wordsFrom_append (h : wordsFrom p acc cs = some ws) :
    wordsFrom p acc (cs ++ ' ' :: ds) = (words? ds).map (ws ++ ·) := by
  induction cs generalizing p acc ws with
  | nil =>
    cases p with
    | gap | word =>
      cases h
      simp [wordsFrom, words?, Place.next, Place.enter]
    | escape | single | double | doubleEscape => cases h
  | cons c cs ih =>
    rw [wordsFrom] at h
    rw [List.cons_append, wordsFrom]
    split_ifs at h ⊢ with hgap hp
    · exact ih h
    · obtain ⟨us, hus, rfl⟩ := Option.map_eq_some_iff.1 h
      rw [ih hus, Option.map_map]
      rfl
    · exact ih h

/-- The words of two texts one after the other are those of the first and then those of the second. -/
theorem words?_append (h : words? cs = some ws) :
    words? (cs ++ ' ' :: ds) = (words? ds).map (ws ++ ·) := wordsFrom_append h

theorem opensComment_append_of_outside (h : (p.after cs).Outside) :
    opensComment p (cs ++ ' ' :: ds) = (opensComment p cs || opensComment .gap ds) := by
  induction cs generalizing p with
  | nil =>
    have hnext : p.next ' ' = .gap := Place.Outside.next h ' '
    simp [opensComment, hnext]
  | cons c cs ih =>
    have h' : ((p.next c).after cs).Outside := h
    rw [List.cons_append, opensComment, opensComment, ih h', Bool.or_assoc]

/-- Of two texts one after the other one opens a comment, if both together do. -/
theorem opensComment_append (h : words? cs = some ws) :
    opensComment .gap (cs ++ ' ' :: ds) = (opensComment .gap cs || opensComment .gap ds) :=
  opensComment_append_of_outside (outside_of_wordsFrom h)

/-! ## Reading within a word -/

/-- Reading `cs` leads from a place to another one and adds `w` to the current word. The word does not end
on the way, and no comment is opened. -/
inductive Reads : Place → List Char → List Char → Place → Prop
  | nil (p : Place) : Reads p [] [] p
  | cons {p q r : Place} {c : Char} {cs w v : List Char} (hnext : p.next c = q) (hkept : p.kept c = v)
      (hgap : q ≠ .gap) (hhash : p = .gap → c ≠ '#') (h : Reads q cs w r) : Reads p (c :: cs) (v ++ w) r

namespace Reads

theorem append (h : Reads p cs w q) (h' : Reads q ds v r) : Reads p (cs ++ ds) (w ++ v) r := by
  induction h with
  | nil p => exact h'
  | cons hnext hkept hgap hhash _ ih =>
    rw [List.append_assoc]
    exact .cons hnext hkept hgap hhash (ih h')

theorem wordsFrom (h : Reads p cs w q) :
    wordsFrom p acc (cs ++ rest) = Text.wordsFrom q (w.reverse ++ acc) rest := by
  induction h generalizing acc with
  | nil p => rfl
  | cons hnext hkept hgap _ _ ih =>
    rw [List.cons_append, Text.wordsFrom, hnext, hkept, if_neg hgap, ih, List.reverse_append,
      List.append_assoc]

theorem opensComment (h : Reads p cs w q) :
    opensComment p (cs ++ rest) = Text.opensComment q rest := by
  induction h with
  | nil p => rfl
  | @cons p _ _ c _ _ _ hnext _ _ hhash _ ih =>
    have hno : (p == .gap && c == '#') = false := by
      by_cases hp : p = .gap
      · simp [hhash hp]
      · simp [hp]
    rw [List.cons_append, Text.opensComment, hnext, ih, hno, Bool.false_or]

end Reads

/-! ## Chunks -/

/-- Characters that need no quotes mean nothing outside them. -/
theorem enter_of_needsNoQuotes (h : needsNoQuotes c = true) : Place.enter c = .word ∧ c ≠ '#' := by
  have hne : ∀ d, needsNoQuotes d = false → c ≠ d := by
    rintro d hd rfl
    simp [hd] at h
  refine ⟨?_, hne '#' (by decide)⟩
  simp [Place.enter, hne ' ' (by decide), hne '\t' (by decide), hne '\n' (by decide),
    hne '\\' (by decide), hne '\'' (by decide), hne '"' (by decide)]

theorem reads_plain (hp : p.Outside) (hne : cs ≠ []) (h : ∀ c ∈ cs, needsNoQuotes c = true) :
    Reads p cs cs .word := by
  induction cs generalizing p with
  | nil => exact absurd rfl hne
  | cons c cs ih =>
    obtain ⟨hc, hcs⟩ := List.forall_mem_cons.1 h
    obtain ⟨hword, hhash⟩ := enter_of_needsNoQuotes hc
    have hrest : Reads .word cs cs .word := by
      cases cs with
      | nil => exact .nil _
      | cons d cs => exact ih (.inr rfl) (List.cons_ne_nil _ _) hcs
    exact .cons ((hp.next c).trans hword) ((hp.kept c).trans (if_pos hword)) (by decide)
      (fun _ => hhash) hrest

/-- A character that does not end the word is read on its own. -/
theorem reads_char (hp : p ≠ .gap) (hnext : p.next c = q) (hkept : p.kept c = w) (hq : q ≠ .gap) :
    Reads p [c] w q := by
  have h : Reads p [c] (w ++ []) q := .cons hnext hkept hq (fun heq => absurd heq hp) (.nil q)
  rwa [List.append_nil] at h

theorem reads_single (h : '\'' ∉ cs) : Reads .single cs cs .single := by
  induction cs with
  | nil => exact .nil _
  | cons c cs ih =>
    have hc : c ≠ '\'' := fun he => h (he ▸ .head _)
    have hnext : Place.next .single c = .single := if_neg hc
    have hkept : Place.kept .single c = [c] := if_neg hc
    exact (reads_char (by decide) hnext hkept (by decide)).append (ih fun hmem => h (.tail _ hmem))

theorem reads_inSingle (h : '\'' ∉ cs) : Reads .single (cs ++ ['\'']) cs .word := by
  have hclose : Reads .single ['\''] [] .word := reads_char (by decide) rfl rfl (by decide)
  have hread := (reads_single h).append hclose
  rwa [List.append_nil] at hread

/-- Within double quotes a character is read as itself, behind a backslash if it needs one. -/
theorem reads_escapedInDouble (c : Char) :
    Reads .double (if escapedInDouble c then ['\\', c] else [c]) [c] .double := by
  by_cases hc : escapedInDouble c = true
  · have hmem : c = '$' ∨ c = '\x60' ∨ c = '"' ∨ c = '\\' := by simpa [escapedInDouble] using hc
    rw [if_pos hc]
    rcases hmem with rfl | rfl | rfl | rfl <;>
      exact .cons rfl rfl (by decide) (by decide) (.cons rfl rfl (by decide) (by decide) (.nil _))
  · have hquote : c ≠ '"' := fun he => hc (he ▸ rfl)
    have hslash : c ≠ '\\' := fun he => hc (he ▸ rfl)
    have hnext : Place.next .double c = .double := by
      simp only [Place.next, if_neg hquote, if_neg hslash]
    rw [if_neg hc]
    exact .cons hnext (if_neg (not_or.2 ⟨hquote, hslash⟩)) (by decide) (fun hp => nomatch hp) (.nil _)

theorem reads_inDouble (cs : List Char) :
    Reads .double (cs.flatMap (fun c => if escapedInDouble c then ['\\', c] else [c]) ++ ['"']) cs
      .word := by
  induction cs with
  | nil => exact .cons rfl rfl (by decide) (by decide) (.nil _)
  | cons c cs ih =>
    rw [List.flatMap_cons, List.append_assoc]
    exact (reads_escapedInDouble c).append ih

/-- Whether a chunk is read back from a style of quoting. -/
def Quotes.Serves : Quotes → List Char → Prop
  | .plain, cs => ∀ c ∈ cs, needsNoQuotes c = true
  | .single, cs => '\'' ∉ cs
  | .double, _ => True

theorem Quotes.Serves.reads {style : Quotes} (h : style.Serves cs) (hne : cs ≠ []) (hp : p.Outside) :
    Reads p (style.write cs) cs .word := by
  cases style with
  | plain => exact reads_plain hp hne h
  | single =>
    exact .cons (hp.next '\'') (hp.kept '\'') (by decide) (fun _ => by decide) (reads_inSingle h)
  | double =>
    exact .cons (hp.next '"') (hp.kept '"') (by decide) (fun _ => by decide) (reads_inDouble cs)

/-! ## Words in quotes -/

/-- The styles that are still held to serve do so for the chunk read so far. -/
def Serving.Fits (s : Serving) (cs : List Char) : Prop :=
  (s.plain = true → Quotes.plain.Serves cs) ∧ (s.single = true → Quotes.single.Serves cs)

theorem Serving.Fits.choice {s : Serving} (h : s.Fits cs) : s.choice.Serves cs := by
  unfold Serving.choice
  split_ifs with h₁ h₂
  · exact h.1 h₁
  · exact h.2 h₂
  · trivial

theorem Serving.Fits.add {s : Serving} (h : s.Fits cs) (c : Char) : (s.add c).Fits (cs ++ [c]) := by
  constructor
  · intro hplain d hd
    obtain ⟨hs, hc⟩ := Bool.and_eq_true_iff.1 hplain
    rcases List.mem_append.1 hd with hd | hd
    · exact h.1 hs d hd
    · rwa [List.mem_singleton.1 hd]
  · intro hsingle hmem
    obtain ⟨hs, hc⟩ := Bool.and_eq_true_iff.1 hsingle
    rcases List.mem_append.1 hmem with hmem | hmem
    · exact h.2 hs hmem
    · rw [← List.mem_singleton.1 hmem] at hc
      exact absurd hc (by decide)

/-- The styles to start a chunk with serve for its first character. -/
theorem fits_start (c : Char) :
    (if c = '^' then Serving.afterCircumflex else Serving.all.add c).Fits [c] := by
  have hall : Serving.all.Fits [] := ⟨fun _ _ hd => absurd hd List.not_mem_nil,
    fun _ => List.not_mem_nil⟩
  split_ifs with hc
  · subst hc
    refine ⟨fun hplain => absurd hplain (by decide), fun _ => ?_⟩
    show '\'' ∉ ['^']
    decide
  · exact hall.add c

theorem reads_quoteFrom {s : Serving} (h : s.Fits acc.reverse) (hne : acc ≠ []) (hp : p.Outside) :
    Reads p (quoteFrom s acc cs) (acc.reverse ++ cs) .word := by
  induction cs generalizing s acc p with
  | nil =>
    rw [quoteFrom, List.append_nil]
    exact h.choice.reads (mt List.reverse_eq_nil_iff.1 hne) hp
  | cons c cs ih =>
    rw [quoteFrom]
    by_cases hnone : (s.add c).none = true
    · rw [if_pos hnone]
      have hchunk := h.choice.reads (mt List.reverse_eq_nil_iff.1 hne) hp
      have hfits : Serving.Fits _ [c].reverse := fits_start c
      exact hchunk.append (ih hfits (List.cons_ne_nil _ _) (.inr rfl))
    · rw [if_neg hnone]
      have hfits : (s.add c).Fits (c :: acc).reverse := by
        rw [List.reverse_cons]
        exact h.add c
      have hlonger := ih hfits (List.cons_ne_nil _ _) hp
      rwa [List.reverse_cons, List.append_assoc] at hlonger

/-- A word in quotes is read as it was. -/
theorem reads_quote (w : List Char) : Reads .gap (quote w) w .word := by
  cases w with
  | nil =>
    exact .cons rfl rfl (by decide) (by decide) (.cons rfl rfl (by decide) (by decide) (.nil _))
  | cons c rest => exact reads_quoteFrom (fits_start c) (List.cons_ne_nil _ _) (.inl rfl)

theorem words?_quote (w : List Char) : words? (quote w) = some [w] := by
  have hread : wordsFrom .gap [] (quote w ++ []) = _ := (reads_quote w).wordsFrom
  simpa [words?, wordsFrom] using hread

theorem opensComment_quote (w : List Char) : opensComment .gap (quote w) = false := by
  have hread : opensComment .gap (quote w ++ []) = _ := (reads_quote w).opensComment
  simpa [opensComment] using hread

/-- The text of a list of words is read as that list. -/
theorem words?_intercalate_quote (ws : List (List Char)) :
    words? ([' '].intercalate (ws.map quote)) = some ws := by
  induction ws with
  | nil => rfl
  | cons w ws ih =>
    cases ws with
    | nil =>
      rw [List.map_singleton, List.intercalate_singleton]
      exact words?_quote w
    | cons v ws =>
      rw [List.map_cons, List.map_cons, List.intercalate_cons_cons, List.append_assoc,
        List.singleton_append, words?_append (words?_quote w), ← List.map_cons, ih]
      rfl

/-- The text of a list of words opens no comment. -/
theorem opensComment_intercalate_quote (ws : List (List Char)) :
    opensComment .gap ([' '].intercalate (ws.map quote)) = false := by
  induction ws with
  | nil => rfl
  | cons w ws ih =>
    cases ws with
    | nil =>
      rw [List.map_singleton, List.intercalate_singleton]
      exact opensComment_quote w
    | cons v ws =>
      rw [List.map_cons, List.map_cons, List.intercalate_cons_cons, List.append_assoc,
        List.singleton_append, opensComment_append (words?_quote w), opensComment_quote,
        ← List.map_cons, ih]
      rfl

end MusicLibrary.Text

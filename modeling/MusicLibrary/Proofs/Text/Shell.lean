import Mathlib.Tactic.SplitIfs
import MusicLibrary.Proofs.Query.Words
import MusicLibrary.Proofs.Text.Words

/-!
# Splitting word by word

A splitter of the usual make: it skips blanks and then reads one word to its end, and within the word each
pair of quotes to its end. It can be told to take a hash mark at the start of a word for the start of a
comment, or for a character like any other. The words of a query are those that this splitter finds, a query
is refused for a comment just if the splitter would start one, and for its quotes just if one is left open or
a backslash ends the text (`words_eq_split`).
-/

namespace MusicLibrary

namespace Text

namespace Shell

variable {c : Char} {cs q w rest acc : List Char} {hash : Bool}

/-! ## Quotes -/

/-- What a character behind a backslash stands for within double quotes. -/
def unescapedInDouble (c : Char) : List Char :=
  if c = '\n' then [] else if escapedInDouble c then [c] else ['\\', c]

/-- Reads up to the closing double quote: what is quoted, and the text after the quote. -/
def readDouble : List Char → Option (List Char × List Char)
  | [] => none
  | c :: cs =>
    if c = '"' then some ([], cs)
    else if c = '\\' then
      match cs with
      | [] => none
      | d :: cs => (readDouble cs).map fun p => (unescapedInDouble d ++ p.1, p.2)
    else (readDouble cs).map fun p => (c :: p.1, p.2)

/-- Texts within double quotes, each with what it stands for. -/
inductive InDouble : List Char → List Char → Prop
  | nil : InDouble [] []
  | plain {c : Char} {q w : List Char} (hquote : c ≠ '"') (hslash : c ≠ '\\') (h : InDouble q w) :
      InDouble (c :: q) (c :: w)
  | escaped {q w : List Char} (c : Char) (h : InDouble q w) :
      InDouble ('\\' :: c :: q) (unescapedInDouble c ++ w)

theorem inDouble_of_readDouble (h : readDouble cs = some (w, rest)) :
    ∃ q, InDouble q w ∧ cs = q ++ '"' :: rest := by
  fun_induction readDouble cs generalizing w rest with
  | case1 | case3 => cases h
  | case2 cs =>
    cases h
    exact ⟨[], .nil, rfl⟩
  | case4 d cs _ ih =>
    obtain ⟨⟨v, r⟩, hv, heq⟩ := Option.map_eq_some_iff.1 h
    cases heq
    obtain ⟨q, hq, rfl⟩ := ih hv
    exact ⟨'\\' :: d :: q, .escaped d hq, rfl⟩
  | case5 c cs hquote hslash ih =>
    obtain ⟨⟨v, r⟩, hv, heq⟩ := Option.map_eq_some_iff.1 h
    cases heq
    obtain ⟨q, hq, rfl⟩ := ih hv
    exact ⟨c :: q, .plain hquote hslash hq, rfl⟩

/-- Texts in which a quote is left open, or which are a backslash alone. -/
inductive Open : List Char → Prop
  | backslash : Open ['\\']
  | single {q : List Char} (h : '\'' ∉ q) : Open ('\'' :: q)
  | double {q w : List Char} (h : InDouble q w) : Open ('"' :: q)
  | doubleBackslash {q w : List Char} (h : InDouble q w) : Open ('"' :: (q ++ ['\\']))

theorem open_of_readDouble (h : readDouble cs = none) : Open ('"' :: cs) := by
  have hrest : ∃ q w, InDouble q w ∧ (cs = q ∨ cs = q ++ ['\\']) := by
    fun_induction readDouble cs with
    | case1 => exact ⟨[], [], .nil, .inl rfl⟩
    | case2 => cases h
    | case3 => exact ⟨[], [], .nil, .inr rfl⟩
    | case4 d cs _ ih =>
      obtain ⟨q, w, hq, hcs⟩ := ih (Option.map_eq_none_iff.1 h)
      refine ⟨'\\' :: d :: q, _, .escaped d hq, ?_⟩
      rcases hcs with rfl | rfl
      · exact .inl rfl
      · exact .inr rfl
    | case5 c cs hquote hslash ih =>
      obtain ⟨q, w, hq, hcs⟩ := ih (Option.map_eq_none_iff.1 h)
      refine ⟨c :: q, _, .plain hquote hslash hq, ?_⟩
      rcases hcs with rfl | rfl
      · exact .inl rfl
      · exact .inr rfl
  obtain ⟨q, w, hq, rfl | rfl⟩ := hrest
  · exact .double hq
  · exact .doubleBackslash hq

/-! ## Words -/

/-- The characters between words. -/
def IsBlank (c : Char) : Prop := c = ' ' ∨ c = '\t' ∨ c = '\n'

instance : DecidablePred IsBlank := fun _ => inferInstanceAs (Decidable (_ ∨ _))

/-- What a character behind a backslash stands for outside quotes. -/
def unescaped (c : Char) : List Char := if c = '\n' then [] else [c]

/-- The pieces of words, each with what it stands for. -/
inductive Piece : List Char → List Char → Prop
  | plain {c : Char} (hblank : ¬IsBlank c) (hsingle : c ≠ '\'') (hdouble : c ≠ '"') (hslash : c ≠ '\\') :
      Piece [c] [c]
  | escaped (c : Char) : Piece ['\\', c] (unescaped c)
  | single {q : List Char} (h : '\'' ∉ q) : Piece ('\'' :: (q ++ ['\''])) q
  | double {q w : List Char} (h : InDouble q w) : Piece ('"' :: (q ++ ['"'])) w

/-- Reads a piece of a word from its first character on: what it stands for, and the text after it. -/
def readPiece (c : Char) (cs : List Char) : Option (List Char × List Char) :=
  if c = '\'' then cut? '\'' cs
  else if c = '"' then readDouble cs
  else if c = '\\' then
    match cs with
    | [] => none
    | d :: cs => some (unescaped d, cs)
  else some ([c], cs)

theorem piece_of_readPiece (hblank : ¬IsBlank c) (h : readPiece c cs = some (w, rest)) :
    ∃ q, Piece q w ∧ c :: cs = q ++ rest := by
  unfold readPiece at h
  split_ifs at h with hsingle hdouble hslash
  · obtain ⟨rfl, hw⟩ := cut?_eq_some h
    exact ⟨_, .single hw, by simp [hsingle]⟩
  · obtain ⟨q, hq, rfl⟩ := inDouble_of_readDouble h
    exact ⟨_, .double hq, by simp [hdouble]⟩
  · cases cs with
    | nil => cases h
    | cons d cs =>
      cases h
      exact ⟨_, .escaped d, by simp [hslash]⟩
  · cases h
    exact ⟨_, .plain hblank hsingle hdouble hslash, rfl⟩

theorem open_of_readPiece (h : readPiece c cs = none) : Open (c :: cs) := by
  unfold readPiece at h
  split_ifs at h with hsingle hdouble hslash
  · exact hsingle ▸ .single (cut?_eq_none.1 h)
  · exact hdouble ▸ open_of_readDouble h
  · cases cs with
    | nil => exact hslash ▸ .backslash
    | cons d cs => cases h

theorem length_of_readPiece (h : readPiece c cs = some (w, rest)) : rest.length < (c :: cs).length := by
  by_cases hblank : IsBlank c
  · rcases hblank with rfl | rfl | rfl <;>
    · cases h
      exact Nat.lt_succ_self _
  · obtain ⟨q, hq, heq⟩ := piece_of_readPiece hblank h
    have hne : 0 < q.length := by cases hq <;> simp
    rw [heq, List.length_append]
    omega

/-- Reads to the end of a word: what is left of the word, and the text after the blank that ends it. -/
def readWord : List Char → Option (List Char × List Char)
  | [] => some ([], [])
  | c :: cs =>
    if IsBlank c then some ([], cs)
    else
      match _h : readPiece c cs with
      | none => none
      | some (v, rest) => (readWord rest).map fun p => (v ++ p.1, p.2)
termination_by cs => cs.length
decreasing_by exact length_of_readPiece _h

/-- Texts that start with what is left of a word, each with what that stands for and with the text after the
blank that ends the word. -/
inductive Begins : List Char → List Char → List Char → Prop
  | done : Begins [] [] []
  | blank {b : Char} {rest : List Char} (hb : IsBlank b) : Begins (b :: rest) [] rest
  | piece {q v cs w rest : List Char} (hq : Piece q v) (h : Begins cs w rest) :
      Begins (q ++ cs) (v ++ w) rest

/-- Texts that start with what is left of a word in which a quote is left open or a backslash ends the
text. -/
inductive Stuck : List Char → Prop
  | here {cs : List Char} (h : Open cs) : Stuck cs
  | piece {q v cs : List Char} (hq : Piece q v) (h : Stuck cs) : Stuck (q ++ cs)

theorem begins_of_readWord (h : readWord cs = some (w, rest)) : Begins cs w rest := by
  fun_induction readWord cs generalizing w rest with
  | case1 =>
    cases h
    exact .done
  | case2 c cs hblank =>
    cases h
    exact .blank hblank
  | case3 => cases h
  | case4 c cs hblank v ds hread ih =>
    obtain ⟨⟨u, r⟩, hu, heq⟩ := Option.map_eq_some_iff.1 h
    cases heq
    obtain ⟨q, hq, heq⟩ := piece_of_readPiece hblank hread
    rw [heq]
    exact .piece hq (ih hu)

theorem stuck_of_readWord (h : readWord cs = none) : Stuck cs := by
  fun_induction readWord cs with
  | case1 | case2 => cases h
  | case3 c cs hblank hread => exact .here (open_of_readPiece hread)
  | case4 c cs hblank v ds hread ih =>
    obtain ⟨q, hq, heq⟩ := piece_of_readPiece hblank hread
    rw [heq]
    exact .piece hq (ih (Option.map_eq_none_iff.1 h))

theorem length_of_readWord (hblank : ¬IsBlank c) (h : readWord (c :: cs) = some (w, rest)) :
    rest.length < (c :: cs).length := by
  have hle : ∀ {ds v r}, Begins ds v r → r.length ≤ ds.length := by
    intro ds v r h
    induction h with
    | done => exact Nat.le_refl _
    | blank => exact Nat.le_succ _
    | piece hq h ih => exact Nat.le_trans ih (by simp)
  rw [readWord, if_neg hblank] at h
  split at h
  · cases h
  · rename_i v ds hread
    obtain ⟨⟨u, r⟩, hu, heq⟩ := Option.map_eq_some_iff.1 h
    cases heq
    exact Nat.lt_of_le_of_lt (hle (begins_of_readWord hu)) (length_of_readPiece hread)

/-! ## Texts -/

/-- What a splitter makes of a text: its words, if they can be read, and whether a comment was started. -/
structure Split where
  words? : Option (List (List Char))
  comment : Bool
deriving DecidableEq, Repr

/-- Reads words up to the end of the text or to a word that cannot be read. With `hash` a hash mark at the
start of a word drops the rest of the line. -/
def split (hash : Bool) : List Char → Split
  | [] => ⟨some [], false⟩
  | c :: cs =>
    if IsBlank c then split hash cs
    else if hash ∧ c = '#' then ⟨(split hash (cs.dropWhile (· ≠ '\n'))).words?, true⟩
    else
      match _h : readWord (c :: cs) with
      | none => ⟨none, false⟩
      | some (w, rest) => ⟨(split hash rest).words?.map (w :: ·), (split hash rest).comment⟩
termination_by cs => cs.length
decreasing_by
  · exact Nat.lt_succ_self _
  · exact Nat.lt_succ_of_le (List.dropWhile_sublist _).length_le
  all_goals exact length_of_readWord (by assumption) _h

/-- Texts in which a quote is left open or which end in a backslash that has nothing to escape: what is left
open stands after blanks and pieces of words. -/
inductive LeftOpen : List Char → Prop
  | here {cs : List Char} (h : Open cs) : LeftOpen cs
  | blank {b : Char} {cs : List Char} (hb : IsBlank b) (h : LeftOpen cs) : LeftOpen (b :: cs)
  | piece {q v cs : List Char} (hq : Piece q v) (h : LeftOpen cs) : LeftOpen (q ++ cs)

/-! ## Character by character -/

theorem isBlank_iff : IsBlank c ↔ Place.enter c = .gap := by
  unfold IsBlank Place.enter
  split_ifs <;> simp_all

theorem InDouble.reads (h : InDouble q w) : Reads .double q w .double := by
  induction h with
  | nil => exact .nil _
  | @plain c q w hquote hslash _ ih =>
    have hnext : Place.next .double c = .double := by
      simp only [Place.next, if_neg hquote, if_neg hslash]
    have hkept : Place.kept .double c = [c] := if_neg (not_or.2 ⟨hquote, hslash⟩)
    exact (reads_char (by decide) hnext hkept (by decide)).append ih
  | @escaped q w c _ ih =>
    have hslash : Reads .double ['\\'] [] .doubleEscape := reads_char (by decide) rfl rfl (by decide)
    have hkept : Place.kept .doubleEscape c = unescapedInDouble c := by
      simp [Place.kept, unescapedInDouble, escapedInDouble]
    have hback : Place.next .doubleEscape c = .double := rfl
    exact hslash.append ((reads_char (by decide) hback hkept (by decide)).append ih)

/-- The characters that open a quote or escape another one, with the place to which they lead. -/
theorem reads_opening : Reads .word ['\''] [] .single ∧ Reads .word ['"'] [] .double ∧
    Reads .word ['\\'] [] .escape :=
  ⟨reads_char (by decide) rfl rfl (by decide), reads_char (by decide) rfl rfl (by decide),
    reads_char (by decide) rfl rfl (by decide)⟩

theorem Piece.reads (h : Piece q w) : Reads .word q w .word := by
  cases h with
  | @plain c hblank hsingle hdouble hslash =>
    have hword : Place.enter c = .word := by
      unfold Place.enter
      rw [if_neg (show ¬(c = ' ' ∨ _) from hblank), if_neg hslash, if_neg hsingle, if_neg hdouble]
    exact reads_char (by decide) hword (if_pos hword) (by decide)
  | escaped c => exact reads_opening.2.2.append (reads_char (by decide) rfl rfl (by decide))
  | single h => exact reads_opening.1.append (reads_inSingle h)
  | double h =>
    have hclose : Reads .double ['"'] [] .word := reads_char (by decide) rfl rfl (by decide)
    have hread := reads_opening.2.1.append (h.reads.append hclose)
    rwa [List.append_nil] at hread

theorem Open.reads (h : Open cs) : ∃ w p, Reads .word cs w p ∧ ¬p.Outside := by
  cases h with
  | backslash => exact ⟨_, _, reads_opening.2.2, by simp [Place.Outside]⟩
  | single h => exact ⟨_, _, reads_opening.1.append (reads_single h), by simp [Place.Outside]⟩
  | double h => exact ⟨_, _, reads_opening.2.1.append h.reads, by simp [Place.Outside]⟩
  | doubleBackslash h =>
    have hlast : Reads .double ['\\'] [] .doubleEscape := reads_char (by decide) rfl rfl (by decide)
    exact ⟨_, _, reads_opening.2.1.append (h.reads.append hlast), by simp [Place.Outside]⟩

theorem Stuck.reads (h : Stuck cs) : ∃ w p, Reads .word cs w p ∧ ¬p.Outside := by
  induction h with
  | here h => exact h.reads
  | piece hq _ ih =>
    obtain ⟨w, p, hread, hp⟩ := ih
    exact ⟨_, p, hq.reads.append hread, hp⟩

/-- A text that ends within quotes or behind a backslash has no words. -/
theorem wordsFrom_of_not_outside {p : Place} (hp : ¬(p.after cs).Outside) : wordsFrom p acc cs = none := by
  rcases h : wordsFrom p acc cs with _ | ws
  · rfl
  · exact absurd (outside_of_wordsFrom h) hp

theorem Reads.after {p r : Place} (h : Reads p cs w r) : p.after cs = r := by
  induction h with
  | nil p => rfl
  | cons hnext _ _ _ _ ih =>
    rw [← ih, ← hnext]
    rfl

theorem Stuck.wordsFrom (h : Stuck cs) : wordsFrom .word acc cs = none := by
  obtain ⟨w, p, hread, hp⟩ := h.reads
  rw [← Reads.after hread] at hp
  exact wordsFrom_of_not_outside hp

theorem Stuck.opensComment (h : Stuck cs) : opensComment .word cs = false := by
  obtain ⟨w, p, hread, -⟩ := h.reads
  rw [← List.append_nil cs, hread.opensComment, Text.opensComment]

theorem Begins.wordsFrom (h : Begins cs w rest) :
    wordsFrom .word acc cs = (Text.words? rest).map ((acc.reverse ++ w) :: ·) := by
  induction h generalizing acc with
  | done => simp [Text.wordsFrom, Text.words?]
  | blank hb =>
    have hnext : Place.next .word _ = .gap := isBlank_iff.1 hb
    simp [Text.wordsFrom, Text.words?, hnext]
  | piece hq _ ih => simp [hq.reads.wordsFrom, ih]

theorem Begins.opensComment (h : Begins cs w rest) :
    opensComment .word cs = Text.opensComment .gap rest := by
  induction h with
  | done => rfl
  | blank hb =>
    have hnext : Place.next .word _ = .gap := isBlank_iff.1 hb
    simp [Text.opensComment, hnext]
  | piece hq _ ih => rw [hq.reads.opensComment, ih]

/-- A word starts with any character that is no blank. -/
theorem wordsFrom_gap (hblank : ¬IsBlank c) :
    wordsFrom .gap [] (c :: cs) = wordsFrom .word [] (c :: cs) := by
  have hnext : Place.enter c ≠ .gap := mt isBlank_iff.2 hblank
  simp [wordsFrom, Place.next, hnext, Place.kept]

theorem opensComment_gap (hhash : c ≠ '#') :
    opensComment .gap (c :: cs) = opensComment .word (c :: cs) := by
  rw [Text.opensComment, Text.opensComment, beq_false_of_ne hhash, Bool.and_false, Bool.and_false]
  rfl

/-- The splitter starts a comment if one is found character by character. -/
theorem comment_split (hash : Bool) (cs : List Char) :
    (split hash cs).comment = (hash && opensComment .gap cs) := by
  fun_induction split hash cs with
  | case1 => simp [Text.opensComment]
  | case2 c cs hblank ih =>
    have hnext : Place.next .gap c = .gap := isBlank_iff.1 hblank
    have hhash : c ≠ '#' := by
      rintro rfl
      exact absurd hnext (by decide)
    rw [ih, Text.opensComment, hnext, beq_false_of_ne hhash, Bool.and_false, Bool.false_or]
  | case3 c cs _ hhash => simp [Text.opensComment, hhash]
  | case4 c cs hblank hhash hread =>
    cases hash with
    | false => rfl
    | true =>
      rw [opensComment_gap (by simpa using hhash), (stuck_of_readWord hread).opensComment]
      rfl
  | case5 c cs hblank hhash w rest hread ih =>
    cases hash with
    | false => exact ih
    | true => rwa [opensComment_gap (by simpa using hhash), (begins_of_readWord hread).opensComment]

/-- Where the splitter starts no comment, it finds the words that are read character by character. -/
theorem split_of_comment (h : (split hash cs).comment = false) : split hash cs = ⟨words? cs, false⟩ := by
  fun_induction split hash cs with
  | case1 => rfl
  | case2 c cs hblank ih =>
    have hnext : Place.next .gap c = .gap := isBlank_iff.1 hblank
    rw [ih h, words?, words?, Text.wordsFrom, if_pos hnext, if_pos rfl]
  | case3 => cases h
  | case4 c cs hblank _ hread => rw [words?, wordsFrom_gap hblank, (stuck_of_readWord hread).wordsFrom]
  | case5 c cs hblank _ w rest hread ih =>
    rw [ih h, words?, words?, wordsFrom_gap hblank, (begins_of_readWord hread).wordsFrom]
    rfl

theorem split_false (cs : List Char) : split false cs = ⟨words? cs, false⟩ :=
  split_of_comment (comment_split false cs)

/-! ## What is left open -/

theorem Stuck.leftOpen (h : Stuck cs) : LeftOpen cs := by
  induction h with
  | here h => exact .here h
  | piece hq _ ih => exact .piece hq ih

theorem Begins.leftOpen (h : Begins cs w rest) (hrest : LeftOpen rest) : LeftOpen cs := by
  induction h with
  | done => exact hrest
  | blank hb => exact .blank hb hrest
  | piece hq _ ih => exact .piece hq (ih hrest)

theorem leftOpen_of_split (h : (split hash cs).words? = none) (hno : (split hash cs).comment = false) :
    LeftOpen cs := by
  fun_induction split hash cs with
  | case1 => cases h
  | case2 c cs hblank ih => exact .blank hblank (ih h hno)
  | case3 => cases hno
  | case4 c cs _ _ hread => exact (stuck_of_readWord hread).leftOpen
  | case5 c cs _ _ w rest hread ih =>
    exact (begins_of_readWord hread).leftOpen (ih (Option.map_eq_none_iff.1 h) hno)

theorem Place.Outside.after_eq {p : Place} (hp : p.Outside) (hne : cs ≠ []) :
    p.after cs = Place.word.after cs := by
  cases cs with
  | nil => exact absurd rfl hne
  | cons c cs => rcases hp with rfl | rfl <;> rfl

theorem LeftOpen.not_outside (h : LeftOpen cs) {p : Place} (hp : p.Outside) : ¬(p.after cs).Outside := by
  induction h generalizing p with
  | @here cs h =>
    obtain ⟨w, r, hread, hr⟩ := h.reads
    have hne : cs ≠ [] := by cases h <;> exact List.cons_ne_nil _ _
    rwa [Place.Outside.after_eq hp hne, Reads.after hread]
  | @blank b cs hb _ ih =>
    have hafter : p.after (b :: cs) = Place.gap.after cs := by
      show (p.next b).after cs = _
      rw [hp.next, isBlank_iff.1 hb]
    rw [hafter]
    exact ih (.inl rfl)
  | @piece q v cs hq _ ih =>
    have hne : q ≠ [] := by cases hq <;> exact List.cons_ne_nil _ _
    have hafter : p.after (q ++ cs) = Place.word.after cs := by
      rw [Place.after, List.foldl_append]
      show (p.after q).after cs = _
      rw [Place.Outside.after_eq hp hne, Reads.after hq.reads]
    rw [hafter]
    exact ih (.inr rfl)

/-- A text has no words just if something is left open in it. -/
theorem words?_eq_none_iff : words? cs = none ↔ LeftOpen cs := by
  constructor
  · intro h
    have hsplit := split_false cs
    exact leftOpen_of_split ((congrArg Split.words? hsplit).trans h) (congrArg Split.comment hsplit)
  · exact fun h => wordsFrom_of_not_outside (h.not_outside (.inl rfl))

end Shell

end Text

namespace Query

open Text.Shell

/-- Why the words of a query are refused. -/
theorem words_eq_error_iff {text : String} {fault : QueryFault} : words text = .error fault ↔
    if Text.opensComment .gap text.toList then fault = .comment text
    else Text.words? text.toList = none ∧ fault = .unbalanced text ∨
      Text.words? text.toList = some [] ∧ fault = .empty := by
  unfold words
  by_cases hcomment : Text.opensComment .gap text.toList = true
  · simp [hcomment, eq_comm]
  · rcases hws : Text.words? text.toList with _ | _ | ⟨w, ws⟩ <;> simp [hcomment, hws, eq_comm]

/-- The words of a query are those that a splitter finds for which a hash mark is a character like any other:
the query is refused for a comment just if the splitter would start one, for its quotes just if one is left
open or a backslash ends the text, and as empty just if there are no words. -/
theorem words_eq_split (text : String) :
    let plain := split false text.toList
    let comments := split true text.toList
    plain.comment = false ∧ (comments.comment = true ∨ comments = plain) ∧
      (words text = .error (.comment text) ↔ comments.comment = true) ∧
      (words text = .error (.unbalanced text) ↔ comments.comment = false ∧ plain.words? = none) ∧
      (plain.words? = none ↔ LeftOpen text.toList) ∧
      (words text = .error .empty ↔ comments.comment = false ∧ plain.words? = some []) ∧
      ∀ us, words text = .ok us ↔
        comments.comment = false ∧ us ≠ [] ∧ plain.words? = some (us.map String.toList) := by
  intro plain comments
  have hplain : plain = ⟨Text.words? text.toList, false⟩ := split_false _
  have hcomment : comments.comment = Text.opensComment .gap text.toList := comment_split true _
  have hsame : comments.comment = true ∨ comments = plain := by
    rcases h : comments.comment with _ | _
    · exact .inr ((split_of_comment h).trans hplain.symm)
    · exact .inl rfl
  refine ⟨congrArg Split.comment hplain, hsame, ?_, ?_, ?_, ?_, fun us => ?_⟩
  · rw [words_eq_error_iff, hcomment]
    split_ifs with h <;> simp [h]
  · rw [words_eq_error_iff, hcomment, hplain]
    split_ifs with h <;> simp [h]
  · rw [hplain]
    exact words?_eq_none_iff
  · rw [words_eq_error_iff, hcomment, hplain]
    split_ifs with h <;> simp [h]
  · rw [words_eq_ok_iff, hcomment, hplain]
    refine and_congr_right fun _ => ?_
    constructor
    · rintro ⟨ws, hws, hne, rfl⟩
      exact ⟨by simpa using hne, by simpa [List.map_map] using hws⟩
    · rintro ⟨hne, hws⟩
      exact ⟨_, hws, by simpa using hne, by simp [List.map_map]⟩

/-- A hash mark within a word or behind an escaped line break starts no comment. -/
example : words "a#b \\\n#c '#d'" = .ok ["a#b", "#c", "#d"] := by decide +kernel

end Query

end MusicLibrary

import Mathlib.Data.List.TakeWhile
import MusicLibrary.Proofs.Query.Words
import MusicLibrary.Query.Basic

/-!
# The language of queries

A term is written as blanks, the name of a field, a separator and a value, and a word can be taken apart so
in at most one way (`Spelling.text_injective`). A text is a query if each of its words is such a term, with a
known field and a value that can be compared with; it then has one predicate for each word, and otherwise it
is refused for its first word that is none, and finds nothing (`parse_language`).
-/

namespace MusicLibrary

variable {c : Char} {cs ds v : List Char} {u : String} {kind : Kind} {t : Term} {fault : QueryFault}

/-! ## Terms -/

/-- The parts of a term as it is written. -/
@[ext]
structure Spelling where
  blanks : List Char
  field : List Char
  separator : Separator
  value : List Char
  blanks_blank : ∀ c ∈ blanks, Text.isBlank c = true
  field_ne_nil : field ≠ []
  field_plain : ∀ c ∈ field, Text.isBlank c = false ∧ c ≠ ':'
  /-- The value starts with a character that is no blank, nor a colon after a single colon. -/
  value_starts : ∃ c rest, value = c :: rest ∧ Text.isBlank c = false ∧ (separator = .like → c ≠ ':')

namespace Spelling

variable {s s' : Spelling}

/-- The text of the parts one after the other. -/
def text (s : Spelling) : List Char := s.blanks ++ s.field ++ s.separator.text.toList ++ s.value

/-- The term that is read from it. -/
def term (s : Spelling) : Term := ⟨lowerCase (.ofList s.field), s.separator, .ofList s.value⟩

/-- What stands after the first colon. -/
def rest (s : Spelling) : List Char :=
  match s.separator with
  | .like => s.value
  | .regex => ':' :: s.value

theorem text_eq (s : Spelling) : s.text = s.blanks ++ (s.field ++ ':' :: s.rest) := by
  obtain ⟨blanks, field, separator, value⟩ := s
  cases separator <;> simp [text, rest, Separator.text]

theorem field_cons (s : Spelling) : ∃ c cs, s.field = c :: cs ∧ Text.isBlank c = false := by
  obtain ⟨c, cs, hfield⟩ := List.exists_cons_of_ne_nil s.field_ne_nil
  exact ⟨c, cs, hfield, (s.field_plain c (hfield ▸ .head _)).1⟩

theorem takeWhile_text (s : Spelling) : s.text.takeWhile Text.isBlank = s.blanks := by
  obtain ⟨c, cs, hfield, hc⟩ := s.field_cons
  rw [text_eq, List.takeWhile_append_of_pos s.blanks_blank, hfield]
  simp [hc]

theorem trimLeft_text (s : Spelling) : Text.trimLeft s.text = s.field ++ ':' :: s.rest := by
  obtain ⟨c, cs, hfield, hc⟩ := s.field_cons
  rw [text_eq, Text.trimLeft, List.dropWhile_append_of_pos s.blanks_blank, hfield]
  simp [hc]

theorem cut?_text (s : Spelling) : Text.cut? ':' (Text.trimLeft s.text) = some (s.field, s.rest) := by
  rw [trimLeft_text, Text.cut?_append fun hmem => (s.field_plain ':' hmem).2 rfl]

theorem splitValue_rest (s : Spelling) : Term.splitValue s.rest = (s.separator, s.value) := by
  unfold rest
  cases hsep : s.separator with
  | regex => rfl
  | like =>
    obtain ⟨c, cs, hvalue, -, hcolon⟩ := s.value_starts
    rw [hvalue]
    unfold Term.splitValue
    split
    · rename_i heq
      exact absurd (List.cons.inj heq).1 (hcolon hsep)
    · rfl

/-- A word can be taken apart in at most one way. -/
theorem text_injective : Function.Injective text := by
  intro s s' h
  have hcut : (s.field, s.rest) = (s'.field, s'.rest) := by
    rw [← Option.some_inj, ← cut?_text, ← cut?_text, h]
  obtain ⟨hfield, hrest⟩ := Prod.mk.inj hcut
  have hsplit : (s.separator, s.value) = (s'.separator, s'.value) := by
    rw [← splitValue_rest, ← splitValue_rest, hrest]
  obtain ⟨hsep, hvalue⟩ := Prod.mk.inj hsplit
  have hblanks : s.blanks = s'.blanks := by rw [← takeWhile_text, ← takeWhile_text, h]
  exact Spelling.ext hblanks hfield hsep hvalue

/-- A term is read as it is written. -/
theorem parse_text (h : s.text = u.toList) : Term.parse u = .ok s.term := by
  have hany : s.field.any Text.isBlank = false := by
    simpa using fun c hc => (s.field_plain c hc).1
  obtain ⟨c, cs, hvalue, hc, -⟩ := s.value_starts
  rw [Term.parse, ← h, cut?_text]
  simp [splitValue_rest, hany, s.field_ne_nil, hvalue, hc, term]

end Spelling

/-- What is read as a term can be taken apart. -/
theorem spelling_of_parse (h : Term.parse u = .ok t) : ∃ s : Spelling, s.text = u.toList ∧ s.term = t := by
  rw [Term.parse] at h
  rcases hcut : Text.cut? ':' (Text.trimLeft u.toList) with _ | ⟨field, rest⟩
  · rw [hcut] at h
    cases h
  obtain ⟨htrim, hcolon⟩ := Text.cut?_eq_some hcut
  simp only [hcut] at h
  rcases hsplit : Term.splitValue rest with ⟨separator, value⟩
  simp only [hsplit] at h
  split_ifs at h with hbad hvalue
  have hfield : field ≠ [] ∧ ∀ c ∈ field, Text.isBlank c = false := by simpa using hbad
  obtain ⟨c, cs, rfl, hc⟩ : ∃ c cs, value = c :: cs ∧ Text.isBlank c = false := by
    cases value with
    | nil => cases hvalue
    | cons c cs => exact ⟨c, cs, rfl, by simpa using hvalue⟩
  have hrest : rest = separator.text.toList.tail ++ c :: cs ∧ (separator = .like → c ≠ ':') := by
    unfold Term.splitValue at hsplit
    split at hsplit
    · obtain ⟨rfl, rfl⟩ := Prod.mk.inj hsplit
      exact ⟨by simp [Separator.text], nofun⟩
    · rename_i hno
      obtain ⟨rfl, rfl⟩ := Prod.mk.inj hsplit
      exact ⟨by simp [Separator.text], fun _ heq => hno cs (heq ▸ rfl)⟩
  let s : Spelling := ⟨u.toList.takeWhile Text.isBlank, field, separator, c :: cs,
    fun d hd => List.mem_takeWhile_imp hd, hfield.1,
    fun d hd => ⟨hfield.2 d hd, fun heq => hcolon (heq ▸ hd)⟩, ⟨c, cs, rfl, hc, hrest.2⟩⟩
  have hs : s.rest = rest := by
    rw [hrest.1]
    cases separator <;> simp [s, Spelling.rest, Separator.text]
  refine ⟨s, ?_, (Except.ok.inj h)⟩
  rw [s.text_eq, hs, ← htrim]
  exact List.takeWhile_append_dropWhile

theorem Term.parse_eq_error_iff :
    Term.parse u = .error fault ↔ fault = .malformed u ∧ ∀ s : Spelling, s.text ≠ u.toList := by
  have hmalformed : ∀ {e}, Term.parse u = .error e → e = .malformed u := by
    intro e h
    rw [Term.parse] at h
    rcases hcut : Text.cut? ':' (Text.trimLeft u.toList) with _ | ⟨field, rest⟩
    · rw [hcut] at h
      exact (Except.error.inj h).symm
    · simp only [hcut] at h
      split_ifs at h <;> exact (Except.error.inj h).symm
  constructor
  · intro h
    refine ⟨hmalformed h, fun s hs => ?_⟩
    cases h.symm.trans (s.parse_text hs)
  · rintro ⟨rfl, hno⟩
    rcases h : Term.parse u with e | t
    · rw [hmalformed h]
    · obtain ⟨s, hs, -⟩ := spelling_of_parse h
      exact absurd hs (hno s)

/-! ## Escapes -/

/-- The number of escapes at the end of a value. -/
def trailingEscapes (v : List Char) : Nat := (v.reverse.takeWhile (· = '/')).length

theorem trailingEscapes_of_forall (h : ∀ c ∈ cs, c = '/') : trailingEscapes cs = cs.length := by
  rw [trailingEscapes, List.takeWhile_eq_self_iff.2 (by simpa using h), List.length_reverse]

/-- What stands before another character does not count. -/
theorem trailingEscapes_cons (h : c ≠ '/' ∨ ∃ d ∈ cs, d ≠ '/') :
    trailingEscapes (c :: cs) = trailingEscapes cs := by
  rw [trailingEscapes, trailingEscapes, List.reverse_cons, List.takeWhile_append]
  split_ifs with hlength
  · have hself := (List.takeWhile_sublist _).eq_of_length hlength
    have hall : ∀ d ∈ cs, d = '/' := by simpa using List.takeWhile_eq_self_iff.1 hself
    rcases h with hc | ⟨d, hd, hne⟩
    · simp [hself, hc]
    · exact absurd (hall d hd) hne
  · rfl

/-- A value ends in an escape that has nothing to act on just if it ends in an odd number of escapes. -/
theorem danglingEscape_iff : Text.danglingEscape v = true ↔ trailingEscapes v % 2 = 1 := by
  fun_induction Text.danglingEscape v with
  | case1 | case2 => decide
  | case3 d rest ih =>
    rw [ih]
    by_cases hother : d ≠ '/' ∨ ∃ e ∈ rest, e ≠ '/'
    · have hother' : ∃ e ∈ d :: rest, e ≠ '/' := by simpa using hother
      rw [trailingEscapes_cons (.inr hother'), trailingEscapes_cons hother]
    · have hall : d = '/' ∧ ∀ e ∈ rest, e = '/' := by simpa using hother
      rw [trailingEscapes_of_forall hall.2, trailingEscapes_of_forall (by simpa using hall)]
      simp only [List.length_cons]
      omega
  | case4 c rest h₁ h₂ ih =>
    have hc : c ≠ '/' := by
      rintro rfl
      cases rest with
      | nil => exact h₁ rfl rfl
      | cons d rest => exact h₂ d rest rfl rfl
    rw [ih, trailingEscapes_cons (.inl hc)]

/-! ## Words -/

/-- The names of the fields of a kind differ. -/
theorem Field.find?_of_mem_table {f : Field} (hf : f ∈ Field.table kind) :
    Field.find? kind f.name = some f := by
  revert f
  cases kind <;> decide

theorem Field.find?_eq_some_iff {name : String} {f : Field} :
    Field.find? kind name = some f ↔ f ∈ Field.table kind ∧ f.name = name := by
  constructor
  · intro h
    exact ⟨List.mem_of_find?_eq_some h, by simpa using List.find?_some h⟩
  · rintro ⟨hf, rfl⟩
    exact find?_of_mem_table hf

theorem Field.find?_eq_none_iff {name : String} :
    Field.find? kind name = none ↔ ∀ f ∈ Field.table kind, f.name ≠ name := by
  simp [Field.find?]

/-- A spelling names a field of a kind, with letters in either case. -/
def Spelling.Names (s : Spelling) (kind : Kind) (f : Field) : Prop :=
  f ∈ Field.table kind ∧ f.name = lowerCase (.ofList s.field)

/-- The value of a spelling can be compared with: as a pattern it ends in no odd number of escapes, as a
regular expression it is one. -/
inductive Spelling.Compares (s : Spelling) : Comparison → Prop
  | like (hsep : s.separator = .like) (heven : trailingEscapes s.value % 2 = 0) :
      Compares s (.like (.ofList s.value))
  | regex {r : Pattern.Regex} (hsep : s.separator = .regex)
      (hparse : Pattern.Regex.parse? (.ofList s.value) = some r) :
      Compares s (.regex (.ofList s.value) r)

/-- A word of the language of a kind, with the predicate it stands for. -/
def Means (kind : Kind) (u : String) (p : Predicate) : Prop :=
  ∃ s : Spelling, s.text = u.toList ∧ s.Names kind p.field ∧ s.Compares p.comparison

/-- Why a word is none of the language of a kind. -/
inductive Refused (kind : Kind) (u : String) : QueryFault → Prop
  | malformed (h : ∀ s : Spelling, s.text ≠ u.toList) : Refused kind u (.malformed u)
  | unknownField (s : Spelling) (hs : s.text = u.toList) (hname : ∀ f, ¬s.Names kind f) :
      Refused kind u (.unknownField (lowerCase (.ofList s.field)) kind)
  | danglingEscape (s : Spelling) {f : Field} (hs : s.text = u.toList) (hname : s.Names kind f)
      (hsep : s.separator = .like) (hodd : trailingEscapes s.value % 2 = 1) :
      Refused kind u (.danglingEscape (.ofList s.value))
  | invalidRegex (s : Spelling) {f : Field} (hs : s.text = u.toList) (hname : s.Names kind f)
      (hsep : s.separator = .regex) (hno : Pattern.Regex.parse? (.ofList s.value) = none) :
      Refused kind u (.invalidRegex (.ofList s.value))

/-- Reads a word as a term, and makes a predicate of it. -/
def Predicate.ofWord (kind : Kind) (u : String) : Except QueryFault Predicate := do
  Predicate.ofTerm kind (← Term.parse u)

theorem ofWord_eq_ofTerm {s : Spelling} (hs : s.text = u.toList) :
    Predicate.ofWord kind u = Predicate.ofTerm kind s.term := by
  rw [Predicate.ofWord, s.parse_text hs]
  rfl

theorem Means.ofWord_eq {p : Predicate} (h : Means kind u p) : Predicate.ofWord kind u = .ok p := by
  obtain ⟨f, comparison⟩ := p
  obtain ⟨s, hs, hname, hcompares⟩ := h
  rw [ofWord_eq_ofTerm hs, Predicate.ofTerm, Spelling.term, Field.find?_eq_some_iff.2 hname]
  cases hcompares with
  | like hsep heven =>
    have hno : Text.danglingEscape s.value ≠ true := fun hodd => by
      have := danglingEscape_iff.1 hodd
      omega
    simp [hsep, hno]
  | regex hsep hparse => simp [hsep, hparse]

theorem Refused.ofWord_eq (h : Refused kind u fault) : Predicate.ofWord kind u = .error fault := by
  cases h with
  | malformed h =>
    rw [Predicate.ofWord, Term.parse_eq_error_iff.2 ⟨rfl, h⟩]
    rfl
  | unknownField s hs hname =>
    have hfind : Field.find? kind (lowerCase (.ofList s.field)) = none :=
      Field.find?_eq_none_iff.2 fun f hf heq => hname f ⟨hf, heq⟩
    rw [ofWord_eq_ofTerm hs, Predicate.ofTerm, Spelling.term, hfind]
  | danglingEscape s hs hname hsep hodd =>
    rw [ofWord_eq_ofTerm hs, Predicate.ofTerm, Spelling.term, Field.find?_eq_some_iff.2 hname]
    simp [hsep, danglingEscape_iff.2 hodd]
  | invalidRegex s hs hname hsep hno =>
    rw [ofWord_eq_ofTerm hs, Predicate.ofTerm, Spelling.term, Field.find?_eq_some_iff.2 hname]
    simp [hsep, hno]

/-- Every word is one of the language, or there is a reason why not. -/
theorem means_or_refused (kind : Kind) (u : String) :
    (∃ p, Means kind u p) ∨ ∃ fault, Refused kind u fault := by
  by_cases hex : ∃ s : Spelling, s.text = u.toList
  swap
  · exact .inr ⟨_, .malformed (not_exists.1 hex)⟩
  obtain ⟨s, hs⟩ := hex
  by_cases hname : ∃ f, s.Names kind f
  swap
  · exact .inr ⟨_, .unknownField s hs (not_exists.1 hname)⟩
  obtain ⟨f, hf⟩ := hname
  cases hsep : s.separator with
  | like =>
    rcases Nat.mod_two_eq_zero_or_one (trailingEscapes s.value) with heven | hodd
    · exact .inl ⟨⟨f, _⟩, s, hs, hf, .like hsep heven⟩
    · exact .inr ⟨_, .danglingEscape s hs hf hsep hodd⟩
  | regex =>
    rcases hparse : Pattern.Regex.parse? (.ofList s.value) with _ | r
    · exact .inr ⟨_, .invalidRegex s hs hf hsep hparse⟩
    · exact .inl ⟨⟨f, _⟩, s, hs, hf, .regex hsep hparse⟩

theorem ofWord_eq_ok_iff {p : Predicate} : Predicate.ofWord kind u = .ok p ↔ Means kind u p := by
  refine ⟨fun h => ?_, Means.ofWord_eq⟩
  rcases means_or_refused kind u with ⟨p', hp⟩ | ⟨fault, hfault⟩
  · cases hp.ofWord_eq.symm.trans h
    exact hp
  · cases hfault.ofWord_eq.symm.trans h

theorem ofWord_eq_error_iff : Predicate.ofWord kind u = .error fault ↔ Refused kind u fault := by
  refine ⟨fun h => ?_, Refused.ofWord_eq⟩
  rcases means_or_refused kind u with ⟨p, hp⟩ | ⟨fault', hfault⟩
  · cases hp.ofWord_eq.symm.trans h
  · cases hfault.ofWord_eq.symm.trans h
    exact hfault

/-! ## Texts -/

namespace Query

variable {text : String} {q : Query}

theorem parse_eq (text : String) (kind : Kind) : parse text kind =
    words text >>= fun us => us.mapM (Predicate.ofWord kind) >>= fun ps => .ok ⟨kind, ps⟩ := rfl

/-- A query has one predicate for each word. -/
theorem parse_eq_ok_iff_means : parse text kind = .ok q ↔
    q.kind = kind ∧ ∃ us, words text = .ok us ∧ List.Forall₂ (Means kind) us q.predicates := by
  simp only [parse_eq, bind_eq_ok_iff, mapM_eq_ok_iff, ofWord_eq_ok_iff]
  constructor
  · rintro ⟨us, hus, ps, hps, heq⟩
    cases heq
    exact ⟨rfl, us, hus, hps⟩
  · rintro ⟨rfl, us, hus, hps⟩
    exact ⟨us, hus, q.predicates, hps, rfl⟩

/-- A text is refused as its words are, or for the first of them that is refused. -/
theorem parse_eq_error_iff : parse text kind = .error fault ↔ words text = .error fault ∨
    ∃ front u back, words text = .ok (front ++ u :: back) ∧ (∀ v ∈ front, ∃ p, Means kind v p) ∧
      Refused kind u fault := by
  simp only [parse_eq, bind_eq_error_iff, mapM_eq_error_iff, ofWord_eq_ok_iff, ofWord_eq_error_iff]
  refine or_congr_right ?_
  constructor
  · rintro ⟨us, hus, ⟨front, u, back, rfl, hfront, hu⟩ | ⟨ps, -, heq⟩⟩
    · exact ⟨front, u, back, hus, hfront, hu⟩
    · cases heq
  · rintro ⟨front, u, back, hus, hfront, hu⟩
    exact ⟨_, hus, .inl ⟨front, u, back, rfl, hfront, hu⟩⟩

theorem exists_parse_iff_means : (∃ q, parse text kind = .ok q) ↔
    ∃ us, words text = .ok us ∧ ∀ u ∈ us, ∃ p, Means kind u p := by
  simp only [← ofWord_eq_ok_iff, ← exists_mapM_eq_ok_iff, parse_eq, bind_eq_ok_iff]
  constructor
  · rintro ⟨q, us, hus, ps, hps, -⟩
    exact ⟨us, hus, ps, hps⟩
  · rintro ⟨us, hus, ps, hps⟩
    exact ⟨⟨kind, ps⟩, us, hus, ps, hps, rfl⟩

/-- A text that is no query finds nothing. -/
theorem execute_of_error (h : parse text kind = .error fault) (st : Store) (s : Shelf) :
    execute text kind st s = ([], s) := by
  rw [execute, h]

/-- A text is a query if its words can be read and each of them is a term that names a field of the kind and
has a value that can be compared with. Each word is taken apart in one way at most. The query has one
predicate for each word, in order, with the value as it is written. Any other text is refused, as the words
are or for the first word that is no such term, and finds nothing. -/
theorem parse_language (text : String) (kind : Kind) :
    ((∃ q, parse text kind = .ok q) ↔ ∃ us, words text = .ok us ∧ ∀ u ∈ us, ∃ s : Spelling,
      s.text = u.toList ∧ (∃ f, s.Names kind f) ∧ ∃ c, s.Compares c) ∧
    Function.Injective Spelling.text ∧
    (∀ q, parse text kind = .ok q ↔
      q.kind = kind ∧ ∃ us, words text = .ok us ∧ List.Forall₂ (Means kind) us q.predicates) ∧
    (∀ fault, parse text kind = .error fault ↔ words text = .error fault ∨
      ∃ front u back, words text = .ok (front ++ u :: back) ∧ (∀ v ∈ front, ∃ p, Means kind v p) ∧
        Refused kind u fault) ∧
    ((∃ q, parse text kind = .ok q) ∨ ∀ st s, execute text kind st s = ([], s)) := by
  refine ⟨?_, Spelling.text_injective, fun _ => parse_eq_ok_iff_means, fun _ => parse_eq_error_iff, ?_⟩
  · rw [exists_parse_iff_means]
    refine exists_congr fun us => and_congr_right fun _ => forall₂_congr fun u _ => ?_
    constructor
    · rintro ⟨p, s, hs, hname, hcompares⟩
      exact ⟨s, hs, ⟨p.field, hname⟩, p.comparison, hcompares⟩
    · rintro ⟨s, hs, ⟨f, hname⟩, c, hcompares⟩
      exact ⟨⟨f, c⟩, s, hs, hname, hcompares⟩
  · rcases h : parse text kind with fault | q
    · exact .inr (execute_of_error h)
    · exact .inl ⟨q, rfl⟩

end Query

end MusicLibrary

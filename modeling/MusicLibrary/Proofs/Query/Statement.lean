import Mathlib.Algebra.Group.Nat.Even
import MusicLibrary.Proofs.Query.Words

/-!
# The statements of queries

A statement is made of texts and of values, each of which is bound to a mark. The condition of a predicate is
its value between two texts (`Predicate.exists_pieces_eq`), which its column and its separator determine
(`Predicate.render_pieces_congr`). So the text of a statement is the same whatever the values are, and its
marks are bound to the values of the terms in turn (`Query.sql_eq_of_shape_eq`).
-/

namespace MusicLibrary

/-! ## Marks -/

namespace Piece

variable {s s' : String} {ps qs : List Piece}

/-- A text has no mark of its own, and closes the quotes that it opens. -/
def Inert (s : String) : Prop := '?' ∉ s.toList ∧ Even (s.toList.count '\'')

instance (s : String) : Decidable (Inert s) := inferInstanceAs (Decidable (_ ∧ _))

theorem Inert.append (h : Inert s) (h' : Inert s') : Inert (s ++ s') := by
  rw [Inert, String.toList_append, List.mem_append, List.count_append]
  exact ⟨not_or_intro h.1 h'.1, h.2.add h'.2⟩

/-- All texts of a statement are inert. -/
def AllInert (ps : List Piece) : Prop := ∀ s, text s ∈ ps → Inert s

@[simp] theorem allInert_nil : AllInert [] := nofun

@[simp] theorem allInert_text_cons : AllInert (text s :: ps) ↔ Inert s ∧ AllInert ps := by
  simp [AllInert]

@[simp] theorem allInert_bind_cons {v : String} : AllInert (bind v :: ps) ↔ AllInert ps := by
  simp [AllInert]

@[simp] theorem allInert_append : AllInert (ps ++ qs) ↔ AllInert ps ∧ AllInert qs := by
  simp [AllInert, or_imp, forall_and]

theorem render_append (ps qs : List Piece) : render (ps ++ qs) = render ps ++ render qs := by
  simp only [render, List.map_append, String.join_append]

theorem render_text_cons (s : String) (ps : List Piece) : render (text s :: ps) = s ++ render ps :=
  String.join_cons

theorem render_bind_cons (v : String) (ps : List Piece) : render (bind v :: ps) = "?" ++ render ps :=
  String.join_cons

theorem bindings_append (ps qs : List Piece) : bindings (ps ++ qs) = bindings ps ++ bindings qs :=
  List.filterMap_append

/-- Inert texts have a mark for each value, and the quotes are closed at the end. -/
theorem AllInert.count_render (h : AllInert ps) :
    (render ps).toList.count '?' = (bindings ps).length ∧ Even ((render ps).toList.count '\'') := by
  induction ps with
  | nil => decide
  | cons p ps ih =>
    cases p with
    | text s =>
      obtain ⟨⟨hno, heven⟩, hps⟩ := allInert_text_cons.1 h
      obtain ⟨hmarks, hquotes⟩ := ih hps
      rw [render_text_cons, String.toList_append, List.count_append, List.count_append, hmarks,
        List.count_eq_zero_of_not_mem hno, Nat.zero_add]
      exact ⟨rfl, heven.add hquotes⟩
    | bind v =>
      obtain ⟨hmarks, hquotes⟩ := ih (allInert_bind_cons.1 h)
      rw [render_bind_cons, String.toList_append, List.count_append, List.count_append, hmarks]
      exact ⟨Nat.add_comm 1 _, by simpa using hquotes⟩

/-- A statement has one mark for each of some values, and the marks in turn are bound to these values. None
of the marks stands within quotes. -/
structure Binds (ps : List Piece) (values : List String) : Prop where
  bindings_eq : bindings ps = values
  count_mark : (render ps).toList.count '?' = values.length
  mark : ∀ i (hi : i < values.length), ∃ front back, ps = front ++ bind values[i] :: back ∧
    render ps = render front ++ "?" ++ render back ∧ (render front).toList.count '?' = i ∧
      Even ((render front).toList.count '\'')

/-- The value at a place among the bound ones stands behind as many others. -/
theorem exists_eq_append_bind {i : Nat} (hi : i < (bindings ps).length) :
    ∃ front back, ps = front ++ bind (bindings ps)[i] :: back ∧ (bindings front).length = i := by
  have hsplit : bindings ps = (bindings ps).take i ++ (bindings ps)[i] :: (bindings ps).drop (i + 1) := by
    rw [← List.drop_eq_getElem_cons, List.take_append_drop]
  obtain ⟨before, after, hps, hbefore, hafter⟩ := List.filterMap_eq_append_iff.1 hsplit
  obtain ⟨texts, p, back, rfl, htexts, hp, -⟩ := List.filterMap_eq_cons_iff.1 hafter
  have hbind : p = bind (bindings ps)[i] := by
    cases p with
    | text s => cases hp
    | bind v => exact congrArg bind (Option.some.inj hp)
  have hfront : bindings (before ++ texts) = (bindings ps).take i := by
    rw [bindings_append, ← hbefore, bindings, bindings, List.filterMap_eq_nil_iff.2 htexts,
      List.append_nil]
  refine ⟨before ++ texts, back, ?_, ?_⟩
  · rw [List.append_assoc, ← hbind, ← hps]
  · rw [hfront, List.length_take, Nat.min_eq_left (Nat.le_of_lt hi)]

theorem AllInert.binds (h : AllInert ps) : Binds ps (bindings ps) where
  bindings_eq := rfl
  count_mark := h.count_render.1
  mark := by
    intro i hi
    obtain ⟨front, back, hps, hfront⟩ := exists_eq_append_bind hi
    have hinert : AllInert front := (allInert_append.1 (hps ▸ h)).1
    refine ⟨front, back, hps, ?_, hinert.count_render.1.trans hfront, hinert.count_render.2⟩
    conv_lhs => rw [hps]
    rw [render_append, render_bind_cons, String.append_assoc]

end Piece

/-! ## Conditions -/

/-- The separator that asks for a comparison. -/
def Comparison.separator : Comparison → Separator
  | like _ => .like
  | regex _ _ => .regex

/-- The field and the separator of a term. -/
def Term.shape (t : Term) : String × Separator := (t.field, t.separator)

/-- What a statement binds for a term. A regular expression ignores case. -/
def Term.bound (t : Term) : String :=
  match t.separator with
  | .like => t.value
  | .regex => "(?i)" ++ t.value

theorem Column.inert_name {column : Column} {name : String} (h : column.name? = some name) :
    Piece.Inert name := by
  cases column <;> cases h <;> decide

namespace Predicate

variable {kind : Kind} {t t' : Term} {p p' : Predicate}

/-- The column and the separator of a predicate. -/
def shape (p : Predicate) : Column × Separator := (p.field.column, p.comparison.separator)

theorem inert_expression {name : String} (h : Piece.Inert name) (column : Column) :
    Piece.Inert (expression column name) := by
  unfold expression
  split
  · exact (Piece.Inert.append (by decide) h).append (by decide)
  · exact h

/-- The condition of a predicate is its bound value between two texts. -/
theorem exists_pieces_eq (p : Predicate) : ∃ front back,
    p.pieces = [.text front, .bind p.comparison.bound, .text back] ∧
      Piece.Inert front ∧ Piece.Inert back := by
  unfold pieces
  rcases hname : p.field.column.name? with _ | name
  · cases p.comparison with
    | like pattern => exact ⟨_, _, rfl, by decide +kernel, by decide⟩
    | regex text r => exact ⟨_, _, rfl, by decide +kernel, by decide⟩
  · have hinert := Column.inert_name hname
    have hexpression := inert_expression hinert p.field.column
    cases p.comparison with
    | like pattern => exact ⟨_, _, rfl, hexpression.append (by decide), by decide⟩
    | regex text r =>
      have hopen : Piece.Inert "(" := by decide
      have hand : Piece.Inert " IS NOT NULL AND " := by decide
      have hregexp : Piece.Inert " REGEXP " := by decide
      have hfront := (((hopen.append hinert).append hand).append hexpression).append hregexp
      exact ⟨_, _, rfl, hfront, by decide⟩

theorem bindings_pieces (p : Predicate) : Piece.bindings p.pieces = [p.comparison.bound] := by
  obtain ⟨front, back, h, -⟩ := p.exists_pieces_eq
  rw [h]
  rfl

theorem allInert_pieces (p : Predicate) : Piece.AllInert p.pieces := by
  obtain ⟨front, back, h, hfront, hback⟩ := p.exists_pieces_eq
  simp [h, hfront, hback]

/-- The text of a condition depends on the column and the separator alone. -/
theorem render_pieces_congr (h : p.shape = p'.shape) :
    Piece.render p.pieces = Piece.render p'.pieces := by
  obtain ⟨hcolumn, hseparator⟩ := Prod.mk.inj h
  unfold pieces
  rw [hcolumn]
  cases hc : p.comparison <;> cases hc' : p'.comparison <;>
    simp only [hc, hc', Comparison.separator, reduceCtorEq] at hseparator
  · cases p'.field.column.name? <;> rfl
  · cases p'.field.column.name? <;> rfl

/-- The predicate of a term has the column of the term's field, its separator and its value. -/
theorem eq_of_ofTerm (h : ofTerm kind t = .ok p) : Field.find? kind t.field = some p.field ∧
    p.comparison.separator = t.separator ∧ p.comparison.bound = t.bound := by
  unfold ofTerm at h
  rcases hfield : Field.find? kind t.field with _ | field
  · simp [hfield] at h
  simp only [hfield] at h
  cases hsep : t.separator with
  | like =>
    simp only [hsep] at h
    split_ifs at h
    cases h
    simp [Comparison.separator, Comparison.bound, Term.bound, hsep]
  | regex =>
    simp only [hsep] at h
    rcases hr : Pattern.Regex.parse? t.value with _ | r
    · simp [hr] at h
    simp only [hr] at h
    cases h
    simp [Comparison.separator, Comparison.bound, Term.bound, hsep]

theorem shape_eq_of_ofTerm (h : ofTerm kind t = .ok p) (h' : ofTerm kind t' = .ok p')
    (hshape : t.shape = t'.shape) : p.shape = p'.shape := by
  obtain ⟨hname, hsep⟩ := Prod.mk.inj hshape
  obtain ⟨hfield, hp, -⟩ := eq_of_ofTerm h
  obtain ⟨hfield', hp', -⟩ := eq_of_ofTerm h'
  rw [hname, hfield'] at hfield
  rw [shape, shape, hp, hp', hsep, Option.some.inj hfield]

end Predicate

/-! ## Statements -/

namespace Query

variable {text text' word : String} {kind : Kind} {q q' : Query} {ps ps' : List Predicate}
  {ts ts' : List Term}

theorem render_conditions_congr (h : ps.map Predicate.shape = ps'.map Predicate.shape) :
    Piece.render (conditions word ps) = Piece.render (conditions word ps') := by
  -- The first condition follows another word than those after it.
  induction ps generalizing ps' word with
  | nil => rw [List.map_eq_nil_iff.1 h.symm]
  | cons p ps ih =>
    cases ps' with
    | nil => cases h
    | cons p' ps' =>
      obtain ⟨hp, hps⟩ := List.cons.inj h
      rw [conditions, conditions, List.cons_append, List.cons_append, Piece.render_text_cons,
        Piece.render_text_cons, Piece.render_append, Piece.render_append, ih hps,
        Predicate.render_pieces_congr hp]

theorem bindings_conditions (word : String) (ps : List Predicate) :
    Piece.bindings (conditions word ps) = ps.map (·.comparison.bound) := by
  induction ps generalizing word with
  | nil => rfl
  | cons p ps ih =>
    have hcons : Piece.bindings (conditions word (p :: ps)) =
        Piece.bindings (p.pieces ++ conditions " AND " ps) := rfl
    rw [hcons, Piece.bindings_append, p.bindings_pieces, ih]
    rfl

theorem allInert_conditions (hword : Piece.Inert word) (ps : List Predicate) :
    Piece.AllInert (conditions word ps) := by
  induction ps generalizing word with
  | nil => exact Piece.allInert_nil
  | cons p ps ih =>
    have hand : Piece.Inert " AND " := by decide
    simp [conditions, hword, p.allInert_pieces, ih hand]

/-- The text of a statement depends on the kind, the columns and the separators alone. -/
theorem sql_congr (hkind : q.kind = q'.kind)
    (h : q.predicates.map Predicate.shape = q'.predicates.map Predicate.shape) : q.sql = q'.sql := by
  rw [sql, sql, pieces, pieces, hkind, List.cons_append, List.cons_append, Piece.render_text_cons,
    Piece.render_text_cons, Piece.render_append, Piece.render_append, render_conditions_congr h]

/-- The marks of a statement are bound to what the predicates in turn compare with. -/
theorem binds_pieces (q : Query) :
    Piece.Binds q.pieces (q.predicates.map (·.comparison.bound)) := by
  have hinert : Piece.AllInert q.pieces := by
    have hends : Piece.Inert (selection q.kind) ∧ Piece.Inert (ordering q.kind) := by
      cases q.kind <;> decide +kernel
    have hwhere : Piece.Inert " WHERE " := by decide
    simp [pieces, hends, allInert_conditions hwhere]
  have hbindings : Piece.bindings q.pieces = q.predicates.map (·.comparison.bound) := by
    have hcons : Piece.bindings q.pieces =
        Piece.bindings (conditions " WHERE " q.predicates ++ [.text (ordering q.kind)]) := rfl
    rw [hcons, Piece.bindings_append, bindings_conditions]
    exact List.append_nil _
  rw [← hbindings]
  exact hinert.binds

theorem map_shape_eq_of_ofTerm
    (h : List.Forall₂ (fun t p => Predicate.ofTerm kind t = .ok p) ts ps)
    (h' : List.Forall₂ (fun t p => Predicate.ofTerm kind t = .ok p) ts' ps')
    (hshape : ts.map Term.shape = ts'.map Term.shape) :
    ps.map Predicate.shape = ps'.map Predicate.shape := by
  induction h generalizing ts' ps' with
  | nil =>
    cases h' with
    | nil => rfl
    | cons _ _ => cases hshape
  | cons hp _ ih =>
    cases h' with
    | nil => cases hshape
    | cons hp' hps' =>
      obtain ⟨hhead, htail⟩ := List.cons.inj hshape
      rw [List.map_cons, List.map_cons, ih hps' htail, Predicate.shape_eq_of_ofTerm hp hp' hhead]

theorem map_bound_of_ofTerm (h : List.Forall₂ (fun t p => Predicate.ofTerm kind t = .ok p) ts ps) :
    ps.map (·.comparison.bound) = ts.map Term.bound := by
  induction h with
  | nil => rfl
  | cons hp _ ih => rw [List.map_cons, List.map_cons, ih, (Predicate.eq_of_ofTerm hp).2.2]

/-- The values of a query do not enter the text of its statement. Two queries for a kind whose terms have the
same fields and separators are written as the same text. It has one mark for each term, outside quotes, and
the marks in turn are bound to the values of the terms, behind a flag in the case of regular expressions. -/
theorem sql_eq_of_shape_eq (hts : terms text = .ok ts) (hts' : terms text' = .ok ts')
    (hq : parse text kind = .ok q) (hq' : parse text' kind = .ok q')
    (hshape : ts.map Term.shape = ts'.map Term.shape) :
    q.sql = q'.sql ∧ q.sql.toList.count '?' = ts.length ∧ Piece.Binds q.pieces (ts.map Term.bound) ∧
      Piece.Binds q'.pieces (ts'.map Term.bound) := by
  obtain ⟨hkind, ts₀, hts₀, hps⟩ := parse_eq_ok_iff.1 hq
  obtain ⟨hkind', ts₀', hts₀', hps'⟩ := parse_eq_ok_iff.1 hq'
  obtain rfl := Except.ok.inj (hts.symm.trans hts₀)
  obtain rfl := Except.ok.inj (hts'.symm.trans hts₀')
  have hbinds := q.binds_pieces
  have hbinds' := q'.binds_pieces
  rw [map_bound_of_ofTerm hps] at hbinds
  rw [map_bound_of_ofTerm hps'] at hbinds'
  refine ⟨sql_congr (hkind.trans hkind'.symm) (map_shape_eq_of_ofTerm hps hps' hshape), ?_, hbinds,
    hbinds'⟩
  rw [← List.length_map Term.bound]
  exact hbinds.count_mark

/-- A value with a mark and quotes of its own is bound like any other. -/
theorem sql_eq_of_shape_eq_quotes :
    let text := "\"title:?' OR '1'='1\" genre::$"
    let text' := "title:night genre::$"
    let ts : List Term := [⟨"title", .like, "?' OR '1'='1"⟩, ⟨"genre", .regex, "$"⟩]
    let ts' : List Term := [⟨"title", .like, "night"⟩, ⟨"genre", .regex, "$"⟩]
    terms text = .ok ts ∧ terms text' = .ok ts' ∧ ts.map Term.shape = ts'.map Term.shape ∧
      ∃ q q', parse text .track = .ok q ∧ parse text' .track = .ok q' ∧ q.sql = q'.sql ∧
        q.sql.toList.count '?' = 2 ∧ Piece.Binds q.pieces ["?' OR '1'='1", "(?i)$"] ∧
        Piece.Binds q'.pieces ["night", "(?i)$"] := by
  intro text text' ts ts'
  have hts : terms text = .ok ts := by decide +kernel
  have hts' : terms text' = .ok ts' := by decide +kernel
  have hfield : Field.find? .track "title" = some ⟨"title", .trackTitle⟩ ∧
      Field.find? .track "genre" = some ⟨"genre", .trackGenres⟩ := by decide
  have hregex : Pattern.Regex.parse? "$" = some (.look .textEnd) := by
    have hread : Pattern.readFrom? .start "$".toList = some (.plain (.look .textEnd)) := by
      -- The one piece is read, and then the end of the text.
      rw [Pattern.readFrom?]
      show Pattern.readFrom? (Pattern.Reading.start.add (.plain (.look .textEnd))) [] = _
      rw [Pattern.readFrom?]
      rfl
    rw [Pattern.Regex.parse?, hread]
    rfl
  have hparse : ∀ {text title}, terms text = .ok [⟨"title", .like, title⟩, ⟨"genre", .regex, "$"⟩] →
      Text.danglingEscape title.toList = false → ∃ q, parse text .track = .ok q := by
    intro text title hterms htitle
    refine (exists_parse_iff hterms).2 (List.forall_mem_cons.2 ⟨?_, List.forall_mem_singleton.2 ?_⟩)
    · exact ⟨_, by simp only [Predicate.ofTerm, hfield.1, htitle]; rfl⟩
    · exact ⟨_, by simp only [Predicate.ofTerm, hfield.2, hregex]; rfl⟩
  obtain ⟨q, hq⟩ := hparse hts (by decide)
  obtain ⟨q', hq'⟩ := hparse hts' (by decide)
  exact ⟨hts, hts', rfl, q, q', hq, hq', sql_eq_of_shape_eq hts hts' hq hq' rfl⟩

end Query

end MusicLibrary

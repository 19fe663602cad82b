import Mathlib.Data.List.Forall2
import MusicLibrary.Command.Run
import MusicLibrary.Proofs.Text.Words

/-!
# The words of a query

A query that is given as a list of words has these words, each of which is one term (`words_queryText`). A
query has one predicate for each of its words in turn (`parse_eq_ok_iff`), so the words, the terms and the
predicates of two queries one after the other are those of the first and then those of the second
(`parse_append`).
-/

namespace MusicLibrary

section Except

variable {ε α β : Type}

theorem bind_eq_ok_iff {x : Except ε α} {f : α → Except ε β} {b : β} :
    (x >>= f) = .ok b ↔ ∃ a, x = .ok a ∧ f a = .ok b := by
  cases x <;> simp [bind, Except.bind]

theorem bind_eq_error_iff {x : Except ε α} {f : α → Except ε β} {e : ε} :
    (x >>= f) = .error e ↔ x = .error e ∨ ∃ a, x = .ok a ∧ f a = .error e := by
  cases x <;> simp [bind, Except.bind]

theorem exists_ok_of_isSome {x : Except ε α} (h : x.toOption.isSome = true) : ∃ a, x = .ok a := by
  cases x with
  | error e => cases h
  | ok a => exact ⟨a, rfl⟩

theorem mapM_eq_ok_iff {f : α → Except ε β} {as : List α} {bs : List β} :
    as.mapM f = .ok bs ↔ List.Forall₂ (fun a b => f a = .ok b) as bs := by
  induction as generalizing bs with
  | nil =>
    rw [List.mapM_nil, List.forall₂_nil_left_iff]
    exact ⟨fun h => (Except.ok.inj h).symm, fun h => congrArg Except.ok h.symm⟩
  | cons a as ih =>
    rw [List.mapM_cons, bind_eq_ok_iff, List.forall₂_cons_left_iff]
    simp only [bind_eq_ok_iff, ih]
    constructor
    · rintro ⟨b, hb, bs', hbs', heq⟩
      exact ⟨b, bs', hb, hbs', (Except.ok.inj heq).symm⟩
    · rintro ⟨b, bs', hb, hbs', rfl⟩
      exact ⟨b, hb, bs', hbs', rfl⟩

theorem mem_of_mapM_eq_ok {f : α → Except ε β} {as : List α} {bs : List β} (h : as.mapM f = .ok bs)
    {b : β} : b ∈ bs ↔ ∃ a ∈ as, f a = .ok b := by
  rw [mapM_eq_ok_iff] at h
  induction h with
  | nil => simp
  | cons hab _ ih => simp [ih, hab, eq_comm]

theorem exists_mapM_eq_ok_iff {f : α → Except ε β} {as : List α} :
    (∃ bs, as.mapM f = .ok bs) ↔ ∀ a ∈ as, ∃ b, f a = .ok b := by
  simp only [mapM_eq_ok_iff]
  induction as with
  | nil => simp
  | cons a as ih =>
    rw [List.forall_mem_cons, ← ih]
    simp only [List.forall₂_cons_left_iff]
    constructor
    · rintro ⟨-, b, bs, hb, hbs, rfl⟩
      exact ⟨⟨b, hb⟩, bs, hbs⟩
    · rintro ⟨⟨b, hb⟩, bs, hbs⟩
      exact ⟨b :: bs, b, bs, hb, hbs, rfl⟩

/-- A list is refused for the first of its members that is. -/
theorem mapM_eq_error_iff {f : α → Except ε β} {as : List α} {e : ε} : as.mapM f = .error e ↔
    ∃ front a back, as = front ++ a :: back ∧ (∀ b ∈ front, ∃ c, f b = .ok c) ∧ f a = .error e := by
  induction as with
  | nil => simp [pure, Except.pure]
  | cons a as ih =>
    rw [List.mapM_cons]
    rcases ha : f a with e' | b
    · constructor
      · intro h
        cases h
        exact ⟨[], a, as, rfl, nofun, ha⟩
      · rintro ⟨front, a', back, heq, hfront, ha'⟩
        cases front with
        | nil =>
          cases heq
          exact congrArg Except.error (Except.error.inj (ha.symm.trans ha'))
        | cons b front =>
          cases heq
          obtain ⟨c, hc⟩ := hfront a (.head _)
          cases ha.symm.trans hc
    · have hrest : (Except.ok b >>= fun c => as.mapM f >>= fun cs => pure (c :: cs)) = .error e ↔
          as.mapM f = .error e := by
        simp [bind_eq_error_iff, pure, Except.pure]
      rw [hrest, ih]
      constructor
      · rintro ⟨front, a', back, rfl, hfront, ha'⟩
        exact ⟨a :: front, a', back, rfl, List.forall_mem_cons.2 ⟨⟨b, ha⟩, hfront⟩, ha'⟩
      · rintro ⟨front, a', back, heq, hfront, ha'⟩
        cases front with
        | nil =>
          cases heq
          cases ha.symm.trans ha'
        | cons c front =>
          cases heq
          exact ⟨front, a', back, rfl, fun b hb => hfront b (.tail _ hb), ha'⟩

end Except

/-- Lists that are related through something in between are related through a list. -/
theorem forall₂_comp_iff {α β γ : Type} {R : α → β → Prop} {S : β → γ → Prop} {as : List α}
    {cs : List γ} : List.Forall₂ (fun a c => ∃ b, R a b ∧ S b c) as cs ↔
      ∃ bs, List.Forall₂ R as bs ∧ List.Forall₂ S bs cs := by
  constructor
  · intro h
    induction h with
    | nil => exact ⟨[], .nil, .nil⟩
    | cons hac _ ih =>
      obtain ⟨b, hab, hbc⟩ := hac
      obtain ⟨bs, habs, hbcs⟩ := ih
      exact ⟨b :: bs, .cons hab habs, .cons hbc hbcs⟩
  · rintro ⟨bs, hab, hbc⟩
    induction hab generalizing cs with
    | nil =>
      cases hbc
      exact .nil
    | cons hab _ ih =>
      cases hbc with
      | cons hbc hrest => exact .cons ⟨_, hab, hbc⟩ (ih hrest)

namespace Query

variable {text text₁ text₂ : String} {kind : Kind} {q q₁ q₂ : Query} {us us₁ us₂ : List String}
  {ts ts₁ ts₂ : List Term}

/-- The terms of a query. -/
def terms (text : String) : Except QueryFault (List Term) := do (← words text).mapM Term.parse

theorem words_eq_ok_iff : words text = .ok us ↔ Text.opensComment .gap text.toList = false ∧
    ∃ ws, Text.words? text.toList = some ws ∧ ws ≠ [] ∧ us = ws.map .ofList := by
  unfold words
  by_cases hcomment : Text.opensComment .gap text.toList = true
  · simp [hcomment]
  · rcases hws : Text.words? text.toList with _ | ws
    · simp [hcomment, hws]
    · cases ws with
      | nil => simp [hcomment, hws]
      | cons w ws => simp [hcomment, hws, eq_comm]

theorem terms_eq_ok_iff : terms text = .ok ts ↔
    ∃ us, words text = .ok us ∧ List.Forall₂ (fun u t => Term.parse u = .ok t) us ts := by
  unfold terms
  simp only [bind_eq_ok_iff, mapM_eq_ok_iff]

/-- A query has one predicate for each of its terms. -/
theorem parse_eq_ok_iff : parse text kind = .ok q ↔ q.kind = kind ∧ ∃ ts, terms text = .ok ts ∧
    List.Forall₂ (fun t p => Predicate.ofTerm kind t = .ok p) ts q.predicates := by
  unfold parse
  simp only [bind_eq_ok_iff, mapM_eq_ok_iff, forall₂_comp_iff, terms_eq_ok_iff]
  constructor
  · rintro ⟨us, hus, ps, ⟨ts, hts, hps⟩, heq⟩
    cases heq
    exact ⟨rfl, ts, ⟨us, hus, hts⟩, hps⟩
  · rintro ⟨rfl, ts, ⟨us, hus, hts⟩, hps⟩
    exact ⟨us, hus, q.predicates, ⟨ts, hts, hps⟩, rfl⟩

theorem parse_eq_ok_iff_mapM (hts : terms text = .ok ts) : parse text kind = .ok q ↔
    q.kind = kind ∧ ts.mapM (Predicate.ofTerm kind) = .ok q.predicates := by
  rw [parse_eq_ok_iff, mapM_eq_ok_iff, hts]
  simp

/-- The predicates of a query are those of its terms. -/
theorem mem_predicates_iff (hq : parse text kind = .ok q) (hts : terms text = .ok ts) {p : Predicate} :
    p ∈ q.predicates ↔ ∃ t ∈ ts, Predicate.ofTerm kind t = .ok p :=
  mem_of_mapM_eq_ok ((parse_eq_ok_iff_mapM hts).1 hq).2

/-- A text is read as a query if each of its terms is a predicate. -/
theorem exists_parse_iff (hts : terms text = .ok ts) :
    (∃ q, parse text kind = .ok q) ↔ ∀ t ∈ ts, ∃ p, Predicate.ofTerm kind t = .ok p := by
  rw [← exists_mapM_eq_ok_iff]
  constructor
  · rintro ⟨q, hq⟩
    exact ⟨q.predicates, ((parse_eq_ok_iff_mapM hts).1 hq).2⟩
  · rintro ⟨ps, hps⟩
    exact ⟨⟨kind, ps⟩, (parse_eq_ok_iff_mapM hts).2 ⟨rfl, hps⟩⟩

/-! ## Queries one after the other -/

theorem words_append (h₁ : words text₁ = .ok us₁) (h₂ : words text₂ = .ok us₂) :
    words (text₁ ++ " " ++ text₂) = .ok (us₁ ++ us₂) := by
  obtain ⟨hcomment₁, ws₁, hws₁, hne₁, rfl⟩ := words_eq_ok_iff.1 h₁
  obtain ⟨hcomment₂, ws₂, hws₂, -, rfl⟩ := words_eq_ok_iff.1 h₂
  have hchars : (text₁ ++ " " ++ text₂).toList = text₁.toList ++ ' ' :: text₂.toList := by simp
  rw [words_eq_ok_iff, hchars, Text.opensComment_append hws₁, Text.words?_append hws₁, hcomment₁,
    hcomment₂, hws₂]
  exact ⟨rfl, ws₁ ++ ws₂, rfl, by simp [hne₁], List.map_append.symm⟩

theorem terms_append (h₁ : terms text₁ = .ok ts₁) (h₂ : terms text₂ = .ok ts₂) :
    terms (text₁ ++ " " ++ text₂) = .ok (ts₁ ++ ts₂) := by
  obtain ⟨us₁, hus₁, hts₁⟩ := terms_eq_ok_iff.1 h₁
  obtain ⟨us₂, hus₂, hts₂⟩ := terms_eq_ok_iff.1 h₂
  exact terms_eq_ok_iff.2 ⟨us₁ ++ us₂, words_append hus₁ hus₂, List.rel_append hts₁ hts₂⟩

theorem parse_append (h₁ : parse text₁ kind = .ok q₁) (h₂ : parse text₂ kind = .ok q₂) :
    parse (text₁ ++ " " ++ text₂) kind = .ok ⟨kind, q₁.predicates ++ q₂.predicates⟩ := by
  obtain ⟨-, ts₁, hts₁, hps₁⟩ := parse_eq_ok_iff.1 h₁
  obtain ⟨-, ts₂, hts₂, hps₂⟩ := parse_eq_ok_iff.1 h₂
  exact parse_eq_ok_iff.2 ⟨rfl, ts₁ ++ ts₂, terms_append hts₁ hts₂, List.rel_append hps₁ hps₂⟩

end Query

namespace Command

theorem queryText_eq_ok {ws : List Word} (hnull : ∀ w ∈ ws, '\x00' ∉ w) :
    queryText ws = .ok (.ofList ([' '].intercalate (ws.map Text.quote))) := by
  have hquote : Text.quoteAll? ws = some ([' '].intercalate (ws.map Text.quote)) := by
    simpa [Text.quoteAll?] using hnull
  rw [queryText, hquote]

theorem words_intercalate_quote {ws : List Word} (hne : ws ≠ []) :
    Query.words (.ofList ([' '].intercalate (ws.map Text.quote))) = .ok (ws.map .ofList) := by
  rw [Query.words_eq_ok_iff, String.toList_ofList]
  exact ⟨Text.opensComment_intercalate_quote ws, ws, Text.words?_intercalate_quote ws, hne, rfl⟩

/-- A list of words without null characters is written as a text from which, as a query, just these words
are read, each as one; no word is taken for a comment. -/
theorem words_queryText {ws : List Word} (hne : ws ≠ []) (hnull : ∀ w ∈ ws, '\x00' ∉ w) :
    ∃ text, queryText ws = .ok text ∧ Text.opensComment .gap text.toList = false ∧
      Query.words text = .ok (ws.map .ofList) := by
  refine ⟨_, queryText_eq_ok hnull, ?_, words_intercalate_quote hne⟩
  rw [String.toList_ofList]
  exact Text.opensComment_intercalate_quote ws

theorem words_queryText_mixedQuotes :
    let ws : List Word := ["#'^\\!\" \n".toList, [], "a:é".toList]
    ws ≠ [] ∧ (∀ w ∈ ws, '\x00' ∉ w) ∧
      queryText ws = .ok "\"#'\"'^'\"\\\\\"'!\" \n' '' 'a:é'" ∧
      Query.words "\"#'\"'^'\"\\\\\"'!\" \n' '' 'a:é'" = .ok ["#'^\\!\" \n", "", "a:é"] := by
  intro ws
  have hne : ws ≠ [] := List.cons_ne_nil _ _
  have hnull : ∀ w ∈ ws, '\x00' ∉ w := by decide
  obtain ⟨text, htext, -, hwords⟩ := words_queryText hne hnull
  have heq : queryText ws = .ok "\"#'\"'^'\"\\\\\"'!\" \n' '' 'a:é'" := by
    have hquote : Text.quoteAll? ws = some "\"#'\"'^'\"\\\\\"'!\" \n' '' 'a:é'".toList := by
      decide +kernel
    rw [queryText, hquote]
    simp
  rw [heq] at htext
  cases htext
  exact ⟨hne, hnull, heq, hwords⟩

end Command

end MusicLibrary

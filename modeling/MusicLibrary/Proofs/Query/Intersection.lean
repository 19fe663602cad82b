import MusicLibrary.Proofs.Query.Found
import MusicLibrary.Proofs.Store.Rewritten

/-!
# Queries one after the other

What a query finds depends on the set of its terms alone (`answers_congr`). Two texts one after the other
find the tracks or extras that each of them finds, in the order of display, and among the albums that each
of them finds those of which one track satisfies both (`answers_append`).
-/

namespace MusicLibrary

/-- What two filters leave of the same distinct values, the one in the other, both of them leave at once. -/
theorem filter_mem_map_filter {α β : Type} [BEq β] [LawfulBEq β] {f : α → β} {as : List α}
    (h : (as.map f).Nodup) (p q : α → Bool) :
    ((as.filter p).map f).filter (· ∈ (as.filter q).map f) = (as.filter fun a => p a && q a).map f := by
  have hmem : ∀ a ∈ as, (decide (f a ∈ (as.filter q).map f) && p a) = (p a && q a) := by
    intro a ha
    rw [Bool.and_comm, Bool.eq_iff_iff, Bool.and_eq_true_iff, Bool.and_eq_true_iff, decide_eq_true_eq]
    refine and_congr_right fun _ => ⟨fun hfa => ?_, fun hq => ?_⟩
    · obtain ⟨b, hb, hba⟩ := List.mem_map.1 hfa
      obtain ⟨hb, hq⟩ := List.mem_filter.1 hb
      rwa [← List.inj_on_of_nodup_map h hb ha hba]
    · exact List.mem_map_of_mem (List.mem_filter.2 ⟨ha, hq⟩)
  rw [List.filter_map, List.filter_filter]
  exact congrArg (List.map f) (List.filter_congr hmem)

namespace Query

variable {text text' text₁ text₂ : String} {kind : Kind} {st : Store} {q q' q₁ q₂ : Query}
  {ts ts' : List Term} {j : JoinedRow}

/-! ## Answers are distinct -/

/-- No two items of a kind hold the same. -/
theorem nodup_content_displayed (h : st.Consistent) :
    ((displayed st kind).map (JoinedRow.content st)).Nodup := by
  have hnums : ((displayed st kind).map fun j => some j.number).Nodup := by
    simpa only [List.map_map, Function.comp_def] using
      (nodup_number_displayed h).map fun _ _ => Option.some.inj
  refine List.Nodup.of_map numberOf? ?_
  simpa only [List.map_map, Function.comp_def, numberOf?_content] using hnums

/-! ## The terms of a query as a set -/

theorem answers_of_not_parse (h : ¬ ∃ q, parse text kind = .ok q) (st : Store) (s : Shelf) :
    answers text kind st s = [] := by
  unfold answers execute
  rcases hq : parse text kind with f | q
  · rfl
  · exact absurd ⟨q, hq⟩ h

/-- What a query finds depends on the set of its terms alone: neither their order nor repeated terms matter,
nor does the shelf on which the items are loaded. -/
theorem answers_congr (h : st.Consistent) (hts : terms text = .ok ts) (hts' : terms text' = .ok ts')
    (hsame : ∀ t, t ∈ ts ↔ t ∈ ts') (s s' : Shelf) :
    answers text kind st s = answers text' kind st s' := by
  have hparse : (∃ q, parse text kind = .ok q) ↔ ∃ q, parse text' kind = .ok q := by
    rw [exists_parse_iff hts, exists_parse_iff hts']
    simp only [hsame]
  by_cases hq : ∃ q, parse text kind = .ok q
  · obtain ⟨q', hq'⟩ := hparse.1 hq
    obtain ⟨q, hq⟩ := hq
    have hmem : ∀ p, p ∈ q.predicates ↔ p ∈ q'.predicates := fun p => by
      rw [mem_predicates_iff hq hts, mem_predicates_iff hq' hts']
      simp only [hsame]
    have hholds : q.holds st = q'.holds st := by
      funext j
      rw [Bool.eq_iff_iff]
      simp only [holds, List.all_eq_true, hmem]
    have hfinds : q.finds st = q'.finds st := by
      funext j
      unfold finds
      rw [kind_of_parse hq, kind_of_parse hq', hholds]
    rw [answers_eq h hq, answers_eq h hq', hfinds]
  · rw [answers_of_not_parse hq, answers_of_not_parse (mt hparse.2 hq)]

/-! ## Two queries at once -/

theorem holds_append (ps : List Predicate) :
    holds ⟨kind, q.predicates ++ ps⟩ st j = (q.holds st j && holds ⟨kind, ps⟩ st j) := List.all_append

/-- Tracks and extras are found by two queries at once if each of them finds them. -/
theorem finds_append (hkind : kind ≠ .album) (h₁ : q₁.kind = kind) (h₂ : q₂.kind = kind) :
    finds ⟨kind, q₁.predicates ++ q₂.predicates⟩ st j = (q₁.finds st j && q₂.finds st j) := by
  cases kind with
  | album => exact absurd rfl hkind
  | track | extra =>
    simp only [finds, h₁, h₂]
    exact holds_append _

/-- What two queries at once find each of them finds. -/
theorem finds_of_append (h₁ : q₁.kind = kind) (h₂ : q₂.kind = kind)
    (h : finds ⟨kind, q₁.predicates ++ q₂.predicates⟩ st j = true) :
    (q₁.finds st j && q₂.finds st j) = true := by
  cases kind with
  | track | extra => rwa [← finds_append (by decide) h₁ h₂]
  | album =>
    simp only [finds, h₁, h₂, List.any_eq_true, holds_append, Bool.and_eq_true_iff] at h ⊢
    obtain ⟨r, hr, hr₁, hr₂⟩ := h
    exact ⟨⟨r, hr, hr₁⟩, r, hr, hr₂⟩

/-- Two texts that are queries are one query, of the terms of the first and then those of the second. What it
finds are the items that the first finds and the second finds too, in their order and each once; for albums
it is a part of these. A text with the same set of terms finds the same. -/
theorem answers_append (h : st.Reachable) (h₁ : parse text₁ kind = .ok q₁)
    (h₂ : parse text₂ kind = .ok q₂) (s s₁ s₂ : Shelf) :
    let both := text₁ ++ " " ++ text₂
    (∃ ts₁ ts₂, terms text₁ = .ok ts₁ ∧ terms text₂ = .ok ts₂ ∧ terms both = .ok (ts₁ ++ ts₂) ∧
      ∀ text ts, terms text = .ok ts → (∀ t, t ∈ ts ↔ t ∈ ts₁ ∨ t ∈ ts₂) →
        ∀ s', answers text kind st s' = answers both kind st s) ∧
    parse both kind = .ok ⟨kind, q₁.predicates ++ q₂.predicates⟩ ∧
    (answers both kind st s).Nodup ∧
    (answers both kind st s).Sublist
      ((answers text₁ kind st s₁).filter (· ∈ answers text₂ kind st s₂)) ∧
    (kind ≠ .album → answers both kind st s =
      (answers text₁ kind st s₁).filter (· ∈ answers text₂ kind st s₂)) := by
  intro both
  have hcon := h.consistent
  have hdistinct : ((displayed st kind).map (JoinedRow.content st)).Nodup := nodup_content_displayed hcon
  have hboth : parse both kind = .ok ⟨kind, q₁.predicates ++ q₂.predicates⟩ := parse_append h₁ h₂
  have hkind₁ := kind_of_parse h₁
  have hkind₂ := kind_of_parse h₂
  rw [answers_eq hcon hboth, answers_eq hcon h₁, answers_eq hcon h₂, filter_mem_map_filter hdistinct]
  refine ⟨?_, hboth, hdistinct.sublist (List.filter_sublist.map _), ?_, fun hkind => ?_⟩
  · obtain ⟨-, ts₁, hts₁, -⟩ := parse_eq_ok_iff.1 h₁
    obtain ⟨-, ts₂, hts₂, -⟩ := parse_eq_ok_iff.1 h₂
    refine ⟨ts₁, ts₂, hts₁, hts₂, terms_append hts₁ hts₂, fun text ts hts hsame s' => ?_⟩
    rw [answers_congr hcon hts (terms_append hts₁ hts₂) (by simpa using hsame) s' s]
    exact answers_eq hcon hboth s
  · exact (List.monotone_filter_right _ fun j hj => finds_of_append hkind₁ hkind₂ hj).map _
  · exact congrArg (List.map _) (List.filter_congr fun j _ => finds_append hkind hkind₁ hkind₂)

/-- Of the two tracks by one artist one has a title that starts with an O. -/
theorem answers_append_oneOfTwo :
    Store.twoStored.Reachable ∧ ∃ q₁ q₂, parse "albumartist:nina" .track = .ok q₁ ∧
      parse "title:o%" .track = .ok q₂ ∧
      (answers "albumartist:nina title:o%" .track Store.twoStored .empty).length = 1 ∧
      answers "albumartist:nina title:o%" .track Store.twoStored .empty =
        (answers "albumartist:nina" .track Store.twoStored .empty).filter
          (· ∈ answers "title:o%" .track Store.twoStored .empty) := by
  obtain ⟨q₁, h₁⟩ := exists_ok_of_isSome (x := parse "albumartist:nina" .track) (by decide +kernel)
  obtain ⟨q₂, h₂⟩ := exists_ok_of_isSome (x := parse "title:o%" .track) (by decide +kernel)
  have hreach : Store.twoStored.Reachable := ⟨_, rfl⟩
  have htext : "albumartist:nina" ++ " " ++ "title:o%" = "albumartist:nina title:o%" := by decide
  obtain ⟨-, -, -, -, heq⟩ := answers_append hreach h₁ h₂ .empty .empty .empty
  rw [htext] at heq
  exact ⟨hreach, q₁, q₂, h₁, h₂, by decide +kernel, heq (by decide)⟩

end Query

end MusicLibrary

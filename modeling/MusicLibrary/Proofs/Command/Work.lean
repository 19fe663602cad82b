import MusicLibrary.Command.Desk

/-!
# What work comes to

The outcome of work at a desk is its result and the desk as it is left. The outcome of a sequence is that of
its first part, followed by that of the second one on the desk that the first has left, unless the first
has failed. `forM_outcome` follows a loop with an invariant, up to its end or to the item at which it fails.
-/

namespace MusicLibrary.Command.Work

variable {α β : Type} {d d' : Desk}

/-- What work comes to at a desk: its result, and the desk as it is left. -/
def outcome (w : Work α) (d : Desk) : Except Failure α × Desk := (w.run d).run

theorem outcome_bind (w : Work α) (f : α → Work β) (d : Desk) :
    (w >>= f).outcome d = match w.outcome d with
      | (.ok a, d') => (f a).outcome d'
      | (.error e, d') => (.error e, d') := by
  unfold outcome
  simp only [bind, ExceptT.bind, ExceptT.mk, ExceptT.run, StateT.bind, ExceptT.bindCont]
  rcases w d with ⟨a | e, d'⟩ <;> rfl

theorem outcome_bind_of_ok {w : Work α} {f : α → Work β} {a : α} (h : w.outcome d = (.ok a, d')) :
    (w >>= f).outcome d = (f a).outcome d' := by
  rw [outcome_bind, h]

theorem outcome_bind_of_error {w : Work α} {f : α → Work β} {e : Failure}
    (h : w.outcome d = (.error e, d')) : (w >>= f).outcome d = (.error e, d') := by
  rw [outcome_bind, h]

@[simp] theorem outcome_pure (a : α) : outcome (pure a) d = (.ok a, d) := rfl

@[simp] theorem outcome_get : outcome get d = (.ok d, d) := rfl

@[simp] theorem outcome_say (line : String) :
    (say line).outcome d = (.ok (), { d with output := d.output ++ line ++ "\n" }) := rfl

@[simp] theorem outcome_setShelf (s : Shelf) : (setShelf s).outcome d = (.ok (), { d with shelf := s }) :=
  rfl

@[simp] theorem outcome_alter (f : Store → Shelf → Store) : (alter f).outcome d =
    (.ok (), { d with session := { d.session with working := f d.session.working d.shelf } }) := rfl

@[simp] theorem outcome_commit : commit.outcome d = (.ok (), { d with session := d.session.commit }) := rfl

theorem outcome_attempt_of_ok {f : Store → Shelf → Progress α}
    (h : (f d.session.working d.shelf).fault? = none) :
    (attempt f).outcome d = (.ok (f d.session.working d.shelf).value,
      { d with session := { d.session with working := (f d.session.working d.shelf).store } }) := by
  unfold attempt
  rw [outcome_bind_of_ok outcome_get]
  simp only [h]
  rfl

theorem outcome_attempt_of_fault {f : Store → Shelf → Progress α} {fault : Fault}
    (h : (f d.session.working d.shelf).fault? = some fault) :
    (attempt f).outcome d = (.error (.fault fault),
      { d with session := { d.session with working := (f d.session.working d.shelf).store } }) := by
  unfold attempt
  rw [outcome_bind_of_ok outcome_get]
  simp only [h]
  rfl

/-- A search that finds something leaves its albums on the shelf. -/
theorem outcome_find {query : String} {kind : Kind} {items : List Item} {s : Shelf}
    (h : Query.execute query kind d.session.working d.shelf = (items, s)) (hne : items ≠ []) :
    (find query kind).outcome d = (.ok items, { d with shelf := s }) := by
  cases items with
  | nil => exact absurd rfl hne
  | cons item items =>
    unfold find
    rw [outcome_bind_of_ok outcome_get, h]
    rfl

/-- A search that finds nothing fails. -/
theorem outcome_find_nil {query : String} {kind : Kind} {s : Shelf}
    (h : Query.execute query kind d.session.working d.shelf = ([], s)) :
    (find query kind).outcome d = (.error (.noMatch kind query), { d with shelf := s }) := by
  unfold find
  rw [outcome_bind_of_ok outcome_get, h]
  rfl

/-- A loop that keeps an invariant from item to item does so up to its end, or fails at one of them. -/
theorem forM_outcome {Inv : List α → Desk → Prop} {Failed : Desk → Prop} {f : α → Work Unit}
    (hstep : ∀ a as d, Inv (a :: as) d → (∃ d', (f a).outcome d = (.ok (), d') ∧ Inv as d') ∨
      ∃ e d', (f a).outcome d = (.error e, d') ∧ Failed d') {as : List α} (h : Inv as d) :
    (∃ d', (as.forM f).outcome d = (.ok (), d') ∧ Inv [] d') ∨
      ∃ e d', (as.forM f).outcome d = (.error e, d') ∧ Failed d' := by
  induction as generalizing d with
  | nil => exact .inl ⟨d, rfl, h⟩
  | cons a as ih =>
    have hforM : (a :: as).forM f = (f a >>= fun _ => as.forM f) := rfl
    rw [hforM]
    rcases hstep a as d h with ⟨d₁, hok, hinv⟩ | ⟨e, d₁, herror, hfailed⟩
    · rw [outcome_bind_of_ok hok]
      exact ih hinv
    · rw [outcome_bind_of_error herror]
      exact .inr ⟨e, d₁, rfl, hfailed⟩

end MusicLibrary.Command.Work

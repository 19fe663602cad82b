import MusicLibrary.Proofs.Path.Child

/-!
# The order of paths

Paths are ordered by their components, one after the other, and components by their kind and their bytes.
So two paths that go on from the same one compare as what they go on with, and come out equal only if the
names that they go on with have the same bytes.
-/

namespace MusicLibrary

open Std

/-! ## Components -/

instance : TransCmp Component.compare :=
  inferInstanceAs (TransCmp (compareLex (compareOn Component.rank)
    (compareOn fun c : Component => c.units.flatMap PathUnit.bytes)))

theorem Component.compare_name_eq {m n : List PathUnit} :
    (name m).compare (name n) = .eq ↔ nameBytes m = nameBytes n := by
  simp [Component.compare, rank, units, nameBytes]

namespace Path

theorem compareComponents_eq : compareComponents = List.compareLex Component.compare := by
  funext as bs
  induction as generalizing bs with
  | nil => cases bs <;> rfl
  | cons a as ih =>
    rcases bs with _ | ⟨b, bs⟩
    · rfl
    · rw [compareComponents, ih, List.compareLex_cons_cons]

instance : TransCmp compareComponents := compareComponents_eq ▸ inferInstance

instance : TransCmp Path.compare where
  eq_swap {p q} := @OrientedCmp.eq_swap _ compareComponents _ p.components q.components
  isLE_trans {p q r} := @TransCmp.isLE_trans _ compareComponents _ p.components q.components r.components

theorem compare_eq_of_components {p q : Path} (h : p.components = q.components) : p.compare q = .eq := by
  rw [compare, h]
  exact ReflCmp.compare_self

theorem compareComponents_append (front as bs : List Component) :
    compareComponents (front ++ as) (front ++ bs) = compareComponents as bs := by
  induction front with
  | nil => rfl
  | cons c front ih =>
    have hself : c.compare c = .eq := ReflCmp.compare_self
    rw [List.cons_append, List.cons_append, compareComponents, hself]
    exact ih

/-- Names that are told apart by their bytes are told apart by the order of paths. -/
theorem eq_of_compareComponents_names {as bs : List (List PathUnit)}
    (hbytes : ∀ m ∈ as, ∀ n ∈ bs, nameBytes m = nameBytes n → m = n)
    (h : compareComponents (as.map .name) (bs.map .name) = .eq) : as = bs := by
  induction as generalizing bs with
  | nil =>
    rcases bs with _ | ⟨b, bs⟩
    · rfl
    · cases h
  | cons a as ih =>
    rcases bs with _ | ⟨b, bs⟩
    · cases h
    · obtain ⟨hhead, htail⟩ := Ordering.then_eq_eq.1 h
      have hab : a = b := hbytes a (.head _) b (.head _) (Component.compare_name_eq.1 hhead)
      have hrest : as = bs := ih (fun m hm n hn => hbytes m (.tail _ hm) n (.tail _ hn)) htail
      rw [hab, hrest]

end Path

end MusicLibrary

import MusicLibrary.Text.Blank

/-!
# Genres

The genres of a track form a set of names, kept in ascending order of their characters.
-/

namespace MusicLibrary

/-- A set of genre names. -/
structure GenreSet where
  names : List String
  sorted : names.Pairwise (· < ·)
deriving DecidableEq

namespace GenreSet

def empty : GenreSet := ⟨[], .nil⟩

instance : Inhabited GenreSet := ⟨empty⟩

/-- Puts a name in its place of a sorted list. -/
def place (g : String) : List String → List String
  | [] => [g]
  | h :: rest => if g < h then g :: h :: rest else if h < g then h :: place g rest else h :: rest

theorem mem_place {g x : String} {names : List String} :
    x ∈ place g names ↔ x = g ∨ x ∈ names := by
  induction names with
  | nil => simp [place]
  | cons h rest ih =>
    unfold place
    split
    · simp
    · split
      · simp only [List.mem_cons, ih]
        grind
      · have : g = h := String.le_antisymm (String.not_lt.1 ‹_›) (String.not_lt.1 ‹_›)
        simp [this]

theorem place_sorted {g : String} {names : List String} (h : names.Pairwise (· < ·)) :
    (place g names).Pairwise (· < ·) := by
  induction names with
  | nil => simp [place]
  | cons a rest ih =>
    have ha := List.pairwise_cons.1 h
    unfold place
    split
    · refine List.pairwise_cons.2 ⟨?_, h⟩
      intro x hx
      rcases List.mem_cons.1 hx with rfl | hx
      · assumption
      · exact String.lt_trans ‹_› (ha.1 x hx)
    · split
      · refine List.pairwise_cons.2 ⟨?_, ih ha.2⟩
        intro x hx
        rcases mem_place.1 hx with rfl | hx
        · assumption
        · exact ha.1 x hx
      · exact h

/-- Adds a name to a set. -/
def insert (g : String) (s : GenreSet) : GenreSet := ⟨place g s.names, place_sorted s.sorted⟩

/-- The set of the names of a list. -/
def ofList (names : List String) : GenreSet := names.foldr insert empty

/-- The names of a set, joined for display. -/
def shown (s : GenreSet) : String := String.intercalate "; " s.names

def isEmpty (s : GenreSet) : Bool := s.names.isEmpty

@[simp] theorem mem_insert {g x : String} {s : GenreSet} :
    x ∈ (insert g s).names ↔ x = g ∨ x ∈ s.names := mem_place

@[simp] theorem mem_ofList {x : String} {names : List String} :
    x ∈ (ofList names).names ↔ x ∈ names := by
  induction names with
  | nil => simp [ofList, empty]
  | cons g rest ih =>
    show x ∈ (insert g (ofList rest)).names ↔ _
    simp [ih]

theorem nodup_names (s : GenreSet) : s.names.Nodup :=
  s.sorted.imp fun hlt => by
    rintro rfl
    exact String.lt_irrefl _ hlt

/-- Two sorted lists without repeats that hold the same names are equal. -/
theorem sorted_ext {xs ys : List String} (hx : xs.Pairwise (· < ·)) (hy : ys.Pairwise (· < ·))
    (h : ∀ g, g ∈ xs ↔ g ∈ ys) : xs = ys := by
  have hnx : xs.Nodup := hx.imp fun hab => by rintro rfl; exact String.lt_irrefl _ hab
  have hny : ys.Nodup := hy.imp fun hab => by rintro rfl; exact String.lt_irrefl _ hab
  have hp : xs.Perm ys := (List.perm_ext_iff_of_nodup hnx hny).2 h
  exact hp.eq_of_pairwise (fun a b _ _ hab hba => absurd hba (String.lt_asymm hab)) hx hy

@[ext] theorem ext {s t : GenreSet} (h : ∀ g, g ∈ s.names ↔ g ∈ t.names) : s = t := by
  obtain ⟨xs, hx⟩ := s
  obtain ⟨ys, hy⟩ := t
  cases sorted_ext hx hy h
  rfl

end GenreSet

/-- The genres of a tag such as `Hip Hop; East Coast`. -/
def splitGenres (value : String) : List String :=
  (((value.toList.splitOn ';').map Text.trim).filter fun g => !g.isEmpty).map .ofList

end MusicLibrary

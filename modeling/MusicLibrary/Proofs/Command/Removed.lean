import MusicLibrary.Proofs.Command.Work
import MusicLibrary.Proofs.Query.Removed

/-!
# What removing items comes to

Removing works on one found item after the other, each by the number that it was loaded with.
`removeItems_removes` says that this comes to removing all found items at once, which cannot fail, and that
the same query then finds nothing.
-/

namespace MusicLibrary.Command

open Work

variable {st : Store} {d : Desk} {kind : Kind} {item : Item} {items : List Item} {ids : List Int}
  {k : Int} {s : Shelf}

/-! ## Found items and their numbers -/

/-- An item of a kind tells a number. -/
def Tells (kind : Kind) (s : Shelf) (item : Item) (k : Int) : Prop :=
  item.kind = kind ∧ Query.numberOf? (item.content s) = some k

theorem kind_of_mem_loadItems (h : item ∈ (Query.loadItems st kind ids s).1) : item.kind = kind := by
  cases kind <;>
  · obtain ⟨_, -, rfl⟩ := List.mem_map.1 h
    rfl

/-- What a query finds is loaded with the numbers that it has found. -/
theorem tells_found (h : st.Consistent) (query : String) (kind : Kind) (s : Shelf) :
    let loaded := Query.loadItems st kind (Query.found query kind st) s
    List.Forall₂ (Tells kind loaded.2) loaded.1 (Query.found query kind st) := by
  intro loaded
  obtain ⟨js, hjs, hfound⟩ := Query.exists_sublist_found h query kind
  have hcontents := Query.contents_loadItems h hjs s
  rw [← hfound] at hcontents
  have hnums : loaded.1.map (fun item => Query.numberOf? (item.content loaded.2)) =
      (Query.found query kind st).map some := by
    calc loaded.1.map (fun item => Query.numberOf? (item.content loaded.2))
      _ = (loaded.1.map (Item.content loaded.2)).map Query.numberOf? := by
        rw [List.map_map]
        rfl
      _ = (js.map (JoinedRow.content st)).map Query.numberOf? := congrArg _ hcontents
      _ = (js.map JoinedRow.number).map some := by
        simp only [List.map_map, Function.comp_def, Query.numberOf?_content]
      _ = (Query.found query kind st).map some := by rw [hfound]
  rw [← List.forall₂_eq_eq_eq, List.forall₂_map_left_iff, List.forall₂_map_right_iff] at hnums
  exact (List.forall₂_and_left _ _).2 ⟨fun item hitem => kind_of_mem_loadItems hitem, hnums⟩

/-- Removing an item that tells a number removes what has that number. -/
theorem without_eq (h : st.Consistent) (hitem : Tells kind s item k) :
    without item st s = st.removing kind [k] := by
  obtain ⟨rfl, hk⟩ := hitem
  cases item with
  | track t =>
    have hid : t.id? = some k := hk
    show st.removeTrack t = _
    unfold Store.removeTrack
    rw [hid]
    exact Store.deleteTracks_eq h k
  | album a =>
    have hid : (a.info s).id? = some k := hk
    show st.removeAlbum s a = _
    unfold Store.removeAlbum
    rw [hid]
    exact Store.deleteAlbum_eq st k
  | extra e =>
    have hid : e.id? = some k := hk
    show st.removeExtra e = _
    unfold Store.removeExtra
    rw [hid]
    exact Store.deleteExtras_eq st k

/-! ## Removing one item after the other -/

/-- Removes an item and reports it. -/
def removeAndReport (item : Item) : Work Unit := do
  alter (without item)
  say ("Removed: " ++ item.shown (← get).shelf)

theorem removeItems_eq (query : String) (kind : Kind) : removeItems query kind =
    (find query kind >>= fun items => items.forM removeAndReport >>= fun _ => commit >>= fun _ =>
      say s!"\nCompleted: {counted items.length kind} removed") := rfl

theorem outcome_removeAndReport (h : d.session.working.Consistent) (hitem : Tells kind d.shelf item k) :
    (removeAndReport item).outcome d = (.ok (), { d with
      session := { d.session with working := d.session.working.removing kind [k] }
      output := d.output ++ ("Removed: " ++ item.shown d.shelf) ++ "\n" }) := by
  unfold removeAndReport
  rw [outcome_bind_of_ok (outcome_alter _), outcome_bind_of_ok outcome_get, outcome_say,
    without_eq h hitem]

/-- Removing items one after the other removes their numbers, and nothing else happens to the library. -/
theorem outcome_forM_removeAndReport (h : d.session.working.Consistent) (hs : d.shelf = s)
    (hitems : List.Forall₂ (Tells kind s) items ids) :
    ∃ output, (items.forM removeAndReport).outcome d = (.ok (), { d with
      session := { d.session with working := d.session.working.removing kind ids }, output }) := by
  induction hitems generalizing d with
  | nil => exact ⟨d.output, by rw [Store.removing_nil]; rfl⟩
  | @cons item k items ids hitem _ ih =>
    have hforM : (item :: items).forM removeAndReport =
        (removeAndReport item >>= fun _ => items.forM removeAndReport) := rfl
    have hone := outcome_removeAndReport h (hs ▸ hitem)
    obtain ⟨output, hrest⟩ := ih (d := { d with
      session := { d.session with working := d.session.working.removing kind [k] }
      output := d.output ++ ("Removed: " ++ item.shown d.shelf) ++ "\n" }) (h.removing kind [k]) hs
    refine ⟨output, ?_⟩
    rw [hforM, outcome_bind_of_ok hone, hrest, Store.removing_cons]

/-! ## Removing what is found -/

theorem outcome_listItems_of_found_eq_nil {query : String} (pathsOnly : Bool)
    (hfound : Query.found query kind d.session.working = []) :
    (listItems query kind pathsOnly).outcome d = (.error (.noMatch kind query), d) := by
  have hexecute : Query.execute query kind d.session.working d.shelf = ([], d.shelf) := by
    rw [Query.execute_eq, hfound]
    cases kind <;> rfl
  unfold listItems
  exact outcome_bind_of_error (outcome_find_nil hexecute)

/-- Removing what a query finds succeeds. It commits the store without exactly the found rows and what
refers to them, and listing what the same query finds then fails for there being nothing. -/
theorem removeItems_removes (h : st.Reachable) (query : String) (kind : Kind)
    (hd : d.session = .start st) (hfound : Query.found query kind st ≠ []) :
    let result := (removeItems query kind).outcome d
    let left := result.2.session.committed
    result.1 = .ok () ∧ left = st.removing kind (Query.found query kind st) ∧
      ∀ (pathsOnly : Bool) (d' : Desk), d'.session = .start left →
        (listItems query kind pathsOnly).outcome d' = (.error (.noMatch kind query), d') := by
  intro result left
  have hcon := h.consistent
  have htells := tells_found hcon query kind d.shelf
  have hexecute := Query.execute_eq query kind st d.shelf
  rcases hload : Query.loadItems st kind (Query.found query kind st) d.shelf with ⟨items, s⟩
  rw [hload] at htells hexecute
  have hne : items ≠ [] := by
    rintro rfl
    exact hfound (List.forall₂_nil_left_iff.1 htells)
  have hfind : (find query kind).outcome d = (.ok items, { d with shelf := s }) := by
    refine outcome_find ?_ hne
    rw [hd]
    exact hexecute
  have hworking : d.session.working = st := by rw [hd]; rfl
  obtain ⟨output, hloop⟩ := outcome_forM_removeAndReport (d := { d with shelf := s })
    (by rw [hworking]; exact hcon) rfl htells
  have hresult : result = (removeItems query kind).outcome d := rfl
  rw [removeItems_eq, outcome_bind_of_ok hfind, outcome_bind_of_ok hloop,
    outcome_bind_of_ok outcome_commit, outcome_say] at hresult
  have hleft : left = st.removing kind (Query.found query kind st) := by
    show result.2.session.committed = _
    rw [hresult, ← hworking]
    rfl
  refine ⟨by rw [hresult], hleft, ?_⟩
  intro pathsOnly d' hd'
  refine outcome_listItems_of_found_eq_nil pathsOnly ?_
  rw [hd', hleft]
  exact Query.found_removing_found hcon query kind

/-- An album goes with its members; the other album keeps the genre that they have in common. -/
theorem removeItems_removes_jazzNight :
    let st := (Session.after [.saveAlbum Store.nightAndDay Store.jazzNight,
      .saveAlbum Store.nightAndDay Store.jazzDay]).working
    let d : Desk := ⟨default, .start st, .empty, ""⟩
    let result := (removeItems "album:Night" .album).outcome d
    let left := result.2.session.committed
    let d' : Desk := ⟨default, .start left, .empty, ""⟩
    result.1 = .ok () ∧ left.albums.map (·.title) = ["Day"] ∧ left.tracks.map (·.title) = ["Two"] ∧
      left.extras.map (·.path) = ["/day/cover.jpg"] ∧
      left.trackGenres = [⟨2, "jazz"⟩, ⟨2, "waltz"⟩] ∧
      (listItems "album:Night" .album false).outcome d' =
        (.error (.noMatch .album "album:Night"), d') := by
  intro st d result left d'
  have hst : st.Reachable := ⟨_, rfl⟩
  have hfound : Query.found "album:Night" .album st = [1] := by decide +kernel
  obtain ⟨hok, hleft, hlist⟩ := removeItems_removes (d := d) hst "album:Night" .album rfl
    (by rw [hfound]; exact List.cons_ne_nil _ _)
  have hlisted := hlist false d' rfl
  rw [hfound] at hleft
  have hrows : left = st.removing .album [1] := hleft
  rw [hrows]
  exact ⟨hok, by decide +kernel, by decide +kernel, by decide +kernel, by decide +kernel, hlisted⟩

end MusicLibrary.Command

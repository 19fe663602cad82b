import MusicLibrary.Store.Basic

/-!
# Sessions

The work of a session goes on in a store of its own. Committing makes that store the lasting one;
rolling back returns to the lasting one, and numbers given since may then be given again.
-/

namespace MusicLibrary

/-- A session on a library. -/
structure Session where
  committed : Store
  working : Store
deriving Inhabited

namespace Session

/-- A session that has done nothing yet. -/
def start (st : Store) : Session := ⟨st, st⟩

def commit (s : Session) : Session := ⟨s.working, s.working⟩

def rollback (s : Session) : Session := ⟨s.committed, s.committed⟩

end Session

end MusicLibrary

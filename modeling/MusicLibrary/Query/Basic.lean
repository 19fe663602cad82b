import MusicLibrary.Item
import MusicLibrary.Query.Predicate
import MusicLibrary.Store.Load

/-!
# Queries

A query finds the items of a kind on which all its predicates hold, in the order of display. An
album is found if the predicates hold on it together with one of its tracks, or, if it has none, on
it alone. A text that is no query finds nothing.
-/

namespace MusicLibrary

/-- A query: all its predicates have to hold. -/
structure Query where
  kind : Kind
  predicates : List Predicate

namespace Query

/-- Reads the text of a query; the first word that is no term is what is reported. -/
def parse (text : String) (kind : Kind) : Except QueryFault Query := do
  let words ← Query.words text
  let predicates ← words.mapM fun w => do Predicate.ofTerm kind (← Term.parse w)
  return ⟨kind, predicates⟩

/-! ## Statements -/

/-- The start of the statement for a kind: what is selected. -/
def selection : Kind → String
  | .track => "SELECT t.id FROM tracks t JOIN albums a ON t.album_id = a.id"
  | .album =>
    "SELECT DISTINCT a.id, a.artist, a.title FROM albums a LEFT JOIN tracks t ON t.album_id = a.id"
  | .extra => "SELECT e.id FROM extras e JOIN albums a ON e.album_id = a.id"

/-- The end of the statement for a kind: the order of display. -/
def ordering : Kind → String
  | .track => " ORDER BY a.artist, a.title, t.disc, t.track_num, t.id"
  | .album => " ORDER BY a.artist, a.title, a.id"
  | .extra => " ORDER BY a.artist, a.title, e.filename, e.id"

/-- The conditions of a statement, each after the word that joins it to what stands before. -/
def conditions (word : String) : List Predicate → List Piece
  | [] => []
  | p :: rest => .text word :: p.pieces ++ conditions " AND " rest

/-- The statement that selects what a query finds. -/
def pieces (q : Query) : List Piece :=
  .text (selection q.kind) :: conditions " WHERE " q.predicates ++ [.text (ordering q.kind)]

/-- The statement as a text. -/
def sql (q : Query) : String := Piece.render q.pieces

/-! ## Searching -/

/-- Whether all predicates hold on joined rows. -/
def holds (q : Query) (st : Store) (j : JoinedRow) : Bool := q.predicates.all (·.holds st j)

/-- The tracks of a store, each with its album. -/
def trackRows (st : Store) : List (TrackRow × AlbumRow) :=
  st.tracks.filterMap fun t => (st.album? t.albumId).map (t, ·)

/-- The extras of a store, each with its album. -/
def extraRows (st : Store) : List (ExtraRow × AlbumRow) :=
  st.extras.filterMap fun e => (st.album? e.albumId).map (e, ·)

/-- An album with each of its tracks, or alone if it has none. -/
def albumRows (st : Store) (a : AlbumRow) : List JoinedRow :=
  match st.tracks.filter (·.albumId = a.id) with
  | [] => [⟨a, none, none⟩]
  | tracks => tracks.map fun t => ⟨a, some t, none⟩

/-- The order of albums: by artist, then by title. -/
def compareAlbums (a b : AlbumRow) : Ordering :=
  (compare a.artist b.artist).then (compare a.title b.title)

/-- The order in which tracks are displayed. -/
def compareTracks (p q : TrackRow × AlbumRow) : Ordering :=
  (compareAlbums p.2 q.2).then ((compare p.1.disc q.1.disc).then
    ((compare p.1.trackNum q.1.trackNum).then (compare p.1.id q.1.id)))

/-- The order in which extras are displayed. -/
def compareExtras (p q : ExtraRow × AlbumRow) : Ordering :=
  (compareAlbums p.2 q.2).then ((compare p.1.filename q.1.filename).then (compare p.1.id q.1.id))

/-- The numbers of the rows that a query finds, in the order of display. -/
def ids (q : Query) (st : Store) : List Int :=
  match q.kind with
  | .track =>
    (((trackRows st).filter fun (t, a) => q.holds st ⟨a, some t, none⟩).mergeSort
      fun p r => (compareTracks p r).isLE).map (·.1.id)
  | .album =>
    ((st.albums.filter fun a => (albumRows st a).any (q.holds st)).mergeSort
      fun a b => ((compareAlbums a b).then (compare a.id b.id)).isLE).map (·.id)
  | .extra =>
    (((extraRows st).filter fun (e, a) => q.holds st ⟨a, none, some e⟩).mergeSort
      fun p r => (compareExtras p r).isLE).map (·.1.id)

/-- Loads items of a kind by their numbers. -/
def loadItems (st : Store) (kind : Kind) (ids : List Int) (s : Shelf) : List Item × Shelf :=
  match kind with
  | .track => let (ts, s) := st.loadTracks ids s; (ts.map .track, s)
  | .album => let (as, s) := st.loadAlbums ids s; (as.map .album, s)
  | .extra => let (es, s) := st.loadExtras ids s; (es.map .extra, s)

/-- The items that a text finds as a query for a kind. -/
def execute (text : String) (kind : Kind) (st : Store) (s : Shelf) : List Item × Shelf :=
  match parse text kind with
  | .error _ => ([], s)
  | .ok q => loadItems st kind (q.ids st) s

end Query

end MusicLibrary

import MusicLibrary.Toml.Scalar

/-!
# Documents of TOML

Reading values that hold other values, and whole documents: lines with a key and its value, and
headers of tables.
-/

namespace MusicLibrary.Toml

/-- How deep values may be nested, and how many parts a key may have, less one. -/
def depthLimit : Nat := 79

/-! ## Keys -/

/-- Whether a character may stand in a key without quotes. -/
def isBare (c : Char) : Bool := c.isAlphanum || c = '_' || c = '-'

/-- Reads one part of a key. -/
def readPart? : List Char → Option (String × List Char)
  | '"' :: rest => readBasic? [] rest
  | '\'' :: rest => readLiteral? rest
  | cs =>
    let part := cs.takeWhile isBare
    if part.isEmpty then none else some (.ofList part, cs.drop part.length)

/-- Reads the parts of a key, with dots between them. -/
def readParts? (cs : List Char) : Option (List String × List Char) :=
  match readPart? (skipSpaces cs) with
  | none => none
  | some (part, rest) =>
    match skipSpaces rest with
    | '.' :: more =>
      if more.length < cs.length then (readParts? more).map fun p => (part :: p.1, p.2) else none
    | rest => some ([part], rest)
termination_by cs.length

/-- Reads a key: the parts before its last one, and the last one. -/
def readKey? (cs : List Char) : Option (List String × String × List Char) := do
  let (parts, rest) ← readParts? cs
  if depthLimit < parts.length then none else return (parts.dropLast, ← parts.getLast?, rest)

/-! ## Values -/

/-- Reads one of the words for truth. -/
def readBoolean? : List Char → Option (Value × List Char)
  | 't' :: 'r' :: 'u' :: 'e' :: rest => some (.boolean true, rest)
  | 'f' :: 'a' :: 'l' :: 's' :: 'e' :: rest => some (.boolean false, rest)
  | _ => none

mutual

/-- Reads a value that holds others down to a depth. -/
def readValue? (depth : Nat) (cs : List Char) : Option (Value × List Char) :=
  match depth, cs with
  | depth + 1, '[' :: rest =>
    (readItems? depth (skipTrivia rest)).map fun p => (.array p.1, p.2)
  | depth + 1, '\x7b' :: rest =>
    match skipSpaces rest with
    | '\x7d' :: rest => some (.table .inline [], rest)
    | rest => (readPairs? depth [] rest).map fun p => (.table .inline p.1, p.2)
  | 0, '[' :: _ | 0, '\x7b' :: _ => none
  | _, c :: rest =>
    if c = '"' ∨ c = '\'' then (readText? (c :: rest)).map fun p => (.text p.1, p.2)
    else if c = 't' ∨ c = 'f' then readBoolean? (c :: rest)
    else if c = 'i' ∨ c = 'n' then readFloat? (c :: rest)
    else readNumeric? (c :: rest)
  | _, [] => none
termination_by (2 * depth, 0)

/-- Reads the items of an array up to its closing bracket. -/
def readItems? (depth : Nat) (cs : List Char) : Option (List Value × List Char) :=
  if cs.head? = some ']' then some ([], cs.drop 1)
  else
    match readValue? depth cs with
    | none => none
    | some (v, rest) =>
      match skipTrivia rest with
      | ']' :: rest => some ([v], rest)
      | ',' :: rest =>
        if (skipTrivia rest).length < cs.length then
          (readItems? depth (skipTrivia rest)).map fun p => (v :: p.1, p.2)
        else none
      | _ => none
termination_by (2 * depth + 1, cs.length)

/-- Reads the pairs of a table in braces up to its closing brace. -/
def readPairs? (depth : Nat) (entries : Entries) (cs : List Char) : Option (Entries × List Char) :=
  match readKey? cs with
  | some (path, key, '=' :: rest) =>
    match readValue? depth (skipSpaces rest) with
    | none => none
    | some (v, rest) =>
      match entries.insert? path key v .inline with
      | none => none
      | some entries =>
        match skipSpaces rest with
        | '\x7d' :: rest => some (entries, rest)
        | ',' :: rest => if rest.length < cs.length then readPairs? depth entries rest else none
        | _ => none
  | _ => none
termination_by (2 * depth + 1, cs.length)

end

/-! ## Documents -/

/-- A document as far as it has been read: its table, and the keys to the table that is open. -/
structure Draft where
  root : Entries
  place : List String

namespace Draft

/-- Adds a value to the open table. -/
def insert? (d : Draft) (path : List String) (key : String) (v : Value) : Option Draft := do
  let root ← d.root.change? false (Entries.insert? path key v) d.place .header
  return { d with root := root }

end Draft

/-- Reads the rest of a line, which holds at most a comment. -/
def endLine? (cs : List Char) : Option (List Char) :=
  match skipComment (skipSpaces cs) with
  | [] => some []
  | rest => readNewline? rest

/-- Reads a header after its opening bracket. -/
def readHeader? (d : Draft) (cs : List Char) : Option (Draft × List Char) :=
  match cs with
  | '[' :: rest => do
    let (path, key, rest) ← readKey? rest
    match rest with
    | ']' :: ']' :: rest =>
      return (⟨← d.root.openElement? path key, path ++ [key]⟩, ← endLine? rest)
    | _ => none
  | rest => do
    let (path, key, rest) ← readKey? rest
    match rest with
    | ']' :: rest => return (⟨← d.root.openTable? path key, path ++ [key]⟩, ← endLine? rest)
    | _ => none

/-- Reads a key and its value. -/
def readEntry? (d : Draft) (cs : List Char) : Option (Draft × List Char) := do
  let (path, key, rest) ← readKey? cs
  match rest with
  | '=' :: rest =>
    let (v, rest) ← readValue? depthLimit (skipSpaces rest)
    return (← d.insert? path key v, ← endLine? rest)
  | _ => none

/-- Reads a line that is not empty. -/
def readLine? (d : Draft) (cs : List Char) : Option (Draft × List Char) :=
  match cs with
  | '#' :: _ | '\n' :: _ | '\r' :: _ => (endLine? cs).map (d, ·)
  | '[' :: rest => readHeader? d rest
  | _ => readEntry? d cs

/-- Reads the rest of a document. -/
def readDocument? (d : Draft) (cs : List Char) : Option Entries :=
  match skipSpaces cs with
  | [] => some d.root
  | c :: more =>
    match readLine? d (c :: more) with
    | none => none
    | some (d, rest) => if rest.length < cs.length then readDocument? d rest else none
termination_by cs.length

/-- The table of a document; a mark for the order of bytes may stand in front. -/
def parse? (text : String) : Option Entries :=
  match text.toList with
  | '\uFEFF' :: cs => readDocument? ⟨[], []⟩ cs
  | cs => readDocument? ⟨[], []⟩ cs

end MusicLibrary.Toml

import MusicLibrary.Pattern.Regex
import MusicLibrary.Unicode.Age
import MusicLibrary.Unicode.Folding
import MusicLibrary.Unicode.Segmentation

/-!
# Named classes of characters

The classes that an expression can ask for by name: digits, blanks and word characters, the classes
of ASCII characters, and the properties, categories, scripts, ages and breaks of Unicode.
-/

namespace MusicLibrary.Pattern

open Unicode

/-- All characters. -/
def everything : CodeSet := .range 0 CodeSet.top

/-- The set of the digits, blanks or word characters, by its letter in an escape. -/
def shortClass? (unicode : Bool) : Char → Option CodeSet
  | 'd' => some (if unicode then categoryNd else .range 0x30 0x39)
  | 's' => some (if unicode then whiteSpace else ⟨[(0x9, 0xD), (0x20, 0x20)]⟩)
  | 'w' => some (if unicode then wordSet else asciiWordSet)
  | _ => none

/-- The set of a class of ASCII characters. -/
def asciiClass? : List Char → Option CodeSet
  | ['a', 'l', 'n', 'u', 'm'] => some ⟨[(0x30, 0x39), (0x41, 0x5A), (0x61, 0x7A)]⟩
  | ['a', 'l', 'p', 'h', 'a'] => some ⟨[(0x41, 0x5A), (0x61, 0x7A)]⟩
  | ['a', 's', 'c', 'i', 'i'] => some ⟨[(0x0, 0x7F)]⟩
  | ['b', 'l', 'a', 'n', 'k'] => some ⟨[(0x9, 0x9), (0x20, 0x20)]⟩
  | ['c', 'n', 't', 'r', 'l'] => some ⟨[(0x0, 0x1F), (0x7F, 0x7F)]⟩
  | ['d', 'i', 'g', 'i', 't'] => some ⟨[(0x30, 0x39)]⟩
  | ['g', 'r', 'a', 'p', 'h'] => some ⟨[(0x21, 0x7E)]⟩
  | ['l', 'o', 'w', 'e', 'r'] => some ⟨[(0x61, 0x7A)]⟩
  | ['p', 'r', 'i', 'n', 't'] => some ⟨[(0x20, 0x7E)]⟩
  | ['p', 'u', 'n', 'c', 't'] => some ⟨[(0x21, 0x2F), (0x3A, 0x40), (0x5B, 0x60), (0x7B, 0x7E)]⟩
  | ['s', 'p', 'a', 'c', 'e'] => some ⟨[(0x9, 0xD), (0x20, 0x20)]⟩
  | ['u', 'p', 'p', 'e', 'r'] => some ⟨[(0x41, 0x5A)]⟩
  | ['w', 'o', 'r', 'd'] => some asciiWordSet
  | ['x', 'd', 'i', 'g', 'i', 't'] => some ⟨[(0x30, 0x39), (0x41, 0x46), (0x61, 0x66)]⟩
  | _ => none

/-! ## Names in Unicode -/

/-- Names are compared without spaces, hyphens, underscores and characters outside ASCII, in lower
case and without `is` in front. -/
def looseName (name : List Char) : String :=
  let squeeze (cs : List Char) : List Char :=
    (cs.filter fun c => c.toNat < 0x80 && !([' ', '_', '-'].contains c)).map Char.toLower
  match name with
  | a :: b :: rest =>
    if a.toLower = 'i' ∧ b.toLower = 's' then
      let cs := squeeze rest
      .ofList (if cs = ['c'] then ['i', 's', 'c'] else cs)
    else .ofList (squeeze name)
  | _ => .ofList (squeeze name)

/-- Names that are short for a category as well as for a property without a set. -/
def categoryFirst (name : String) : Bool := ["cf", "sc", "lc"].contains name

/-- The set of a property, a category or a script. -/
def namedSet? (name : List Char) : Option CodeSet :=
  let name := looseName name
  (if categoryFirst name then none else CodeSet.named? properties name).or
    ((CodeSet.named? categories name).or (CodeSet.named? scripts name))

/-- The properties that have sets for values, each with its names and its values. -/
def valuedProperties : List (List String × List (List String × CodeSet)) :=
  [(["gc", "generalcategory"], categories),
   (["sc", "script"], scripts),
   (["scx", "scriptextensions"], scriptExtensions),
   (["gcb", "graphemeclusterbreak"], clusterBreaks),
   (["wb", "wordbreak"], wordBreaks),
   (["sb", "sentencebreak"], sentenceBreaks)]

/-- The set of the characters whose property has a value; for an age, of those that are at least as
old. -/
def valueSet? (property value : List Char) : Option CodeSet :=
  let property := looseName property
  let value := looseName value
  if property = "age" then versionSet? value versions
  else
    (valuedProperties.find? fun entry => entry.1.contains property).bind fun entry =>
      CodeSet.named? entry.2 value

/-- The parts of a list before and after the first occurrence of a part. -/
def cutAt? (mark : List Char) : List Char → Option (List Char × List Char)
  | [] => none
  | c :: rest =>
    if mark.isPrefixOf (c :: rest) then some ([], (c :: rest).drop mark.length)
    else (cutAt? mark rest).map fun p => (c :: p.1, p.2)

/-- The set that a name in braces asks for: a property, or a property with its value. -/
def bracedSet? (text : List Char) : Option CodeSet :=
  match ((cutAt? ['!', '='] text).or (cutAt? [':'] text)).or (cutAt? ['='] text) with
  | some (property, value) => valueSet? property value
  | none => namedSet? text

/-- Adds to a set what differs in case alone, among all characters or among those of ASCII. -/
def foldSet (unicode : Bool) (s : CodeSet) : CodeSet :=
  if unicode then foldCase s
  else
    let lower := (s.inter (.range 0x41 0x5A)).ranges.map fun r => (r.1 + 32, r.2 + 32)
    let upper := (s.inter (.range 0x61 0x7A)).ranges.map fun r => (r.1 - 32, r.2 - 32)
    ⟨s.ranges ++ lower ++ upper⟩

end MusicLibrary.Pattern

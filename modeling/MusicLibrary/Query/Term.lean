import MusicLibrary.Query.Fault
import MusicLibrary.Text.Blank
import MusicLibrary.Text.Words
import MusicLibrary.Unicode.LowerCase

/-!
# Terms of queries

A query is a list of words as in a shell. Each word is a term: the name of a field, a separator and
a value. After a single colon the value is a pattern with wildcards, after a double one a regular
expression.
-/

namespace MusicLibrary

/-- How a value is compared. -/
inductive Separator where
  | like
  | regex
deriving DecidableEq, Inhabited, Repr

/-- The text of a separator. -/
def Separator.text : Separator → String
  | like => ":"
  | regex => "::"

/-- A term of a query. -/
structure Term where
  /-- the name of a field in lower case -/
  field : String
  separator : Separator
  /-- the value as written -/
  value : String
deriving DecidableEq, Inhabited, Repr

namespace Query

/-- The words of a query. A query without words is refused, and so is one with a comment. -/
def words (text : String) : Except QueryFault (List String) :=
  let cs := text.toList
  if Text.opensComment .gap cs then .error (.comment text)
  else
    match Text.words? cs with
    | none => .error (.unbalanced text)
    | some [] => .error .empty
    | some ws => .ok (ws.map .ofList)

end Query

namespace Term

/-- The separator and the value after the first colon of a term. -/
def splitValue : List Char → Separator × List Char
  | ':' :: value => (.regex, value)
  | value => (.like, value)

/-- Reads a term. The field goes up to the first colon and holds no blank; the value starts with
something else than a blank. -/
def parse (word : String) : Except QueryFault Term :=
  match Text.cut? ':' (Text.trimLeft word.toList) with
  | none => .error (.malformed word)
  | some (field, rest) =>
    let (separator, value) := splitValue rest
    if field.isEmpty || field.any Text.isBlank then .error (.malformed word)
    else if (value.head?.map fun c => !Text.isBlank c).getD false then
      .ok ⟨lowerCase (.ofList field), separator, .ofList value⟩
    else .error (.malformed word)

end Term

end MusicLibrary

import MusicLibrary.Kind

/-!
# Faults of queries

Why the text of a query is refused.
-/

namespace MusicLibrary

/-- Why a query is refused. -/
inductive QueryFault where
  /-- a quote is left open, or a backslash ends the text -/
  | unbalanced (query : String)
  /-- a hash mark would turn the rest of a line into a comment -/
  | comment (query : String)
  | empty
  | malformed (term : String)
  | unknownField (field : String) (kind : Kind)
  | invalidRegex (pattern : String)
  | danglingEscape (value : String)
deriving DecidableEq, Inhabited, Repr

namespace QueryFault

/-- The words for a refused query. -/
def message : QueryFault → String
  | unbalanced query => s!"Unbalanced quotes in query: {query}"
  | comment query => s!"Unquoted '#' at the start of a word in query: {query}"
  | empty => "Empty query"
  | malformed term => s!"Invalid query term '{term}': expected <field>:<value> or <field>::<value>"
  | unknownField field kind => s!"Unknown {kind.name} field '{field}'"
  | invalidRegex pattern => s!"Invalid regular expression '{pattern}'"
  | danglingEscape value => s!"Dangling escape character at end of '{value}'"

end QueryFault

end MusicLibrary

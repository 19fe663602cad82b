import MusicLibrary.Command.Invocation
import MusicLibrary.Text.Blank

/-!
# Reading command lines

A command line is read word by word. Options may stand among the other words; after two hyphens
alone, every word stands for itself. An option that takes a value has it in the same word or in the
next one, which must not look like an option. What has been read last is pending and counts only
when something else is read: then values are checked.
-/

namespace MusicLibrary.Command

/-- What a word looks like. -/
inductive Look where
  /-- two hyphens alone -/
  | stop
  /-- a long name, perhaps with a value behind an equals sign -/
  | long (name : Word) (value? : Option Word)
  /-- letters of options, perhaps with the value of the last one -/
  | letters (cs : Word)
  | word
deriving DecidableEq, Repr

def Look.of : Word → Look
  | ['-', '-'] => .stop
  | '-' :: '-' :: cs =>
    match Text.cut? '=' cs with
    | some (name, value) => .long name (some value)
    | none => .long cs none
  | ['-'] => .word
  | '-' :: cs => .letters cs
  | _ => .word

/-- What has been given at a level of a command line. -/
structure Given where
  flags : List Switch
  config? : Option Word
  edits : List Word
  words : List Word
deriving DecidableEq, Inhabited, Repr

/-- What has been read but does not count yet. -/
inductive Pending where
  /-- an option that takes a value -/
  | value (s : Switch) (value? : Option Word)
  | words (ws : List Word)
deriving DecidableEq, Repr

/-- How far a level of a command line has been read. -/
structure Reading where
  given : Given
  pending? : Option Pending
  /-- whether the options have been stopped -/
  stopped : Bool
deriving DecidableEq, Inhabited, Repr

namespace Given

/-- Gives a value to an option; only assignments may be repeated, and no file has an empty name. -/
def assign (g : Given) (s : Switch) (value : Word) : Except UsageFault Given :=
  if s = .assign then .ok { g with edits := g.edits ++ [value] }
  else if g.config?.isSome then .error .conflict
  else if value.isEmpty then .error .badValue
  else .ok { g with config? := some value }

/-- Gives an option without a value. -/
def raise (g : Given) (s : Switch) : Except UsageFault Given :=
  match s with
  | .help => .error .help
  | .version => .error .version
  | s => if g.flags.contains s then .error .conflict else .ok { g with flags := s :: g.flags }

def isEmpty (g : Given) : Bool :=
  g.flags.isEmpty && g.config?.isNone && g.edits.isEmpty && g.words.isEmpty

end Given

namespace Reading

def start : Reading := ⟨⟨[], none, [], []⟩, none, false⟩

/-- The option that waits for its value. -/
def awaiting? (r : Reading) : Option Switch :=
  match r.pending? with
  | some (.value s none) => some s
  | _ => none

/-- Lets what is pending count. The words of a command that adds files name files. -/
def settle (name? : Option Name) (r : Reading) : Except UsageFault Reading :=
  match r.pending? with
  | none => .ok r
  | some (.value _ none) => .error .badValue
  | some (.value s (some value)) => do
    return { r with given := ← r.given.assign s value, pending? := none }
  | some (.words ws) =>
    if name? = some .add && ws.any List.isEmpty then .error .badValue
    else .ok { r with given := { r.given with words := r.given.words ++ ws }, pending? := none }

/-- Reads an option without a value. -/
def flag (name? : Option Name) (s : Switch) (r : Reading) : Except UsageFault Reading := do
  let r ← r.settle name?
  return { r with given := ← r.given.raise s }

/-- Reads an option that takes a value, which may be in the same word. -/
def option (name? : Option Name) (s : Switch) (value? : Option Word) (r : Reading) :
    Except UsageFault Reading := do
  let r ← r.settle name?
  match value? with
  | some value => return { r with given := ← r.given.assign s value }
  | none => return { r with pending? := some (.value s none) }

/-- Reads the long name of an option. -/
def long (name? : Option Name) (name : Word) (value? : Option Word) (r : Reading) :
    Except UsageFault Reading :=
  match (switches name?).find? (·.long.toList = name) with
  | none => .error .unknownOption
  | some s =>
    if s.takesValue then r.option name? s value?
    else if value?.isSome then .error .excessValue
    else r.flag name? s

/-- Reads letters of options. Behind the letter of an option that takes a value stands the value,
perhaps after an equals sign. -/
def letters (name? : Option Name) (r : Reading) : Word → Except UsageFault Reading
  | [] => .ok r
  | c :: rest =>
    match (switches name?).find? (·.letter = c) with
    | none => .error .unknownOption
    | some s =>
      if s.takesValue then
        match rest with
        | [] => r.option name? s none
        | '=' :: value => r.option name? s (some value)
        | value => r.option name? s (some value)
      else do (← r.flag name? s).letters name? rest

/-- Reads a word that stands for itself. In front of the command there is room for none. -/
def word (name? : Option Name) (w : Word) (r : Reading) : Except UsageFault Reading :=
  match name? with
  | none =>
    if r.stopped && (w = helpWord || (Name.ofWord? w).isSome) then .error .unknownOption
    else .error .unknownCommand
  | some _ =>
    match r.pending? with
    | some (.words ws) => .ok { r with pending? := some (.words (ws ++ [w])) }
    | _ => do
      let r ← r.settle name?
      return { r with pending? := some (.words [w]) }

/-- Reads a word. -/
def read (name? : Option Name) (r : Reading) (w : Word) : Except UsageFault Reading :=
  if r.stopped then r.word name? w
  else
    match Look.of w with
    | .stop => .ok { r with stopped := true }
    | .long name value? => r.long name? name value?
    | .letters cs => r.letters name? cs
    | .word =>
      match r.awaiting? with
      | some s => .ok { r with pending? := some (.value s (some w)) }
      | none => r.word name? w

/-- Reads what stands in front of the command, up to its name. -/
def front (r : Reading) : List Word → Except UsageFault (Reading × Option (Name × List Word))
  | [] => .ok (r, none)
  | w :: rest =>
    if r.stopped || r.awaiting?.isSome then do (← r.read none w).front rest
    else if w = helpWord then
      match rest with
      | [] => .error .help
      | [name] =>
        if name = helpWord || (Name.ofWord? name).isSome then .error .help
        else .error .unknownCommand
      | _ => .error .unknownCommand
    else
      match Name.ofWord? w with
      | some name => .ok (r, some (name, rest))
      | none => do (← r.read none w).front rest

end Reading

namespace Given

/-- The kind of items that options select. -/
def kind (g : Given) : Kind :=
  if g.flags.contains .album then .album else if g.flags.contains .extra then .extra else .track

/-- An action for which everything has to be there. -/
def needing (present : Bool) (a : Action) : Except UsageFault Action :=
  if present then .ok a else .error .missing

/-- What a command is asked to do. -/
def action (g : Given) (name : Name) : Except UsageFault Action :=
  if g.flags.contains .album && g.flags.contains .extra then .error .conflict
  else
    let asked := !g.words.isEmpty
    match name with
    | .add => .ok (.add (g.words.map fun w => .ofText (.ofList w)))
    | .list => needing asked (.list g.words g.kind (g.flags.contains .path))
    | .info => needing asked (.info g.words g.kind)
    | .edit => needing (asked && !g.edits.isEmpty) (.edit g.words g.edits g.kind)
    | .remove => needing asked (.remove g.words g.kind)

end Given

/-- Reads a command line. The command is in order before the options in front of it are; a
configuration named behind the command counts more than one named in front of it. -/
def Invocation.parse (args : List Word) : Except UsageFault Invocation := do
  let (r, command?) ← Reading.start.front args
  match command? with
  | none =>
    let r ← r.settle none
    throw (if r.given.isEmpty then .nothingGiven else .noCommand)
  | some (name, rest) =>
    let s ← (← rest.foldlM (Reading.read (some name)) Reading.start).settle (some name)
    let action ← s.given.action name
    let r ← r.settle none
    return ⟨(s.given.config?.or r.given.config?).map fun w => .ofText (.ofList w), action⟩

end MusicLibrary.Command

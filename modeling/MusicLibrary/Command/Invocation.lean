import MusicLibrary.Kind
import MusicLibrary.Path.Basic

/-!
# Invocations

What a command line asks for. A command line has two levels: in front of the name of a command there
are options for all commands, behind it the words and options of that command.
-/

namespace MusicLibrary.Command

/-- A word of a command line. -/
abbrev Word := List Char

/-- What a command line asks for. -/
inductive Action where
  /-- adds files and directories, or else the directory of the configuration -/
  | add (paths : List Path)
  /-- lists items, or only their paths -/
  | list (query : List Word) (kind : Kind) (pathsOnly : Bool)
  /-- lists all fields of items -/
  | info (query : List Word) (kind : Kind)
  /-- assigns values to fields of items -/
  | edit (query : List Word) (edits : List Word) (kind : Kind)
  /-- removes items from the library -/
  | remove (query : List Word) (kind : Kind)

/-- A command line that makes sense. -/
structure Invocation where
  /-- the file of the configuration, if it is named -/
  config? : Option Path
  action : Action

/-- Why a command line is not carried out. -/
inductive UsageFault where
  /-- help is asked for -/
  | help
  /-- the version is asked for -/
  | version
  /-- nothing at all is given -/
  | nothingGiven
  | noCommand
  | unknownCommand
  | unknownOption
  /-- options that exclude each other, or one that is repeated -/
  | conflict
  /-- a value is missing or empty -/
  | badValue
  /-- a word or an option of the command is missing -/
  | missing
  /-- a value for an option that takes none -/
  | excessValue
deriving DecidableEq, Inhabited, Repr

/-- The words for a command line that is not carried out. -/
def UsageFault.message : UsageFault → String
  | help => "usage: [--config FILE] [--verbose] add | ls | info | edit | rm"
  | version => "tunekeeper"
  | nothingGiven => "a command is needed: add, ls, info, edit or rm"
  | noCommand => "a command is missing"
  | unknownCommand => "no such command"
  | unknownOption => "no such option"
  | conflict => "options that exclude each other"
  | badValue => "a value is missing or empty"
  | missing => "the query or an assignment is missing"
  | excessValue => "a value for an option that takes none"

/-! ## Names -/

/-- The commands. -/
inductive Name where
  | add
  | list
  | info
  | edit
  | remove
deriving DecidableEq, Inhabited, Repr

/-- The command that a word names. -/
def Name.ofWord? (w : Word) : Option Name :=
  match String.ofList w with
  | "add" => some .add
  | "ls" | "list" => some .list
  | "info" => some .info
  | "edit" => some .edit
  | "rm" | "remove" => some .remove
  | _ => none

/-- The word that asks for help where a command would be named. -/
def helpWord : Word := ['h', 'e', 'l', 'p']

/-- The options. -/
inductive Switch where
  | config
  | verbose
  | help
  | version
  | album
  | extra
  | path
  | assign
deriving DecidableEq, Inhabited, Repr

namespace Switch

/-- The letter of an option. -/
def letter : Switch → Char
  | config => 'c'
  | verbose => 'v'
  | help => 'h'
  | version => 'V'
  | album => 'a'
  | extra => 'e'
  | path => 'p'
  | assign => 's'

/-- The long name of an option. -/
def long : Switch → String
  | config => "config"
  | verbose => "verbose"
  | help => "help"
  | version => "version"
  | album => "album"
  | extra => "extra"
  | path => "path"
  | assign => "set"

/-- Whether an option takes a value. -/
def takesValue : Switch → Bool
  | config | assign => true
  | _ => false

end Switch

/-- The options at a level of a command line: in front of the command, or behind it. -/
def switches : Option Name → List Switch
  | none => [.config, .verbose, .help, .version]
  | some .add => [.config, .verbose, .help]
  | some .list => [.config, .verbose, .help, .album, .extra, .path]
  | some .info | some .remove => [.config, .verbose, .help, .album, .extra]
  | some .edit => [.config, .verbose, .help, .album, .extra, .assign]

end MusicLibrary.Command

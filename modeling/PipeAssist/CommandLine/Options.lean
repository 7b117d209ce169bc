import PipeAssist.Text.Digits

/-!
# Options of the command line

The options that every command knows and those that only some of them know, with the values given to
them. An option is given at most once for a command.
-/

set_option autoImplicit false

namespace PipeAssist.CommandLine

/-- What is wrong with a command line. -/
inductive Misuse where
  | unknownArgument
  | unknownCommand
  | missingArgument
  /-- An option without its value, or with an empty path. -/
  | emptyValue
  | invalidNumber
  | repeatedOption
  /-- A value for an option that takes none. -/
  | unwantedValue
deriving DecidableEq, Repr

/-- Why a command line asks for no work to be done. -/
inductive Stop where
  | help
  | version
  | misuse (kind : Misuse)
deriving DecidableEq, Repr

/-- The commands that are given by name. -/
inductive CommandName where
  | complete
  | catalog
  | repl
  | completion
deriving DecidableEq, Repr

namespace CommandName

/-- The name of a command. -/
def name : CommandName → String
  | .complete => "complete"
  | .catalog => "catalog"
  | .repl => "repl"
  | .completion => "completion"

/-- All commands. -/
def all : List CommandName := [.complete, .catalog, .repl, .completion]

/-- The command of a name. -/
def ofName? (name : String) : Option CommandName := all.find? fun command => command.name = name

end CommandName

/-- The options that take a value. -/
inductive ValuedOption where
  | settings
  | catalog
  | format
  | detail
deriving DecidableEq, Repr

/-- The options that take no value and can be given once. -/
inductive Switch where
  | noColor
  | verbose
  | veryVerbose
deriving DecidableEq, Repr

/-- What an option stands for. -/
inductive Meaning where
  | valued (option : ValuedOption)
  | switch (switch : Switch)
  | help
  | version
deriving DecidableEq, Repr

/-- The options that are known everywhere, by their long names. -/
def sharedNames : List (String × Meaning) :=
  [("config", .valued .settings), ("catalog", .valued .catalog), ("format", .valued .format),
   ("no-color", .switch .noColor), ("verbose", .switch .verbose), ("vv", .switch .veryVerbose),
   ("help", .help)]

/-- The options known to a command, by their long names; `none` stands for the part of the command
line before a command. -/
def longNames : Option CommandName → List (String × Meaning)
  | none => ("version", .version) :: sharedNames
  | some .complete => ("detail", .valued .detail) :: sharedNames
  | some _ => sharedNames

/-- The options known to a command, by their letters. -/
def letters (command : Option CommandName) : List (Char × Meaning) :=
  let shared := [('c', .valued .settings), ('v', .switch .verbose), ('h', .help)]
  if command = none then ('V', .version) :: shared else shared

/-- The options that were given, with their values. -/
structure Given where
  settings : Option String := none
  catalog : Option String := none
  format : Option String := none
  detail : Option Nat := none
  noColor : Bool := false
  verbose : Bool := false
  veryVerbose : Bool := false
deriving DecidableEq, Repr

/-- A path, which must not be empty. -/
def readPath (value : String) : Except Stop String :=
  if value = "" then .error (.misuse .emptyValue) else .ok value

/-- A natural number of at most 64 bits, which may have a plus sign. -/
def readNumber (value : String) : Except Stop Nat :=
  let digits :=
    match value.toList with
    | '+' :: rest => rest
    | text => text
  match Text.ofDigits? 10 digits with
  | some number =>
    if digits ≠ [] && number < Text.wordLimit then .ok number else .error (.misuse .invalidNumber)
  | none => .error (.misuse .invalidNumber)

/-- The value of an option that must not have one yet. -/
def once {α : Type} (before : Option α) (value : Except Stop α) : Except Stop (Option α) :=
  if before.isSome then .error (.misuse .repeatedOption) else value.map some

namespace Given

/-- Gives an option its value. -/
def put (given : Given) (option : ValuedOption) (value : String) : Except Stop Given :=
  match option with
  | .settings => return { given with settings := ← once given.settings (readPath value) }
  | .catalog => return { given with catalog := ← once given.catalog (readPath value) }
  | .format => return { given with format := ← once given.format (.ok value) }
  | .detail => return { given with detail := ← once given.detail (readNumber value) }

/-- Whether a switch is on. -/
def isOn (given : Given) : Switch → Bool
  | .noColor => given.noColor
  | .verbose => given.verbose
  | .veryVerbose => given.veryVerbose

/-- Turns a switch on. -/
def turnOn (given : Given) : Switch → Given
  | .noColor => { given with noColor := true }
  | .verbose => { given with verbose := true }
  | .veryVerbose => { given with veryVerbose := true }

/-- What is given inside a command wins over what is given before it. -/
def within (outer inner : Given) : Given where
  settings := inner.settings <|> outer.settings
  catalog := inner.catalog <|> outer.catalog
  format := inner.format <|> outer.format
  detail := inner.detail <|> outer.detail
  noColor := inner.noColor || outer.noColor
  verbose := inner.verbose || outer.verbose
  veryVerbose := inner.veryVerbose || outer.veryVerbose

end Given

end PipeAssist.CommandLine

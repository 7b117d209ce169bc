import PipeAssist.CommandLine.Options

/-!
# Arguments of the command line

A command line is read argument by argument. It has one part before the command and one for the
command, each with options of its own and at most one word. The value of an option is kept pending
until the next option, the word or the end, and only then checked; so an argument that is out of
place is reported before a bad value in front of it, and a command before the part that precedes it.
-/

set_option autoImplicit false

namespace PipeAssist.CommandLine

/-- The form of an argument. -/
inductive Form where
  /-- Two dashes: all that follows are words. -/
  | divider
  /-- A long option, with the value behind its equals sign if it has one. -/
  | long (name : String) (value : Option String)
  /-- A dash and letters. -/
  | short (letters : Text)
  | plain
deriving DecidableEq, Repr

/-- The part of a text before its first equals sign, and the part after it if there is one. -/
def splitEquals : Text → Text × Option Text
  | [] => ([], none)
  | c :: rest =>
    if c = '=' then ([], some rest)
    else
      let (name, value) := splitEquals rest
      (c :: name, value)

/-- The form of an argument. -/
def Form.of (argument : String) : Form :=
  match argument.toList with
  | ['-', '-'] => .divider
  | '-' :: '-' :: rest =>
    let (name, value) := splitEquals rest
    .long (Text.str name) (value.map Text.str)
  | '-' :: c :: rest => .short (c :: rest)
  | _ => .plain

/-- An option whose value is not checked yet. -/
structure Pending where
  option : ValuedOption
  /-- The value, if it was read already. -/
  value : Option String := none
deriving DecidableEq, Repr

/-- The state of reading one part of a command line. -/
structure Part where
  /-- The command of this part; none before the command. -/
  command : Option CommandName
  given : Given := {}
  pending : Option Pending := none
  /-- The word of the command. -/
  word : Option String := none
  /-- Whether a divider was read. -/
  divided : Bool := false
deriving DecidableEq, Repr

namespace Part

/-- Refuses the command line. -/
def refuse {α : Type} (misuse : Misuse) : Except Stop α := .error (.misuse misuse)

/-- Whether the next argument is the value of an option. -/
def awaitsValue (part : Part) : Bool := part.pending.any fun pending => pending.value.isNone

/-- Whether the command takes a word. -/
def takesWord (part : Part) : Bool :=
  part.command = some .complete || part.command = some .completion

/-- Whether an argument of the form of an option can be the word: the text to complete, as long as
there is none. -/
def mayBeWord (part : Part) : Bool := part.command = some .complete && part.word.isNone

/-- The meaning of a long name. -/
def long? (part : Part) (name : String) : Option Meaning := (longNames part.command).lookup name

/-- The meaning of a letter. -/
def letter? (part : Part) (letter : Char) : Option Meaning := (letters part.command).lookup letter

/-- Checks the pending value and takes it. -/
def settle (part : Part) : Except Stop Part :=
  match part.pending with
  | none => .ok part
  | some ⟨_, none⟩ => refuse .emptyValue
  | some ⟨option, some value⟩ => do
    let given ← part.given.put option value
    return { part with given := given, pending := none }

/-- Takes an option whose value is the next argument. -/
def await (part : Part) (option : ValuedOption) : Except Stop Part := do
  let part ← part.settle
  return { part with pending := some { option := option } }

/-- Takes an option together with its value. -/
def putValue (part : Part) (option : ValuedOption) (value : String) : Except Stop Part := do
  let part ← part.settle
  let given ← part.given.put option value
  return { part with given := given }

/-- Takes a switch. -/
def putSwitch (part : Part) (switch : Switch) : Except Stop Part := do
  let part ← part.settle
  if part.given.isOn switch then refuse .repeatedOption
  else return { part with given := part.given.turnOn switch }

/-- Stops, unless the pending value is at fault. -/
def interrupt (part : Part) (stop : Stop) : Except Stop Part := do
  let _ ← part.settle
  .error stop

/-- Takes an option by its long name. -/
def takeLong (part : Part) (meaning : Meaning) (value : Option String) : Except Stop Part :=
  match meaning, value with
  | .valued option, some value => part.putValue option value
  | .valued option, none => part.await option
  | _, some _ => refuse .unwantedValue
  | .switch switch, none => part.putSwitch switch
  | .help, none => part.interrupt .help
  | .version, none => part.interrupt .version

/-- Takes options by their letters. What follows the letter of an option with a value is its value,
after an optional equals sign. -/
def takeLetters (part : Part) : Text → Except Stop Part
  | [] => .ok part
  | letter :: rest =>
    match part.letter? letter with
    | none => refuse .unknownArgument
    | some (.valued option) =>
      match rest with
      | [] => part.await option
      | '=' :: value => part.putValue option (Text.str value)
      | value => part.putValue option (Text.str value)
    | some (.switch switch) =>
      match part.putSwitch switch with
      | .ok part => part.takeLetters rest
      | .error stop => .error stop
    | some .help => part.interrupt .help
    | some .version => part.interrupt .version

/-- Takes an argument as the word. Before the command no word can stand; behind a divider not even a
command can. -/
def takeWord (part : Part) (argument : String) : Except Stop Part :=
  if part.takesWord && part.word.isNone then do
    let part ← part.settle
    return { part with word := some argument }
  else if part.command.isSome then refuse .unknownArgument
  else if part.divided && (argument = "help" || (CommandName.ofName? argument).isSome) then
    refuse .unknownArgument
  else refuse .unknownCommand

/-- Takes an argument that is no option. -/
def takePlain (part : Part) (argument : String) : Except Stop Part :=
  match part.pending with
  | some ⟨option, none⟩ => .ok { part with pending := some ⟨option, some argument⟩ }
  | _ => part.takeWord argument

/-- Takes an argument. -/
def take (part : Part) (argument : String) : Except Stop Part :=
  if part.divided then part.takeWord argument
  else
    match Form.of argument with
    | .divider => .ok { part with divided := true }
    | .long name value =>
      match part.long? name with
      | some meaning => part.takeLong meaning value
      | none => if part.mayBeWord then part.takePlain argument else refuse .unknownArgument
    | .short letters =>
      if part.mayBeWord && letters.any fun letter => (part.letter? letter).isNone then
        part.takePlain argument
      else part.takeLetters letters
    | .plain => part.takePlain argument

/-- Takes arguments one after the other. -/
def takeAll (part : Part) (arguments : List String) : Except Stop Part := arguments.foldlM take part

/-- Checks a part of which all arguments were taken. -/
def finish (part : Part) : Except Stop Part := do
  let part ← part.settle
  if part.takesWord && part.word.isNone then refuse .missingArgument else return part

end Part

/-- What a command line asks for. -/
inductive Action where
  /-- Proposals for a text, with the greatest number of them if it is given. -/
  | complete (text : Text) (detail : Option Nat)
  | catalog
  | repl
  /-- The script by which a shell completes this program's own command line. -/
  | completion (shell : String)
deriving DecidableEq, Repr

/-- A command line. -/
structure Arguments where
  given : Given := {}
  action : Option Action := none
deriving DecidableEq, Repr

/-- The action of a command with its word and its options. -/
def CommandName.action (command : CommandName) (word : String) (given : Given) : Action :=
  match command with
  | .complete => .complete word.toList given.detail
  | .catalog => .catalog
  | .repl => .repl
  | .completion => .completion word

namespace Arguments

/-- Why the word `help` stops the reading: it asks for help on a command, if the words after it name
one. -/
def helpOn : List String → Stop
  | [] => .help
  | [name] =>
    if name = "help" || (CommandName.ofName? name).isSome then .help else .misuse .unknownCommand
  | _ => .misuse .unknownCommand

/-- Reads the arguments of a command and then checks the part before it. -/
def readCommand (outer : Part) (command : CommandName) (arguments : List String) :
    Except Stop Arguments := do
  let inner ← ({ command := some command } : Part).takeAll arguments
  let inner ← inner.finish
  let outer ← outer.finish
  let given := outer.given.within inner.given
  return ⟨given, some (command.action (inner.word.getD "") given)⟩

/-- Reads the arguments from the part before the command on. -/
def readFrom (outer : Part) : List String → Except Stop Arguments
  | [] => do
    let outer ← outer.finish
    return ⟨outer.given, none⟩
  | argument :: rest =>
    let named := !outer.divided && !outer.awaitsValue
    match if named then CommandName.ofName? argument else none with
    | some command => readCommand outer command rest
    | none =>
      if named && argument = "help" then .error (helpOn rest)
      else
        match outer.take argument with
        | .ok outer => readFrom outer rest
        | .error stop => .error stop

/-- Reads a command line. -/
def read (arguments : List String) : Except Stop Arguments := readFrom { command := none } arguments

end Arguments

end PipeAssist.CommandLine

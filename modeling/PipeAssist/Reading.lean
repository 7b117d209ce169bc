import PipeAssist.Fault

/-!
# Reading definitions

Definitions are read by a machine that takes one token per step and never looks ahead. Its phase
says what was read last and what is therefore due; `Reading.step` gives the next state or the
outcome. The grammar is

    definition := use (PIPE use)*
    use        := IDENTIFIER option*
    option     := OPTION_MARKER IDENTIFIER (DOT IDENTIFIER)* EQUALS value
    value      := IDENTIFIER (DOT IDENTIFIER)* | STRING_LITERAL

A component name, a complete option and a pipe are committed: the definition grows and the
checkpoint moves behind them. A name that touches the end of the text may still be typed on, so it
counts as unfinished unless the text is declared finished.
-/

set_option autoImplicit false

namespace PipeAssist

/-- What was read last. -/
inductive Reading.Phase where
  /-- Nothing yet: a component name is due. -/
  | start
  /-- A pipe: a component name is due. -/
  | piped
  /-- A component name that ended at byte `stop`, not committed yet. -/
  | named (name : Text) (stop : Nat)
  /-- A committed component or option. -/
  | settled
  /-- A single dash after a component or option. -/
  | dashed
  /-- The two dashes: an option name is due. -/
  | marked
  /-- Part of an option name that ended with an identifier at byte `stop`. -/
  | keyed (key : Text) (stop : Nat)
  /-- Part of an option name that ended with a dot. -/
  | keyDotted (key : Text)
  /-- An option name and its equals sign: a value is due. -/
  | assigned (key : Text)
  /-- An option with a plain value that ended with an identifier, not committed yet. -/
  | valued (key value : Text)
  /-- An option with a plain value and a dot after it. -/
  | valueDotted (key value : Text)
deriving DecidableEq, Repr

/-- The state between two tokens. -/
structure Reading where
  /-- Number of tokens read. -/
  consumed : Nat
  /-- Number of tokens committed. -/
  checkpoint : Nat
  /-- The definition that the committed tokens make up. -/
  definition : Definition
  phase : Reading.Phase
deriving DecidableEq, Repr

namespace Reading

/-- The result of reading: a definition, or the place and reason of a fault. -/
inductive Outcome where
  | complete (definition : Definition)
  | stopped (checkpoint : Nat) (definition : Definition) (reason : Fault.Reason)
deriving DecidableEq, Repr

/-- The state before the first token. -/
def initial : Reading := ⟨0, 0, [], .start⟩

/-- Stops with a reason. -/
def stop (state : Reading) (reason : Fault.Reason) : Reading ⊕ Outcome :=
  .inr (.stopped state.checkpoint state.definition reason)

/-- Takes one more token and goes on in another phase. -/
def next (state : Reading) (phase : Phase) : Reading ⊕ Outcome :=
  .inl { state with consumed := state.consumed + 1, phase := phase }

/-- Commits everything read so far, with the definition it makes up. -/
def commit (state : Reading) (definition : Definition) : Reading :=
  { state with checkpoint := state.consumed, definition := definition, phase := .settled }

/-- A component name is due. -/
def stepName (state : Reading) (token : Token) : Reading ⊕ Outcome :=
  if token.kind = .identifier then state.next (.named token.value token.stop)
  else state.stop (.missingComponent token.kind)

/-- An option, a pipe or the end is due. -/
def stepSettled (state : Reading) (token : Token) : Reading ⊕ Outcome :=
  match token.kind with
  | .optionMarker => state.next .marked
  | .endOfInput => .inr (.complete state.definition)
  | .pipe =>
    .inl { state with
      consumed := state.consumed + 1, checkpoint := state.consumed + 1, phase := .piped }
  | .unknown =>
    if token.raw = ['-'] then state.next .dashed else state.stop (.missingSeparator .unknown)
  | found => state.stop (.missingSeparator found)

/-- Whether the text ends at `token`, right behind byte `stop`, and may still be typed on. -/
def mayGrow (finished : Bool) (stop : Nat) (token : Token) : Bool :=
  !finished && token.kind = .endOfInput && token.start = stop

/-- One token. -/
def step (finished : Bool) (state : Reading) (token : Token) : Reading ⊕ Outcome :=
  match state.phase with
  | .start => state.stepName token
  | .piped =>
    if token.kind = .endOfInput then state.stop .trailingPipe else state.stepName token
  | .named name stop =>
    if mayGrow finished stop token then state.stop (.danglingComponentName name)
    else (state.commit (state.definition ++ [⟨name, []⟩])).stepSettled token
  | .settled => state.stepSettled token
  | .dashed =>
    if token.kind = .endOfInput then state.stop .unfinishedOptionMarker
    else state.stop (.missingSeparator .unknown)
  | .marked =>
    match token.kind with
    | .identifier => state.next (.keyed token.value token.stop)
    | .endOfInput => state.stop .trailingOptionMarker
    | _ => state.stop (.unfinishedOptionName [])
  | .keyed key stop =>
    if mayGrow finished stop token then state.stop (.unfinishedOptionName key)
    else
      match token.kind with
      | .dot => state.next (.keyDotted (key ++ ['.']))
      | .equals => state.next (.assigned key)
      | _ => state.stop (.missingOptionValue key false)
  | .keyDotted key =>
    if token.kind = .identifier then state.next (.keyed (key ++ token.value) token.stop)
    else state.stop (.unfinishedOptionName key)
  | .assigned key =>
    match token.kind with
    | .identifier => state.next (.valued key token.value)
    | .stringLiteral =>
      .inl ({ state with consumed := state.consumed + 1 }.commit
        (state.definition.withOption key token.value))
    | _ => state.stop (.missingOptionValue key true)
  | .valued key value =>
    if token.kind = .dot then state.next (.valueDotted key value)
    else (state.commit (state.definition.withOption key value)).stepSettled token
  | .valueDotted key value =>
    if token.kind = .identifier then state.next (.valued key (value ++ '.' :: token.value))
    else
      .inr (.stopped (state.consumed - 1) (state.definition.withOption key value)
        (.missingSeparator .dot))

/-- All tokens, up to the first outcome. Where the tokens run out the text ends. -/
def run (finished : Bool) (state : Reading) : List Token → Outcome
  | [] =>
    match state.step finished (Token.finish 0) with
    | .inl _ => .stopped state.checkpoint state.definition (.missingComponent .endOfInput)
    | .inr outcome => outcome
  | token :: rest =>
    match state.step finished token with
    | .inl state => state.run finished rest
    | .inr outcome => outcome

end Reading

namespace Definition

/-- Reads a definition from tokens of `input`. An end of input is added if the last token is none. -/
def ofTokens (finished : Bool) (input : Text) (tokens : List Token) : Except Fault Definition :=
  let tokens := Token.terminated tokens
  match Reading.initial.run finished tokens with
  | .complete definition => .ok definition
  | .stopped checkpoint definition reason => .error ⟨input, tokens, checkpoint, definition, reason⟩

/-- Reads a text that may still be typed on. -/
def read (input : Text) : Except Fault Definition := ofTokens false input (Token.scan input)

/-- Reads a text that is declared finished. -/
def readFinished (input : Text) : Except Fault Definition := ofTokens true input (Token.scan input)

end Definition

end PipeAssist

import PipeAssist.Proofs.Checkpoints

/-!
# The grammar of definitions

The grammar is given as derivations over token lists, apart from the machine that reads them:

    definition := use (PIPE use)*
    use        := IDENTIFIER option*
    option     := OPTION_MARKER IDENTIFIER (DOT IDENTIFIER)* EQUALS value
    value      := IDENTIFIER (DOT IDENTIFIER)* | STRING_LITERAL

A derivation keeps the component uses as they are written, options in order and with repetitions;
their meaning is a definition. The machine follows derivations: after the tokens of one it rests
with the meaning of what is written (`Committed.settled`).
-/

set_option autoImplicit false

namespace PipeAssist.Grammar

/-- A component use as it is written: its options in order, repeated ones included. -/
structure WrittenUse where
  name : Text
  options : List (Text × Text) := []

namespace WrittenUse

/-- The component use that is meant. Of repeated options the last one counts. -/
def meaning (written : WrittenUse) : ComponentUse :=
  written.options.foldl (fun use entry => use.withOption entry.1 entry.2) ⟨written.name, []⟩

/-- The use with one more option written behind it. -/
def configure (written : WrittenUse) (key value : Text) : WrittenUse :=
  { written with options := written.options ++ [(key, value)] }

@[simp] theorem meaning_configure (written : WrittenUse) (key value : Text) :
    (written.configure key value).meaning = written.meaning.withOption key value := by
  simp [meaning, configure, List.foldl_append]

end WrittenUse

/-- Identifiers joined by dots, and the text they make up. -/
inductive Words : List Token → Text → Prop where
  | word {token : Token} (kind : token.kind = .identifier) : Words [token] token.value
  | dotted {tokens : List Token} {text : Text} {dot token : Token} (front : Words tokens text)
      (dotKind : dot.kind = .dot) (kind : token.kind = .identifier) :
      Words (tokens ++ [dot, token]) (text ++ '.' :: token.value)

/-- The value of an option. -/
inductive Value : List Token → Text → Prop where
  | plain {tokens : List Token} {text : Text} (words : Words tokens text) : Value tokens text
  | quoted {token : Token} (kind : token.kind = .stringLiteral) : Value [token] token.value

/-- An option with its value. -/
inductive Setting : List Token → Text → Text → Prop where
  | assign {marker equals : Token} {keyTokens valueTokens : List Token} {key value : Text}
      (markerKind : marker.kind = .optionMarker) (keyWords : Words keyTokens key)
      (equalsKind : equals.kind = .equals) (valued : Value valueTokens value) :
      Setting (marker :: (keyTokens ++ equals :: valueTokens)) key value

/-- A component name and its options. -/
inductive Use : List Token → WrittenUse → Prop where
  | name {token : Token} (kind : token.kind = .identifier) : Use [token] ⟨token.value, []⟩
  | option {tokens more : List Token} {written : WrittenUse} {key value : Text}
      (front : Use tokens written) (setting : Setting more key value) :
      Use (tokens ++ more) (written.configure key value)

/-- Component uses joined by pipes. -/
inductive Pipeline : List Token → List WrittenUse → Prop where
  | use {tokens : List Token} {written : WrittenUse} (single : Use tokens written) :
      Pipeline tokens [written]
  | pipe {tokens more : List Token} {pipe : Token} {uses : List WrittenUse} {written : WrittenUse}
      (front : Pipeline tokens uses) (kind : pipe.kind = .pipe) (last : Use more written) :
      Pipeline (tokens ++ pipe :: more) (uses ++ [written])

/-- What can be committed: nothing, a pipeline, or a pipeline and the pipe behind its last use. The
flag says whether the last use is followed by a pipe. -/
inductive Committed : List Token → List WrittenUse → Bool → Prop where
  | nothing : Committed [] [] false
  | pipeline {tokens : List Token} {uses : List WrittenUse} (front : Pipeline tokens uses) :
      Committed tokens uses false
  | onward {tokens : List Token} {uses : List WrittenUse} {pipe : Token}
      (front : Pipeline tokens uses) (kind : pipe.kind = .pipe) :
      Committed (tokens ++ [pipe]) uses true

/-- Dotted words can be joined by a dot. -/
theorem Words.append {tokens more : List Token} {text rest : Text} {dot : Token}
    (h : Words tokens text) (hdot : dot.kind = .dot) (hrest : Words more rest) :
    Words (tokens ++ dot :: more) (text ++ '.' :: rest) := by
  induction hrest with
  | word kind => exact .dotted h hdot kind
  | @dotted more rest dot' token _ dotKind kind ih =>
      have hjoined := Words.dotted ih dotKind kind
      simpa using hjoined

end PipeAssist.Grammar

namespace PipeAssist

/-- An option goes to the last use of a definition. -/
theorem Definition.withOption_concat (definition : Definition) (use : ComponentUse)
    (key value : Text) :
    Definition.withOption (definition ++ [use]) key value =
      definition ++ [use.withOption key value] := by
  simp [Definition.withOption]

namespace Reading

open Grammar

/-! ## The machine follows derivations -/

/-- Any token but the end commits what is pending before it, except that a dot goes on with a plain
value. -/
theorem step_eq_stepSettled {state settled : Reading} {token : Token} {finished : Bool}
    (hsettle : state.settle? = some settled) (hphase : settled.phase = .settled)
    (hkind : token.kind ≠ .endOfInput)
    (hdot : ∀ key value, state.phase = .valued key value → token.kind ≠ .dot) :
    state.step finished token = settled.stepSettled token := by
  unfold settle? at hsettle
  unfold step
  cases hcase : state.phase with
  | start | piped =>
      simp only [hcase, Option.some.injEq] at hsettle
      rw [hsettle, hphase] at hcase
      cases hcase
  | settled =>
      simp only [hcase, Option.some.injEq] at hsettle
      rw [hsettle]
  | named name stop =>
      simp only [hcase, Option.some.injEq] at hsettle
      simp [mayGrow_eq_false hkind, hsettle]
  | valued key value =>
      simp only [hcase, Option.some.injEq] at hsettle
      simp [hdot key value hcase, hsettle]
  | _ => simp [hcase] at hsettle

/-- A separator commits what is pending before it. -/
theorem step_of_settle {state settled : Reading} {token : Token} {finished : Bool}
    (hsettle : state.settle? = some settled) (hphase : settled.phase = .settled)
    (hkind : token.kind ≠ .endOfInput) (hdot : token.kind ≠ .dot) :
    state.step finished token = settled.stepSettled token :=
  step_eq_stepSettled hsettle hphase hkind fun _ _ _ => hdot

/-- The state with `count` more tokens read and another phase. -/
def skip (state : Reading) (count : Nat) (phase : Phase) : Reading :=
  { state with consumed := state.consumed + count, phase := phase }

theorem skip_skip (state : Reading) (a b : Nat) (p q : Phase) :
    (state.skip a p).skip b q = state.skip (a + b) q := by
  simp [skip, Nat.add_assoc]

/-- The state behind `count` more tokens, with all of them committed. -/
def settleAt (state : Reading) (count : Nat) (definition : Definition) : Reading :=
  ⟨state.consumed + count, state.consumed + count, definition, .settled⟩

end Reading

namespace Grammar

open Reading

theorem Words.feed_key {tokens : List Token} {key : Text} (h : Words tokens key) {state : Reading}
    (hphase : state.phase = .marked) :
    ∃ stop, state.feed false tokens = some (state.skip tokens.length (.keyed key stop)) := by
  induction h with
  | @word token kind =>
      refine ⟨token.stop, ?_⟩
      simp [feed, step, hphase, kind, next, skip]
  | @dotted front text dot token _ dotKind kind ih =>
      obtain ⟨stop, hfront⟩ := ih
      refine ⟨token.stop, ?_⟩
      rw [feed_append, hfront, Option.bind_some]
      simp [feed, step, skip, dotKind, kind, next, mayGrow, Nat.add_assoc]

theorem Words.feed_value {tokens : List Token} {value : Text} (h : Words tokens value)
    {state : Reading} {key : Text} (hphase : state.phase = .assigned key) :
    state.feed false tokens = some (state.skip tokens.length (.valued key value)) := by
  induction h with
  | @word token kind => simp [feed, step, hphase, kind, next, skip]
  | @dotted front text dot token _ dotKind kind ih =>
      rw [feed_append, ih, Option.bind_some]
      simp [feed, step, skip, dotKind, kind, next, Nat.add_assoc]

theorem Value.feed {tokens : List Token} {value : Text} (h : Value tokens value) {state : Reading}
    {key : Text} (hphase : state.phase = .assigned key) :
    ∃ next, state.feed false tokens = some next ∧
      next.settle? = some (state.settleAt tokens.length (state.definition.withOption key value)) ∧
      next.phase.beforeName = false := by
  cases h with
  | plain words =>
      exact ⟨_, words.feed_value hphase, by simp [settle?, skip, commit, settleAt], rfl⟩
  | quoted kind =>
      refine ⟨state.settleAt 1 (state.definition.withOption key _), ?_, rfl, rfl⟩
      simp [Reading.feed, step, hphase, kind, commit, settleAt]

/-- The part of an option in front of its value: the marker, the name, and what comes behind it. -/
theorem Words.feed_marked {marker : Token} {tokens : List Token} {key : Text}
    (h : Words tokens key) (hmarker : marker.kind = .optionMarker) {state settled : Reading}
    (hsettle : state.settle? = some settled) (hphase : settled.phase = .settled) :
    ∃ stop, state.feed false (marker :: tokens) =
      some (settled.skip (tokens.length + 1) (.keyed key stop)) := by
  have hstep : state.step false marker = .inl (settled.skip 1 .marked) := by
    rw [step_of_settle hsettle hphase (by simp [hmarker]) (by simp [hmarker])]
    simp [stepSettled, hmarker, next, skip]
  obtain ⟨stop, hfeed⟩ := h.feed_key (show (settled.skip 1 .marked).phase = .marked from rfl)
  refine ⟨stop, ?_⟩
  rw [Reading.feed, hstep, Nat.add_comm, ← skip_skip settled 1 _ .marked]
  exact hfeed

theorem Setting.feed {tokens : List Token} {key value : Text} (h : Setting tokens key value)
    {state settled : Reading} (hsettle : state.settle? = some settled)
    (hphase : settled.phase = .settled) :
    ∃ next, state.feed false tokens = some next ∧
      next.settle? =
        some (settled.settleAt tokens.length (settled.definition.withOption key value)) ∧
      next.phase.beforeName = false := by
  cases h with
  | @assign marker equals keyTokens valueTokens _ _ markerKind keyWords equalsKind valued =>
      -- marker and name, then the sign, then the value
      obtain ⟨stop, hkey⟩ := keyWords.feed_marked markerKind hsettle hphase
      have hequals : (settled.skip (keyTokens.length + 1) (.keyed key stop)).step false equals =
          .inl (settled.skip (keyTokens.length + 2) (.assigned key)) := by
        simp [step, skip, equalsKind, mayGrow, next, Nat.add_assoc]
      obtain ⟨next, hvalue, hnext, hname⟩ :=
        valued.feed (show (settled.skip (keyTokens.length + 2) (.assigned key)).phase =
          .assigned key from rfl)
      refine ⟨next, ?_, ?_, hname⟩
      · rw [← List.cons_append, feed_append, hkey, Option.bind_some, Reading.feed, hequals]
        exact hvalue
      · rw [hnext]
        simp only [settleAt, skip, List.length_cons, List.length_append]
        congr 2 <;> omega

theorem Use.feed {tokens : List Token} {written : WrittenUse} (h : Use tokens written)
    {state : Reading} (hphase : state.phase = .start ∨ state.phase = .piped) :
    ∃ next, state.feed false tokens = some next ∧
      next.settle? =
        some (state.settleAt tokens.length (state.definition ++ [written.meaning])) := by
  induction h with
  | @name token kind =>
      refine ⟨state.skip 1 (.named token.value token.stop), ?_, ?_⟩
      · rcases hphase with hphase | hphase <;>
          simp [Reading.feed, step, hphase, stepName, kind, next, skip]
      · simp [settle?, skip, commit, settleAt, WrittenUse.meaning]
  | @option front more written key value _ setting ih =>
      obtain ⟨middle, hfront, hmiddle⟩ := ih
      -- the marker of the option commits the name, or the value of the option before it
      obtain ⟨next, hmore, hnext, -⟩ := setting.feed hmiddle rfl
      refine ⟨next, ?_, ?_⟩
      · rw [feed_append, hfront, Option.bind_some, hmore]
      · rw [hnext, WrittenUse.meaning_configure]
        simp only [settleAt, Definition.withOption_concat, List.length_append, Nat.add_assoc]

/-- A pipe behind what is pending. -/
theorem feed_pipe {state settled : Reading} {pipe : Token} (hsettle : state.settle? = some settled)
    (hphase : settled.phase = .settled) (hkind : pipe.kind = .pipe) :
    state.feed false [pipe] = some
      ⟨settled.consumed + 1, settled.consumed + 1, settled.definition, .piped⟩ := by
  rw [Reading.feed, step_of_settle hsettle hphase (by simp [hkind]) (by simp [hkind])]
  simp [stepSettled, hkind, Reading.feed]

theorem Pipeline.feed {tokens : List Token} {uses : List WrittenUse} (h : Pipeline tokens uses) :
    ∃ next, initial.feed false tokens = some next ∧
      next.settle? =
        some ⟨tokens.length, tokens.length, uses.map WrittenUse.meaning, .settled⟩ := by
  induction h with
  | use single =>
      obtain ⟨next, hfeed, hnext⟩ := single.feed (Or.inl (show initial.phase = .start from rfl))
      refine ⟨next, hfeed, ?_⟩
      rw [hnext]
      simp [settleAt, initial]
  | @pipe front more pipe uses written _ kind last ih =>
      obtain ⟨middle, hfront, hmiddle⟩ := ih
      obtain ⟨next, hfeed, hnext⟩ := last.feed (Or.inr (show (⟨front.length + 1,
        front.length + 1, uses.map WrittenUse.meaning, .piped⟩ : Reading).phase = .piped from rfl))
      refine ⟨next, ?_, ?_⟩
      · rw [← List.singleton_append, feed_append, hfront, Option.bind_some, feed_append,
          feed_pipe hmiddle rfl kind]
        exact hfeed
      · rw [hnext]
        simp only [settleAt, List.map_append, List.map_cons, List.map_nil, List.length_append,
          List.length_cons, Nat.add_assoc, Nat.add_comm 1]

/-- After committed tokens the machine rests with the meaning of what is written, and what is due
says how they can go on: with an option or a pipe, or with a component name. -/
theorem Committed.settled {tokens : List Token} {uses : List WrittenUse} {onward : Bool}
    (h : Committed tokens uses onward) {state settled : Reading}
    (hfeed : initial.feed false tokens = some state) (hsettle : state.settle? = some settled) :
    settled.definition = uses.map WrittenUse.meaning ∧
      ((settled.phase = .settled ∧ onward = false ∧ Pipeline tokens uses) ∨
       (settled.phase ≠ .settled ∧ (onward = true ∨ uses = []) ∧
        ∀ token : Token, token.kind = .identifier →
          Pipeline (tokens ++ [token]) (uses ++ [⟨token.value, []⟩]))) := by
  cases h with
  | nothing =>
      cases hfeed
      cases hsettle
      exact ⟨rfl, Or.inr ⟨by simp [initial], Or.inr rfl, fun token kind => .use (.name kind)⟩⟩
  | pipeline front =>
      obtain ⟨next, hnext, hrests⟩ := front.feed
      cases hfeed.symm.trans hnext
      cases hsettle.symm.trans hrests
      exact ⟨rfl, Or.inl ⟨rfl, rfl, front⟩⟩
  | @onward tokens uses pipe front kind =>
      obtain ⟨middle, hmiddle, hrests⟩ := front.feed
      rw [feed_append, hmiddle, Option.bind_some, feed_pipe hrests rfl kind] at hfeed
      cases hfeed
      cases hsettle
      refine ⟨rfl, Or.inr ⟨by simp, Or.inl rfl, fun token hname => ?_⟩⟩
      rw [List.append_assoc]
      exact .pipe front kind (.name hname)

/-- An option goes to the last use of a pipeline. -/
theorem Pipeline.configure {tokens more : List Token} {uses : List WrittenUse} {key value : Text}
    (h : Pipeline tokens uses) (hsetting : Setting more key value) :
    ∃ front written, uses = front ++ [written] ∧
      Pipeline (tokens ++ more) (front ++ [written.configure key value]) := by
  cases h with
  | @use _ written single => exact ⟨[], written, rfl, .use (.option single hsetting)⟩
  | @pipe tokens last pipe uses written front kind use =>
      refine ⟨uses, written, rfl, ?_⟩
      rw [List.append_assoc, List.cons_append]
      exact .pipe front kind (.option use hsetting)

end Grammar

end PipeAssist

import Mathlib.Data.List.Induction
import PipeAssist.Reading
import PipeAssist.Proofs.Tokens

/-!
# Checkpoints of a reading

A fault says how many tokens were committed and which definition they make up. Both move together:
after the committed tokens alone the machine rests, with nothing pending but a name or a plain value
that the next token commits (`RestsAt`). `Traced` is the invariant that carries this along a run,
`traced_step` what one token preserves, and `run_stopped` what follows at a fault. Reading the
committed tokens again, or the text they cover, therefore gives the definition of the fault.
-/

set_option autoImplicit false

namespace PipeAssist

/-- Faults that arise where a component name is due. -/
def Fault.Reason.lacksName : Fault.Reason → Bool
  | .missingComponent _ | .trailingPipe | .danglingComponentName _ => true
  | _ => false

namespace Reading

/-! ## Runs over part of the tokens -/

/-- The state after some tokens, unless reading stops among them. -/
def feed (finished : Bool) (state : Reading) : List Token → Option Reading
  | [] => some state
  | token :: rest =>
    match state.step finished token with
    | .inl next => next.feed finished rest
    | .inr _ => none

theorem feed_append (finished : Bool) (state : Reading) (a b : List Token) :
    state.feed finished (a ++ b) =
      (state.feed finished a).bind fun middle => middle.feed finished b := by
  induction a generalizing state with
  | nil => rfl
  | cons token rest ih =>
      rw [List.cons_append, feed, feed]
      cases state.step finished token with
      | inl next => exact ih next
      | inr outcome => rfl

theorem feed_concat {finished : Bool} {state middle next : Reading} {read : List Token}
    {token : Token} (hread : state.feed finished read = some middle)
    (hstep : middle.step finished token = .inl next) :
    state.feed finished (read ++ [token]) = some next := by
  rw [feed_append, hread, Option.bind_some, feed, hstep]
  rfl

/-- The last of the tokens that were read. -/
theorem feed_concat_inv {state last : Reading} {finished : Bool} {read : List Token} {token : Token}
    (h : state.feed finished (read ++ [token]) = some last) :
    ∃ before, state.feed finished read = some before ∧ before.step finished token = .inl last := by
  rw [feed_append, Option.bind_eq_some_iff] at h
  obtain ⟨before, hbefore, hlast⟩ := h
  refine ⟨before, hbefore, ?_⟩
  rw [feed] at hlast
  cases hstep : before.step finished token with
  | inl next =>
      simp only [hstep, feed, Option.some.injEq] at hlast
      rw [hlast]
  | inr outcome => simp [hstep] at hlast

/-- A run goes on from the state after its first tokens. -/
theorem run_of_feed {finished : Bool} {state middle : Reading} {read : List Token}
    (h : state.feed finished read = some middle) (rest : List Token) :
    state.run finished (read ++ rest) = middle.run finished rest := by
  induction read generalizing state with
  | nil =>
      cases h
      rfl
  | cons token tail ih =>
      rw [feed] at h
      rw [List.cons_append, run]
      cases hstep : state.step finished token with
      | inl next =>
          rw [hstep] at h
          exact ih h
      | inr outcome =>
          rw [hstep] at h
          cases h

/-- Nothing grows in front of a token other than the end. -/
theorem mayGrow_eq_false {token : Token} (h : token.kind ≠ .endOfInput) (finished : Bool)
    (stop : Nat) : mayGrow finished stop token = false := by
  simp [mayGrow, h]

/-- Only the end of the text is read differently when the text is declared finished. -/
theorem step_finished {token : Token} (h : token.kind ≠ .endOfInput) (state : Reading)
    (finished : Bool) : state.step finished token = state.step false token := by
  unfold step
  simp only [mayGrow_eq_false h]

theorem feed_finished {tokens : List Token} (h : ∀ token ∈ tokens, token.kind ≠ .endOfInput)
    (state : Reading) (finished : Bool) :
    state.feed finished tokens = state.feed false tokens := by
  induction tokens generalizing state with
  | nil => rfl
  | cons token rest ih =>
      rw [feed, feed, step_finished (h token List.mem_cons_self)]
      cases state.step false token with
      | inl next => exact ih (fun t ht => h t (List.mem_cons_of_mem _ ht)) next
      | inr outcome => rfl

/-! ## Rest -/

/-- Phases in which everything read is committed. -/
def Phase.isRest : Phase → Bool
  | .start | .piped | .settled => true
  | _ => false

/-- Phases in which no component was committed since a name was due. -/
def Phase.beforeName : Phase → Bool
  | .start | .piped | .named _ _ => true
  | _ => false

/-- The state with a pending name or plain value committed, unless something else is pending. -/
def settle? (state : Reading) : Option Reading :=
  match state.phase with
  | .start | .piped | .settled => some state
  | .named name _ => some (state.commit (state.definition ++ [⟨name, []⟩]))
  | .valued key value => some (state.commit (state.definition.withOption key value))
  | _ => none

/-- The first `checkpoint` tokens make up `definition`, and `due` says what may follow them. -/
def RestsAt (read : List Token) (checkpoint : Nat) (definition : Definition) (due : Phase) : Prop :=
  checkpoint ≤ read.length ∧ ∃ state, initial.feed false (read.take checkpoint) = some state ∧
    state.settle? = some ⟨checkpoint, checkpoint, definition, due⟩

theorem RestsAt.append {read : List Token} {checkpoint : Nat} {definition : Definition}
    {due : Phase} (h : RestsAt read checkpoint definition due) (more : List Token) :
    RestsAt (read ++ more) checkpoint definition due := by
  obtain ⟨hle, state, hfeed, hsettle⟩ := h
  refine ⟨?_, state, ?_, hsettle⟩
  · rw [List.length_append]
    omega
  · rw [List.take_append_of_le_length hle, hfeed]

/-- After all the tokens the machine rests where they end. -/
theorem restsAt_length {read : List Token} {state : Reading} {definition : Definition} {due : Phase}
    (hfeed : initial.feed false read = some state)
    (hsettle : state.settle? = some ⟨read.length, read.length, definition, due⟩) :
    RestsAt read read.length definition due :=
  ⟨Nat.le_refl _, state, by rwa [List.take_length], hsettle⟩

/-- What holds of the state after the tokens `read`. -/
structure Traced (read : List Token) (state : Reading) : Prop where
  reached : initial.feed false read = some state
  consumed : state.consumed = read.length
  /-- In a phase of rest all tokens are committed. -/
  level : state.phase.isRest = true → state.checkpoint = read.length
  /-- In every other phase some token is not. -/
  behind : state.phase.isRest = false → state.checkpoint < read.length
  /-- The committed tokens make up the definition. -/
  rests : ∃ due, RestsAt read state.checkpoint state.definition due ∧ due.isRest = true ∧
    (due = .settled ↔ state.phase.beforeName = false)
  /-- A dot behind a plain value leaves the value where it was. -/
  dotted : ∀ key value, state.phase = .valueDotted key value →
    RestsAt read (read.length - 1) (state.definition.withOption key value) .settled

theorem traced_initial : Traced [] initial where
  reached := rfl
  consumed := rfl
  level _ := rfl
  behind h := by cases h
  rests := ⟨.start, ⟨Nat.le_refl _, initial, rfl, rfl⟩, rfl, by simp [initial, Phase.beforeName]⟩
  dotted _ _ h := by cases h

/-! ## One token -/

/-- The tokens that stay pending: what phase they lead to from what phase. -/
inductive Pends : Phase → Token → Phase → Prop where
  | firstName {token : Token} (kind : token.kind = .identifier) :
      Pends .start token (.named token.value token.stop)
  | nextName {token : Token} (kind : token.kind = .identifier) :
      Pends .piped token (.named token.value token.stop)
  | key {token : Token} (kind : token.kind = .identifier) :
      Pends .marked token (.keyed token.value token.stop)
  | keyDot {key : Text} {stop : Nat} {token : Token} (kind : token.kind = .dot) :
      Pends (.keyed key stop) token (.keyDotted (key ++ ['.']))
  | keyMore {key : Text} {token : Token} (kind : token.kind = .identifier) :
      Pends (.keyDotted key) token (.keyed (key ++ token.value) token.stop)
  | equals {key : Text} {stop : Nat} {token : Token} (kind : token.kind = .equals) :
      Pends (.keyed key stop) token (.assigned key)
  | value {key : Text} {token : Token} (kind : token.kind = .identifier) :
      Pends (.assigned key) token (.valued key token.value)
  | valueDot {key value : Text} {token : Token} (kind : token.kind = .dot) :
      Pends (.valued key value) token (.valueDotted key value)
  | valueMore {key value : Text} {token : Token} (kind : token.kind = .identifier) :
      Pends (.valueDotted key value) token (.valued key (value ++ '.' :: token.value))

theorem Pends.isRest {phase next : Phase} {token : Token} (h : Pends phase token next) :
    next.isRest = false := by
  cases h <;> rfl

theorem Pends.beforeName {phase next : Phase} {token : Token} (h : Pends phase token next) :
    next.beforeName = phase.beforeName := by
  cases h <;> rfl

theorem Pends.valueDotted {phase next : Phase} {token : Token} (h : Pends phase token next)
    {key value : Text} (hnext : next = .valueDotted key value) : phase = .valued key value := by
  cases h <;> cases hnext
  rfl

theorem Pends.named {phase next : Phase} {token : Token} (h : Pends phase token next) {name : Text}
    {stop : Nat} (hnext : next = .named name stop) :
    (phase = .start ∨ phase = .piped) ∧ token.kind = .identifier ∧ name = token.value ∧
      stop = token.stop := by
  cases h with
  | firstName kind =>
      cases hnext
      exact ⟨Or.inl rfl, kind, rfl, rfl⟩
  | nextName kind =>
      cases hnext
      exact ⟨Or.inr rfl, kind, rfl, rfl⟩
  | _ => cases hnext

theorem Pends.kind_ne_literal {phase next : Phase} {token : Token} (h : Pends phase token next) :
    token.kind ≠ .stringLiteral := by
  cases h <;> simp_all

/-- What one token can do: it stays pending, it comes after everything before it was committed, or
it is a quoted value and completes an option. -/
theorem step_inl {state next : Reading} {token : Token} {finished : Bool}
    (hkind : token.kind ≠ .endOfInput) (h : state.step finished token = .inl next) :
    (∃ phase, Pends state.phase token phase ∧
      next = { state with consumed := state.consumed + 1, phase := phase }) ∨
    (∃ settled, state.settle? = some settled ∧ settled.phase = .settled ∧
      settled.stepSettled token = .inl next) ∨
    (∃ key, state.phase = .assigned key ∧ token.kind = .stringLiteral ∧
      next = { state with consumed := state.consumed + 1 }.commit
        (state.definition.withOption key token.value)) := by
  unfold step at h
  cases hphase : state.phase with
  | start =>
      simp only [hphase, stepName] at h
      split at h
      next hname =>
        cases h
        exact Or.inl ⟨_, .firstName hname, rfl⟩
      · cases h
  | piped =>
      simp only [hphase, hkind, if_false, stepName] at h
      split at h
      next hname =>
        cases h
        exact Or.inl ⟨_, .nextName hname, rfl⟩
      · cases h
  | named name stop =>
      -- any token but the end commits the name first
      simp only [hphase, mayGrow_eq_false hkind, Bool.false_eq_true, if_false] at h
      exact Or.inr (Or.inl ⟨_, by simp [settle?, hphase], rfl, h⟩)
  | settled =>
      simp only [hphase] at h
      exact Or.inr (Or.inl ⟨_, by simp [settle?, hphase], hphase, h⟩)
  | dashed =>
      simp only [hphase, hkind, if_false] at h
      cases h
  | marked =>
      simp only [hphase] at h
      split at h
      next hname =>
        cases h
        exact Or.inl ⟨_, .key hname, rfl⟩
      · cases h
      · cases h
  | keyed key stop =>
      simp only [hphase, mayGrow_eq_false hkind, Bool.false_eq_true, if_false] at h
      split at h
      next hdot =>
        cases h
        exact Or.inl ⟨_, .keyDot hdot, rfl⟩
      next hequals =>
        cases h
        exact Or.inl ⟨_, .equals hequals, rfl⟩
      · cases h
  | keyDotted key =>
      simp only [hphase] at h
      split at h
      next hname =>
        cases h
        exact Or.inl ⟨_, .keyMore hname, rfl⟩
      · cases h
  | assigned key =>
      simp only [hphase] at h
      split at h
      next hname =>
        cases h
        exact Or.inl ⟨_, .value hname, rfl⟩
      next hliteral =>
        cases h
        exact Or.inr (Or.inr ⟨key, rfl, hliteral, rfl⟩)
      · cases h
  | valued key value =>
      simp only [hphase] at h
      split at h
      next hdot =>
        cases h
        exact Or.inl ⟨_, .valueDot hdot, rfl⟩
      · exact Or.inr (Or.inl ⟨_, by simp [settle?, hphase], rfl, h⟩)
  | valueDotted key value =>
      simp only [hphase] at h
      split at h
      next hname =>
        cases h
        exact Or.inl ⟨_, .valueMore hname, rfl⟩
      · cases h

/-- Where an option, a pipe or the end is due, reading goes on behind an option marker or a dash,
which stay pending, or behind a pipe, which is committed. -/
theorem stepSettled_inl {state next : Reading} {token : Token}
    (h : state.stepSettled token = .inl next) :
    (∃ phase, (phase = .marked ∧ token.kind = .optionMarker ∨
        phase = .dashed ∧ token.kind = .unknown) ∧
      next = { state with consumed := state.consumed + 1, phase := phase }) ∨
    (token.kind = .pipe ∧ next = { state with
      consumed := state.consumed + 1, checkpoint := state.consumed + 1, phase := .piped }) := by
  unfold stepSettled at h
  cases hkind : token.kind with
  | optionMarker =>
      rw [hkind] at h
      cases h
      exact Or.inl ⟨.marked, Or.inl ⟨rfl, rfl⟩, rfl⟩
  | pipe =>
      rw [hkind] at h
      cases h
      exact Or.inr ⟨rfl, rfl⟩
  | unknown =>
      rw [hkind] at h
      by_cases hdash : token.raw = ['-']
      · simp only [hdash, if_true] at h
        cases h
        exact Or.inl ⟨.dashed, Or.inr ⟨rfl, rfl⟩, rfl⟩
      · simp only [hdash, if_false] at h
        cases h
  | _ =>
      rw [hkind] at h
      cases h

/-- Where an option, a pipe or the end is due, reading stops at any other token. -/
theorem stepSettled_stopped {state : Reading} {token : Token} {checkpoint : Nat}
    {definition : Definition} {reason : Fault.Reason}
    (h : state.stepSettled token = .inr (.stopped checkpoint definition reason)) :
    checkpoint = state.checkpoint ∧ definition = state.definition ∧ reason.lacksName = false ∧
      token.kind ≠ .endOfInput := by
  unfold stepSettled at h
  cases hkind : token.kind with
  | unknown =>
      rw [hkind] at h
      by_cases hdash : token.raw = ['-']
      · simp only [hdash, if_true] at h
        cases h
      · simp only [hdash, if_false] at h
        cases h
        exact ⟨rfl, rfl, rfl, by simp⟩
  | optionMarker | pipe | endOfInput =>
      rw [hkind] at h
      cases h
  | _ =>
      rw [hkind] at h
      cases h
      exact ⟨rfl, rfl, rfl, by simp⟩

/-- A state that settles does so behind all the tokens read. -/
theorem Traced.settle_eq {read : List Token} {state settled : Reading} (h : Traced read state)
    (hsettle : state.settle? = some settled) :
    settled.consumed = read.length ∧ settled.checkpoint = read.length := by
  unfold settle? at hsettle
  cases hphase : state.phase with
  | start | piped | settled =>
      rw [hphase] at hsettle
      cases hsettle
      exact ⟨h.consumed, h.level (by rw [hphase]; rfl)⟩
  | named name stop | valued key value =>
      rw [hphase] at hsettle
      cases hsettle
      exact ⟨h.consumed, h.consumed⟩
  | _ =>
      rw [hphase] at hsettle
      cases hsettle

/-- A state that settles before a separator rests behind all the tokens read. -/
theorem Traced.restsAt_settle {read : List Token} {state settled : Reading} (h : Traced read state)
    (hsettle : state.settle? = some settled) (hphase : settled.phase = .settled) :
    RestsAt read read.length settled.definition .settled := by
  obtain ⟨hconsumed, hcheckpoint⟩ := h.settle_eq hsettle
  apply restsAt_length h.reached
  calc state.settle? = some settled := hsettle
    _ = some ⟨settled.consumed, settled.checkpoint, settled.definition, settled.phase⟩ := rfl
    _ = _ := by rw [hconsumed, hcheckpoint, hphase]

/-- A token that stays pending. -/
theorem Traced.next {read : List Token} {state : Reading} {token : Token} {phase : Phase}
    (h : Traced read state)
    (hstep : state.step false token =
      .inl { state with consumed := state.consumed + 1, phase := phase })
    (hrest : phase.isRest = false) (hname : phase.beforeName = state.phase.beforeName)
    (hdotted : ∀ key value, phase = .valueDotted key value → state.phase = .valued key value) :
    Traced (read ++ [token]) { state with consumed := state.consumed + 1, phase := phase } where
  reached := feed_concat h.reached hstep
  consumed := by simp [h.consumed]
  level hlevel := by
    rw [hrest] at hlevel
    cases hlevel
  behind _ := by
    obtain ⟨-, ⟨hle, -⟩, -⟩ := h.rests
    simp only [List.length_append, List.length_cons, List.length_nil]
    omega
  rests := by
    obtain ⟨due, hrests, hdue, hiff⟩ := h.rests
    exact ⟨due, hrests.append [token], hdue, by rw [hname, hiff]⟩
  dotted key value hphase := by
    -- the dot leaves a value behind that could have been committed one token earlier
    have hvalued := hdotted key value hphase
    have hsettle : state.settle? =
        some ⟨read.length, read.length, state.definition.withOption key value, .settled⟩ := by
      simp [settle?, hvalued, commit, h.consumed]
    simpa using (restsAt_length h.reached hsettle).append [token]

/-- A token after everything before it was committed. -/
theorem Traced.settled {read : List Token} {state settled next : Reading} {token : Token}
    (h : Traced read state) (hsettle : state.settle? = some settled)
    (hphase : settled.phase = .settled) (hstep : state.step false token = settled.stepSettled token)
    (hnext : settled.stepSettled token = .inl next) : Traced (read ++ [token]) next := by
  obtain ⟨hconsumed, hcheckpoint⟩ := h.settle_eq hsettle
  have hreached := feed_concat h.reached (hstep.trans hnext)
  have hrests := h.restsAt_settle hsettle hphase
  rcases stepSettled_inl hnext with ⟨phase, hcase, rfl⟩ | ⟨-, rfl⟩
  · have hopen : phase.isRest = false ∧ phase.beforeName = false := by
      rcases hcase with ⟨rfl, -⟩ | ⟨rfl, -⟩ <;> exact ⟨rfl, rfl⟩
    refine ⟨hreached, by simp [hconsumed], fun hlevel => ?_, fun _ => by simp [hcheckpoint], ?_, ?_⟩
    · rw [hopen.1] at hlevel
      cases hlevel
    · refine ⟨.settled, ?_, rfl, by simp [hopen.2]⟩
      rw [hcheckpoint]
      exact hrests.append [token]
    · intro key value hdotted
      rcases hcase with ⟨rfl, -⟩ | ⟨rfl, -⟩ <;> cases hdotted
  · -- a pipe is committed with everything before it
    refine ⟨hreached, by simp [hconsumed], fun _ => by simp [hconsumed], fun hbehind => ?_, ?_, ?_⟩
    · cases hbehind
    · refine ⟨.piped, ?_, rfl, by simp [Phase.beforeName]⟩
      have hlength : settled.consumed + 1 = (read ++ [token]).length := by simp [hconsumed]
      rw [hlength] at hreached ⊢
      exact restsAt_length hreached rfl
    · intro key value hdotted
      cases hdotted

/-- What one token preserves. -/
theorem traced_step {read : List Token} {state next : Reading} {token : Token}
    (h : Traced read state) (hkind : token.kind ≠ .endOfInput)
    (hstep : state.step false token = .inl next) : Traced (read ++ [token]) next := by
  rcases step_inl hkind hstep with ⟨phase, hpends, rfl⟩ | ⟨settled, hsettle, hphase, hnext⟩ |
    ⟨key, hphase, -, rfl⟩
  · exact h.next hstep hpends.isRest hpends.beforeName (fun _ _ => hpends.valueDotted)
  · exact h.settled hsettle hphase (hstep.trans hnext.symm) hnext
  · -- a quoted value is committed at once
    have hreached := feed_concat h.reached hstep
    have hlength : state.consumed + 1 = (read ++ [token]).length := by simp [h.consumed]
    simp only [commit, hlength] at hreached ⊢
    refine ⟨hreached, rfl, fun _ => rfl, fun hbehind => ?_, ?_, fun _ _ hdotted => ?_⟩
    · cases hbehind
    · exact ⟨.settled, restsAt_length hreached rfl, rfl, by simp [Phase.beforeName]⟩
    · cases hdotted

/-- What a run over part of the tokens preserves. -/
theorem traced_feed {tokens : List Token} (hkinds : ∀ token ∈ tokens, token.kind ≠ .endOfInput)
    {last : Reading} (hfeed : initial.feed false tokens = some last) : Traced tokens last := by
  induction tokens using List.reverseRecOn generalizing last with
  | nil =>
      cases hfeed
      exact traced_initial
  | append_singleton front token ih =>
      obtain ⟨before, hbefore, hstep⟩ := feed_concat_inv hfeed
      have hfront := ih (fun t ht => hkinds t (List.mem_append_left _ ht)) hbefore
      exact traced_step hfront (hkinds token (by simp)) hstep

/-- A fault is grounded in tokens when its checkpoint is a place of rest that has its definition, a
name is due there exactly for the faults that lack one, and where a separator is due a token
follows. -/
def Grounded (tokens : List Token) (checkpoint : Nat) (definition : Definition)
    (reason : Fault.Reason) : Prop :=
  ∃ due, RestsAt tokens checkpoint definition due ∧ due.isRest = true ∧
    (due = .settled ↔ reason.lacksName = false) ∧ (due = .settled → checkpoint < tokens.length)

/-- A fault that leaves the checkpoint where it was. -/
theorem Traced.stay {read : List Token} {state : Reading} (h : Traced read state)
    (rest : List Token) {reason : Fault.Reason} (hname : state.phase.beforeName = reason.lacksName)
    (hrest : state.phase.isRest = true → reason.lacksName = true) :
    Grounded (read ++ rest) state.checkpoint state.definition reason := by
  obtain ⟨due, hrests, hdue, hiff⟩ := h.rests
  rw [hname] at hiff
  refine ⟨due, hrests.append rest, hdue, hiff, fun hsettled => ?_⟩
  have hbehind : state.checkpoint < read.length := by
    apply h.behind
    cases hcase : state.phase.isRest with
    | false => rfl
    | true =>
        rw [hiff.1 hsettled] at hrest
        cases hrest hcase
  rw [List.length_append]
  omega

/-- A fault at a token after everything before it was committed. -/
theorem Traced.stopped_settled {read rest : List Token} {state settled : Reading} {token : Token}
    {checkpoint : Nat} {definition : Definition} {reason : Fault.Reason} (h : Traced read state)
    (hsettle : state.settle? = some settled) (hphase : settled.phase = .settled)
    (hstop : settled.stepSettled token = .inr (.stopped checkpoint definition reason))
    (hrest : token.kind ≠ .endOfInput → rest ≠ []) :
    Grounded (read ++ rest) checkpoint definition reason := by
  obtain ⟨rfl, rfl, hreason, hkind⟩ := stepSettled_stopped hstop
  have hrests := h.restsAt_settle hsettle hphase
  obtain ⟨-, hcheckpoint⟩ := h.settle_eq hsettle
  rw [hcheckpoint]
  refine ⟨.settled, hrests.append rest, rfl, by simp [hreason], fun _ => ?_⟩
  have hpos := List.length_pos_iff.2 (hrest hkind)
  rw [List.length_append]
  omega

/-- A step that stops gives a grounded fault. Only the end of input may have no token behind it. -/
theorem traced_stopped {read rest : List Token} {state : Reading} {token : Token}
    {finished : Bool} {checkpoint : Nat} {definition : Definition} {reason : Fault.Reason}
    (h : Traced read state)
    (hstep : state.step finished token = .inr (.stopped checkpoint definition reason))
    (hrest : token.kind ≠ .endOfInput → rest ≠ []) :
    Grounded (read ++ rest) checkpoint definition reason := by
  unfold step at hstep
  cases hphase : state.phase with
  | start =>
      simp only [hphase, stepName] at hstep
      split at hstep
      · cases hstep
      · cases hstep
        exact h.stay rest (by rw [hphase]; rfl) (fun _ => rfl)
  | piped =>
      simp only [hphase, stepName] at hstep
      split at hstep
      · cases hstep
        exact h.stay rest (by rw [hphase]; rfl) (fun _ => rfl)
      · split at hstep
        · cases hstep
        · cases hstep
          exact h.stay rest (by rw [hphase]; rfl) (fun _ => rfl)
  | named name stop =>
      simp only [hphase] at hstep
      split at hstep
      · cases hstep
        exact h.stay rest (by rw [hphase]; rfl) (fun _ => rfl)
      · exact h.stopped_settled (by simp [settle?, hphase]) rfl hstep hrest
  | settled =>
      simp only [hphase] at hstep
      exact h.stopped_settled (by simp [settle?, hphase]) hphase hstep hrest
  | dashed =>
      simp only [hphase] at hstep
      split at hstep
      · cases hstep
        exact h.stay rest (by rw [hphase]; rfl) (by simp [hphase, Phase.isRest])
      · cases hstep
        exact h.stay rest (by rw [hphase]; rfl) (by simp [hphase, Phase.isRest])
  | marked =>
      simp only [hphase] at hstep
      split at hstep
      · cases hstep
      · cases hstep
        exact h.stay rest (by rw [hphase]; rfl) (by simp [hphase, Phase.isRest])
      · cases hstep
        exact h.stay rest (by rw [hphase]; rfl) (by simp [hphase, Phase.isRest])
  | keyed key stop =>
      simp only [hphase] at hstep
      split at hstep
      · cases hstep
        exact h.stay rest (by rw [hphase]; rfl) (by simp [hphase, Phase.isRest])
      · split at hstep
        · cases hstep
        · cases hstep
        · cases hstep
          exact h.stay rest (by rw [hphase]; rfl) (by simp [hphase, Phase.isRest])
  | keyDotted key =>
      simp only [hphase] at hstep
      split at hstep
      · cases hstep
      · cases hstep
        exact h.stay rest (by rw [hphase]; rfl) (by simp [hphase, Phase.isRest])
  | assigned key =>
      simp only [hphase] at hstep
      split at hstep
      · cases hstep
      · cases hstep
      · cases hstep
        exact h.stay rest (by rw [hphase]; rfl) (by simp [hphase, Phase.isRest])
  | valued key value =>
      simp only [hphase] at hstep
      split at hstep
      · cases hstep
      · exact h.stopped_settled (by simp [settle?, hphase]) rfl hstep hrest
  | valueDotted key value =>
      simp only [hphase] at hstep
      split at hstep
      · cases hstep
      · cases hstep
        -- the one fault that moves the checkpoint: back to before the dot, behind the value
        have hbehind := h.behind (by rw [hphase]; rfl)
        have hrests := h.dotted key value hphase
        rw [← h.consumed] at hrests
        refine ⟨.settled, hrests.append rest, rfl, by simp [Fault.Reason.lacksName], fun _ => ?_⟩
        rw [h.consumed, List.length_append]
        omega

/-! ## A whole run -/

/-- The outcome when the text ends at byte `size`. -/
def atEnd (finished : Bool) (size : Nat) (state : Reading) : Outcome :=
  let stopped := Outcome.stopped state.checkpoint state.definition
  match state.phase with
  | .start => stopped (.missingComponent .endOfInput)
  | .piped => stopped .trailingPipe
  | .named name stop =>
    if !finished && size = stop then stopped (.danglingComponentName name)
    else .complete (state.definition ++ [⟨name, []⟩])
  | .settled => .complete state.definition
  | .dashed => stopped .unfinishedOptionMarker
  | .marked => stopped .trailingOptionMarker
  | .keyed key stop =>
    if !finished && size = stop then stopped (.unfinishedOptionName key)
    else stopped (.missingOptionValue key false)
  | .keyDotted key => stopped (.unfinishedOptionName key)
  | .assigned key => stopped (.missingOptionValue key true)
  | .valued key value => .complete (state.definition.withOption key value)
  | .valueDotted key value =>
    .stopped (state.consumed - 1) (state.definition.withOption key value) (.missingSeparator .dot)

/-- Reading never goes on behind the end of input. -/
theorem step_endOfInput {token : Token} (h : token.kind = .endOfInput) (state : Reading)
    (finished : Bool) : state.step finished token = .inr (state.atEnd finished token.start) := by
  unfold step atEnd
  cases state.phase with
  | named name stop | keyed key stop =>
      simp only [mayGrow, h, decide_true, Bool.and_true]
      split
      · rfl
      · simp [stepSettled, h, commit, Reading.stop]
  | _ => simp [stepName, stepSettled, h, stop, commit]

/-- The fault of a run is grounded in the tokens before the end of input. -/
theorem run_stopped {read rest : List Token} {state : Reading} {last : Token} {finished : Bool}
    {checkpoint : Nat} {definition : Definition} {reason : Fault.Reason} (h : Traced read state)
    (hrest : ∀ token ∈ rest, token.kind ≠ .endOfInput) (hlast : last.kind = .endOfInput)
    (hrun : state.run finished (rest ++ [last]) = .stopped checkpoint definition reason) :
    Grounded (read ++ rest) checkpoint definition reason := by
  induction rest generalizing read state with
  | nil =>
      have hstep := step_endOfInput hlast state finished
      rw [List.nil_append, run, hstep] at hrun
      simp only at hrun
      rw [hrun] at hstep
      exact traced_stopped h hstep (fun hkind => absurd hlast hkind)
  | cons token tail ih =>
      have hkind := hrest token List.mem_cons_self
      rw [List.cons_append, run, step_finished hkind] at hrun
      -- the invariant moves over the token, and the tokens read grow by it
      cases hstep : state.step false token with
      | inl next =>
          simp only [hstep] at hrun
          have htail := ih (traced_step h hkind hstep)
            (fun t ht => hrest t (List.mem_cons_of_mem _ ht)) hrun
          rwa [List.append_assoc] at htail
      | inr outcome =>
          simp only [hstep] at hrun
          subst hrun
          exact traced_stopped h hstep (fun _ => by simp)

end Reading

end PipeAssist

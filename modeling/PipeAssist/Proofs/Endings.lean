import PipeAssist.Proofs.Checkpoints

/-!
# How readings end

Reading stops at a token of the text or at its end (`run_stops`). At a token it makes no difference
whether the text is declared finished, and the fault is none of those that only the end gives
(`run_ends`). The phase at the end says what the last token is (`exists_isBehind`). So the two ways
to read a text differ in exactly two cases, both at an identifier that touches the end: a component
name and an option name that may still be typed on (`exactly_one_ending`).
-/

set_option autoImplicit false

namespace PipeAssist

namespace Reading

/-! ## The last token -/

/-- Whether a phase comes right behind a token. -/
def Phase.IsBehind (token : Token) : Phase → Prop
  | .start => False
  | .piped => token.kind = .pipe
  | .named _ stop | .keyed _ stop => token.kind = .identifier ∧ token.stop = stop
  | .settled => token.kind = .stringLiteral
  | .dashed => token.kind = .unknown
  | .marked => token.kind = .optionMarker
  | .keyDotted _ | .valueDotted _ _ => token.kind = .dot
  | .assigned _ => token.kind = .equals
  | .valued _ _ => token.kind = .identifier

theorem Pends.isBehind {phase next : Phase} {token : Token} (h : Pends phase token next) :
    next.IsBehind token := by
  cases h with
  | firstName kind | nextName kind | key kind | keyMore kind => exact ⟨kind, rfl⟩
  | keyDot kind | equals kind | value kind | valueDot kind | valueMore kind => exact kind

/-- A token leads to a phase right behind it. -/
theorem step_isBehind {state next : Reading} {token : Token} {finished : Bool}
    (hkind : token.kind ≠ .endOfInput) (hstep : state.step finished token = .inl next) :
    next.phase.IsBehind token := by
  rcases step_inl hkind hstep with ⟨phase, hpends, rfl⟩ | ⟨settled, -, -, hnext⟩ |
    ⟨key, -, hliteral, rfl⟩
  · exact hpends.isBehind
  · rcases stepSettled_inl hnext with ⟨phase, ⟨rfl, hmarker⟩ | ⟨rfl, hdash⟩, rfl⟩ | ⟨hpipe, rfl⟩
    · exact hmarker
    · exact hdash
    · exact hpipe
  · exact hliteral

/-- Unless nothing was read, the phase comes right behind the last token. -/
theorem exists_isBehind {tokens : List Token}
    (hkinds : ∀ token ∈ tokens, token.kind ≠ .endOfInput) {last : Reading}
    (hfeed : initial.feed false tokens = some last) (hphase : last.phase ≠ .start) :
    ∃ token, tokens.getLast? = some token ∧ last.phase.IsBehind token := by
  rcases List.eq_nil_or_concat tokens with rfl | ⟨front, token, rfl⟩
  · cases hfeed
    exact absurd rfl hphase
  · rw [List.concat_eq_append] at hkinds hfeed ⊢
    obtain ⟨before, -, hstep⟩ := feed_concat_inv hfeed
    exact ⟨token, List.getLast?_concat, step_isBehind (hkinds token (by simp)) hstep⟩

/-! ## Where a run ends -/

/-- At a token reading stops with a fault, and with none that fixes the last token. -/
theorem step_midway {state : Reading} {token : Token} {finished : Bool} {outcome : Outcome}
    (hkind : token.kind ≠ .endOfInput) (hstep : state.step finished token = .inr outcome) :
    ∃ checkpoint definition reason, outcome = .stopped checkpoint definition reason ∧
      reason.kind.lastToken? = none := by
  have hsettled : ∀ settled : Reading, settled.stepSettled token = .inr outcome →
      ∃ checkpoint definition reason, outcome = .stopped checkpoint definition reason ∧
        reason.kind.lastToken? = none := by
    intro settled hstop
    unfold stepSettled at hstop
    split at hstop
    · cases hstop
    next hend => exact absurd hend hkind
    · cases hstop
    · split at hstop
      · cases hstop
      · cases hstop
        exact ⟨_, _, _, rfl, rfl⟩
    · cases hstop
      exact ⟨_, _, _, rfl, rfl⟩
  unfold step at hstep
  cases hphase : state.phase with
  | start | piped =>
      simp only [hphase, hkind, if_false, stepName] at hstep
      split at hstep <;> cases hstep
      exact ⟨_, _, _, rfl, rfl⟩
  | named name stop =>
      simp only [hphase, mayGrow_eq_false hkind, Bool.false_eq_true, if_false] at hstep
      exact hsettled _ hstep
  | settled =>
      simp only [hphase] at hstep
      exact hsettled _ hstep
  | dashed =>
      simp only [hphase, hkind, if_false] at hstep
      cases hstep
      exact ⟨_, _, _, rfl, rfl⟩
  | marked =>
      simp only [hphase] at hstep
      split at hstep
      · cases hstep
      next hend => exact absurd hend hkind
      · cases hstep
        exact ⟨_, _, _, rfl, rfl⟩
  | keyed key stop =>
      simp only [hphase, mayGrow_eq_false hkind, Bool.false_eq_true, if_false] at hstep
      split at hstep <;> cases hstep
      exact ⟨_, _, _, rfl, rfl⟩
  | assigned key | keyDotted key | valueDotted key value =>
      simp only [hphase] at hstep
      split at hstep <;> cases hstep
      exact ⟨_, _, _, rfl, rfl⟩
  | valued key value =>
      simp only [hphase] at hstep
      split at hstep
      · cases hstep
      · exact hsettled _ hstep

/-- A run gets its outcome at the end, behind all the tokens, or at one of them. -/
theorem run_stops {finished : Bool} {tokens : List Token} {final : Token} {state : Reading}
    {outcome : Outcome} (hfinal : final.kind = .endOfInput)
    (hrun : state.run finished (tokens ++ [final]) = outcome) :
    (∃ last, state.feed finished tokens = some last ∧
      last.atEnd finished final.start = outcome) ∨
    (∃ front token back before, tokens = front ++ token :: back ∧
      state.feed finished front = some before ∧ before.step finished token = .inr outcome) := by
  induction tokens generalizing state with
  | nil =>
      refine Or.inl ⟨state, rfl, ?_⟩
      rw [List.nil_append, run, step_endOfInput hfinal] at hrun
      exact hrun
  | cons token rest ih =>
      rw [List.cons_append, run] at hrun
      cases hstep : state.step finished token with
      | inl next =>
          have hfeed : ∀ read, state.feed finished (token :: read) = next.feed finished read := by
            intro read
            rw [feed, hstep]
          rw [hstep] at hrun
          rcases ih hrun with ⟨last, hlast, hend⟩ |
            ⟨front, other, back, before, rfl, hbefore, hother⟩
          · exact Or.inl ⟨last, (hfeed _).trans hlast, hend⟩
          · exact Or.inr ⟨token :: front, other, back, before, rfl, (hfeed _).trans hbefore, hother⟩
      | inr stopped =>
          rw [hstep] at hrun
          refine Or.inr ⟨[], token, rest, state, rfl, rfl, ?_⟩
          rw [hstep, ← hrun]

/-- A run over the tokens of a text reaches their end, where it matters whether the text is
finished, or it stops before with a fault that does not depend on the end. -/
theorem run_ends {tokens : List Token} (hkinds : ∀ token ∈ tokens, token.kind ≠ .endOfInput)
    (size : Nat) (state : Reading) :
    (∃ last, state.feed false tokens = some last ∧ ∀ finished,
      state.run finished (tokens ++ [Token.finish size]) = last.atEnd finished size) ∨
    (∃ checkpoint definition reason, reason.kind.lastToken? = none ∧ ∀ finished,
      state.run finished (tokens ++ [Token.finish size]) =
        .stopped checkpoint definition reason) := by
  have hend : (Token.finish size).kind = .endOfInput := rfl
  -- in front of the end both runs take the same steps
  rcases @run_stops false tokens _ state _ hend rfl with ⟨last, hfeed, -⟩ |
    ⟨front, token, back, before, rfl, hfeed, hstep⟩
  · refine Or.inl ⟨last, hfeed, fun finished => ?_⟩
    rw [← feed_finished hkinds state finished] at hfeed
    rw [run_of_feed hfeed, run, step_endOfInput hend]
    rfl
  · have hkind := hkinds token (by simp)
    have hfront : ∀ t ∈ front, t.kind ≠ .endOfInput := by
      intro t ht
      exact hkinds t (List.mem_append_left _ ht)
    obtain ⟨checkpoint, definition, reason, hstopped, hreason⟩ := step_midway hkind hstep
    refine Or.inr ⟨checkpoint, definition, reason, hreason, fun finished => ?_⟩
    rw [← feed_finished hfront state finished] at hfeed
    rw [List.append_assoc, run_of_feed hfeed, List.cons_append, run, step_finished hkind, hstep,
      hstopped]

/-- A fault at the end that fixes the last token arises in a phase right behind such a token. -/
theorem atEnd_lastToken {state : Reading} {finished : Bool} {size checkpoint : Nat}
    {definition : Definition} {reason : Fault.Reason} {kind : Token.Kind}
    (h : state.atEnd finished size = .stopped checkpoint definition reason)
    (hkind : reason.kind.lastToken? = some kind) :
    state.phase ≠ .start ∧ ∀ token, state.phase.IsBehind token → token.kind = kind := by
  unfold atEnd at h
  cases hphase : state.phase with
  | named name stop =>
      simp only [hphase] at h
      split at h
      · cases h
        cases hkind
        exact ⟨by simp, fun token hbehind => hbehind.1⟩
      · cases h
  | keyed key stop =>
      simp only [hphase] at h
      split at h <;> cases h <;> cases hkind
  | piped | dashed | marked =>
      simp only [hphase] at h
      cases h
      cases hkind
      exact ⟨by simp, fun token hbehind => hbehind⟩
  | settled | valued key value =>
      simp only [hphase] at h
      cases h
  | _ =>
      simp only [hphase] at h
      cases h
      cases hkind

end Reading

/-! ## Finished and unfinished texts -/

open Reading

namespace Definition

/-- The result that an outcome stands for when a text was read. -/
def ofOutcome (text : Text) : Outcome → Except Fault Definition
  | .complete definition => .ok definition
  | .stopped checkpoint definition reason =>
    .error ⟨text, Token.scan text, checkpoint, definition, reason⟩

theorem ofTokens_scan (finished : Bool) (text : Text) :
    ofTokens finished text (Token.scan text) =
      ofOutcome text (initial.run finished (Token.scan text)) := by
  simp only [ofTokens, Token.terminated_scan]
  cases initial.run finished (Token.scan text) with
  | complete definition => rfl
  | stopped checkpoint definition reason => rfl

/-- The results of reading a text: both come from the state behind its last token, or both are the
same fault at a token before. -/
theorem ofTokens_ends (text : Text) :
    (∃ last, initial.feed false (Token.inText 0 text) = some last ∧ ∀ finished,
      ofTokens finished text (Token.scan text) =
        ofOutcome text (last.atEnd finished (Text.byteSize text))) ∨
    (∃ fault : Fault, fault.kind.lastToken? = none ∧ ∀ finished,
      ofTokens finished text (Token.scan text) = .error fault) := by
  have hkinds : ∀ token ∈ Token.inText 0 text, token.kind ≠ .endOfInput :=
    fun _ htoken => Token.inText_kind_ne htoken
  have hends := run_ends hkinds (Text.byteSize text) initial
  rw [← Token.scan_eq] at hends
  simp only [ofTokens_scan]
  rcases hends with ⟨last, hfeed, hrun⟩ | ⟨checkpoint, definition, reason, hreason, hrun⟩
  · exact Or.inl ⟨last, hfeed, fun finished => by rw [hrun]⟩
  · refine Or.inr ⟨⟨text, Token.scan text, checkpoint, definition, reason⟩, hreason, ?_⟩
    intro finished
    rw [hrun]
    rfl

end Definition

/-- The last token of a text whose fault fixes it is of that kind. -/
theorem Fault.lastToken_kind {finished : Bool} {text : Text} {fault : Fault} {kind : Token.Kind}
    (h : Definition.ofTokens finished text (Token.scan text) = .error fault)
    (hkind : fault.kind.lastToken? = some kind) :
    ∃ token, fault.lastToken? = some token ∧ token.kind = kind := by
  rcases Definition.ofTokens_ends text with ⟨last, hfeed, hread⟩ | ⟨other, hother, hread⟩
  · rw [hread] at h
    cases hend : last.atEnd finished (Text.byteSize text) with
    | complete definition =>
        rw [hend] at h
        cases h
    | stopped checkpoint definition reason =>
        rw [hend] at h
        cases h
        obtain ⟨hstart, hbehind⟩ := atEnd_lastToken hend hkind
        obtain ⟨token, htoken, hphase⟩ :=
          exists_isBehind (fun _ htoken => Token.inText_kind_ne htoken) hfeed hstart
        refine ⟨token, ?_, hbehind token hphase⟩
        rw [lastToken?, Token.lastSignificant?, Token.filter_isSignificant_scan, htoken]
  · rw [hread] at h
    cases h
    rw [hother] at hkind
    cases hkind

/-- How the two ways to read a text compare. -/
inductive Ending where
  /-- Both are complete. -/
  | complete
  /-- The text ends with a component name that may still grow. -/
  | componentName
  /-- The text ends with an option name that may still grow. -/
  | optionName
  /-- Both stop with the same fault. -/
  | fault
deriving DecidableEq, Repr

namespace Ending

/-- What it means for a text to end in one of the ways. -/
def Holds (text : Text) : Ending → Prop
  | .complete => ∃ definition,
      Definition.read text = .ok definition ∧ Definition.readFinished text = .ok definition
  | .componentName => ∃ fault name,
      Definition.read text = .error fault ∧ fault.reason = .danglingComponentName name ∧
        Definition.readFinished text = .ok (fault.definition ++ [⟨name, []⟩])
  | .optionName => ∃ fault key,
      Definition.read text = .error fault ∧ fault.reason = .unfinishedOptionName key ∧
        Definition.readFinished text =
          .error { fault with reason := .missingOptionValue key false }
  | .fault => ∃ fault,
      Definition.read text = .error fault ∧ Definition.readFinished text = .error fault

/-- Texts whose last token is an identifier that touches the end. -/
def TouchesEnd (text : Text) : Prop :=
  ∃ token, Token.lastSignificant? (Token.scan text) = some token ∧ token.kind = .identifier ∧
    token.stop = Text.byteSize text

/-- The way in which a text ends, told from its two results. -/
def of (text : Text) : Ending :=
  match Definition.read text, Definition.readFinished text with
  | .ok _, _ => .complete
  | .error _, .ok _ => .componentName
  | .error a, .error b => if a.reason = b.reason then .fault else .optionName

theorem Holds.eq_of {text : Text} {ending : Ending} (h : ending.Holds text) : ending = of text := by
  cases ending with
  | complete =>
      obtain ⟨definition, hopen, -⟩ := h
      simp only [of, hopen]
  | componentName =>
      obtain ⟨fault, name, hopen, -, hfinished⟩ := h
      simp only [of, hopen, hfinished]
  | optionName =>
      obtain ⟨fault, key, hopen, hreason, hfinished⟩ := h
      simp [of, hopen, hfinished, hreason]
  | fault =>
      obtain ⟨fault, hopen, hfinished⟩ := h
      simp [of, hopen, hfinished]

/-- A name that is pending where the text ends is its last identifier. -/
theorem touchesEnd_of_feed {text name : Text} {last : Reading}
    (hfeed : initial.feed false (Token.inText 0 text) = some last)
    (hphase : last.phase = .named name (Text.byteSize text) ∨
      last.phase = .keyed name (Text.byteSize text)) : TouchesEnd text := by
  have hstart : last.phase ≠ .start := by
    rcases hphase with hphase | hphase <;> simp [hphase]
  obtain ⟨token, htoken, hbehind⟩ :=
    exists_isBehind (fun _ htoken => Token.inText_kind_ne htoken) hfeed hstart
  have hname : token.kind = .identifier ∧ token.stop = Text.byteSize text := by
    rcases hphase with hphase | hphase
    · rwa [hphase] at hbehind
    · rwa [hphase] at hbehind
  exact ⟨token, by rw [Token.lastSignificant?, Token.filter_isSignificant_scan, htoken], hname⟩

/-- The state behind the last token decides how a text ends. -/
theorem exists_holds (text : Text) :
    ∃ ending : Ending, ending.Holds text ∧
      (ending = .componentName ∨ ending = .optionName → TouchesEnd text) := by
  rcases Definition.ofTokens_ends text with ⟨last, hfeed, hread⟩ | ⟨fault, -, hread⟩
  · have hopen : Definition.read text = _ := hread false
    have hfinished : Definition.readFinished text = _ := hread true
    cases hphase : last.phase with
    | named name stop =>
        simp only [atEnd, hphase, Bool.not_false, Bool.true_and, Bool.not_true, Bool.false_and,
          Bool.false_eq_true, if_false, decide_eq_true_eq] at hopen hfinished
        by_cases hgrow : Text.byteSize text = stop
        · rw [if_pos hgrow] at hopen
          refine ⟨.componentName, ⟨_, name, hopen, rfl, hfinished⟩, fun _ => ?_⟩
          exact touchesEnd_of_feed hfeed (Or.inl (hgrow ▸ hphase))
        · rw [if_neg hgrow] at hopen
          exact ⟨.complete, ⟨_, hopen, hfinished⟩, by simp⟩
    | keyed key stop =>
        simp only [atEnd, hphase, Bool.not_false, Bool.true_and, Bool.not_true, Bool.false_and,
          Bool.false_eq_true, if_false, decide_eq_true_eq] at hopen hfinished
        by_cases hgrow : Text.byteSize text = stop
        · rw [if_pos hgrow] at hopen
          refine ⟨.optionName, ⟨_, key, hopen, rfl, hfinished⟩, fun _ => ?_⟩
          exact touchesEnd_of_feed hfeed (Or.inr (hgrow ▸ hphase))
        · rw [if_neg hgrow] at hopen
          exact ⟨.fault, ⟨_, hopen, hfinished⟩, by simp⟩
    | settled | valued key value =>
        simp only [atEnd, hphase] at hopen hfinished
        exact ⟨.complete, ⟨_, hopen, hfinished⟩, by simp⟩
    | _ =>
        simp only [atEnd, hphase] at hopen hfinished
        exact ⟨.fault, ⟨_, hopen, hfinished⟩, by simp⟩
  · exact ⟨.fault, ⟨fault, hread false, hread true⟩, by simp⟩

/-- Every text ends in exactly one of the four ways, and its last token is an identifier that touches
the end where declaring the text finished makes a difference. -/
theorem exactly_one_ending (text : Text) :
    (∃! ending : Ending, ending.Holds text) ∧
      ∀ ending : Ending, ending.Holds text →
        ending = .componentName ∨ ending = .optionName → TouchesEnd text := by
  obtain ⟨ending, hholds, htouches⟩ := exists_holds text
  constructor
  · refine ⟨ending, hholds, fun other hother => ?_⟩
    rw [hother.eq_of, ← hholds.eq_of]
  · intro other hother hname
    rw [hother.eq_of, ← hholds.eq_of] at hname
    exact htouches hname

example : ["log ", "log", "log --name", "log |"].map (fun line => of line.toList) =
    [.complete, .componentName, .optionName, .fault] := by
  decide

end Ending

end PipeAssist

import PipeAssist.Proofs.Checkpoints

/-!
# Reading committed tokens again

The faults of texts are grounded in their tokens (`Fault.grounded`), and the text up to the
checkpoint is cut behind the last committed token, which a blank ends (`Fault.cut`). So the
committed tokens, with the end of input behind them, and the text that they cover both read as the
definition of the fault (`checkpoint_replay`).
-/

set_option autoImplicit false

namespace PipeAssist

/-- The definition of a result: the one that was read, or what was committed before the fault. -/
def Definition.committed : Except Fault Definition → Definition
  | .ok definition => definition
  | .error fault => fault.definition

namespace Reading

/-- The definition of an outcome: the one that was read, or what was committed before the fault. -/
def Outcome.definition : Outcome → Definition
  | .complete definition => definition
  | .stopped _ definition _ => definition

/-- A state that settles without a component before it has nothing pending. -/
theorem eq_of_settle {state settled : Reading} (h : state.settle? = some settled)
    (hphase : settled.phase ≠ .settled) : state = settled := by
  unfold settle? at h
  cases hcase : state.phase with
  | start | piped | settled =>
      simp only [hcase, Option.some.injEq] at h
      exact h
  | named name stop | valued key value =>
      simp only [hcase, Option.some.injEq] at h
      rw [← h] at hphase
      exact absurd rfl hphase
  | _ => simp [hcase] at h

/-- At the end of the text a state that settles behind a component is complete, unless a name may
still grow. -/
theorem atEnd_complete {state settled : Reading} {size : Nat} {finished : Bool}
    (hsettle : state.settle? = some settled) (hphase : settled.phase = .settled)
    (hname : ∀ name stop, state.phase = .named name stop → finished = true ∨ stop < size) :
    state.atEnd finished size = .complete settled.definition := by
  unfold settle? at hsettle
  unfold atEnd
  cases hcase : state.phase with
  | start | piped =>
      simp only [hcase, Option.some.injEq] at hsettle
      rw [hsettle, hphase] at hcase
      cases hcase
  | settled =>
      simp only [hcase, Option.some.injEq] at hsettle
      rw [hsettle]
  | named name stop =>
      have hgrow : (!finished && decide (size = stop)) = false := by
        rcases hname name stop hcase with rfl | hless
        · rfl
        · simp [show size ≠ stop by omega]
      simp only [hcase, Option.some.injEq] at hsettle
      simp [hgrow, ← hsettle, commit]
  | valued key value =>
      simp only [hcase, Option.some.injEq] at hsettle
      simp [← hsettle, commit]
  | _ => simp [hcase] at hsettle

/-- At the end of the text a state at rest gives its definition, unless a name may still grow. -/
theorem definition_atEnd {state settled : Reading} {size : Nat} {finished : Bool}
    (hsettle : state.settle? = some settled) (hrest : settled.phase.isRest = true)
    (hname : ∀ name stop, state.phase = .named name stop → finished = true ∨ stop < size) :
    (state.atEnd finished size).definition = settled.definition := by
  by_cases hphase : settled.phase = .settled
  · rw [atEnd_complete hsettle hphase hname]
    rfl
  · rw [eq_of_settle hsettle hphase]
    unfold atEnd
    cases hcase : settled.phase with
    | start | piped => rfl
    | settled => exact absurd hcase hphase
    | _ =>
        rw [hcase] at hrest
        cases hrest

/-- A step that leaves a name pending reads it where a name is due, and keeps the place where its
token ends. -/
theorem step_named {state next : Reading} {token : Token} {finished : Bool} {name : Text}
    {stop : Nat} (hkind : token.kind ≠ .endOfInput)
    (hstep : state.step finished token = .inl next) (hphase : next.phase = .named name stop) :
    (state.phase = .start ∨ state.phase = .piped) ∧ token.kind = .identifier ∧
      name = token.value ∧ stop = token.stop ∧ next.checkpoint = state.checkpoint ∧
      next.definition = state.definition := by
  rcases step_inl hkind hstep with ⟨phase, hpends, rfl⟩ | ⟨settled, -, -, hnext⟩ | ⟨key, -, -, rfl⟩
  · obtain ⟨hdue, hname, rfl, rfl⟩ := hpends.named hphase
    exact ⟨hdue, hname, rfl, rfl, rfl, rfl⟩
  · rcases stepSettled_inl hnext with ⟨phase, ⟨rfl, -⟩ | ⟨rfl, -⟩, rfl⟩ | ⟨-, rfl⟩ <;> cases hphase
  · cases hphase

/-- Behind a quoted value an option, a pipe or the end is due. -/
theorem step_literal {state next : Reading} {token : Token} {finished : Bool}
    (hkind : token.kind = .stringLiteral) (hstep : state.step finished token = .inl next) :
    next.phase = .settled := by
  have hne : token.kind ≠ .endOfInput := by simp [hkind]
  rcases step_inl hne hstep with ⟨phase, hpends, rfl⟩ | ⟨settled, -, -, hnext⟩ | ⟨key, -, -, rfl⟩
  · exact absurd hkind hpends.kind_ne_literal
  · rcases stepSettled_inl hnext with ⟨phase, ⟨-, hmarker⟩ | ⟨-, hunknown⟩, -⟩ | ⟨hpipe, -⟩ <;>
      simp_all
  · rfl

end Reading

/-! ## Faults of texts -/

namespace Fault

/-- The fault of a text keeps the text and its tokens, and the outcome of the run over them. -/
theorem ofScan {finished : Bool} {text : Text} {fault : Fault}
    (h : Definition.ofTokens finished text (Token.scan text) = .error fault) :
    fault.input = text ∧ fault.tokens = Token.scan text ∧
      Reading.initial.run finished (Token.scan text) =
        .stopped fault.checkpoint fault.definition fault.reason := by
  simp only [Definition.ofTokens, Token.terminated_scan] at h
  split at h
  · cases h
  next hrun =>
    cases h
    exact ⟨rfl, rfl, hrun⟩

/-- The fault of a text is grounded in its tokens. -/
theorem grounded {finished : Bool} {text : Text} {fault : Fault}
    (h : Definition.ofTokens finished text (Token.scan text) = .error fault) :
    Reading.Grounded (Token.inText 0 text) fault.checkpoint fault.definition fault.reason := by
  obtain ⟨-, -, hrun⟩ := ofScan h
  rw [Token.scan_eq] at hrun
  exact Reading.run_stopped Reading.traced_initial (fun _ htoken => Token.inText_kind_ne htoken)
    rfl hrun

/-- What is kept of a text is the part in front that has the committed tokens and ends with the
last of them. -/
theorem safePrefix_eq {fault : Fault} {kept rest : Text} (hinput : fault.input = kept ++ rest)
    (htokens : fault.tokens.take fault.checkpoint = Token.inText 0 kept)
    (hlast : ∀ p ∈ (Piece.split kept).getLast?, ∃ item, p = .lexeme item) :
    fault.safePrefix = kept := by
  have hoffset : fault.offset = Text.byteSize kept := by
    rw [offset, htokens]
    exact Token.endOf_inText hlast
  rw [safePrefix, hoffset, hinput, Text.takeBytes_append]

/-- The text up to the checkpoint is cut between two pieces, behind the last committed token. -/
theorem cut_pieces {finished : Bool} {text : Text} {fault : Fault}
    (h : Definition.ofTokens finished text (Token.scan text) = .error fault) :
    ∃ rest, text = fault.safePrefix ++ rest ∧
      Piece.split text = Piece.split fault.safePrefix ++ Piece.split rest ∧
      Token.inText 0 fault.safePrefix = (Token.inText 0 text).take fault.checkpoint ∧
      Token.inText (Text.byteSize fault.safePrefix) rest =
        (Token.inText 0 text).drop fault.checkpoint ∧
      ∀ p ∈ (Piece.split fault.safePrefix).getLast?, ∃ item, p = .lexeme item := by
  obtain ⟨hinput, htokens, -⟩ := ofScan h
  obtain ⟨-, ⟨hle, -⟩, -⟩ := grounded h
  obtain ⟨kept, rest, htext, hsplit, hleft, hright, hlast⟩ := Token.exists_cut text hle
  have htaken : fault.safePrefix = kept := by
    refine safePrefix_eq (hinput.trans htext) ?_ hlast
    rw [htokens, Token.scan_eq, List.take_append_of_le_length hle, hleft]
  rw [htaken]
  exact ⟨rest, htext, hsplit, hleft, hright, hlast⟩

/-- The text up to the checkpoint ends with the last committed token, and a blank ends that
token. -/
theorem cut {finished : Bool} {text : Text} {fault : Fault}
    (h : Definition.ofTokens finished text (Token.scan text) = .error fault) :
    ∃ rest, text = fault.safePrefix ++ rest ∧
      Token.inText 0 fault.safePrefix = (Token.inText 0 text).take fault.checkpoint ∧
      Token.Sealed fault.safePrefix := by
  obtain ⟨due, ⟨-, state, hfeed, hsettle⟩, -, -, hless⟩ := grounded h
  obtain ⟨rest, htext, hsplit, hleft, hright, hlast⟩ := cut_pieces h
  refine ⟨rest, htext, hleft, ?_⟩
  intro p hp
  obtain ⟨item, rfl⟩ := hlast p hp
  refine ⟨item, rfl, Lexeme.stopsAt_blank fun hliteral => ?_⟩
  obtain ⟨front, hfront⟩ := List.getLast?_eq_some_iff.1 hp
  have hcanonical := Piece.canonical_split text
  rw [hsplit, Piece.canonical_append] at hcanonical
  have hstops := hcanonical.2.2 _ hp
  rw [Piece.spelled_split] at hstops
  cases rest with
  | cons c cs => simpa [Piece.stopsAt, Lexeme.stopsAt, hliteral] using hstops
  | nil =>
      -- behind a literal the machine is settled, so a token would have to follow
      exfalso
      rw [← hleft, Token.inText, hfront, Token.lay_concat] at hfeed
      obtain ⟨before, -, hstep⟩ := Reading.feed_concat_inv hfeed
      have hphase := Reading.step_literal hliteral hstep
      have hdue : due = .settled := by
        simp only [Reading.settle?, hphase, Option.some.injEq] at hsettle
        rw [← hphase, hsettle]
      have hnil : (Token.inText 0 text).drop fault.checkpoint = [] := by rw [← hright]; rfl
      have hlong := List.drop_eq_nil_iff.1 hnil
      have hshort := hless hdue
      omega

end Fault

/-! ## Replay -/

namespace Definition

theorem committed_ofTokens (finished : Bool) (input : Text) (tokens : List Token) :
    committed (ofTokens finished input tokens) =
      (Reading.initial.run finished (Token.terminated tokens)).definition := by
  simp only [ofTokens]
  cases Reading.initial.run finished (Token.terminated tokens) with
  | complete definition => rfl
  | stopped checkpoint definition reason => rfl

/-- A text whose tokens can be read to the end gives the outcome that the end makes of their
state. -/
theorem run_scan (finished : Bool) {text : Text} {state : Reading}
    (h : Reading.initial.feed false (Token.inText 0 text) = some state) :
    Reading.initial.run finished (Token.scan text) =
      state.atEnd finished (Text.byteSize text) := by
  have hfeed : Reading.initial.feed finished (Token.inText 0 text) = some state := by
    rw [Reading.feed_finished (fun _ htoken => Token.inText_kind_ne htoken), h]
  have hend : (Token.finish (Text.byteSize text)).kind = .endOfInput := rfl
  rw [Token.scan_eq, Reading.run_of_feed hfeed, Reading.run, Reading.step_endOfInput hend]
  rfl

/-- A name at the checkpoint of a fault does not touch the end of the text. -/
theorem named_stop_lt {text : Text} {checkpoint : Nat} {state : Reading} {name : Text} {stop : Nat}
    (hfeed : Reading.initial.feed false ((Token.inText 0 text).take checkpoint) = some state)
    (hphase : state.phase = .named name stop)
    (hless : checkpoint < (Token.inText 0 text).length) : stop < Text.byteSize text := by
  rcases List.eq_nil_or_concat ((Token.inText 0 text).take checkpoint) with
    hnil | ⟨front, token, hfront⟩
  · rw [hnil] at hfeed
    cases hfeed
    cases hphase
  · rw [List.concat_eq_append] at hfront
    rw [hfront] at hfeed
    obtain ⟨before, -, hstep⟩ := Reading.feed_concat_inv hfeed
    have htoken : token ∈ Token.inText 0 text :=
      List.mem_of_mem_take (hfront ▸ List.mem_append_right front List.mem_cons_self)
    obtain ⟨-, -, -, rfl, -⟩ := Reading.step_named (Token.inText_kind_ne htoken) hstep hphase
    -- the token behind the checkpoint starts where the name ends, or later
    obtain ⟨next, after, hafter⟩ : ∃ next after,
        (Token.inText 0 text).drop checkpoint = next :: after :=
      List.exists_cons_of_ne_nil (by simpa using hless)
    have hsplit : Token.inText 0 text = front ++ token :: next :: after := by
      calc Token.inText 0 text
          = (Token.inText 0 text).take checkpoint ++ (Token.inText 0 text).drop checkpoint :=
            (List.take_append_drop _ _).symm
        _ = (front ++ [token]) ++ next :: after := by rw [hfront, hafter]
        _ = front ++ token :: next :: after := by simp
    exact Token.inText_stop_lt hsplit

/-- Both parts of a fault agree: the committed tokens, read again with the end of input behind them,
and the text up to the checkpoint, read as finished, give the definition of the fault. -/
theorem checkpoint_replay (text : Text) (fault : Fault)
    (h : read text = .error fault ∨ readFinished text = .error fault) :
    fault.checkpoint < fault.tokens.length ∧
      (∃ last, fault.tokens.getLast? = some last ∧ last.kind = .endOfInput ∧
        committed (ofTokens false text (fault.tokens.take fault.checkpoint ++ [last])) =
          fault.definition) ∧
      committed (readFinished fault.safePrefix) = fault.definition := by
  obtain ⟨finished, hfault⟩ :
      ∃ finished, ofTokens finished text (Token.scan text) = .error fault := by
    rcases h with h | h
    · exact ⟨false, h⟩
    · exact ⟨true, h⟩
  obtain ⟨-, htokens, -⟩ := Fault.ofScan hfault
  obtain ⟨due, ⟨hle, state, hfeed, hsettle⟩, hrest, -, hless⟩ := Fault.grounded hfault
  obtain ⟨rest, -, htaken, -⟩ := Fault.cut hfault
  have htake : fault.tokens.take fault.checkpoint =
      (Token.inText 0 text).take fault.checkpoint := by
    rw [htokens, Token.scan_eq, List.take_append_of_le_length hle]
  refine ⟨?_, ⟨Token.finish (Text.byteSize text), ?_, rfl, ?_⟩, ?_⟩
  -- the checkpoint counts tokens of the text, and the end of input comes on top
  · rw [htokens, Token.scan_eq, List.length_append]
    exact Nat.lt_succ_of_le hle
  · rw [htokens, Token.scan_eq, List.getLast?_concat]
  · have hterminated : Token.terminated
        ((Token.inText 0 text).take fault.checkpoint ++ [Token.finish (Text.byteSize text)]) =
        (Token.inText 0 text).take fault.checkpoint ++ [Token.finish (Text.byteSize text)] := by
      simp [Token.terminated, Token.finish]
    rw [committed_ofTokens, htake, hterminated, Reading.run_of_feed hfeed, Reading.run,
      Reading.step_endOfInput rfl]
    -- a committed name is followed by a token, so the end of the whole text is not right behind it
    refine Reading.definition_atEnd hsettle hrest fun name stop hphase => Or.inr ?_
    apply named_stop_lt hfeed hphase
    apply hless
    simp only [Reading.settle?, hphase, Reading.commit, Option.some.injEq,
      Reading.mk.injEq] at hsettle
    exact hsettle.2.2.2.symm
  -- in the text up to the checkpoint a name may touch the end, but that text is finished
  · rw [readFinished, committed_ofTokens, Token.terminated_scan, run_scan true (htaken ▸ hfeed)]
    exact Reading.definition_atEnd hsettle hrest fun _ _ _ => Or.inl rfl

/-- A dot behind a plain value: the value is committed, the dot is not. -/
theorem checkpoint_replay_dotted :
    ∃ fault, read ['a', '|', 'b', ' ', '-', '-', 'k', '=', 'v', '.'] = .error fault ∧
      fault.checkpoint = 7 ∧ fault.checkpoint < fault.tokens.length ∧
      committed (readFinished fault.safePrefix) = fault.definition := by
  refine ⟨_, rfl, rfl, ?_⟩
  have hreplay := checkpoint_replay ['a', '|', 'b', ' ', '-', '-', 'k', '=', 'v', '.'] _
    (Or.inl rfl)
  exact ⟨hreplay.1, hreplay.2.2⟩

end Definition

end PipeAssist

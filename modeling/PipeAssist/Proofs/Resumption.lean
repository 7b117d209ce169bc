import PipeAssist.Proofs.Endings
import PipeAssist.Proofs.Replay
import PipeAssist.Proofs.Spellings

/-!
# Reading on after a proposal

A proposal after a fault keeps the text up to the checkpoint and adds to it. Reading the new text
therefore goes on from the place of rest at the checkpoint (`Fault.resume`), and what is added
decides the result: a name, an option marker, an option name with a sign or a dot behind it, an
option with its value. A text that ends with a name being typed goes on from before the name
(`Fault.typing`) or from behind it. Declaring a text finished moves no other fault
(`Fault.finished`).
-/

set_option autoImplicit false

namespace PipeAssist

open Reading

namespace Definition

/-- A text whose tokens can be read to the end stops there with a fault. -/
theorem read_stopped {text : Text} {state : Reading} {checkpoint : Nat} {definition : Definition}
    {reason : Fault.Reason} (hfeed : initial.feed false (Token.inText 0 text) = some state)
    (hend : state.atEnd false (Text.byteSize text) = .stopped checkpoint definition reason) :
    read text = .error ⟨text, Token.scan text, checkpoint, definition, reason⟩ := by
  have hrun := run_scan false hfeed
  rw [hend] at hrun
  simp only [read, ofTokens, Token.terminated_scan, hrun]

/-- A text whose tokens can be read to the end is complete there. -/
theorem ofTokens_complete {text : Text} {state : Reading} {definition : Definition}
    {finished : Bool} (hfeed : initial.feed false (Token.inText 0 text) = some state)
    (hend : state.atEnd finished (Text.byteSize text) = .complete definition) :
    ofTokens finished text (Token.scan text) = .ok definition := by
  have hrun := run_scan finished hfeed
  rw [hend] at hrun
  simp only [ofTokens, Token.terminated_scan, hrun]

section Continuation

variable {text : Text} {state settled : Reading} (hsealed : Token.Sealed text)
  (hfeed : initial.feed false (Token.inText 0 text) = some state)
  (hsettle : state.settle? = some settled) (hphase : settled.phase = .settled)

include hsealed hfeed hsettle hphase

/-- A pipe behind a text that can be complete commits what is before it and waits for a name. -/
theorem read_pipe (explanation : String) :
    let joined := (Proposal.separate text ['|'] explanation).text
    read joined = .error ⟨joined, Token.scan joined, settled.consumed + 1, settled.definition,
      .trailingPipe⟩ := by
  obtain ⟨offset, htokens, -⟩ :=
    Token.inText_separate hsealed ['|'] (by decide) explanation
  rw [Token.inText_pipe] at htokens
  have hnext : initial.feed false
      (Token.inText 0 (Proposal.separate text ['|'] explanation).text) =
      some ⟨settled.consumed + 1, settled.consumed + 1, settled.definition, .piped⟩ := by
    rw [htokens, feed_append, hfeed, Option.bind_some]
    exact Grammar.feed_pipe hsettle hphase rfl
  exact read_stopped hnext rfl

/-- An option marker behind a text that can be complete commits what is before it. -/
theorem read_marked (explanation : String) :
    let joined := (Proposal.separate text (Strategy.marked []) explanation).text
    read joined = .error ⟨joined, Token.scan joined, settled.checkpoint, settled.definition,
      .trailingOptionMarker⟩ := by
  obtain ⟨offset, htokens, -⟩ :=
    Token.inText_separate hsealed (Strategy.marked []) (by decide) explanation
  rw [Token.inText_marked] at htokens
  have hnext : initial.feed false
      (Token.inText 0 (Proposal.separate text (Strategy.marked []) explanation).text) =
      some (settled.skip 1 .marked) := by
    rw [htokens, feed_append, hfeed, Option.bind_some, feed,
      step_of_settle hsettle hphase (by simp) (by simp)]
    rfl
  exact read_stopped hnext rfl

end Continuation

end Definition

theorem Proposal.exists_separate_text (kept suffix : Text) (explanation : String) :
    ∃ rest, (separate kept suffix explanation).text = kept ++ rest := by
  unfold separate adjoin
  split
  · exact ⟨suffix, rfl⟩
  · exact ⟨' ' :: suffix, rfl⟩

namespace Fault

/-! ## From the checkpoint on -/

section Resume

variable {text : Text} {fault : Fault} (h : Definition.read text = .error fault)

include h

/-- Reading a proposal goes on from the checkpoint of the fault. -/
theorem resume (suffix : Text) (hsuffix : suffix.head?.any Text.isBlank = false)
    (explanation : String) :
    ∃ (state : Reading) (due : Phase) (offset : Nat),
      initial.feed false
          (Token.inText 0 (Proposal.separate fault.safePrefix suffix explanation).text) =
        state.feed false (Token.inText offset suffix) ∧
      state.settle? = some ⟨fault.checkpoint, fault.checkpoint, fault.definition, due⟩ ∧
      due.isRest = true ∧ (due = .settled ↔ fault.reason.lacksName = false) ∧
      offset + Text.byteSize suffix =
        Text.byteSize (Proposal.separate fault.safePrefix suffix explanation).text := by
  obtain ⟨due, ⟨-, state, hfeed, hsettle⟩, hrest, hiff, -⟩ := grounded h
  obtain ⟨-, -, htaken, hsealed⟩ := cut h
  obtain ⟨offset, htokens, hsize⟩ := Token.inText_separate hsealed suffix hsuffix explanation
  refine ⟨state, due, offset, ?_, hsettle, hrest, hiff, hsize⟩
  rw [htokens, feed_append, htaken, hfeed, Option.bind_some]

/-- A proposal keeps the committed tokens. -/
theorem take_separate (suffix : Text) (hsuffix : suffix.head?.any Text.isBlank = false)
    (explanation : String) :
    (Token.inText 0 (Proposal.separate fault.safePrefix suffix explanation).text).take
      fault.checkpoint = (Token.inText 0 text).take fault.checkpoint := by
  obtain ⟨-, ⟨hle, -⟩, -⟩ := grounded h
  obtain ⟨-, -, htaken, hsealed⟩ := cut h
  obtain ⟨offset, htokens, -⟩ := Token.inText_separate hsealed suffix hsuffix explanation
  rw [htokens, htaken]
  exact List.take_left' (by rw [List.length_take, Nat.min_eq_left hle])

/-- A proposal that commits nothing more keeps what was kept. -/
theorem safePrefix_separate (suffix : Text) (hsuffix : suffix.head?.any Text.isBlank = false)
    (explanation : String) (reason : Reason) :
    let joined := (Proposal.separate fault.safePrefix suffix explanation).text
    safePrefix ⟨joined, Token.scan joined, fault.checkpoint, fault.definition, reason⟩ =
      fault.safePrefix := by
  intro joined
  obtain ⟨-, ⟨hle, -⟩, -⟩ := grounded h
  obtain ⟨-, -, htaken, hsealed⟩ := cut h
  obtain ⟨offset, htokens, -⟩ := Token.inText_separate hsealed suffix hsuffix explanation
  obtain ⟨rest, hjoined⟩ := Proposal.exists_separate_text fault.safePrefix suffix explanation
  refine safePrefix_eq hjoined ?_ fun p hp => ?_
  · -- the committed tokens are as many as before
    rw [Token.scan_eq, htokens, List.append_assoc]
    exact List.take_left' (by rw [htaken, List.length_take, Nat.min_eq_left hle])
  · obtain ⟨item, hitem, -⟩ := hsealed p hp
    exact ⟨item, hitem⟩

/-- A component name behind the checkpoint is a name that may still grow. -/
theorem read_name (hlacks : fault.reason.lacksName = true) {name : Text}
    (hname : Text.isWord name = true) (explanation : String) :
    let joined := (Proposal.separate fault.safePrefix name explanation).text
    Definition.read joined = .error ⟨joined, Token.scan joined, fault.checkpoint, fault.definition,
      .danglingComponentName name⟩ := by
  have hblank : name.head?.any Text.isBlank = false := Text.isBlank_head_of_isWord hname
  obtain ⟨state, due, offset, hfeed, hsettle, hrest, hiff, hsize⟩ :=
    resume h name hblank explanation
  -- where a name is due nothing is pending, so the state is the place of rest itself
  have hdue : due ≠ .settled := by
    intro hsettled
    rw [hiff.1 hsettled] at hlacks
    cases hlacks
  have htokens := Token.inText_single hname offset
  rw [eq_of_settle hsettle hdue, htokens] at hfeed
  have hnamed : initial.feed false
      (Token.inText 0 (Proposal.separate fault.safePrefix name explanation).text) =
      some ⟨fault.checkpoint + 1, fault.checkpoint, fault.definition,
        .named name (offset + Text.byteSize name)⟩ := by
    rw [hfeed]
    cases due with
    | settled => exact absurd rfl hdue
    | start => rfl
    | piped => rfl
    | _ => cases hrest
  refine Definition.read_stopped hnamed ?_
  simp [atEnd, hsize]

/-- An option marker behind the checkpoint waits for the name of an option. -/
theorem read_marker (hlacks : fault.reason.lacksName = false) (explanation : String) :
    let joined := (Proposal.separate fault.safePrefix (Strategy.marked []) explanation).text
    Definition.read joined = .error ⟨joined, Token.scan joined, fault.checkpoint, fault.definition,
      .trailingOptionMarker⟩ := by
  obtain ⟨due, ⟨-, state, hfeed, hsettle⟩, -, hiff, -⟩ := grounded h
  obtain ⟨-, -, htaken, hsealed⟩ := cut h
  obtain rfl : due = .settled := hiff.2 hlacks
  exact Definition.read_marked hsealed (htaken ▸ hfeed) hsettle rfl explanation

/-- The state behind an option name and what comes before it. -/
theorem resume_key (hlacks : fault.reason.lacksName = false) {key : Text}
    (hkey : Text.isDottedWord key = true) (after : Text)
    (hafter : after.head?.any Text.isWordPart = false) (explanation : String) :
    ∃ (tokens : List Token) (stop offset : Nat),
      initial.feed false (Token.inText 0
          (Proposal.separate fault.safePrefix (Strategy.marked (key ++ after)) explanation).text) =
        Reading.feed false
          ⟨fault.checkpoint + (tokens.length + 1), fault.checkpoint, fault.definition,
            .keyed key stop⟩ (Token.inText offset after) := by
  obtain ⟨state, due, offset, hfeed, hsettle, -, hiff, -⟩ :=
    resume h (Strategy.marked (key ++ after)) rfl explanation
  obtain rfl : due = .settled := hiff.2 hlacks
  obtain ⟨tokens, htokens, hwords⟩ := Token.inText_dotted hkey after hafter (offset + 2)
  obtain ⟨stop, hmarked⟩ := hwords.feed_marked
    (show (⟨⟨.optionMarker, ['-', '-'], []⟩, offset, offset + 2⟩ : Token).kind = .optionMarker
      from rfl) hsettle rfl
  refine ⟨tokens, stop, offset + 2 + Text.byteSize key, ?_⟩
  rw [hfeed, Token.inText_marked, htokens, ← List.cons_append, feed_append, hmarked,
    Option.bind_some]
  rfl

/-- An option name with its equals sign waits for a value. -/
theorem read_equals (hlacks : fault.reason.lacksName = false) {key : Text}
    (hkey : Text.isDottedWord key = true) (explanation : String) :
    let joined :=
      (Proposal.separate fault.safePrefix (Strategy.marked (key ++ ['='])) explanation).text
    Definition.read joined = .error ⟨joined, Token.scan joined, fault.checkpoint, fault.definition,
      .missingOptionValue key true⟩ := by
  obtain ⟨tokens, stop, offset, hfeed⟩ :=
    resume_key h hlacks hkey ['='] (by decide) explanation
  rw [Token.inText_equals] at hfeed
  exact Definition.read_stopped hfeed rfl

/-- An option name with a dot behind it is incomplete. -/
theorem read_dot (hlacks : fault.reason.lacksName = false) {key : Text}
    (hkey : Text.isDottedWord key = true) (explanation : String) :
    let joined :=
      (Proposal.separate fault.safePrefix (Strategy.marked (key ++ ['.'])) explanation).text
    Definition.read joined = .error ⟨joined, Token.scan joined, fault.checkpoint, fault.definition,
      .unfinishedOptionName (key ++ ['.'])⟩ := by
  obtain ⟨tokens, stop, offset, hfeed⟩ :=
    resume_key h hlacks hkey ['.'] (by decide) explanation
  rw [Token.inText_dot] at hfeed
  exact Definition.read_stopped hfeed rfl

/-- An option with a spelled value completes the definition. -/
theorem read_value (hlacks : fault.reason.lacksName = false) {key : Text}
    (hkey : Text.isDottedWord key = true) (value : Text) (explanation : String) :
    Definition.read (Proposal.separate fault.safePrefix
      (Strategy.marked (key ++ ['=']) ++ Literal.spell value) explanation).text =
        .ok (fault.definition.withOption key value) := by
  have hsuffix : Strategy.marked (key ++ ['=']) ++ Literal.spell value =
      Strategy.marked (key ++ '=' :: Literal.spell value) := by
    simp [Strategy.marked]
  rw [hsuffix]
  obtain ⟨tokens, stop, offset, hfeed⟩ := resume_key h hlacks hkey
    ('=' :: Literal.spell value) (by simp; decide) explanation
  rw [Token.inText_equals] at hfeed
  obtain ⟨next, hnext, hsettle, hname⟩ := (Token.value_spell value (offset + 1)).feed
    (show (⟨fault.checkpoint + (tokens.length + 1) + 1, fault.checkpoint, fault.definition,
      .assigned key⟩ : Reading).phase = .assigned key from rfl)
  have hread : initial.feed false (Token.inText 0 (Proposal.separate fault.safePrefix
      (Strategy.marked (key ++ '=' :: Literal.spell value)) explanation).text) = some next := by
    rw [hfeed, ← hnext]
    rfl
  -- behind an option no name is pending that could still grow
  refine Definition.ofTokens_complete hread (atEnd_complete hsettle rfl ?_)
  intro name stop hphase
  rw [hphase] at hname
  cases hname

end Resume

end Fault

/-! ## Names being typed -/

namespace Reading

/-- A run that ends with a name being typed reads all the tokens. -/
theorem run_dangling {state : Reading} {tokens : List Token} {size checkpoint : Nat}
    {definition : Definition} {fragment : Text}
    (htokens : ∀ token ∈ tokens, token.kind ≠ .endOfInput)
    (hrun : state.run false (tokens ++ [Token.finish size]) =
      .stopped checkpoint definition (.danglingComponentName fragment)) :
    ∃ last, state.feed false tokens = some last ∧ last.phase = .named fragment size ∧
      last.checkpoint = checkpoint ∧ last.definition = definition := by
  rcases run_ends htokens size state with ⟨last, hfeed, hends⟩ |
    ⟨stopped, committed, reason, hreason, hends⟩
  · refine ⟨last, hfeed, ?_⟩
    rw [hends] at hrun
    simp only [atEnd] at hrun
    cases hphase : last.phase with
    | named name stop =>
        simp only [hphase] at hrun
        split at hrun
        next hsize =>
          cases hrun
          simp only [Bool.not_false, Bool.true_and, decide_eq_true_eq] at hsize
          exact ⟨by rw [hsize], rfl, rfl⟩
        · cases hrun
    | keyed key stop =>
        simp only [hphase] at hrun
        split at hrun <;> cases hrun
    | _ =>
        simp only [hphase] at hrun
        cases hrun
  · -- a name is left to be typed on only where the text ends
    rw [hends] at hrun
    cases hrun
    cases hreason

end Reading

namespace Fault

/-- A text that ends with a name being typed: what is kept of it when the name is replaced, the
token of the name, and the state before it, where a name is due. -/
structure Typing (fault : Fault) (text fragment kept : Text) (token : Token)
    (before : Reading) : Prop where
  text_eq : text = kept ++ fragment
  isWord : Text.isWord fragment = true
  last : fault.lastToken? = some token
  start_eq : Text.takeBytes token.start fault.input = kept
  stop_eq : Text.takeBytes token.stop fault.input = text
  reached : initial.feed false (Token.inText 0 kept) = some before
  due : before.phase = .start ∨ before.phase = .piped
  checkpoint : before.checkpoint = fault.checkpoint
  definition : before.definition = fault.definition
  /-- The name is a piece of its own. -/
  ends : ∀ p ∈ (Piece.split kept).getLast?, p.stopsAt fragment.head? = true

/-- The fault of a name being typed. -/
theorem typing {text fragment : Text} {fault : Fault} (h : Definition.read text = .error fault)
    (hreason : fault.reason = .danglingComponentName fragment) :
    ∃ kept token before, Typing fault text fragment kept token before := by
  obtain ⟨hinput, htokens, hrun⟩ := ofScan h
  rw [Token.scan_eq, hreason] at hrun
  obtain ⟨last, hfeed, hphase, hcheckpoint, hdefinition⟩ :=
    run_dangling (fun _ htoken => Token.inText_kind_ne htoken) hrun
  rcases List.eq_nil_or_concat (Token.inText 0 text) with hnil | ⟨front, token, hconcat⟩
  · rw [hnil] at hfeed
    cases hfeed
    cases hphase
  · rw [List.concat_eq_append] at hconcat
    have hmem : token ∈ Token.inText 0 text :=
      hconcat ▸ List.mem_append_right front List.mem_cons_self
    rw [hconcat] at hfeed
    -- the last token is the name: it ends where the text ends, and before it a name was due
    obtain ⟨before, hbefore, hstep⟩ := feed_concat_inv hfeed
    obtain ⟨hdue, hkind, hname, hstop, hcheckpoint', hdefinition'⟩ :=
      step_named (Token.inText_kind_ne hmem) hstep hphase
    obtain ⟨kept, htext, hkept, hstart, hends⟩ := Token.exists_last hconcat hstop.symm
    obtain ⟨hword, hraw⟩ := Token.formed_identifier (Token.inText_formed hmem) hkind
    rw [← hname] at hword hraw
    rw [hraw] at htext hends
    refine ⟨kept, token, before, htext, hword, ?_, ?_, ?_, ?_, hdue, ?_, ?_, hends⟩
    · rw [lastToken?, htokens, Token.lastSignificant?, Token.filter_isSignificant_scan, hconcat,
        List.getLast?_concat]
    · rw [hinput, hstart, htext, Text.takeBytes_append]
    · rw [hinput, ← hstop]
      simpa using Text.takeBytes_append text []
    · rw [hkept, hbefore]
    · rw [← hcheckpoint', hcheckpoint]
    · rw [← hdefinition', hdefinition]

namespace Typing

variable {text fragment kept : Text} {fault : Fault} {token : Token} {before : Reading}

theorem head_eq (h : Typing fault text fragment kept token before) {name : Text}
    (hstarts : Text.startsWith name fragment = true) : name.head? = fragment.head? := by
  have hword := h.isWord
  cases fragment with
  | nil => cases hword
  | cons c cs =>
      obtain ⟨rest, rfl⟩ := List.isPrefixOf_iff_prefix.1 hstarts
      rfl

/-- Another name that begins like the one being typed can take its place. -/
theorem feed_name (h : Typing fault text fragment kept token before) {name : Text}
    (hname : Text.isWord name = true) (hstarts : Text.startsWith name fragment = true) :
    initial.feed false (Token.inText 0 (kept ++ name)) =
      some (before.skip 1 (.named name (Text.byteSize (kept ++ name)))) := by
  have htokens := Token.inText_single hname (Text.byteSize kept)
  rw [Token.inText_append (by rw [h.head_eq hstarts]; exact h.ends), Nat.zero_add, htokens,
    feed_append, h.reached, Option.bind_some, Text.byteSize_append]
  -- a name is read in the same way behind nothing and behind a pipe
  rcases h.due with hdue | hdue <;> simp [feed, step, hdue, stepName, next, skip]

theorem read_name (h : Typing fault text fragment kept token before) {name : Text}
    (hname : Text.isWord name = true) (hstarts : Text.startsWith name fragment = true) :
    Definition.read (kept ++ name) = .error ⟨kept ++ name, Token.scan (kept ++ name),
      fault.checkpoint, fault.definition, .danglingComponentName name⟩ := by
  refine Definition.read_stopped (h.feed_name hname hstarts) ?_
  simp [atEnd, skip, h.checkpoint, h.definition]

/-- What is kept is committed, whatever name follows it. -/
theorem take_name (h : Typing fault text fragment kept token before) {name : Text}
    (hstarts : Text.startsWith name fragment = true) :
    (Token.inText 0 (kept ++ name)).take fault.checkpoint = Token.inText 0 kept := by
  have hlevel : fault.checkpoint = (Token.inText 0 kept).length := by
    rw [← h.checkpoint]
    apply (traced_feed (fun _ htoken => Token.inText_kind_ne htoken) h.reached).level
    rcases h.due with hdue | hdue <;> rw [hdue] <;> rfl
  rw [Token.inText_append (by rw [h.head_eq hstarts]; exact h.ends), hlevel]
  exact List.take_left' rfl

/-- With the name committed, the text can be complete. -/
theorem feed_text (h : Typing fault text fragment kept token before) :
    ∃ state, initial.feed false (Token.inText 0 text) = some state ∧
      state.settle? = some (before.settleAt 1 (fault.definition ++ [⟨fragment, []⟩])) := by
  have hfeed := h.feed_name h.isWord (by simp [Text.startsWith])
  rw [← h.text_eq] at hfeed
  refine ⟨_, hfeed, ?_⟩
  simp [settle?, skip, commit, settleAt, h.definition]

theorem isSealed (h : Typing fault text fragment kept token before) : Token.Sealed text := by
  rw [h.text_eq]
  have hword := h.isWord
  refine Token.Sealed.append h.ends (Token.sealed_lexeme (.word hword) (by simp)) ?_
  rintro rfl
  cases hword

end Typing

end Fault

/-! ## Finished texts -/

/-- Declaring a text finished moves no fault but that of a name being typed. -/
theorem Fault.finished {text : Text} {fault : Fault} (h : Definition.read text = .error fault)
    (hreason : ∀ fragment, fault.reason ≠ .danglingComponentName fragment) :
    ∃ reason, Definition.readFinished text =
      .error ⟨text, Token.scan text, fault.checkpoint, fault.definition, reason⟩ := by
  obtain ⟨hinput, htokens, -⟩ := ofScan h
  obtain ⟨ending, hholds, -⟩ := Ending.exists_holds text
  cases ending with
  | complete =>
      obtain ⟨definition, hopen, -⟩ := hholds
      rw [h] at hopen
      cases hopen
  | componentName =>
      obtain ⟨other, name, hopen, hname, -⟩ := hholds
      rw [h] at hopen
      cases hopen
      exact absurd hname (hreason name)
  | optionName =>
      obtain ⟨other, key, hopen, -, hfinished⟩ := hholds
      rw [h] at hopen
      cases hopen
      exact ⟨_, by rw [hfinished, hinput, htokens]⟩
  | fault =>
      obtain ⟨other, hopen, hfinished⟩ := hholds
      rw [h] at hopen
      cases hopen
      refine ⟨fault.reason, ?_⟩
      rw [hfinished, ← htokens, ← hinput]

end PipeAssist

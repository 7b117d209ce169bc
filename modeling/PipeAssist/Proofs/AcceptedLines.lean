import PipeAssist.Proofs.Derivations
import PipeAssist.Proofs.Progress
import PipeAssist.Proofs.TrailingBlanks
import PipeAssist.Proofs.Validity

/-!
# Lines made of accepted proposals

A line can be made by starting with the empty one and accepting proposals only. `Built` is the
invariant of such lines: what a line has committed is a valid pipeline of the grammar, and a name
that may still grow is that of a component. `Built.accept` is what one proposal preserves and
`AcceptedLine.built` what any number of them do, so that the definition of every line is one that
the catalog allows (`AcceptedLine.definition_allowed`).
-/

set_option autoImplicit false

namespace PipeAssist

open Grammar Reading

/-- Lines that come from the empty line by accepting proposals, at any levels. -/
inductive AcceptedLine (engine : Engine) : Text → Prop where
  | start : AcceptedLine engine []
  | accept {line : Text} {level : Nat} {proposal : Proposal} (before : AcceptedLine engine line)
      (mem : proposal ∈ engine.complete line level) : AcceptedLine engine proposal.text

/-- The tokens that make up the definition of a result: all significant ones, or those before the
checkpoint of the fault. -/
def Definition.committedTokens (text : Text) : Except Fault Definition → List Token
  | .ok _ => (Token.scan text).filter Token.isSignificant
  | .error fault => fault.tokens.take fault.checkpoint

/-! ## What a fault has committed -/

namespace Fault

/-- The definition of a fault is the meaning of what is written before its checkpoint, and the
reason says how it can go on. -/
theorem written {text : Text} {fault : Fault} (h : Definition.read text = .error fault)
    {uses : List WrittenUse} {onward : Bool}
    (hcommitted : Committed ((Token.inText 0 text).take fault.checkpoint) uses onward) :
    fault.definition = uses.map WrittenUse.meaning ∧
      ((fault.reason.lacksName = false ∧ onward = false ∧
        Pipeline ((Token.inText 0 text).take fault.checkpoint) uses) ∨
       (fault.reason.lacksName = true ∧ (onward = true ∨ uses = []) ∧
        ∀ token : Token, token.kind = .identifier →
          Pipeline ((Token.inText 0 text).take fault.checkpoint ++ [token])
            (uses ++ [⟨token.value, []⟩]))) := by
  obtain ⟨due, ⟨-, state, hfeed, hsettle⟩, -, hiff, -⟩ := grounded h
  obtain ⟨hdefinition, hcases⟩ := hcommitted.settled hfeed hsettle
  refine ⟨hdefinition, hcases.imp (And.imp_left hiff.1) (And.imp_left fun hdue => ?_)⟩
  rw [← Bool.not_eq_false]
  exact fun hlacks => hdue (hiff.2 hlacks)

/-- A name being typed, once it is taken as it is, is the last use of a pipeline. -/
theorem Typing.pipeline {text fragment kept : Text} {fault : Fault} {token : Token}
    {before : Reading} (htyping : fault.Typing text fragment kept token before)
    (h : Definition.read text = .error fault)
    (hreason : fault.reason = .danglingComponentName fragment) {uses : List WrittenUse}
    {onward : Bool}
    (hcommitted : Committed ((Token.inText 0 text).take fault.checkpoint) uses onward) :
    Pipeline (Token.inText 0 text) (uses ++ [⟨fragment, []⟩]) ∧ (onward = true ∨ uses = []) := by
  obtain ⟨-, ⟨hlacks, -⟩ | ⟨-, hdue, hname⟩⟩ := written h hcommitted
  · rw [hreason] at hlacks
    cases hlacks
  · refine ⟨?_, hdue⟩
    have htokens := Token.inText_single htyping.isWord (Text.byteSize kept)
    rw [htyping.text_eq, htyping.take_name (by simp [Text.startsWith])] at hname
    rw [htyping.text_eq, Token.inText_append htyping.ends, Nat.zero_add, htokens]
    exact hname ⟨⟨.identifier, fragment, fragment⟩, _, _⟩ rfl

end Fault

/-! ## The invariant -/

/-- What holds of lines made of accepted proposals. -/
inductive Built (catalog : Catalog) (policy : StagePolicy) (withDeprecated : Bool) (line : Text) :
    Prop where
  /-- The line is complete, and a blank may follow it. -/
  | complete {uses : List WrittenUse}
      (read : Definition.read line = .ok (uses.map WrittenUse.meaning))
      (isSealed : Token.Sealed line) (pipeline : Pipeline (Token.inText 0 line) uses)
      (valid : catalog.Valid policy withDeprecated uses false)
  /-- The line has a fault, behind a valid pipeline. -/
  | stopped {fault : Fault} {uses : List WrittenUse} {onward : Bool}
      (read : Definition.read line = .error fault)
      (committed : Committed ((Token.inText 0 line).take fault.checkpoint) uses onward)
      (valid : catalog.Valid policy withDeprecated uses onward)
      (named : ∀ fragment, fault.reason = .danglingComponentName fragment →
        ∃ component, (Directory.ofCatalog catalog policy).resolveAfter fragment fault.definition =
          some component)

namespace Built

variable {catalog : Catalog} {policy : StagePolicy} {withDeprecated : Bool} {line : Text}

theorem start : Built catalog policy withDeprecated [] :=
  .stopped rfl .nothing (Catalog.valid_nil false)
    (fun fragment hreason => by cases hreason)

/-- A pipe behind a valid pipeline. -/
theorem pipe {uses : List WrittenUse} (hsealed : Token.Sealed line)
    (hpipeline : Pipeline (Token.inText 0 line) uses)
    (hvalid : catalog.Valid policy withDeprecated uses true) (explanation : String) :
    Built catalog policy withDeprecated (Proposal.separate line ['|'] explanation).text := by
  obtain ⟨state, hfeed, hsettle⟩ := hpipeline.feed
  have hread := Definition.read_pipe hsealed hfeed hsettle rfl explanation
  obtain ⟨offset, htokens, -⟩ :=
    Token.inText_separate hsealed ['|'] (by decide) explanation
  rw [Token.inText_pipe] at htokens
  refine .stopped hread ?_ hvalid (fun fragment hreason => by cases hreason)
  rw [htokens, List.take_of_length_le]
  · exact .onward hpipeline rfl
  · rw [List.length_append]
    exact Nat.le_refl _

/-- An option marker behind a valid pipeline. -/
theorem marker {uses : List WrittenUse} (hsealed : Token.Sealed line)
    (hpipeline : Pipeline (Token.inText 0 line) uses)
    (hvalid : catalog.Valid policy withDeprecated uses false) (explanation : String) :
    Built catalog policy withDeprecated
      (Proposal.separate line (Strategy.marked []) explanation).text := by
  obtain ⟨state, hfeed, hsettle⟩ := hpipeline.feed
  have hread := Definition.read_marked hsealed hfeed hsettle rfl explanation
  obtain ⟨offset, htokens, -⟩ :=
    Token.inText_separate hsealed (Strategy.marked []) (by decide) explanation
  refine .stopped hread ?_ hvalid (fun fragment hreason => by cases hreason)
  rw [htokens, List.take_left' rfl]
  exact .pipeline hpipeline

/-- A component name that is taken as it is. -/
theorem valid_named {fault : Fault} (h : Definition.read line = .error fault)
    {uses : List WrittenUse} {onward : Bool}
    (hcommitted : Committed ((Token.inText 0 line).take fault.checkpoint) uses onward)
    (hvalid : catalog.Valid policy withDeprecated uses onward)
    (hdue : onward = true ∨ uses = []) {fragment : Text} {component : Component}
    (hresolved : (Directory.ofCatalog catalog policy).resolveAfter fragment fault.definition =
      some component) :
    catalog.Valid policy withDeprecated (uses ++ [⟨fragment, []⟩]) false := by
  rw [(Fault.written h hcommitted).1] at hresolved
  rcases hdue with rfl | rfl
  · exact hvalid.name hresolved
  · exact (Catalog.valid_nil true).name hresolved

/-- An option with a value behind a valid pipeline. -/
theorem supply {fault : Fault} (h : Definition.read line = .error fault) {uses : List WrittenUse}
    {onward : Bool}
    (hcommitted : Committed ((Token.inText 0 line).take fault.checkpoint) uses onward)
    (hvalid : catalog.Valid policy withDeprecated uses onward)
    (hlacks : fault.reason.lacksName = false) {key value : Text} {option : OptionSpec}
    {explanation : String} (hkey : Text.isDottedWord key = true)
    (hfound : Strategy.openOption? withDeprecated fault (Directory.ofCatalog catalog policy) key =
      some option)
    (hsuggested : (value, explanation) ∈ Strategy.suggestedValues option) :
    Built catalog policy withDeprecated (Proposal.separate fault.safePrefix
      (Strategy.marked (key ++ ['=']) ++ Literal.spell value) explanation).text := by
  have hread := Fault.read_value h hlacks hkey value explanation
  have hsuffix : Strategy.marked (key ++ ['=']) ++ Literal.spell value =
      Strategy.marked (key ++ '=' :: Literal.spell value) := by
    simp [Strategy.marked]
  rw [hsuffix] at hread ⊢
  obtain ⟨-, -, htaken, hsealed⟩ := Fault.cut h
  obtain ⟨offset, htokens, -⟩ := Token.inText_separate hsealed
    (Strategy.marked (key ++ '=' :: Literal.spell value)) rfl explanation
  obtain ⟨hdefinition, ⟨-, rfl, hpipeline⟩ | ⟨hname, -⟩⟩ := Fault.written h hcommitted
  · obtain ⟨front, written, rfl, hconfigured⟩ :=
      hpipeline.configure (Token.setting_spell hkey value offset)
    obtain ⟨component, use, hcomponent, hoption, havailable, rfl⟩ := Strategy.openOption_some hfound
    obtain ⟨hlast, hresolved⟩ := Fault.configured_some hcomponent
    have hmeaning : (front ++ [written]).map WrittenUse.meaning =
        front.map WrittenUse.meaning ++ [written.meaning] := List.map_append
    rw [hdefinition] at hresolved
    -- the use that the option was looked up for is the last one written
    obtain rfl : written.meaning = use := by
      rw [hdefinition, hmeaning, List.getLast?_concat] at hlast
      exact Option.some.inj hlast
    rw [← htaken, ← htokens] at hconfigured
    refine .complete ?_ ?_ hconfigured ?_
    · rw [hread, hdefinition, hmeaning, Definition.withOption_concat, List.map_append]
      simp
    · exact hsealed.separate rfl (by simp [Strategy.marked]) (Token.sealed_setting hkey value)
        explanation
    · exact hvalid.configure hresolved (Directory.mem_options hoption) havailable
        (Strategy.mem_suggestedValues hsuggested)
  · rw [hname] at hlacks
    cases hlacks

/-- What accepting a continuation of a complete line preserves. -/
theorem forward {uses : List WrittenUse} (hsealed : Token.Sealed line)
    (hpipeline : Pipeline (Token.inText 0 line) uses)
    (hvalid : catalog.Valid policy withDeprecated uses false) {proposal : Proposal}
    (hproposal : proposal ∈
      (Engine.standard (Directory.ofCatalog catalog policy) withDeprecated).forward line
        (uses.map WrittenUse.meaning)) :
    Built catalog policy withDeprecated proposal.text := by
  simp only [Engine.forward, closeLiteral_eq_none hsealed.endsClosed, Engine.standard,
    Text.trimEnd_eq_self hsealed.endsInBlank_eq_false] at hproposal
  split at hproposal
  next use component hlast hresolved =>
    rcases mem_continuations hproposal with ⟨haccepts, explanation, rfl⟩ | ⟨explanation, rfl⟩
    · refine pipe hsealed hpipeline ?_ explanation
      rcases List.eq_nil_or_concat uses with rfl | ⟨front, written, rfl⟩
      · cases hlast
      · rw [List.concat_eq_append] at hvalid hresolved ⊢
        exact hvalid.pipe hresolved haccepts
    · exact marker hsealed hpipeline hvalid explanation
  · cases hproposal

/-- What accepting a repair of a line with a fault preserves. -/
theorem recover {fault : Fault} (h : Definition.read line = .error fault) {uses : List WrittenUse}
    {onward : Bool}
    (hcommitted : Committed ((Token.inText 0 line).take fault.checkpoint) uses onward)
    (hvalid : catalog.Valid policy withDeprecated uses onward) {proposed : Text}
    (hresumed : Resumed (Directory.ofCatalog catalog policy) withDeprecated line fault proposed) :
    Built catalog policy withDeprecated proposed := by
  cases hresumed with
  | pending read _ committed named =>
      -- nothing more is committed, so what is written stays as it was
      rw [← committed] at hcommitted
      refine .stopped read hcommitted hvalid fun fragment hreason => ?_
      obtain ⟨component, hmem, rfl⟩ := named fragment hreason
      exact Directory.exists_resolveAfter hmem
  | onward typing reason resolved accepts =>
      obtain ⟨hpipeline, hdue⟩ := typing.pipeline h reason hcommitted
      have hnamed := valid_named h hcommitted hvalid hdue resolved
      refine pipe typing.isSealed hpipeline (hnamed.pipe ?_ accepts) _
      rw [(Fault.written h hcommitted).1] at resolved
      simpa [Directory.resolveLast] using resolved
  | configure typing reason resolved =>
      obtain ⟨hpipeline, hdue⟩ := typing.pipeline h reason hcommitted
      exact marker typing.isSealed hpipeline (valid_named h hcommitted hvalid hdue resolved) _
  | supplied lacks written found suggested =>
      exact supply h hcommitted hvalid lacks written found suggested

/-- What one accepted proposal preserves. -/
theorem accept (hcatalog : catalog.WellFormed) (h : Built catalog policy withDeprecated line)
    {level : Nat} {proposal : Proposal}
    (hproposal : proposal ∈
      (Engine.standard (Directory.ofCatalog catalog policy) withDeprecated).complete line level) :
    Built catalog policy withDeprecated proposal.text := by
  cases h with
  | complete read isSealed pipeline valid =>
      exact forward isSealed pipeline valid (Engine.mem_forward read hproposal)
  | stopped read committed valid named =>
      have hrepair := Engine.recover_repair (Engine.mem_recover read hproposal)
      exact recover read committed valid (hrepair.resumed hcatalog read)

/-- The definition of a line, read as finished, is valid. -/
theorem finished (h : Built catalog policy withDeprecated line) :
    ∃ uses onward,
      Committed (Definition.committedTokens line (Definition.readFinished line)) uses onward ∧
      Definition.committed (Definition.readFinished line) = uses.map WrittenUse.meaning ∧
      catalog.Valid policy withDeprecated uses onward := by
  -- a line that is a pipeline as a whole reads as its meaning
  have hwhole : ∀ uses, Pipeline (Token.inText 0 line) uses →
      catalog.Valid policy withDeprecated uses false → ∃ uses onward,
        Committed (Definition.committedTokens line (Definition.readFinished line)) uses onward ∧
        Definition.committed (Definition.readFinished line) = uses.map WrittenUse.meaning ∧
        catalog.Valid policy withDeprecated uses onward := by
    intro uses hpipeline hvalid
    rw [Definition.readFinished_of_derived hpipeline, Definition.committedTokens, Token.filter_isSignificant_scan]
    exact ⟨uses, false, .pipeline hpipeline, rfl, hvalid⟩
  cases h with
  | complete _ _ pipeline valid => exact hwhole _ pipeline valid
  | @stopped fault uses onward read committed valid named =>
      -- a finished line takes the name that was being typed into its definition
      by_cases htyped : ∃ fragment, fault.reason = .danglingComponentName fragment
      · obtain ⟨fragment, hreason⟩ := htyped
        obtain ⟨kept, token, before, htyping⟩ := Fault.typing read hreason
        obtain ⟨component, hresolved⟩ := named fragment hreason
        obtain ⟨hpipeline, hdue⟩ := htyping.pipeline read hreason committed
        exact hwhole _ hpipeline (valid_named read committed valid hdue hresolved)
      · obtain ⟨reason, hread⟩ := Fault.finished read fun fragment hreason =>
          htyped ⟨fragment, hreason⟩
        obtain ⟨-, ⟨hle, -⟩, -⟩ := Fault.grounded read
        rw [hread]
        refine ⟨uses, onward, ?_, (Fault.written read committed).1, valid⟩
        rw [Definition.committedTokens, Token.scan_eq, List.take_append_of_le_length hle]
        exact committed

end Built

/-! ## Any number of proposals -/

namespace AcceptedLine

variable {catalog : Catalog} {policy : StagePolicy} {withDeprecated : Bool} {line : Text}

theorem built (hcatalog : catalog.WellFormed)
    (h : AcceptedLine (Engine.standard (Directory.ofCatalog catalog policy) withDeprecated) line) :
    Built catalog policy withDeprecated line := by
  induction h with
  | start => exact .start
  | accept _ mem ih => exact ih.accept hcatalog mem

/-- What accepted proposals make up is a pipeline of the grammar in which every use is allowed at
its place. -/
theorem definition_allowed (catalog : Catalog) (hcatalog : catalog.WellFormed)
    (policy : StagePolicy) (withDeprecated : Bool) (line : Text)
    (h : AcceptedLine (Engine.standard (Directory.ofCatalog catalog policy) withDeprecated) line) :
    ∃ uses onward,
      Committed (Definition.committedTokens line (Definition.readFinished line)) uses onward ∧
      Definition.committed (Definition.readFinished line) = uses.map WrittenUse.meaning ∧
      catalog.Valid policy withDeprecated uses onward :=
  (built hcatalog h).finished

/-- A component, a pipe, another component and an option of it. -/
theorem definition_allowed_log :
    AcceptedLine (Engine.standard (Directory.ofCatalog .builtin .byPosition) false)
        "http | log --level=WARN".toList ∧
      ∃ uses onward,
        Committed (Definition.committedTokens "http | log --level=WARN".toList
          (Definition.readFinished "http | log --level=WARN".toList)) uses onward ∧
        Definition.committed (Definition.readFinished "http | log --level=WARN".toList) =
          uses.map WrittenUse.meaning ∧
        Catalog.builtin.Valid .byPosition false uses onward := by
  have hname : AcceptedLine (Engine.standard (Directory.ofCatalog .builtin .byPosition) false)
      "http".toList :=
    @accept _ _ 1 ⟨"http".toList, "source component"⟩ start (by decide)
  have hpipe := @accept _ _ 1 ⟨"http |".toList, "Send the output of 'http' to another component"⟩
    hname (by decide)
  have hlog := @accept _ _ 0 ⟨"http | log".toList, "sink component"⟩ hpipe (by decide)
  have hmarker := @accept _ _ 3 ⟨"http | log --".toList, "Configure 'log' (3 options available)"⟩
    hlog (by decide)
  have hlevel := @accept _ _ 0 ⟨"http | log --level=".toList, "Level messages are logged at"⟩
    hmarker (by decide)
  have hwarn := @accept _ _ 0 ⟨"http | log --level=WARN".toList, "Suggested value"⟩ hlevel
    (by decide)
  exact ⟨hwarn, definition_allowed .builtin Catalog.builtin_wellFormed .byPosition false _ hwarn⟩

end AcceptedLine

end PipeAssist

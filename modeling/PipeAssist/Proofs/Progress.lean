import PipeAssist.Proofs.Repairs
import PipeAssist.Proofs.Resumption

/-!
# Progress

Every text that is proposed after a fault is read in one of four ways (`Repair.resumed`): with
nothing more committed but another reason to stop, with a pipe or an option marker behind the name
that was being typed, or as a definition with one more option. In none of them does the same fault
come back (`proposals_progress`). The proposals rely on names that can be written.
-/

set_option autoImplicit false

namespace PipeAssist

open Reading

/-! ## What is proposed can be written -/

/-- The next segment of a group that extends the typed text ends where the id of the group ends, or
before a dot. -/
theorem Strategy.nextSegment_cases {typed : Text} {group : OptionGroup}
    (hstarts : Text.startsWith group.id typed = true) :
    group.id = nextSegment typed group ∨
      ∃ rest, group.id = nextSegment typed group ++ '.' :: rest := by
  obtain ⟨rest, hrest⟩ := List.isPrefixOf_iff_prefix.1 hstarts
  have hdrop : group.id.drop typed.length = rest := by
    rw [← hrest]
    exact List.drop_left' rfl
  have hid : group.id = nextSegment typed group ++ rest.dropWhile (· ≠ '.') := by
    rw [nextSegment, hdrop, List.append_assoc, List.takeWhile_append_dropWhile, hrest]
  have hhead := Piece.head_dropWhile (fun c => decide (c ≠ '.')) rest
  cases hafter : rest.dropWhile (· ≠ '.') with
  | nil =>
      rw [hafter, List.append_nil] at hid
      exact Or.inl hid
  | cons c cs =>
      rw [hafter] at hid hhead
      obtain rfl : c = '.' := by simpa using hhead
      exact Or.inr ⟨cs, hid⟩

/-- The next segment of a group that extends the typed text is a dotted word. -/
theorem Strategy.isDottedWord_nextSegment {typed : Text} {group : OptionGroup}
    (hgroup : Text.isDottedWord group.id = true) (hstarts : Text.startsWith group.id typed = true) :
    Text.isDottedWord (nextSegment typed group) = true := by
  rcases nextSegment_cases hstarts with hid | ⟨rest, hid⟩
  · rwa [← hid]
  · -- a dotted word can be cut at its dots
    rw [hid, Text.isDottedWord_append_dot, Bool.and_eq_true] at hgroup
    exact hgroup.1

namespace Catalog.WellFormed

variable {catalog : Catalog} {rule : Definition → List Category}

theorem isWord_name (h : catalog.WellFormed) {definition : Definition} {component : Component}
    (hmem : component ∈ (Directory.underRule catalog rule).componentsAfter definition) :
    Text.isWord component.name = true := by
  obtain ⟨-, entry, hentry, rfl⟩ := Directory.mem_componentsAfter hmem
  exact h.name_isWord entry hentry

theorem isDottedWord_id (h : catalog.WellFormed) {component : Component} {option : OptionSpec}
    (hmem : option ∈ (Directory.underRule catalog rule).options component) :
    Text.isDottedWord option.id = true := by
  obtain ⟨entry, hentry, hoption⟩ :=
    Catalog.exists_entry_of_mem_optionsOf (Directory.mem_options hmem)
  exact h.id_isDottedWord entry hentry option hoption

theorem isDottedWord_segment (h : catalog.WellFormed) {component : Component} {group : OptionGroup}
    {typed : Text} (hmem : group ∈ (Directory.underRule catalog rule).optionGroups component)
    (hne : group.id ≠ []) (hstarts : Text.startsWith group.id typed = true) :
    Text.isDottedWord (Strategy.nextSegment typed group) = true := by
  obtain ⟨⟨option, hoption, hid⟩, -⟩ := Directory.mem_optionGroups hmem
  obtain ⟨entry, hentry, hoption⟩ := Catalog.exists_entry_of_mem_optionsOf hoption
  apply Strategy.isDottedWord_nextSegment _ hstarts
  rw [← hid] at hne ⊢
  exact h.group_isDottedWord entry hentry option hoption hne

end Catalog.WellFormed

/-! ## How proposals are read -/

/-- How a text that was proposed after a fault of `text` is read. -/
inductive Resumed (directory : Directory) (withDeprecated : Bool) (text : Text) (fault : Fault) :
    Text → Prop where
  /-- What was committed stays, and there is another reason to stop. A name that may still grow is
  that of a component. -/
  | pending {proposed : Text} {reason : Fault.Reason}
      (read : Definition.read proposed = .error ⟨proposed, Token.scan proposed, fault.checkpoint,
        fault.definition, reason⟩)
      (changed : reason ≠ fault.reason)
      (committed : (Token.inText 0 proposed).take fault.checkpoint =
        (Token.inText 0 text).take fault.checkpoint)
      (named : ∀ name, reason = .danglingComponentName name →
        ∃ component ∈ directory.componentsAfter fault.definition, component.name = name) :
      Resumed directory withDeprecated text fault proposed
  /-- A pipe comes behind the name that was being typed. -/
  | onward {fragment kept : Text} {token : Token} {before : Reading} {component : Component}
      {explanation : String} (typing : fault.Typing text fragment kept token before)
      (reason : fault.reason = .danglingComponentName fragment)
      (resolved : directory.resolveAfter fragment fault.definition = some component)
      (accepts : component.category.acceptsDownstream = true) :
      Resumed directory withDeprecated text fault (Proposal.separate text ['|'] explanation).text
  /-- An option marker comes behind the name that was being typed. -/
  | configure {fragment kept : Text} {token : Token} {before : Reading} {component : Component}
      {explanation : String} (typing : fault.Typing text fragment kept token before)
      (reason : fault.reason = .danglingComponentName fragment)
      (resolved : directory.resolveAfter fragment fault.definition = some component) :
      Resumed directory withDeprecated text fault
        (Proposal.separate text (Strategy.marked []) explanation).text
  /-- An option gets its value. -/
  | supplied {key value : Text} {option : OptionSpec} {explanation : String}
      (lacks : fault.reason.lacksName = false) (written : Text.isDottedWord key = true)
      (found : Strategy.openOption? withDeprecated fault directory key = some option)
      (suggested : (value, explanation) ∈ Strategy.suggestedValues option)
      (reason : fault.reason = .missingOptionValue key true) :
      Resumed directory withDeprecated text fault (Proposal.separate fault.safePrefix
        (Strategy.marked (key ++ ['=']) ++ Literal.spell value) explanation).text

section Resumed

variable {catalog : Catalog} {rule : Definition → List Category} {withDeprecated : Bool}
  {text : Text} {fault : Fault}

/-- A repair that adds something new behind the checkpoint. -/
theorem Resumed.ofSeparate {directory : Directory} (h : Definition.read text = .error fault)
    {suffix : Text} (hsuffix : suffix.head?.any Text.isBlank = false) {explanation : String}
    {reason : Fault.Reason}
    (hread : let joined := (Proposal.separate fault.safePrefix suffix explanation).text
      Definition.read joined =
        .error ⟨joined, Token.scan joined, fault.checkpoint, fault.definition, reason⟩)
    (hchanged : reason ≠ fault.reason)
    (hnamed : ∀ name, reason = .danglingComponentName name →
      ∃ component ∈ directory.componentsAfter fault.definition, component.name = name) :
    Resumed directory withDeprecated text fault
      (Proposal.separate fault.safePrefix suffix explanation).text :=
  .pending hread hchanged (Fault.take_separate h suffix hsuffix explanation) hnamed

/-- Every repair is read in one of the four ways. -/
theorem Repair.resumed (hcatalog : catalog.WellFormed) (h : Definition.read text = .error fault)
    {proposed : Text}
    (hrepair : Repair (Directory.underRule catalog rule) withDeprecated fault proposed) :
    Resumed (Directory.underRule catalog rule) withDeprecated text fault proposed := by
  cases hrepair with
  | @extend fragment token component reason last mem starts longer =>
      obtain ⟨kept, token', before, htyping⟩ := Fault.typing h reason
      obtain rfl : token' = token := Option.some.inj (htyping.last.symm.trans last)
      rw [htyping.start_eq]
      have hword := hcatalog.isWord_name mem
      refine .pending (htyping.read_name hword starts) ?_ ?_ ?_
      · rw [reason]
        simpa using longer
      · rw [htyping.take_name starts, htyping.text_eq,
          htyping.take_name (by simp [Text.startsWith])]
      · intro name hname
        cases hname
        exact ⟨component, mem, rfl⟩
  | @pipe fragment token component explanation reason last resolved onward =>
      obtain ⟨kept, token', before, htyping⟩ := Fault.typing h reason
      obtain rfl : token' = token := Option.some.inj (htyping.last.symm.trans last)
      rw [htyping.stop_eq]
      exact .onward htyping reason resolved onward
  | @configure fragment token component explanation reason last resolved =>
      obtain ⟨kept, token', before, htyping⟩ := Fault.typing h reason
      obtain rfl : token' = token := Option.some.inj (htyping.last.symm.trans last)
      rw [htyping.stop_eq]
      exact .configure htyping reason resolved
  | @component component explanation kind mem =>
      have hword := hcatalog.isWord_name mem
      have hlacks : fault.reason.lacksName = true ∧
          Fault.Reason.danglingComponentName component.name ≠ fault.reason := by
        unfold Fault.kind at kind
        cases hreason : fault.reason <;> simp_all [Fault.Reason.kind, Fault.Reason.lacksName]
      refine .ofSeparate h (Text.isBlank_head_of_isWord hword)
        (Fault.read_name h hlacks.1 hword explanation) hlacks.2 ?_
      intro name hname
      cases hname
      exact ⟨component, mem, rfl⟩
  | @marker explanation kind =>
      have hlacks : fault.reason = .unfinishedOptionMarker := by
        unfold Fault.kind at kind
        cases hreason : fault.reason <;> simp_all [Fault.Reason.kind]
      exact .ofSeparate h (by decide) (Fault.read_marker h (by rw [hlacks]; rfl) explanation)
        (by simp [hlacks]) (by simp)
  | @option typed component use option explanation name configured mem =>
      have hlacks : fault.reason.lacksName = false ∧
          Fault.Reason.missingOptionValue option.id true ≠ fault.reason := by
        cases hreason : fault.reason <;>
          simp_all [Strategy.typedName?, Fault.Reason.lacksName]
      exact .ofSeparate h rfl
        (Fault.read_equals h hlacks.1 (hcatalog.isDottedWord_id mem) explanation) hlacks.2 (by simp)
  | @group typed component use group explanation name configured mem ne starts =>
      -- the dot makes the new name longer than the typed one, even where the segment adds nothing
      have hlonger : Strategy.nextSegment typed group ++ ['.'] ≠ typed := by
        intro heq
        have hlength := congrArg List.length heq
        simp only [Strategy.nextSegment, List.length_append, List.length_singleton] at hlength
        omega
      have hlacks : fault.reason.lacksName = false ∧
          Fault.Reason.unfinishedOptionName (Strategy.nextSegment typed group ++ ['.']) ≠
            fault.reason := by
        cases hreason : fault.reason <;>
          simp_all [Strategy.typedName?, Fault.Reason.lacksName]
      exact .ofSeparate h rfl
        (Fault.read_dot h hlacks.1 (hcatalog.isDottedWord_segment mem ne starts) explanation)
        hlacks.2 (by simp)
  | @equals id option explanation reason found =>
      obtain ⟨component, use, -, hmem, -, rfl⟩ := Strategy.openOption_some found
      exact .ofSeparate h rfl (Fault.read_equals h (by rw [reason]; rfl)
        (hcatalog.isDottedWord_id hmem) explanation) (by simp [reason]) (by simp)
  | @value id value option explanation reason found mem =>
      obtain ⟨component, use, -, hmem, -, rfl⟩ := Strategy.openOption_some found
      exact .supplied (by rw [reason]; rfl) (hcatalog.isDottedWord_id hmem) found mem reason

end Resumed

/-! ## Completion -/

namespace Engine

/-- The proposals for a text with a fault come from the strategies. -/
theorem mem_recover {engine : Engine} {text : Text} {fault : Fault} {level : Nat}
    {proposal : Proposal} (h : Definition.read text = .error fault)
    (hproposal : proposal ∈ engine.complete text level) :
    proposal ∈ engine.recover fault level := by
  simp only [complete, h] at hproposal
  exact mem_of_mem_distinctBy (mem_of_mem_capped hproposal)

/-- The proposals for a complete text are its continuations. -/
theorem mem_forward {engine : Engine} {text : Text} {definition : Definition} {level : Nat}
    {proposal : Proposal} (h : Definition.read text = .ok definition)
    (hproposal : proposal ∈ engine.complete text level) :
    proposal ∈ engine.forward text definition := by
  simp only [complete, h] at hproposal
  exact mem_of_mem_distinctBy (mem_of_mem_capped hproposal)

/-- No proposal leads back to the fault that it was made for. -/
theorem proposals_progress (catalog : Catalog) (hcatalog : catalog.WellFormed)
    (policy : StagePolicy) (withDeprecated : Bool) (text : Text) (fault : Fault)
    (h : Definition.read text = .error fault) (level : Nat) (proposal : Proposal)
    (hproposal : proposal ∈
      (standard (Directory.ofCatalog catalog policy) withDeprecated).complete text level) :
    ∀ next, Definition.read proposal.text = .error next → next.isSame fault = false := by
  intro next hnext
  have hresumed := (recover_repair (mem_recover h hproposal)).resumed hcatalog h
  generalize proposal.text = proposed at hresumed hnext
  -- checkpoints may agree, so it is the reason that tells the faults apart
  have hdiffers : next.reason ≠ fault.reason := by
    cases hresumed with
    | pending read changed _ _ =>
        rw [read] at hnext
        cases hnext
        exact changed
    | onward typing reason _ _ =>
        obtain ⟨state, hfeed, hsettle⟩ := typing.feed_text
        rw [Definition.read_pipe typing.isSealed hfeed hsettle rfl] at hnext
        cases hnext
        simp [reason]
    | configure typing reason _ =>
        obtain ⟨state, hfeed, hsettle⟩ := typing.feed_text
        rw [Definition.read_marked typing.isSealed hfeed hsettle rfl] at hnext
        cases hnext
        simp [reason]
    | supplied lacks written _ _ =>
        rw [Fault.read_value h lacks written] at hnext
        cases hnext
  simp [Fault.isSame, hdiffers]

/-- A fault in the middle of a text: the sign behind the option is proposed, and then its value is
due. -/
theorem proposals_progress_midway :
    ∃ fault, Definition.read ['l', 'o', 'g', ' ', '-', '-', 'n', 'a', 'm', 'e', ' ', 'x'] =
        .error fault ∧
      ∃ proposal ∈ (standard (Directory.ofCatalog .builtin (.constant [.sink])) false).complete
        ['l', 'o', 'g', ' ', '-', '-', 'n', 'a', 'm', 'e', ' ', 'x'] 0,
        ∀ next, Definition.read proposal.text = .error next → next.isSame fault = false := by
  have hproposal : ⟨['l', 'o', 'g', ' ', '-', '-', 'n', 'a', 'm', 'e', '='], "Logger name"⟩ ∈
      (standard (Directory.ofCatalog .builtin (.constant [.sink])) false).complete
        ['l', 'o', 'g', ' ', '-', '-', 'n', 'a', 'm', 'e', ' ', 'x'] 0 := by
    decide
  exact ⟨_, rfl, _, hproposal,
    proposals_progress .builtin Catalog.builtin_wellFormed (.constant [.sink]) false _ _ rfl 0 _
      hproposal⟩

end Engine

end PipeAssist

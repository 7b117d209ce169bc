import PipeAssist.Proofs.Progress

/-!
# Proposals extend what is kept of a text

An engine cuts texts at the bytes where tokens start and end, and at the checkpoint of a fault. All
these offsets fall between two characters (`Token.isBoundary_of_mem_scan`,
`Fault.isBoundary_offset`), so a cut loses no part of a character. What a strategy keeps of a text
with a fault is the text up to the checkpoint, and behind it, where a component name is being typed,
everything in front of that name (`Fault.retained`). Every repair extends it
(`Repair.retained_isPrefix`), and so does every proposal of an engine with any of the strategies of
this library (`Engine.complete_extends`).
-/

set_option autoImplicit false

namespace PipeAssist

/-! ## Cuts at bytes -/

namespace Text

/-- Byte offsets that fall between two characters of a text, or at one of its ends. -/
def IsBoundary (text : Text) (offset : Nat) : Prop :=
  ∃ before after, text = before ++ after ∧ byteSize before = offset

theorem isBoundary_zero (text : Text) : text.IsBoundary 0 := ⟨[], text, rfl, rfl⟩

theorem isBoundary_byteSize (text : Text) : text.IsBoundary (byteSize text) :=
  ⟨text, [], (List.append_nil text).symm, rfl⟩

/-- Cutting at a later byte keeps more. -/
theorem takeBytes_isPrefix {m n : Nat} (h : m ≤ n) (text : Text) :
    takeBytes m text <+: takeBytes n text := by
  induction text generalizing m n with
  | nil => exact List.prefix_rfl
  | cons c cs ih =>
      rw [takeBytes, takeBytes]
      by_cases hm : c.utf8Size ≤ m
      · rw [if_pos hm, if_pos (Nat.le_trans hm h)]
        exact (List.prefix_cons_inj c).2 (ih (Nat.sub_le_sub_right h _))
      · rw [if_neg hm]
        exact List.nil_prefix

theorem trimEnd_isPrefix (text : Text) : trimEnd text <+: text := by
  induction text with
  | nil => exact List.prefix_rfl
  | cons c cs ih =>
      rw [trimEnd]
      split
      · split
        · exact List.nil_prefix
        · exact ⟨cs, rfl⟩
      · exact (List.prefix_cons_inj c).2 ih

end Text

namespace Token

/-- A token stands behind the pieces before it and covers its own characters. -/
theorem exists_split_of_mem_lay {offset : Nat} {pieces : List Piece} {token : Token}
    (h : token ∈ lay offset pieces) :
    ∃ before after, pieces = before ++ .lexeme token.toLexeme :: after ∧
      token.start = offset + Text.byteSize (Piece.spelled before) ∧
      token.stop = token.start + Text.byteSize token.raw := by
  induction pieces generalizing offset with
  | nil => cases h
  | cons piece rest ih =>
      cases piece with
      | blank run =>
          obtain ⟨before, after, rfl, hstart, hstop⟩ := ih h
          refine ⟨.blank run :: before, after, rfl, ?_, hstop⟩
          rw [hstart, Piece.spelled_cons, Text.byteSize_append, Nat.add_assoc]
          rfl
      | lexeme item =>
          rcases List.mem_cons.1 h with rfl | hrest
          · exact ⟨[], rest, rfl, rfl, rfl⟩
          · obtain ⟨before, after, rfl, hstart, hstop⟩ := ih hrest
            refine ⟨.lexeme item :: before, after, rfl, ?_, hstop⟩
            rw [hstart, Piece.spelled_cons, Text.byteSize_append, Nat.add_assoc]
            rfl

/-- A text around one of its tokens. -/
theorem exists_around {text : Text} {token : Token} (h : token ∈ inText 0 text) :
    ∃ before after, text = before ++ (token.raw ++ after) ∧
      token.start = Text.byteSize before ∧
      token.stop = Text.byteSize before + Text.byteSize token.raw := by
  obtain ⟨before, after, hpieces, hstart, hstop⟩ := exists_split_of_mem_lay h
  rw [Nat.zero_add] at hstart
  refine ⟨Piece.spelled before, Piece.spelled after, ?_, hstart, hstart ▸ hstop⟩
  rw [← Piece.spelled_split text, hpieces, Piece.spelled_append, Piece.spelled_cons]
  rfl

/-- Tokens start and end between two characters of the text. -/
theorem isBoundary_of_mem_scan {text : Text} {token : Token} (h : token ∈ scan text) :
    text.IsBoundary token.start ∧ text.IsBoundary token.stop := by
  rw [scan_eq, List.mem_append, List.mem_singleton] at h
  rcases h with hmem | rfl
  · obtain ⟨before, after, htext, hstart, hstop⟩ := exists_around hmem
    constructor
    · exact ⟨before, token.raw ++ after, htext, hstart.symm⟩
    · refine ⟨before ++ token.raw, after, ?_, ?_⟩
      · rw [List.append_assoc, ← htext]
      · rw [Text.byteSize_append, hstop]
  · -- the end of input stands where the text ends
    exact ⟨text.isBoundary_byteSize, text.isBoundary_byteSize⟩

end Token

namespace Fault

/-- The checkpoint of a fault falls between two characters of the text. -/
theorem isBoundary_offset {finished : Bool} {text : Text} {fault : Fault}
    (h : Definition.ofTokens finished text (Token.scan text) = .error fault) :
    text.IsBoundary fault.offset := by
  obtain ⟨-, htokens, -⟩ := ofScan h
  rw [offset]
  rcases Token.endOf_eq_zero_or_mem (fault.tokens.take fault.checkpoint) with
    hzero | ⟨token, htaken, hstop⟩
  · rw [hzero]
    exact text.isBoundary_zero
  · have hmem : token ∈ Token.scan text := by
      rw [← htokens]
      exact List.mem_of_mem_take htaken
    rw [hstop]
    exact (Token.isBoundary_of_mem_scan hmem).2

/-! ## What is kept -/

/-- The part of a text with a fault that no proposal touches: everything in front of a component
name that is being typed, else everything up to the checkpoint. -/
def retained (fault : Fault) : Text :=
  match fault.reason, fault.lastToken? with
  | .danglingComponentName _, some token => Text.takeBytes token.start fault.input
  | _, _ => fault.safePrefix

theorem retained_eq_safePrefix {fault : Fault} (h : fault.kind ≠ .danglingComponentName) :
    fault.retained = fault.safePrefix := by
  unfold retained
  split
  next hreason _ =>
    rw [kind, hreason] at h
    exact absurd rfl h
  · rfl

section Retained

variable {text : Text} {fault : Fault} (h : Definition.read text = .error fault)

theorem Typing.retained_eq {fragment kept : Text} {token : Token} {before : Reading}
    (htyping : Typing fault text fragment kept token before)
    (hreason : fault.reason = .danglingComponentName fragment) : fault.retained = kept := by
  simp only [retained, hreason, htyping.last, htyping.start_eq]

include h

/-- What is in front of a name being typed goes up to the checkpoint or beyond it. -/
theorem Typing.safePrefix_isPrefix {fragment kept : Text} {token : Token} {before : Reading}
    (htyping : Typing fault text fragment kept token before) : fault.safePrefix <+: kept := by
  obtain ⟨rest, htext, htaken, hsealed⟩ := cut h
  have htokens : Token.inText 0 fault.safePrefix = Token.inText 0 kept := by
    have hself : Text.startsWith fragment fragment = true := by simp [Text.startsWith]
    rw [htaken, htyping.text_eq, htyping.take_name hself]
  -- the text up to the checkpoint ends with its last token, and what is kept has that token too
  have hsize : Text.byteSize fault.safePrefix ≤ Text.byteSize kept := by
    have hlast : ∀ p ∈ (Piece.split fault.safePrefix).getLast?, ∃ item, p = .lexeme item := by
      intro p hp
      obtain ⟨item, hitem, -⟩ := hsealed p hp
      exact ⟨item, hitem⟩
    rw [← Token.endOf_inText hlast, htokens]
    rcases Token.endOf_eq_zero_or_mem (Token.inText 0 kept) with hzero | ⟨last, hmem, hstop⟩
    · rw [hzero]
      exact Nat.zero_le _
    · obtain ⟨-, -, -, hbound⟩ := Token.lay_bounds hmem
      rw [Piece.spelled_split, Nat.zero_add] at hbound
      rwa [hstop]
  calc fault.safePrefix
      = Text.takeBytes (Text.byteSize fault.safePrefix) text := by
        conv_rhs => rw [htext]
        rw [Text.takeBytes_append]
    _ <+: Text.takeBytes (Text.byteSize kept) text := Text.takeBytes_isPrefix hsize text
    _ = kept := by rw [htyping.text_eq, Text.takeBytes_append]

theorem safePrefix_isPrefix_retained : fault.safePrefix <+: fault.retained := by
  cases hreason : fault.reason with
  | danglingComponentName fragment =>
      obtain ⟨kept, token, before, htyping⟩ := typing h hreason
      rw [htyping.retained_eq hreason]
      exact htyping.safePrefix_isPrefix h
  | _ =>
      rewrite [retained_eq_safePrefix (by simp [kind, hreason, Reason.kind])]
      exact List.prefix_rfl

end Retained

end Fault

theorem Proposal.isPrefix_separate (kept suffix : Text) (explanation : String) :
    kept <+: (separate kept suffix explanation).text := by
  obtain ⟨rest, hrest⟩ := exists_separate_text kept suffix explanation
  exact ⟨rest, hrest.symm⟩

/-- Every repair extends what is kept of the text. -/
theorem Repair.retained_isPrefix {directory : Directory} {withDeprecated : Bool} {text : Text}
    {fault : Fault} (h : Definition.read text = .error fault) {proposed : Text}
    (hrepair : Repair directory withDeprecated fault proposed) : fault.retained <+: proposed := by
  cases hrepair with
  | extend reason last _ _ _ =>
      simp only [Fault.retained, reason, last]
      exact List.prefix_append _ _
  | pipe reason last _ _ | configure reason last _ =>
      -- the name itself is kept as well
      obtain ⟨kept, token, before, htyping⟩ := Fault.typing h reason
      cases last.symm.trans htyping.last
      rw [htyping.retained_eq reason, htyping.stop_eq]
      refine List.IsPrefix.trans ?_ (Proposal.isPrefix_separate _ _ _)
      exact ⟨_, htyping.text_eq.symm⟩
  | component kind _ =>
      rw [Fault.retained_eq_safePrefix (by rcases kind with hkind | hkind <;> simp [hkind])]
      exact Proposal.isPrefix_separate _ _ _
  | marker kind =>
      rw [Fault.retained_eq_safePrefix (by simp [kind])]
      exact Proposal.isPrefix_separate _ _ _
  | option name _ _ | group name _ _ _ _ =>
      have hkind : fault.kind ≠ .danglingComponentName := by
        intro hkind
        unfold Fault.kind at hkind
        cases hreason : fault.reason <;> simp_all [Fault.Reason.kind, Strategy.typedName?]
      rw [Fault.retained_eq_safePrefix hkind]
      exact Proposal.isPrefix_separate _ _ _
  | equals reason _ | value reason _ _ =>
      rw [Fault.retained_eq_safePrefix (by simp [Fault.kind, reason, Fault.Reason.kind])]
      exact Proposal.isPrefix_separate _ _ _

/-! ## Engines -/

/-- The strategies of this library, with or without deprecated options. -/
def Strategy.IsBuiltin (strategy : Strategy) : Prop :=
  ∃ withDeprecated, strategy ∈ (Registry.standard withDeprecated).strategies

/-- A registry that is accepted holds the strategies it was built from. -/
theorem Registry.strategies_of_build {strategies : List Strategy} {registry : Registry}
    (h : build strategies = .ok registry) : registry.strategies = strategies := by
  unfold build at h
  split at h
  · cases h
  · cases h
    rfl

namespace Engine

/-- What a strategy of this library proposes in some engine, it proposes in the standard one. -/
theorem exists_standard_recover {engine : Engine} {fault : Fault} {level : Nat}
    {proposal : Proposal} (hbuiltin : ∀ strategy ∈ engine.registry.strategies, strategy.IsBuiltin)
    (h : proposal ∈ engine.recover fault level) :
    ∃ withDeprecated,
      proposal ∈ (standard engine.directory withDeprecated).recover fault level := by
  obtain ⟨strategy, hstrategy, hproposal⟩ := List.mem_flatMap.1 h
  obtain ⟨hmem, hfits⟩ := List.mem_filter.1 hstrategy
  obtain ⟨withDeprecated, hstandard⟩ := hbuiltin strategy hmem
  refine ⟨withDeprecated, List.mem_flatMap.2 ⟨strategy, ?_, hproposal⟩⟩
  exact List.mem_filter.2 ⟨hstandard, hfits⟩

/-- What is proposed behind a complete text extends it, up to the blanks at its end. -/
theorem trimEnd_isPrefix_of_mem_forward {engine : Engine} {text : Text} {definition : Definition}
    {proposal : Proposal} (h : proposal ∈ engine.forward text definition) :
    Text.trimEnd text <+: proposal.text := by
  unfold forward at h
  split at h
  next closing hclosing =>
    -- the closing quote is put right at the end of the text, blanks included
    rw [List.mem_singleton.1 h]
    unfold closeLiteral? at hclosing
    split at hclosing
    · cases hclosing
    · split at hclosing
      · cases hclosing
        exact (Text.trimEnd_isPrefix text).trans (List.prefix_append _ _)
      · cases hclosing
  · split at h
    · rcases mem_continuations h with ⟨-, explanation, rfl⟩ | ⟨explanation, rfl⟩
      · exact Proposal.isPrefix_separate _ _ _
      · exact Proposal.isPrefix_separate _ _ _
    · cases h

/-- What an engine with strategies of this library proposes after a fault extends what is kept of
the text. -/
theorem retained_isPrefix_of_mem_complete {engine : Engine} {text : Text} {fault : Fault}
    {level : Nat} {proposal : Proposal}
    (hbuiltin : ∀ strategy ∈ engine.registry.strategies, strategy.IsBuiltin)
    (h : Definition.read text = .error fault) (hproposal : proposal ∈ engine.complete text level) :
    fault.retained <+: proposal.text := by
  obtain ⟨withDeprecated, hstandard⟩ := exists_standard_recover hbuiltin (mem_recover h hproposal)
  exact (recover_repair hstandard).retained_isPrefix h

/-- The proposals of an engine with any of the strategies of this library: no text is proposed twice
and no more than asked for, each extends what is kept of the text, and all the bytes at which a text
is cut fall between two characters. -/
theorem complete_extends (strategies : List Strategy)
    (hbuiltin : ∀ strategy ∈ strategies, strategy.IsBuiltin) (engine : Engine)
    (hbuild : Registry.build strategies = .ok engine.registry) (text : Text) (level : Nat) :
    ((engine.complete text level).map (·.text)).Nodup ∧
      (0 < level → (engine.complete text level).length ≤ level) ∧
      (∀ definition, Definition.read text = .ok definition →
        ∀ proposal ∈ engine.complete text level, Text.trimEnd text <+: proposal.text) ∧
      (∀ fault, Definition.read text = .error fault →
        (∀ proposal ∈ engine.complete text level, fault.safePrefix <+: proposal.text) ∧
        ∀ fragment, fault.reason = .danglingComponentName fragment →
          ∃ before, text = before ++ fragment ∧
            ∀ proposal ∈ engine.complete text level, before <+: proposal.text) ∧
      (∀ token ∈ Token.scan text, text.IsBoundary token.start ∧ text.IsBoundary token.stop) ∧
      ∀ fault, Definition.read text = .error fault ∨ Definition.readFinished text = .error fault →
        text.IsBoundary fault.offset := by
  rw [← Registry.strategies_of_build hbuild] at hbuiltin
  refine ⟨?_, ?_, ?_, ?_, fun _ htoken => Token.isBoundary_of_mem_scan htoken, ?_⟩
  · exact (nodup_distinctBy _).sublist ((capped_sublist level _).map _)
  · exact fun hlevel => length_capped_le hlevel _
  · intro definition h proposal hproposal
    exact trimEnd_isPrefix_of_mem_forward (mem_forward h hproposal)
  · intro fault h
    constructor
    · intro proposal hproposal
      exact (Fault.safePrefix_isPrefix_retained h).trans
        (retained_isPrefix_of_mem_complete hbuiltin h hproposal)
    · intro fragment hreason
      obtain ⟨kept, token, before, htyping⟩ := Fault.typing h hreason
      refine ⟨kept, htyping.text_eq, fun proposal hproposal => ?_⟩
      rw [← htyping.retained_eq hreason]
      exact retained_isPrefix_of_mem_complete hbuiltin h hproposal
  · rintro fault (hopen | hfinished)
    · exact Fault.isBoundary_offset hopen
    · exact Fault.isBoundary_offset hfinished

/-- Two strategies in an order of their own: the wide blank in front of the name being typed, which
takes three bytes, is kept. -/
theorem complete_extends_wideBlank :
    ∃ engine : Engine, Registry.build [.missingComponent, .componentName] = .ok engine.registry ∧
      ("http |\u3000log".toList ∈
        (engine.complete "http |\u3000lo".toList 1).map (·.text)) ∧
      ∃ before, "http |\u3000lo".toList = before ++ "lo".toList ∧
        ∀ proposal ∈ engine.complete "http |\u3000lo".toList 1, before <+: proposal.text := by
  refine ⟨⟨⟨[.missingComponent, .componentName]⟩, Directory.ofCatalog .builtin .byPosition, true⟩,
    rfl, by decide, ?_⟩
  have hbuiltin : ∀ strategy ∈ [Strategy.missingComponent, Strategy.componentName],
      strategy.IsBuiltin := by
    intro strategy hstrategy
    refine ⟨false, ?_⟩
    simp only [List.mem_cons, List.not_mem_nil, or_false] at hstrategy
    rcases hstrategy with rfl | rfl <;> simp [Registry.standard]
  obtain ⟨-, -, -, hfault, -⟩ := complete_extends [.missingComponent, .componentName] hbuiltin
    ⟨⟨[.missingComponent, .componentName]⟩, Directory.ofCatalog .builtin .byPosition, true⟩ rfl
    "http |\u3000lo".toList 1
  exact (hfault _ rfl).2 "lo".toList rfl

end Engine

end PipeAssist

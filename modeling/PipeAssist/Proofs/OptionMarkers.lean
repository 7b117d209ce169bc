import PipeAssist.Proofs.OptionNames
import PipeAssist.Proofs.TrailingBlanks

/-!
# Option markers that are proposed

Behind a complete text two dashes are proposed if the component at its end has an option left to
supply. With the dashes accepted, other strategies look for that option group by group: the options
without a group are proposed themselves, and of every other group its first segment
(`Strategy.exists_offered_iff`). Both ask whether the definition leaves an option open
(`Directory.LeavesOption`), so the dashes are proposed exactly when something can follow them
(`marker_proposed_iff`), however the options are grouped.
-/

set_option autoImplicit false

namespace PipeAssist

/-- Definitions that end with a known component which has an option left to supply. -/
def Directory.LeavesOption (directory : Directory) (withDeprecated : Bool)
    (definition : Definition) : Prop :=
  ∃ use component, definition.getLast? = some use ∧
    directory.resolveLast definition = some component ∧
    directory.unusedOptions withDeprecated component use ≠ []

theorem Directory.leavesOption_iff {directory : Directory} {withDeprecated : Bool}
    {definition : Definition} {use : ComponentUse} {component : Component}
    (hlast : definition.getLast? = some use)
    (hresolved : directory.resolveLast definition = some component) :
    directory.LeavesOption withDeprecated definition ↔
      directory.unusedOptions withDeprecated component use ≠ [] := by
  constructor
  · rintro ⟨other, found, hother, hfound, hne⟩
    cases hlast.symm.trans hother
    cases hresolved.symm.trans hfound
    exact hne
  · intro hne
    exact ⟨use, component, hlast, hresolved, hne⟩

/-! ## Behind the dashes -/

namespace Strategy

variable {directory : Directory} {withDeprecated : Bool} {component : Component}
  {use : ComponentUse}

/-- Where nothing is typed yet, the options without a group are being completed. -/
theorem isCompleting_nil (group : OptionGroup) : isCompleting [] group = true ↔ group.id = [] := by
  simp [isCompleting, parentGroup, withoutLastDot]

/-- Where nothing is typed yet, something is offered exactly when an option can be supplied. -/
theorem exists_offered_iff :
    (∃ suffix, Offered directory withDeprecated component use [] suffix) ↔
      directory.unusedOptions withDeprecated component use ≠ [] := by
  constructor
  · rintro ⟨suffix, hoffered⟩
    cases hoffered with
    | @option group option groupMem _ mem available _ =>
        have hmem := List.mem_flatMap.2 ⟨group, groupMem, mem⟩
        exact List.ne_nil_of_mem (List.mem_filter.2 ⟨hmem, available⟩)
    | @segment group option groupMem _ _ mem available _ =>
        have hmem := List.mem_flatMap.2 ⟨group, groupMem, mem⟩
        exact List.ne_nil_of_mem (List.mem_filter.2 ⟨hmem, available⟩)
  · intro hne
    obtain ⟨option, hoption⟩ := List.exists_mem_of_ne_nil _ hne
    obtain ⟨hmem, havailable⟩ := List.mem_filter.1 hoption
    obtain ⟨group, hgroup, hmem⟩ := List.mem_flatMap.1 hmem
    -- the group decides which of the two strategies finds the option
    by_cases hid : group.id = []
    · exact ⟨_, .option hgroup ((isCompleting_nil group).2 hid) hmem havailable rfl⟩
    · have hother : isCompleting [] group = false := by
        rw [Bool.eq_false_iff]
        intro hcompleting
        exact hid ((isCompleting_nil group).1 hcompleting)
      exact ⟨_, .segment hgroup hid hother hmem havailable rfl⟩

end Strategy

namespace Engine

variable {directory : Directory} {withDeprecated : Bool} {text : Text}

/-- Something is proposed behind two dashes exactly when an option can be supplied. -/
theorem complete_marker_ne_nil_iff {fault : Fault} (h : Definition.read text = .error fault)
    (hreason : fault.reason = .trailingOptionMarker) :
    (standard directory withDeprecated).complete text 0 ≠ [] ↔
      directory.LeavesOption withDeprecated fault.definition := by
  have hname : fault.NamesOption [] := Or.inr ⟨hreason, rfl⟩
  cases hconfigured : fault.configured? directory with
  | none =>
      -- no component is being configured, so both strategies for option names give nothing
      have hnothing : (standard directory withDeprecated).complete text 0 = [] := by
        rw [(complete_error directory withDeprecated h Nat.zero_lt_one).2,
          Strategy.fitting_optionLeaf (hname.fits h)]
        simp [Strategy.optionLeaf, Strategy.optionGroup, hconfigured, Proposal.distinct, distinctBy]
      constructor
      · intro hne
        exact absurd hnothing hne
      · rintro ⟨use, component, hlast, hresolved, -⟩
        rw [Fault.configured_eq hlast hresolved] at hconfigured
        cases hconfigured
  | some configured =>
      obtain ⟨component, use⟩ := configured
      obtain ⟨hlast, hresolved⟩ := Fault.configured_some hconfigured
      rw [Directory.leavesOption_iff hlast hresolved, ← Strategy.exists_offered_iff]
      constructor
      · intro hne
        obtain ⟨proposal, hproposal⟩ := List.exists_mem_of_ne_nil _ hne
        obtain ⟨suffix, hoffered, -⟩ :=
          (mem_complete_iff h hname hlast hresolved).1 ⟨proposal, hproposal, rfl⟩
        exact ⟨suffix, hoffered⟩
      · rintro ⟨suffix, hoffered⟩
        obtain ⟨proposal, hproposal, -⟩ :=
          (exists_proposal_iff h hname hlast hresolved).2 hoffered
        exact List.ne_nil_of_mem hproposal

end Engine

/-! ## Behind a complete text -/

/-- Where there is text to keep, two dashes are a continuation if an option can be supplied. -/
theorem exists_marker_iff {directory : Directory} {withDeprecated : Bool} {kept : Text}
    {component : Component} {use : ComponentUse} (hsealed : Token.Sealed kept) (hne : kept ≠ []) :
    (∃ proposal ∈ continuations directory withDeprecated kept component use,
      proposal.text = kept ++ " --".toList) ↔
      directory.unusedOptions withDeprecated component use ≠ [] := by
  simp only [continuations, List.mem_append]
  constructor
  · rintro ⟨proposal, honward | hconfigure, htext⟩
    · -- a pipe is not two dashes
      split at honward
      · rw [List.mem_singleton.1 honward, hsealed.separate_text hne] at htext
        exact absurd (List.append_cancel_left htext) (by decide)
      · cases honward
    · split at hconfigure
      next hpos => exact List.ne_nil_of_length_pos hpos
      · cases hconfigure
  · intro hoptions
    rw [if_pos (List.length_pos_of_ne_nil hoptions)]
    exact ⟨_, Or.inr List.mem_cons_self, hsealed.separate_text hne _ _⟩

/-- What is kept of a complete text is not empty, and with two dashes behind it only the name of an
option is missing. -/
theorem Definition.read_trimmed_marker {text : Text} {definition : Definition}
    (h : read text = .ok definition) (hclosed : Token.EndsClosed text) :
    Token.Sealed (Text.trimEnd text) ∧ Text.trimEnd text ≠ [] ∧
      ∃ fault, read (Text.trimEnd text ++ " --".toList) = .error fault ∧
        fault.reason = .trailingOptionMarker ∧ fault.definition = definition := by
  obtain ⟨hsealed, hne, -, state, settled, hfeed, hsettle, hphase, hdefinition⟩ :=
    exists_settled_trimEnd h hclosed
  have hmarked := read_marked hsealed hfeed hsettle hphase ""
  simp only [hsealed.separate_text hne] at hmarked
  exact ⟨hsealed, hne, _, hmarked, rfl, hdefinition⟩

namespace Engine

/-- Two dashes are proposed behind a complete text exactly when something is proposed behind the two
dashes. -/
theorem marker_proposed_iff (directory : Directory) (withDeprecated : Bool) (text : Text)
    (definition : Definition) (h : Definition.read text = .ok definition)
    (hclosed : Token.EndsClosed text) :
    (∃ proposal ∈ (standard directory withDeprecated).complete text 0,
      proposal.text = Text.trimEnd text ++ " --".toList) ↔
      (standard directory withDeprecated).complete (Text.trimEnd text ++ " --".toList) 0 ≠ [] := by
  obtain ⟨hsealed, hne, fault, hmarked, hreason, rfl⟩ := Definition.read_trimmed_marker h hclosed
  rw [complete_marker_ne_nil_iff hmarked hreason, complete_eq_forward h, forward,
    closeLiteral_eq_none hclosed]
  simp only [standard]
  split
  next use component hlast hresolved =>
    rw [exists_marker_iff hsealed hne, Directory.leavesOption_iff hlast hresolved]
  next hunknown =>
    constructor
    · rintro ⟨proposal, hproposal, -⟩
      cases hproposal
    · rintro ⟨use, component, hlast, hresolved, -⟩
      exact absurd hresolved (hunknown use component hlast)

/-- A catalog with two options of one id, in groups that the id does not say. -/
def grouped : Catalog :=
  ⟨[⟨⟨['a'], .source, none⟩, [⟨['x'], ['g'], "", false, none, []⟩,
    ⟨['x'], ['g', '.', 'h'], "", false, none, []⟩]⟩]⟩

/-- The dashes lead to the group while the id is not used, and nowhere afterwards. -/
theorem marker_proposed_iff_grouped :
    (∃ proposal ∈ (standard (Directory.ofCatalog grouped .byPosition) false).complete
        ['a', '\t'] 0, proposal.text = ['a'] ++ " --".toList) ∧
      ¬ ∃ proposal ∈ (standard (Directory.ofCatalog grouped .byPosition) false).complete
        ['a', ' ', '-', '-', 'x', '=', '1'] 0,
        proposal.text = ['a', ' ', '-', '-', 'x', '=', '1'] ++ " --".toList := by
  have hclosed : Token.EndsClosed ['a', '\t'] ∧
      Token.EndsClosed ['a', ' ', '-', '-', 'x', '=', '1'] := by
    constructor
    · rintro token ⟨⟩
      rfl
    · rintro token ⟨⟩
      rfl
  constructor
  · apply (marker_proposed_iff _ false ['a', '\t'] _ rfl hclosed.1).2
    decide
  · intro hproposed
    apply (marker_proposed_iff _ false ['a', ' ', '-', '-', 'x', '=', '1'] _ rfl hclosed.2).1
      hproposed
    decide

end Engine

end PipeAssist

import PipeAssist.Completion.Engine
import PipeAssist.Proofs.Distinct
import PipeAssist.Proofs.Literals

/-!
# The detail cap

Every strategy stops after `level` proposals, and the engine drops repeated texts and cuts once
more. The result is the beginning of the uncapped one exactly when the candidates of the fault
can be cut first: the options that complete an option name, by their ids, or the values of an option
(`choices`). The other strategies never propose a text twice, so cutting them first is harmless
(`complete_eq_take_iff`). A value that an option suggests twice is not (`complete_two_values`).
-/

set_option autoImplicit false

namespace PipeAssist

/-! ## Texts of proposals -/

theorem Proposal.separate_text_injective (kept : Text) (explanation : Text → String) :
    Function.Injective fun suffix => (separate kept suffix (explanation suffix)).text := by
  intro a b h
  simp only [separate, adjoin] at h
  split at h
  · exact List.append_cancel_left h
  · exact List.tail_eq_of_cons_eq (List.append_cancel_left h)

theorem Proposal.separate_text_congr (kept suffix : Text) (a b : String) :
    (separate kept suffix a).text = (separate kept suffix b).text := by
  unfold separate adjoin
  split <;> rfl

/-- The explanation has no part in the text. -/
theorem Proposal.separate_eq (kept suffix : Text) (explanation : String) :
    separate kept suffix explanation = ⟨(separate kept suffix "").text, explanation⟩ := by
  unfold separate adjoin
  split <;> rfl

theorem Proposal.getLast_separate (kept suffix : Text) {c : Char} (explanation : String) :
    (separate kept (suffix ++ [c]) explanation).text.getLast? = some c := by
  unfold separate adjoin
  split
  · simp
  · rw [← List.cons_append, ← List.append_assoc, List.getLast?_concat]

namespace Strategy

variable {withDeprecated : Bool} {fault : Fault} {directory : Directory} {level : Nat}

/-! ## Candidates -/

/-- The options that complete the option name being typed. -/
def leafCandidates (withDeprecated : Bool) (fault : Fault) (directory : Directory) :
    List OptionSpec :=
  match typedName? fault.reason, fault.configured? directory with
  | some typed, some (component, use) =>
    (((directory.optionGroups component).filter (isCompleting typed)).flatMap (·.options)).filter
      fun option =>
        Directory.isAvailable withDeprecated use option && Text.startsWith option.id typed
  | _, _ => []

/-- The values of the option that lacks one, with their explanations. -/
def valueCandidates (withDeprecated : Bool) (fault : Fault) (directory : Directory) :
    List (Text × String) :=
  match fault.reason with
  | .missingOptionValue id true =>
    ((openOption? withDeprecated fault directory id).map suggestedValues).getD []
  | _ => []

/-- The candidates that may repeat: the ids of options, or values. -/
def choices (withDeprecated : Bool) (fault : Fault) (directory : Directory) : List Text :=
  if (optionLeaf withDeprecated).fits fault then
    (leafCandidates withDeprecated fault directory).map (·.id)
  else if (optionValue withDeprecated).fits fault then
    (valueCandidates withDeprecated fault directory).map (·.1)
  else []

theorem optionLeaf_propose :
    (optionLeaf withDeprecated).propose fault directory level =
      (capped level (leafCandidates withDeprecated fault directory)).map fun option =>
        Proposal.separate fault.safePrefix (marked (option.id ++ ['='])) option.description := by
  unfold leafCandidates
  cases hname : typedName? fault.reason with
  | none => simp [optionLeaf, hname, capped]
  | some typed =>
      cases hconfigured : fault.configured? directory with
      | none => simp [optionLeaf, hname, hconfigured, capped]
      | some configured => simp only [optionLeaf, hname, hconfigured]

theorem optionValue_propose {id : Text} (h : fault.reason = .missingOptionValue id true) :
    (optionValue withDeprecated).propose fault directory level =
      (capped level (valueCandidates withDeprecated fault directory)).map fun entry =>
        Proposal.separate fault.safePrefix (marked (id ++ ['=']) ++ Literal.spell entry.1)
          entry.2 := by
  simp only [optionValue, valueCandidates, h]
  split
  next hnone => simp [hnone, capped]
  next option hsome => simp [hsome]

/-! ## One strategy -/

/-- A strategy that is asked for some proposals makes the first ones of all that it has. -/
theorem propose_eq_take {strategy : Strategy}
    (hstrategy : strategy ∈ (Registry.standard withDeprecated).strategies) (hlevel : 0 < level) :
    strategy.propose fault directory level = (strategy.propose fault directory 0).take level := by
  have hcapped : ∀ {α : Type} (items : List α), capped level items = items.take level := by
    intro α items
    exact if_neg (Nat.ne_of_gt hlevel)
  have hall : ∀ {α : Type} (items : List α), capped 0 items = items := fun _ => rfl
  have hsingle : ∀ proposal : Proposal, [proposal] = [proposal].take level := by
    intro proposal
    rw [List.take_of_length_le hlevel]
  simp only [Registry.standard, List.mem_cons, List.not_mem_nil, or_false] at hstrategy
  rcases hstrategy with rfl | rfl | rfl | rfl | rfl | rfl | rfl
  · simp only [componentName]
    split
    · rw [hcapped, hall, List.map_take]
    · exact List.take_nil.symm
  · simp only [resolvedComponent]
    split
    · split
      · exact List.take_nil.symm
      · rw [hcapped, hall]
    · exact List.take_nil.symm
  · simp only [missingComponent]
    rw [hcapped, hall, List.map_take]
  · exact hsingle _
  · rw [optionLeaf_propose, optionLeaf_propose, hcapped, hall, List.map_take]
  · simp only [optionGroup]
    split
    · rw [hcapped, hall, List.map_take]
    · exact List.take_nil.symm
  · simp only [optionValue]
    split
    · split
      · exact List.take_nil.symm
      · split
        · rw [hcapped, hall, List.map_take]
        · exact hsingle _
    · exact List.take_nil.symm

/-- Joining different texts to one text gives different proposals. -/
theorem nodup_separate {α : Type} {items : List α} {kept : Text} {suffix : α → Text}
    {explanation : α → String} (h : (items.map suffix).Nodup) :
    ((items.map fun item => Proposal.separate kept (suffix item) (explanation item)).map
      (·.text)).Nodup := by
  have htexts : (items.map fun item =>
      Proposal.separate kept (suffix item) (explanation item)).map (·.text) =
      (items.map suffix).map fun part => (Proposal.separate kept part "").text := by
    rw [List.map_map, List.map_map]
    exact List.map_congr_left fun item _ => Proposal.separate_text_congr _ _ _ _
  rw [htexts]
  exact h.map (Proposal.separate_text_injective kept fun _ => "")

theorem nodup_adjoin {α : Type} {items : List α} {kept : Text} {suffix : α → Text}
    {explanation : α → String} (h : (items.map suffix).Nodup) :
    ((items.map fun item => Proposal.adjoin kept (suffix item) (explanation item)).map
      (·.text)).Nodup := by
  have htexts := h.map (List.append_right_injective kept)
  rw [List.map_map] at htexts ⊢
  exact htexts

theorem nodup_componentsAfter (directory : Directory) (definition : Definition) :
    ((directory.componentsAfter definition).map (·.name)).Nodup :=
  nodup_distinctBy _

theorem nodup_componentName :
    ((componentName.propose fault directory 0).map (·.text)).Nodup := by
  simp only [componentName]
  split
  · apply nodup_adjoin
    exact (nodup_componentsAfter directory fault.definition).sublist (List.filter_sublist.map _)
  · exact List.nodup_nil

theorem nodup_continuations {kept : Text} {component : Component} {use : ComponentUse} :
    ((continuations directory withDeprecated kept component use).map (·.text)).Nodup := by
  have hpair : ∀ a b, (Proposal.separate kept ['|'] a).text ≠
      (Proposal.separate kept ['-', '-'] b).text := by
    intro a b h
    rw [Proposal.separate_text_congr kept _ a b] at h
    have hsuffix := Proposal.separate_text_injective kept (fun _ => b) h
    exact absurd hsuffix (by decide)
  simp only [continuations]
  split <;> split <;> simp [hpair]

theorem nodup_missingComponent :
    ((missingComponent.propose fault directory 0).map (·.text)).Nodup :=
  nodup_separate (nodup_componentsAfter directory fault.definition)

theorem nodup_optionGroup :
    (((optionGroup withDeprecated).propose fault directory 0).map (·.text)).Nodup := by
  simp only [optionGroup]
  split
  next typed component use _ _ =>
    apply nodup_separate
    have hsegments := @nodup_distinctBy _ _ _ (fun segment : Text => segment)
      (((directory.optionGroups component).filter fun group =>
        group.id ≠ [] && !isCompleting typed group && Text.startsWith group.id typed &&
          group.options.any (Directory.isAvailable withDeprecated use)).map (nextSegment typed))
    rw [List.map_id'] at hsegments
    refine hsegments.map fun a b h => ?_
    exact List.append_cancel_right (List.tail_eq_of_cons_eq (List.tail_eq_of_cons_eq h))
  · exact List.nodup_nil

/-! ## The strategies for a fault -/

theorem fitting_optionLeaf (h : (optionLeaf withDeprecated).fits fault = true) :
    (Registry.standard withDeprecated).fitting fault =
      [optionLeaf withDeprecated, optionGroup withDeprecated] := by
  have hgroup : (optionGroup withDeprecated).fits fault = true := h
  have hkind : fault.kind = .unfinishedOptionName ∨ fault.kind = .trailingOptionMarker := by
    simp only [fits, optionLeaf, openName, Shape.fits, List.any_cons, List.any_nil, Bool.or_false,
      Bool.or_eq_true, Bool.and_eq_true, decide_eq_true_eq] at h
    rcases h with h | h | h
    · exact Or.inl h.1
    · exact Or.inl h.1
    · exact Or.inr h.1
  simp only [Registry.fitting, Registry.standard, List.filter_cons, h, hgroup, if_true]
  -- the other strategies are for faults of other kinds
  rcases hkind with hkind | hkind <;>
    simp [fits, componentName, resolvedComponent, danglingName, missingComponent, optionMarker,
      optionValue, Shape.fits, hkind]

theorem kind_optionValue (h : (optionValue withDeprecated).fits fault = true) :
    fault.kind = .missingOptionValue := by
  simp only [fits, optionValue, Shape.fits, List.any_cons, List.any_nil, Bool.or_false,
    Bool.or_eq_true, Bool.and_eq_true, decide_eq_true_eq] at h
  rcases h with h | h
  · exact h.1
  · exact h.1

theorem fitting_optionValue (h : (optionValue withDeprecated).fits fault = true) :
    (Registry.standard withDeprecated).fitting fault = [optionValue withDeprecated] ∧
      (optionLeaf withDeprecated).fits fault = false := by
  have hkind := kind_optionValue h
  simp only [Registry.fitting, Registry.standard, List.filter_cons, h, if_true]
  simp [fits, componentName, resolvedComponent, danglingName, missingComponent, optionMarker,
    optionLeaf, optionGroup, openName, Shape.fits, hkind]

/-- The texts of the options that complete an option name may be cut when their ids may. -/
theorem cutExact_optionLeaf :
    CutExact level (((optionLeaf withDeprecated).propose fault directory 0).map (·.text)) ↔
      CutExact level ((leafCandidates withDeprecated fault directory).map (·.id)) := by
  have htexts : ((optionLeaf withDeprecated).propose fault directory 0).map (·.text) =
      ((leafCandidates withDeprecated fault directory).map (·.id)).map fun id =>
        (Proposal.separate fault.safePrefix (marked (id ++ ['='])) "").text := by
    rw [optionLeaf_propose, List.map_map, List.map_map]
    exact List.map_congr_left fun option _ => Proposal.separate_text_congr _ _ _ _
  rw [htexts]
  apply cutExact_map
  intro a b h
  have hsuffix := Proposal.separate_text_injective fault.safePrefix (fun _ => "") h
  exact List.append_cancel_right (List.tail_eq_of_cons_eq (List.tail_eq_of_cons_eq hsuffix))

/-- The texts of the values of an option may be cut when the values may. -/
theorem cutExact_optionValue (h : fault.kind = .missingOptionValue) :
    CutExact level (((optionValue withDeprecated).propose fault directory 0).map (·.text)) ↔
      CutExact level ((valueCandidates withDeprecated fault directory).map (·.1)) := by
  cases hreason : fault.reason with
  | missingOptionValue id afterEquals =>
      cases afterEquals with
      | true =>
          have htexts : ((optionValue withDeprecated).propose fault directory 0).map (·.text) =
              ((valueCandidates withDeprecated fault directory).map (·.1)).map fun value =>
                (Proposal.separate fault.safePrefix (marked (id ++ ['=']) ++ Literal.spell value)
                  "").text := by
            rw [optionValue_propose hreason, List.map_map, List.map_map]
            exact List.map_congr_left fun entry _ => Proposal.separate_text_congr _ _ _ _
          rw [htexts]
          apply cutExact_map
          intro a b hab
          have hsuffix := Proposal.separate_text_injective fault.safePrefix (fun _ => "") hab
          exact Literal.spell_injective (List.append_cancel_left hsuffix)
      | false =>
          have hvalues : valueCandidates withDeprecated fault directory = [] := by
            simp [valueCandidates, hreason]
          have hone : (((optionValue withDeprecated).propose fault directory 0).map
              (·.text)).Nodup := by
            simp only [optionValue, hreason]
            split <;> simp
          rw [hvalues]
          exact iff_of_true (CutExact.of_nodup hone level) (CutExact.of_nodup List.nodup_nil level)
  | _ => simp [Fault.kind, hreason, Fault.Reason.kind] at h

/-- Every strategy for a fault may be cut when the candidates may. -/
theorem cutExact_propose {strategy : Strategy}
    (hstrategy : strategy ∈ (Registry.standard withDeprecated).fitting fault)
    (h : CutExact level (choices withDeprecated fault directory)) :
    CutExact level ((strategy.propose fault directory 0).map (·.text)) := by
  obtain ⟨hmem, hfits⟩ := List.mem_filter.1 hstrategy
  simp only [Registry.standard, List.mem_cons, List.not_mem_nil, or_false] at hmem
  rcases hmem with rfl | rfl | rfl | rfl | rfl | rfl | rfl
  · exact .of_nodup nodup_componentName level
  · refine .of_nodup ?_ level
    simp only [resolvedComponent]
    split
    · split
      · exact List.nodup_nil
      · exact nodup_continuations
    · exact List.nodup_nil
  · exact .of_nodup nodup_missingComponent level
  · exact .of_nodup (List.nodup_singleton _) level
  · rw [choices, if_pos hfits] at h
    exact cutExact_optionLeaf.2 h
  · exact .of_nodup nodup_optionGroup level
  · have hleaf := (fitting_optionValue hfits).2
    rw [choices, hleaf, if_neg (by decide), if_pos hfits] at h
    exact (cutExact_optionValue (kind_optionValue hfits)).2 h

/-- Options are proposed with their sign, groups with a dot. -/
theorem getLast_optionLeaf {proposal : Proposal}
    (h : proposal ∈ (optionLeaf withDeprecated).propose fault directory level) :
    proposal.text.getLast? = some '=' := by
  rw [optionLeaf_propose] at h
  obtain ⟨option, -, rfl⟩ := List.mem_map.1 h
  exact Proposal.getLast_separate fault.safePrefix (marked option.id) option.description

theorem getLast_optionGroup {proposal : Proposal}
    (h : proposal ∈ (optionGroup withDeprecated).propose fault directory level) :
    proposal.text.getLast? = some '.' := by
  simp only [optionGroup] at h
  split at h
  next typed component use _ _ =>
    obtain ⟨segment, -, rfl⟩ := List.mem_map.1 h
    exact Proposal.getLast_separate fault.safePrefix (marked segment) _
  · cases h

end Strategy

namespace Engine

open Strategy

/-- After a fault the proposals are those of the strategies, each cut at the level. -/
theorem complete_error (directory : Directory) (withDeprecated : Bool) {text : Text} {fault : Fault}
    {level : Nat} (h : Definition.read text = .error fault) (hlevel : 0 < level) :
    (standard directory withDeprecated).complete text level =
        (Proposal.distinct (((Registry.standard withDeprecated).fitting fault).flatMap
          fun strategy => (strategy.propose fault directory 0).take level)).take level ∧
      (standard directory withDeprecated).complete text 0 =
        Proposal.distinct (((Registry.standard withDeprecated).fitting fault).flatMap
          fun strategy => strategy.propose fault directory 0) := by
  constructor
  · have hpropose : ((Registry.standard withDeprecated).fitting fault).flatMap
          (fun strategy => strategy.propose fault directory level) =
        ((Registry.standard withDeprecated).fitting fault).flatMap
          fun strategy => (strategy.propose fault directory 0).take level := by
      apply List.flatMap_congr
      intro strategy hstrategy
      exact propose_eq_take (List.mem_filter.1 hstrategy).1 hlevel
    simp only [complete, h, recover, standard, hpropose, capped, Nat.ne_of_gt hlevel, if_false]
  · simp only [complete, h, recover, standard, capped, if_true]

/-- Some proposals are the first ones of all exactly when the candidates of the fault may be cut. -/
theorem complete_eq_take_iff (directory : Directory) (withDeprecated : Bool) (text : Text)
    (level : Nat) (hlevel : 0 < level) :
    (standard directory withDeprecated).complete text level =
        ((standard directory withDeprecated).complete text 0).take level ↔
      ∀ fault, Definition.read text = .error fault →
        CutExact level (choices withDeprecated fault directory) := by
  cases hread : Definition.read text with
  | ok definition =>
      refine iff_of_true ?_ (fun fault h => by cases h)
      simp only [complete, hread, capped, Nat.ne_of_gt hlevel, if_false, if_true]
  | error fault =>
      obtain ⟨hsome, hall⟩ := complete_error directory withDeprecated hread hlevel
      rw [hsome, hall]
      constructor
      · intro heq other hother
        cases hother
        unfold choices
        split
        next hleaf =>
          rw [fitting_optionLeaf hleaf, List.flatMap_cons, List.flatMap_cons, List.flatMap_cons,
            List.flatMap_cons, List.flatMap_nil, List.flatMap_nil, List.append_nil,
            List.append_nil] at heq
          -- options end in a sign and groups in a dot, so the options can be told from the whole
          refine cutExact_optionLeaf.1 (cutExact_of_take_append
            (p := fun proposal => proposal.text.getLast? = some '=') ?_ ?_ heq)
          · intro proposal hproposal
            simp [getLast_optionLeaf hproposal]
          · intro proposal hproposal
            simp [getLast_optionGroup hproposal]
        next hleaf =>
          split
          next hvalue =>
            rw [(fitting_optionValue hvalue).1, List.flatMap_cons, List.flatMap_cons,
              List.flatMap_nil, List.flatMap_nil] at heq
            rw [List.append_nil, List.append_nil, Proposal.distinct, List.take_of_length_le
              (length_distinctBy_take _ _)] at heq
            exact (cutExact_optionValue (kind_optionValue hvalue)).1 (distinctBy_take_iff.1 heq)
          · exact .of_nodup List.nodup_nil level
      · intro h
        exact take_distinctBy_flatMap _ _ fun strategy hstrategy =>
          cutExact_propose hstrategy (h fault rfl)

/-- A catalog with an option that suggests a value twice. -/
def twiceSuggesting : Catalog :=
  ⟨[⟨⟨['a'], .source, none⟩, [⟨['x'], [], "", false, none, [['u'], ['u'], ['v']]⟩]⟩]⟩

/-- A cut behind all the different values is harmless, even if one is there twice. -/
theorem complete_three_values :
    0 < 3 ∧ (standard (Directory.ofCatalog twiceSuggesting .byPosition) false).complete
        ['a', ' ', '-', '-', 'x', '='] 3 =
      ((standard (Directory.ofCatalog twiceSuggesting .byPosition) false).complete
        ['a', ' ', '-', '-', 'x', '='] 0).take 3 := by
  refine ⟨by decide, (complete_eq_take_iff _ false _ 3 (by decide)).2 fun fault hfault => ?_⟩
  cases hfault
  exact Or.inr (by decide)

/-- The value that is suggested twice uses up the level, and another value is missed. -/
theorem complete_two_values :
    Catalog.addAll .empty twiceSuggesting.entries = .ok twiceSuggesting ∧
    (standard (Directory.ofCatalog twiceSuggesting .byPosition) false).complete
        ['a', ' ', '-', '-', 'x', '='] 2 =
      [⟨['a', ' ', '-', '-', 'x', '=', 'u'], "Suggested value"⟩] ∧
    ((standard (Directory.ofCatalog twiceSuggesting .byPosition) false).complete
        ['a', ' ', '-', '-', 'x', '='] 0).take 2 =
      [⟨['a', ' ', '-', '-', 'x', '=', 'u'], "Suggested value"⟩,
       ⟨['a', ' ', '-', '-', 'x', '=', 'v'], "Suggested value"⟩] := by
  refine ⟨rfl, ?_, ?_⟩
  · decide
  · decide

end Engine

end PipeAssist

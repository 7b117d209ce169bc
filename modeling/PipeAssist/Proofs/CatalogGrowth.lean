import PipeAssist.Proofs.DetailCap
import PipeAssist.Proofs.Registrations
import PipeAssist.Proofs.Repairs

/-!
# Proposals of a growing catalog

A component that is registered under a new name changes no answer about the names that were there:
in every category they denote what they did, with the options they had (`Directory.Grows`,
`Directory.grows_of_add`). Resolving a name tries one category after the other, so it is important
that a known name is answered alike in all of them, and not only where it was found. Every strategy
then proposes at least the texts that it proposed before (`Strategy.Growing`), and so does the
standard engine, on complete texts and after faults (`Engine.proposals_grow`). Only texts are kept:
a new name can be the same text as an older proposal and come before it with its own explanation.
-/

set_option autoImplicit false

namespace PipeAssist

/-! ## Directories -/

/-- What a larger directory keeps of a smaller one. -/
structure Directory.Grows (small large : Directory) : Prop where
  components : small.components ⊆ large.components
  /-- A name that is known in some category is answered alike in all of them. -/
  found : ∀ name category component, small.find? name category = some component →
    large.find? name = small.find? name
  /-- The components that are found have the same options. -/
  options : ∀ name category component, small.find? name category = some component →
    large.optionGroups component = small.optionGroups component
  categories : large.categoriesAfter = small.categoriesAfter

namespace Directory

variable {small large : Directory}

/-- A name that denotes a component denotes it in a larger directory, with the same options. -/
theorem Grows.resolveAfter (h : small.Grows large) {name : Text} {definition : Definition}
    {component : Component} (hresolved : small.resolveAfter name definition = some component) :
    large.resolveAfter name definition = some component ∧
      large.optionGroups component = small.optionGroups component := by
  obtain ⟨category, -, hfound⟩ := List.exists_of_findSome?_eq_some hresolved
  constructor
  · -- the categories in front of the one that answers have to stay silent too
    rw [Directory.resolveAfter, h.categories, h.found name category component hfound]
    exact hresolved
  · exact h.options name category component hfound

theorem Grows.resolveLast (h : small.Grows large) {definition : Definition} {component : Component}
    (hresolved : small.resolveLast definition = some component) :
    large.resolveLast definition = some component ∧
      large.optionGroups component = small.optionGroups component := by
  unfold Directory.resolveLast at hresolved ⊢
  cases hlast : definition.getLast? with
  | none =>
      rw [hlast] at hresolved
      cases hresolved
  | some use =>
      rw [hlast] at hresolved
      exact h.resolveAfter hresolved

/-- The component being configured is the same, with the same options. -/
theorem Grows.configured (h : small.Grows large) {fault : Fault} {component : Component}
    {use : ComponentUse} (hconfigured : fault.configured? small = some (component, use)) :
    fault.configured? large = some (component, use) ∧
      large.optionGroups component = small.optionGroups component := by
  obtain ⟨hlast, hresolved⟩ := Fault.configured_some hconfigured
  obtain ⟨hlarge, hoptions⟩ := h.resolveLast hresolved
  refine ⟨?_, hoptions⟩
  simp only [Fault.configured?, hlast, hlarge]

/-- No name is lost among the components that can follow a definition. -/
theorem Grows.name_mem_componentsAfter (h : small.Grows large) {definition : Definition}
    {component : Component} (hmem : component ∈ small.componentsAfter definition) :
    ∃ other ∈ large.componentsAfter definition, other.name = component.name := by
  have hname : component.name ∈ (large.componentsAfter definition).map (·.name) := by
    rw [componentsAfter, mem_map_distinctBy, h.categories]
    have hlisted := mem_of_mem_distinctBy hmem
    obtain ⟨category, hcategory, hcomponent⟩ := List.mem_flatMap.1 hlisted
    obtain ⟨hregistered, hfilter⟩ := List.mem_filter.1 hcomponent
    apply List.mem_map_of_mem
    apply List.mem_flatMap.2
    exact ⟨category, hcategory, List.mem_filter.2 ⟨h.components hregistered, hfilter⟩⟩
  obtain ⟨other, hother, heq⟩ := List.mem_map.1 hname
  exact ⟨other, hother, heq⟩

/-- Continuations ask a directory for nothing but the options of the component. -/
theorem continuations_congr {component : Component}
    (h : large.optionGroups component = small.optionGroups component) (withDeprecated : Bool)
    (kept : Text) (use : ComponentUse) :
    continuations large withDeprecated kept component use =
      continuations small withDeprecated kept component use := by
  have hunused : large.unusedOptions withDeprecated component use =
      small.unusedOptions withDeprecated component use := by
    rw [unusedOptions, unusedOptions, options, options, h]
  unfold continuations
  rw [hunused]

end Directory

/-! ## Strategies -/

namespace Strategy

/-- Strategies that lose no text when the directory grows. -/
def Growing (strategy : Strategy) : Prop :=
  ∀ (fault : Fault) (small large : Directory), small.Grows large →
    (strategy.propose fault small 0).map (·.text) ⊆ (strategy.propose fault large 0).map (·.text)

theorem growing_componentName : componentName.Growing := by
  intro fault small large h proposed hproposed
  simp only [componentName, capped, if_true] at hproposed ⊢
  split at hproposed
  next fragment token hreason hlast =>
    rw [List.map_map, List.mem_map] at hproposed ⊢
    obtain ⟨component, hcomponent, rfl⟩ := hproposed
    obtain ⟨hmem, hfilter⟩ := List.mem_filter.1 hcomponent
    obtain ⟨other, hother, hname⟩ := h.name_mem_componentsAfter hmem
    -- whether a component is proposed depends on its name alone, and so does the text
    refine ⟨other, List.mem_filter.2 ⟨hother, ?_⟩, ?_⟩
    · rwa [hname]
    · simp [Proposal.adjoin, hname]
  · cases hproposed

theorem growing_missingComponent : missingComponent.Growing := by
  intro fault small large h proposed hproposed
  simp only [missingComponent, capped, if_true, List.map_map, List.mem_map] at hproposed ⊢
  obtain ⟨component, hcomponent, rfl⟩ := hproposed
  obtain ⟨other, hother, hname⟩ := h.name_mem_componentsAfter hcomponent
  refine ⟨other, hother, ?_⟩
  simp only [Function.comp_apply, hname]
  exact Proposal.separate_text_congr _ _ _ _

theorem growing_resolvedComponent (withDeprecated : Bool) :
    (resolvedComponent withDeprecated).Growing := by
  intro fault small large h proposed hproposed
  simp only [resolvedComponent, capped, if_true] at hproposed ⊢
  split at hproposed
  next fragment token hreason hlast =>
    cases hresolved : small.resolveAfter fragment fault.definition with
    | none =>
        rw [hresolved] at hproposed
        cases hproposed
    | some component =>
        obtain ⟨hlarge, hoptions⟩ := h.resolveAfter hresolved
        simp only [hresolved] at hproposed
        simp only [hlarge, Directory.continuations_congr hoptions]
        exact hproposed
  · cases hproposed

theorem growing_optionMarker : optionMarker.Growing := by
  intro fault small large _
  exact List.Subset.refl _

/-- A strategy that asks for nothing but the component being configured and its options. -/
theorem growing_of_configured {strategy : Strategy}
    (hnone : ∀ fault directory, fault.configured? directory = none →
      strategy.propose fault directory 0 = [])
    (hsome : ∀ fault small large component use,
      fault.configured? small = some (component, use) →
      fault.configured? large = some (component, use) →
      large.optionGroups component = small.optionGroups component →
      strategy.propose fault large 0 = strategy.propose fault small 0) : strategy.Growing := by
  intro fault small large h
  cases hconfigured : fault.configured? small with
  | none =>
      rw [hnone fault small hconfigured]
      exact List.nil_subset _
  | some configured =>
      obtain ⟨component, use⟩ := configured
      obtain ⟨hlarge, hoptions⟩ := h.configured hconfigured
      rw [hsome fault small large component use hconfigured hlarge hoptions]
      exact List.Subset.refl _

theorem growing_optionLeaf (withDeprecated : Bool) : (optionLeaf withDeprecated).Growing := by
  apply growing_of_configured
  · intro fault directory hnone
    cases hname : typedName? fault.reason <;> simp only [optionLeaf, hname, hnone]
  · intro fault small large component use hsmall hlarge hoptions
    cases hname : typedName? fault.reason <;>
      simp only [optionLeaf, hname, hsmall, hlarge, hoptions]

theorem growing_optionGroup (withDeprecated : Bool) : (optionGroup withDeprecated).Growing := by
  apply growing_of_configured
  · intro fault directory hnone
    cases hname : typedName? fault.reason <;> simp only [optionGroup, hname, hnone]
  · intro fault small large component use hsmall hlarge hoptions
    cases hname : typedName? fault.reason <;>
      simp only [optionGroup, hname, hsmall, hlarge, hoptions]

theorem growing_optionValue (withDeprecated : Bool) : (optionValue withDeprecated).Growing := by
  apply growing_of_configured
  · intro fault directory hnone
    simp only [optionValue, openOption?, hnone]
    split <;> rfl
  · intro fault small large component use hsmall hlarge hoptions
    simp only [optionValue, openOption?, hsmall, hlarge, Directory.unusedOptions,
      Directory.options, hoptions]

/-- No strategy of this library loses a text. -/
theorem growing_of_mem_standard {withDeprecated : Bool} {strategy : Strategy}
    (h : strategy ∈ (Registry.standard withDeprecated).strategies) : strategy.Growing := by
  simp only [Registry.standard, List.mem_cons, List.not_mem_nil, or_false] at h
  rcases h with rfl | rfl | rfl | rfl | rfl | rfl | rfl
  · exact growing_componentName
  · exact growing_resolvedComponent withDeprecated
  · exact growing_missingComponent
  · exact growing_optionMarker
  · exact growing_optionLeaf withDeprecated
  · exact growing_optionGroup withDeprecated
  · exact growing_optionValue withDeprecated

end Strategy

/-! ## Completion -/

namespace Engine

variable {small large : Directory} (h : small.Grows large) (withDeprecated : Bool)

include h

/-- Behind a complete text nothing is lost. -/
theorem forward_subset (text : Text) (definition : Definition) :
    (standard small withDeprecated).forward text definition ⊆
      (standard large withDeprecated).forward text definition := by
  intro proposal hproposal
  unfold forward at hproposal ⊢
  cases hclosing : closeLiteral? text with
  | some closing =>
      simp only [hclosing] at hproposal ⊢
      exact hproposal
  | none =>
      simp only [hclosing, standard] at hproposal ⊢
      cases hlast : definition.getLast? with
      | none =>
          simp only [hlast] at hproposal
          cases hproposal
      | some use =>
          cases hresolved : small.resolveLast definition with
          | none =>
              simp only [hlast, hresolved] at hproposal
              cases hproposal
          | some component =>
              obtain ⟨hlarge, hoptions⟩ := h.resolveLast hresolved
              simp only [hlast, hresolved] at hproposal
              simp only [hlarge, Directory.continuations_congr hoptions]
              exact hproposal

/-- After a fault no text is lost. Which strategies fit is a matter of the fault alone. -/
theorem recover_subset (fault : Fault) :
    ((standard small withDeprecated).recover fault 0).map (·.text) ⊆
      ((standard large withDeprecated).recover fault 0).map (·.text) := by
  intro proposed hproposed
  obtain ⟨proposal, hproposal, rfl⟩ := List.mem_map.1 hproposed
  obtain ⟨strategy, hstrategy, hmem⟩ := List.mem_flatMap.1 hproposal
  have hgrowing := Strategy.growing_of_mem_standard (List.mem_filter.1 hstrategy).1
  obtain ⟨other, hother, htext⟩ :=
    List.mem_map.1 (hgrowing fault small large h (List.mem_map_of_mem hmem))
  rw [← htext]
  exact List.mem_map_of_mem (List.mem_flatMap.2 ⟨strategy, hstrategy, hother⟩)

theorem complete_subset (text : Text) :
    ((standard small withDeprecated).complete text 0).map (·.text) ⊆
      ((standard large withDeprecated).complete text 0).map (·.text) := by
  intro proposed hproposed
  simp only [complete, capped, if_true, Proposal.distinct, mem_map_distinctBy] at hproposed ⊢
  cases hread : Definition.read text with
  | ok definition =>
      simp only [hread] at hproposed
      exact List.map_subset _ (forward_subset h withDeprecated text definition) hproposed
  | error fault =>
      simp only [hread] at hproposed
      exact recover_subset h withDeprecated fault hproposed

end Engine

/-! ## Registration -/

namespace Catalog

variable {catalog grown : Catalog} {component : Component} {options : List OptionSpec}
  (hadd : catalog.add component options = .ok grown)

include hadd

/-- A call that succeeds adds one entry at the end. -/
theorem eq_of_add : grown = ⟨catalog.entries ++ [⟨component, options⟩]⟩ := by
  have hanswer := catalog.add_eq ⟨component, options⟩
  rw [hadd] at hanswer
  cases hobjection : objection catalog.entries ⟨component, options⟩ with
  | none =>
      rw [hobjection] at hanswer
      exact Except.ok.inj hanswer
  | some problem =>
      rw [hobjection] at hanswer
      cases hanswer

/-- A name other than the new one has the entries that it had. -/
theorem entry_of_add {name : Text} (hname : component.name ≠ name) :
    grown.entry? name = catalog.entry? name := by
  funext category
  have hkey : component.key ≠ (name, category) := by
    intro hkey
    exact hname (congrArg Prod.fst hkey)
  rw [eq_of_add hadd, entry_concat, if_neg hkey, Option.or_none]

end Catalog

/-- A directory grows with a component whose name is new. -/
theorem Directory.grows_of_add {catalog grown : Catalog} {component : Component}
    {options : List OptionSpec} (hadd : catalog.add component options = .ok grown)
    (hnew : ∀ other ∈ catalog.components, other.name ≠ component.name)
    (rule : Definition → List Category) :
    (underRule catalog rule).Grows (underRule grown rule) := by
  -- a component that was found has another name than the new one
  have hother : ∀ name category found, catalog.find? name category = some found →
      found.name = name ∧ component.name ≠ name := by
    intro name category found hfound
    obtain ⟨entry, hentry, rfl⟩ := Option.map_eq_some_iff.1 hfound
    obtain ⟨hmem, hkey⟩ := Catalog.mem_of_entry hentry
    obtain ⟨rfl, -⟩ := Prod.mk.inj hkey
    exact ⟨rfl, (hnew _ (List.mem_map_of_mem hmem)).symm⟩
  refine ⟨?_, ?_, ?_, rfl⟩
  · intro other hmem
    show other ∈ grown.components
    rw [Catalog.eq_of_add hadd, Catalog.components, List.map_append]
    exact List.mem_append_left _ hmem
  · intro name category found hfound
    obtain ⟨-, hname⟩ := hother name category found hfound
    show grown.find? name = catalog.find? name
    funext category
    rw [Catalog.find?, Catalog.find?, Catalog.entry_of_add hadd hname]
  · intro name category found hfound
    obtain ⟨rfl, hname⟩ := hother name category found hfound
    show grown.optionGroups found = catalog.optionGroups found
    rw [Catalog.optionGroups, Catalog.optionGroups, Catalog.optionsOf, Catalog.optionsOf,
      Catalog.entry_of_add hadd hname]

namespace Engine

/-- Registering a component under a new name removes no text from the proposals. -/
theorem proposals_grow (catalog grown : Catalog) (component : Component)
    (options : List OptionSpec) (hadd : catalog.add component options = .ok grown)
    (hnew : ∀ other ∈ catalog.components, other.name ≠ component.name)
    (rule : Definition → List Category) (withDeprecated : Bool) (text : Text) :
    ((standard (Directory.underRule catalog rule) withDeprecated).complete text 0).map (·.text) ⊆
      ((standard (Directory.underRule grown rule) withDeprecated).complete text 0).map (·.text) :=
  complete_subset (Directory.grows_of_add hadd hnew rule) withDeprecated text

/-- A new name that is itself the text of an older proposal: the pipe behind `http`. -/
theorem proposals_grow_pipe :
    ∃ grown, Catalog.builtin.add ⟨"http |".toList, .source, none⟩ [] = .ok grown ∧
      "http |".toList ∈ ((standard (Directory.underRule .builtin
        StagePolicy.byPosition.categoriesAfter) false).complete "http".toList 0).map (·.text) ∧
      "http |".toList ∈ ((standard (Directory.underRule grown
        StagePolicy.byPosition.categoriesAfter) false).complete "http".toList 0).map (·.text) := by
  have hsmall : "http |".toList ∈ ((standard (Directory.underRule .builtin
      StagePolicy.byPosition.categoriesAfter) false).complete "http".toList 0).map (·.text) := by
    decide
  refine ⟨_, rfl, hsmall, ?_⟩
  exact proposals_grow .builtin _ ⟨"http |".toList, .source, none⟩ [] rfl (by decide) _ false
    "http".toList hsmall

end Engine

end PipeAssist

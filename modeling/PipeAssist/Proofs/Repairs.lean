import PipeAssist.Catalog.Builtin
import PipeAssist.Completion.Engine
import PipeAssist.Proofs.Distinct

/-!
# What is proposed after a fault

`Repair` lists, strategy by strategy, the texts that the standard engine can propose after a fault,
with what is known of the components, options and values in them. Every proposal is one of them, at
every level (`recover_repair`). `Catalog.WellFormed` is what proposals rely on when their texts are
read again.
-/

set_option autoImplicit false

namespace PipeAssist

/-! ## Catalogs -/

/-- Catalogs whose names can be written: component names are words, and the ids of options and of
their groups are dotted words, except that the group of options without one is empty. -/
structure Catalog.WellFormed (catalog : Catalog) : Prop where
  name_isWord : ∀ entry ∈ catalog.entries, Text.isWord entry.component.name = true
  id_isDottedWord : ∀ entry ∈ catalog.entries, ∀ option ∈ entry.options,
    Text.isDottedWord option.id = true
  group_isDottedWord : ∀ entry ∈ catalog.entries, ∀ option ∈ entry.options, option.group ≠ [] →
    Text.isDottedWord option.group = true

theorem Catalog.builtin_wellFormed : Catalog.builtin.WellFormed where
  name_isWord := by decide
  id_isDottedWord := by decide
  group_isDottedWord := by decide

/-- The directory of a catalog in which `rule` gives the categories that may follow a definition. -/
def Directory.underRule (catalog : Catalog) (rule : Definition → List Category) : Directory where
  components := catalog.components
  find? := catalog.find?
  optionGroups := catalog.optionGroups
  categoriesAfter := rule

namespace Directory

variable {catalog : Catalog} {rule : Definition → List Category}

/-- The components that can follow a definition are registered, in a category that can follow. -/
theorem mem_componentsAfter {definition : Definition} {component : Component}
    (h : component ∈ (underRule catalog rule).componentsAfter definition) :
    component.category ∈ rule definition ∧
      ∃ entry ∈ catalog.entries, entry.component = component := by
  have hmem := mem_of_mem_distinctBy h
  rw [List.mem_flatMap] at hmem
  obtain ⟨category, hcategory, hcomponent⟩ := hmem
  rw [List.mem_filter, decide_eq_true_eq] at hcomponent
  obtain ⟨hregistered, rfl⟩ := hcomponent
  obtain ⟨entry, hentry, rfl⟩ := List.mem_map.1 hregistered
  exact ⟨hcategory, entry, hentry, rfl⟩

/-- The options of a component are those of its entry. -/
theorem mem_optionGroups {component : Component} {group : OptionGroup}
    (h : group ∈ (underRule catalog rule).optionGroups component) :
    (∃ option ∈ catalog.optionsOf component.name component.category, option.group = group.id) ∧
      ∀ option ∈ group.options, option ∈ catalog.optionsOf component.name component.category := by
  obtain ⟨id, hid, rfl⟩ := List.mem_map.1 h
  obtain ⟨option, hoption, rfl⟩ := List.mem_map.1 (mem_of_mem_distinctBy hid)
  exact ⟨⟨option, hoption, rfl⟩, fun _ hmem => (List.mem_filter.1 hmem).1⟩

theorem mem_options {component : Component} {option : OptionSpec}
    (h : option ∈ (underRule catalog rule).options component) :
    option ∈ catalog.optionsOf component.name component.category := by
  obtain ⟨group, hgroup, hoption⟩ := List.mem_flatMap.1 h
  exact (mem_optionGroups hgroup).2 option hoption

end Directory

theorem Catalog.exists_entry_of_mem_optionsOf {catalog : Catalog} {name : Text}
    {category : Category} {option : OptionSpec} (h : option ∈ catalog.optionsOf name category) :
    ∃ entry ∈ catalog.entries, option ∈ entry.options := by
  unfold optionsOf at h
  cases hentry : catalog.entry? name category with
  | none => simp [hentry] at h
  | some entry =>
      rw [hentry] at h
      exact ⟨entry, List.mem_of_find?_eq_some hentry, h⟩

/-! ## Strategies -/

/-- The texts that the standard strategies can propose after a fault. -/
inductive Repair (directory : Directory) (withDeprecated : Bool) (fault : Fault) : Text → Prop where
  /-- The name being typed is extended to the name of a component. -/
  | extend {fragment : Text} {token : Token} {component : Component}
      (reason : fault.reason = .danglingComponentName fragment)
      (last : fault.lastToken? = some token)
      (mem : component ∈ directory.componentsAfter fault.definition)
      (starts : Text.startsWith component.name fragment = true)
      (longer : component.name ≠ fragment) :
      Repair directory withDeprecated fault
        (Text.takeBytes token.start fault.input ++ component.name)
  /-- The name being typed is that of a component, which passes something on. -/
  | pipe {fragment : Text} {token : Token} {component : Component} {explanation : String}
      (reason : fault.reason = .danglingComponentName fragment)
      (last : fault.lastToken? = some token)
      (resolved : directory.resolveAfter fragment fault.definition = some component)
      (onward : component.category.acceptsDownstream = true) :
      Repair directory withDeprecated fault
        (Proposal.separate (Text.takeBytes token.stop fault.input) ['|'] explanation).text
  /-- The name being typed is that of a component, which has options. -/
  | configure {fragment : Text} {token : Token} {component : Component} {explanation : String}
      (reason : fault.reason = .danglingComponentName fragment)
      (last : fault.lastToken? = some token)
      (resolved : directory.resolveAfter fragment fault.definition = some component) :
      Repair directory withDeprecated fault
        (Proposal.separate (Text.takeBytes token.stop fault.input) (Strategy.marked [])
          explanation).text
  /-- A component is put where a name is missing. -/
  | component {component : Component} {explanation : String}
      (kind : fault.kind = .missingComponent ∨ fault.kind = .trailingPipe)
      (mem : component ∈ directory.componentsAfter fault.definition) :
      Repair directory withDeprecated fault
        (Proposal.separate fault.safePrefix component.name explanation).text
  /-- The second dash of an option marker. -/
  | marker {explanation : String} (kind : fault.kind = .unfinishedOptionMarker) :
      Repair directory withDeprecated fault
        (Proposal.separate fault.safePrefix (Strategy.marked []) explanation).text
  /-- An option of the component that is being configured. -/
  | option {typed : Text} {component : Component} {use : ComponentUse} {option : OptionSpec}
      {explanation : String} (name : Strategy.typedName? fault.reason = some typed)
      (configured : fault.configured? directory = some (component, use))
      (mem : option ∈ directory.options component) :
      Repair directory withDeprecated fault
        (Proposal.separate fault.safePrefix (Strategy.marked (option.id ++ ['=']))
          explanation).text
  /-- One more segment of the ids of options. -/
  | group {typed : Text} {component : Component} {use : ComponentUse} {group : OptionGroup}
      {explanation : String} (name : Strategy.typedName? fault.reason = some typed)
      (configured : fault.configured? directory = some (component, use))
      (mem : group ∈ directory.optionGroups component) (ne : group.id ≠ [])
      (starts : Text.startsWith group.id typed = true) :
      Repair directory withDeprecated fault
        (Proposal.separate fault.safePrefix
          (Strategy.marked (Strategy.nextSegment typed group ++ ['.'])) explanation).text
  /-- The equals sign of an option. -/
  | equals {id : Text} {option : OptionSpec} {explanation : String}
      (reason : fault.reason = .missingOptionValue id false)
      (found : Strategy.openOption? withDeprecated fault directory id = some option) :
      Repair directory withDeprecated fault
        (Proposal.separate fault.safePrefix (Strategy.marked (id ++ ['='])) explanation).text
  /-- A value that an option suggests. -/
  | value {id value : Text} {option : OptionSpec} {explanation : String}
      (reason : fault.reason = .missingOptionValue id true)
      (found : Strategy.openOption? withDeprecated fault directory id = some option)
      (mem : (value, explanation) ∈ Strategy.suggestedValues option) :
      Repair directory withDeprecated fault
        (Proposal.separate fault.safePrefix
          (Strategy.marked (id ++ ['=']) ++ Literal.spell value) explanation).text

/-- The component being configured is the one that the last use denotes. -/
theorem Fault.configured_some {fault : Fault} {directory : Directory} {component : Component}
    {use : ComponentUse} (h : fault.configured? directory = some (component, use)) :
    fault.definition.getLast? = some use ∧
      directory.resolveLast fault.definition = some component := by
  unfold configured? at h
  split at h
  next hlast hresolved =>
    cases h
    exact ⟨hlast, hresolved⟩
  · cases h

/-- The option that lacks a value is one of the component's, and can still be supplied. -/
theorem Strategy.openOption_some {directory : Directory} {withDeprecated : Bool} {fault : Fault}
    {id : Text} {option : OptionSpec}
    (h : openOption? withDeprecated fault directory id = some option) :
    ∃ component use, fault.configured? directory = some (component, use) ∧
      option ∈ directory.options component ∧
      Directory.isAvailable withDeprecated use option = true ∧ option.id = id := by
  unfold openOption? at h
  split at h
  · cases h
  next component use hconfigured =>
    obtain ⟨hmem, havailable⟩ := List.mem_filter.1 (List.mem_of_find?_eq_some h)
    exact ⟨component, use, hconfigured, hmem, havailable, by simpa using List.find?_some h⟩

/-- An option that can be supplied is one that the last use lacks. -/
theorem Strategy.exists_lastUse {directory : Directory} {withDeprecated : Bool} {fault : Fault}
    {id : Text} {option : OptionSpec}
    (h : openOption? withDeprecated fault directory id = some option) :
    ∃ use, fault.definition.getLast? = some use ∧ use.hasOption id = false := by
  obtain ⟨component, use, hconfigured, -, havailable, rfl⟩ := openOption_some h
  obtain ⟨hlast, -⟩ := Fault.configured_some hconfigured
  refine ⟨use, hlast, ?_⟩
  simp only [Directory.isAvailable, Bool.and_eq_true, Bool.not_eq_true'] at havailable
  exact havailable.2

/-- The values worth proposing for an option are its hints and its default. -/
theorem Strategy.mem_suggestedValues {option : OptionSpec} {value : Text} {explanation : String}
    (h : (value, explanation) ∈ suggestedValues option) :
    value ∈ option.hints ∨ option.defaultValue = some value := by
  have hhints : (value, explanation) ∈ option.hints.map (fun hint => (hint, "Suggested value")) →
      value ∈ option.hints := by
    intro hmem
    obtain ⟨hint, hhint, heq⟩ := List.mem_map.1 hmem
    cases heq
    exact hhint
  unfold suggestedValues at h
  cases hdefault : option.defaultValue with
  | none =>
      simp only [hdefault] at h
      exact Or.inl (hhints h)
  | some other =>
      simp only [hdefault] at h
      split at h
      · exact Or.inl (hhints h)
      · rcases List.mem_append.1 h with h | h
        · exact Or.inl (hhints h)
        · cases List.mem_singleton.1 h
          exact Or.inr rfl

theorem mem_continuations {directory : Directory} {withDeprecated : Bool} {kept : Text}
    {component : Component} {use : ComponentUse} {proposal : Proposal}
    (h : proposal ∈ continuations directory withDeprecated kept component use) :
    (component.category.acceptsDownstream = true ∧
      ∃ explanation, proposal = Proposal.separate kept ['|'] explanation) ∨
    ∃ explanation, proposal = Proposal.separate kept (Strategy.marked []) explanation := by
  simp only [continuations] at h
  rcases List.mem_append.1 h with honward | hconfigure
  · split at honward
    next haccepts => exact Or.inl ⟨haccepts, _, List.mem_singleton.1 honward⟩
    · cases honward
  · split at hconfigure
    · exact Or.inr ⟨_, List.mem_singleton.1 hconfigure⟩
    · cases hconfigure

/-- Every proposal after a fault is a repair. -/
theorem Engine.recover_repair {directory : Directory} {withDeprecated : Bool} {fault : Fault}
    {level : Nat} {proposal : Proposal}
    (h : proposal ∈ (Engine.standard directory withDeprecated).recover fault level) :
    Repair directory withDeprecated fault proposal.text := by
  obtain ⟨strategy, hstrategy, hproposal⟩ := List.mem_flatMap.1 h
  obtain ⟨hstandard, hfits⟩ := List.mem_filter.1 hstrategy
  -- one case for each strategy, in the order of the registry
  simp only [standard, Registry.standard, List.mem_cons, List.not_mem_nil, or_false] at hstandard
  rcases hstandard with rfl | rfl | rfl | rfl | rfl | rfl | rfl
  · simp only [Strategy.componentName] at hproposal
    split at hproposal
    next fragment token hreason hlast =>
      obtain ⟨component, hcomponent, rfl⟩ := List.mem_map.1 hproposal
      obtain ⟨hmem, hfilter⟩ := List.mem_filter.1 (mem_of_mem_capped hcomponent)
      rw [Bool.and_eq_true, decide_eq_true_eq] at hfilter
      exact .extend hreason hlast hmem hfilter.1 hfilter.2
    · cases hproposal
  · simp only [Strategy.resolvedComponent] at hproposal
    split at hproposal
    next fragment token hreason hlast =>
      split at hproposal
      · cases hproposal
      next component hresolved =>
        rcases mem_continuations (mem_of_mem_capped hproposal) with
          ⟨haccepts, explanation, rfl⟩ | ⟨explanation, rfl⟩
        · exact .pipe hreason hlast hresolved haccepts
        · exact .configure hreason hlast hresolved
    · cases hproposal
  · simp only [Strategy.missingComponent] at hproposal
    obtain ⟨component, hcomponent, rfl⟩ := List.mem_map.1 hproposal
    refine .component ?_ (mem_of_mem_capped hcomponent)
    simp only [Strategy.fits, Strategy.missingComponent, Shape.fits, List.any_cons, List.any_nil,
      Bool.or_false, Bool.or_eq_true, Bool.and_eq_true, decide_eq_true_eq] at hfits
    exact hfits.imp And.left And.left
  · simp only [Strategy.optionMarker, List.mem_singleton] at hproposal
    rw [hproposal]
    refine .marker ?_
    simp only [Strategy.fits, Strategy.optionMarker, Shape.fits, List.any_cons, List.any_nil,
      Bool.or_false, Bool.and_eq_true, decide_eq_true_eq] at hfits
    exact hfits.1
  · simp only [Strategy.optionLeaf] at hproposal
    split at hproposal
    next typed component use hname hconfigured =>
      obtain ⟨option, hoption, rfl⟩ := List.mem_map.1 hproposal
      obtain ⟨hmem, -⟩ := List.mem_filter.1 (mem_of_mem_capped hoption)
      obtain ⟨group, hgroup, hoption⟩ := List.mem_flatMap.1 hmem
      exact .option hname hconfigured
        (List.mem_flatMap.2 ⟨group, (List.mem_filter.1 hgroup).1, hoption⟩)
    · cases hproposal
  · simp only [Strategy.optionGroup] at hproposal
    split at hproposal
    next typed component use hname hconfigured =>
      obtain ⟨segment, hsegment, rfl⟩ := List.mem_map.1 hproposal
      obtain ⟨group, hgroup, rfl⟩ :=
        List.mem_map.1 (mem_of_mem_distinctBy (mem_of_mem_capped hsegment))
      obtain ⟨hmem, hfilter⟩ := List.mem_filter.1 hgroup
      simp only [Bool.and_eq_true, decide_eq_true_eq] at hfilter
      exact .group hname hconfigured hmem hfilter.1.1.1 hfilter.1.2
    · cases hproposal
  · simp only [Strategy.optionValue] at hproposal
    split at hproposal
    next id afterEquals hreason =>
      split at hproposal
      · cases hproposal
      next option hfound =>
        cases afterEquals with
        | true =>
            obtain ⟨⟨value, explanation⟩, hentry, rfl⟩ := List.mem_map.1 hproposal
            exact .value hreason hfound (mem_of_mem_capped hentry)
        | false =>
            rw [List.mem_singleton.1 hproposal]
            exact .equals hreason hfound
    · cases hproposal

end PipeAssist

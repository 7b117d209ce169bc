import PipeAssist.Proofs.DetailCap
import PipeAssist.Proofs.Repairs

/-!
# Listing and resolving components

A directory answers two questions about a place of a pipeline: which components can stand there, and
which one a name denotes there. The first goes through the categories and keeps the first component
of every name; the second asks the catalog category by category. Both take the first component of
the name in one and the same list, category by category (`Directory.resolveAfter_eq`), so they agree
for every catalog and every order of the categories, with repetitions or without: a component is
listed exactly when its name denotes it. The strategies that propose names take them from the
listing, and therefore a proposed name denotes a component of the category that its explanation
shows (`Directory.listed_iff_resolved`).
-/

set_option autoImplicit false

namespace PipeAssist

/-- The component of a name in a category is the first such component of the catalog. -/
theorem Catalog.find_eq_components (catalog : Catalog) (name : Text) (category : Category) :
    catalog.find? name category = catalog.components.find? fun component =>
      component.name = name && component.category = category := by
  rw [Catalog.find?, Catalog.entry?, Catalog.components, List.find?_map]
  rfl

namespace Directory

variable (catalog : Catalog) (rule : Definition → List Category)

/-- A name denotes the first component of that name in the list that is gone through category by
category. -/
theorem resolveAfter_eq (name : Text) (definition : Definition) :
    (underRule catalog rule).resolveAfter name definition =
      ((rule definition).flatMap fun category => catalog.components.filter fun component =>
        component.category = category).find? fun component => component.name = name := by
  rw [List.find?_flatMap]
  show (rule definition).findSome? (fun category => catalog.find? name category) = _
  congr 1
  funext category
  rw [Catalog.find_eq_components, List.find?_filter]
  congr 1
  funext component
  rw [Bool.decide_and, Bool.decide_eq_true, Bool.decide_eq_true, Bool.and_comm]

theorem mem_componentsAfter_iff (definition : Definition) (component : Component) :
    component ∈ (underRule catalog rule).componentsAfter definition ↔
      (underRule catalog rule).resolveAfter component.name definition = some component := by
  rw [resolveAfter_eq]
  exact mem_distinctBy_iff

end Directory

namespace Strategy

variable {fault : Fault} {directory : Directory} {level : Nat} {proposal : Proposal}

/-- Where a name is being typed, the names of listed components take its place. -/
theorem exists_listed_of_componentName
    (h : proposal ∈ componentName.propose fault directory level) :
    ∃ token, fault.lastToken? = some token ∧
      ∃ component ∈ directory.componentsAfter fault.definition,
        proposal = Proposal.adjoin (Text.takeBytes token.start fault.input) component.name
          (explainComponent component) := by
  simp only [componentName] at h
  split at h
  next fragment token hreason hlast =>
    obtain ⟨component, hcomponent, rfl⟩ := List.mem_map.1 h
    have hlisted := (List.mem_filter.1 (mem_of_mem_capped hcomponent)).1
    exact ⟨token, hlast, component, hlisted, rfl⟩
  · cases h

/-- Where a name is missing, the names of listed components are put behind what is kept. -/
theorem exists_listed_of_missingComponent
    (h : proposal ∈ missingComponent.propose fault directory level) :
    ∃ component ∈ directory.componentsAfter fault.definition,
      proposal = Proposal.separate fault.safePrefix component.name
        (explainComponent component) := by
  obtain ⟨component, hcomponent, rfl⟩ := List.mem_map.1 h
  exact ⟨component, mem_of_mem_capped hcomponent, rfl⟩

end Strategy

namespace Directory

/-- Listing and resolving agree. A component is among those that can follow a definition exactly
when its name denotes it there, and no name is listed twice. So every name that is proposed in the
place of one being typed, or where one is missing, denotes a component behind the definition of the
fault, and the explanation shows the category of that component. -/
theorem listed_iff_resolved (catalog : Catalog) (rule : Definition → List Category) :
    let directory := underRule catalog rule
    (∀ definition component, component ∈ directory.componentsAfter definition ↔
      directory.resolveAfter component.name definition = some component) ∧
    (∀ definition, ((directory.componentsAfter definition).map (·.name)).Nodup) ∧
    (∀ fault level, ∀ proposal ∈ Strategy.componentName.propose fault directory level,
      ∃ token component, fault.lastToken? = some token ∧
        proposal.text = Text.takeBytes token.start fault.input ++ component.name ∧
        proposal.explanation = component.category.name ++ " component" ∧
        directory.resolveAfter component.name fault.definition = some component) ∧
    (∀ fault level, ∀ proposal ∈ Strategy.missingComponent.propose fault directory level,
      ∃ component,
        proposal = Proposal.separate fault.safePrefix component.name
          (component.category.name ++ " component") ∧
        directory.resolveAfter component.name fault.definition = some component) := by
  intro directory
  have hlisted := mem_componentsAfter_iff catalog rule
  refine ⟨hlisted, fun definition => Strategy.nodup_componentsAfter directory definition, ?_, ?_⟩
  · intro fault level proposal hproposal
    obtain ⟨token, hlast, component, hcomponent, rfl⟩ :=
      Strategy.exists_listed_of_componentName hproposal
    exact ⟨token, component, hlast, rfl, rfl, (hlisted _ _).1 hcomponent⟩
  · intro fault level proposal hproposal
    obtain ⟨component, hcomponent, rfl⟩ := Strategy.exists_listed_of_missingComponent hproposal
    exact ⟨component, rfl, (hlisted _ _).1 hcomponent⟩

/-- The built-in `file` is a source and a sink. Where sinks come first, the sink is listed and the
source is not, and the name that is proposed for `fil` denotes the sink. -/
theorem listed_iff_resolved_file :
    let directory := underRule .builtin fun _ => [.sink, .source, .sink]
    Catalog.Builtin.fileSink.component ∈ directory.componentsAfter [] ∧
      Catalog.Builtin.fileSource.component ∉ directory.componentsAfter [] ∧
      ∃ fault, Definition.read "fil".toList = .error fault ∧
        ⟨"file".toList, "sink component"⟩ ∈
          Strategy.componentName.propose fault directory 0 ∧
        ∃ component : Component, "sink component" = component.category.name ++ " component" ∧
          directory.resolveAfter component.name fault.definition = some component := by
  intro directory
  obtain ⟨hlisted, -, hproposed, -⟩ :=
    listed_iff_resolved .builtin fun _ => [.sink, .source, .sink]
  let fault : Fault :=
    ⟨"fil".toList, Token.scan "fil".toList, 0, [], .danglingComponentName "fil".toList⟩
  have hfile : (⟨"file".toList, "sink component"⟩ : Proposal) ∈
      Strategy.componentName.propose fault directory 0 := List.mem_cons_self
  refine ⟨(hlisted [] _).2 rfl, ?_, fault, rfl, hfile, ?_⟩
  · intro hsource
    exact absurd ((hlisted [] _).1 hsource) (by decide)
  · obtain ⟨-, component, -, -, hshown, hresolved⟩ := hproposed fault 0 _ hfile
    exact ⟨component, hshown, hresolved⟩

end Directory

end PipeAssist

import PipeAssist.Proofs.Meanings
import PipeAssist.Proofs.Repairs

/-!
# Pipelines that a catalog allows

A written use is allowed behind other uses when its name denotes a component there, the component
passes something on if a pipe follows, every option is one of the component's and has a value that
the option suggests, and no option is written twice (`Catalog.Allows`). `Catalog.Valid` asks this of
every use of a pipeline at its own place, and grows with a pipeline from its end.
-/

set_option autoImplicit false

namespace PipeAssist

open Grammar

/-! ## Uses and pipelines -/

namespace Catalog

/-- What a catalog demands of a use of `component` that is written behind `before`. -/
structure Allows (catalog : Catalog) (policy : StagePolicy) (withDeprecated : Bool)
    (before : Definition) (onward : Bool) (written : WrittenUse) (component : Component) :
    Prop where
  /-- The name denotes the component at this place. -/
  resolves : (Directory.ofCatalog catalog policy).resolveAfter written.name before = some component
  /-- The component passes something on if a pipe follows. -/
  passesOn : onward = true → component.category.acceptsDownstream = true
  /-- Every option is registered for the component, is not deprecated unless deprecated options are
  wanted, and has a value that it suggests. -/
  registered : ∀ entry ∈ written.meaning.options,
    ∃ option ∈ catalog.optionsOf component.name component.category, option.id = entry.1 ∧
      (option.deprecated = true → withDeprecated = true) ∧
      (entry.2 ∈ option.hints ∨ option.defaultValue = some entry.2)
  /-- No option is written twice. -/
  once : (written.options.map (·.1)).Nodup

/-- Every use is allowed at its place. The flag says whether a pipe follows the last one. -/
def Valid (catalog : Catalog) (policy : StagePolicy) (withDeprecated : Bool)
    (uses : List WrittenUse) (onward : Bool) : Prop :=
  ∀ (i : Nat) (h : i < uses.length), ∃ component,
    catalog.Allows policy withDeprecated ((uses.map WrittenUse.meaning).take i)
      (decide (i + 1 < uses.length) || onward) uses[i] component

section Valid

variable {catalog : Catalog} {policy : StagePolicy} {withDeprecated : Bool}

theorem valid_nil (onward : Bool) : catalog.Valid policy withDeprecated [] onward := by
  intro i h
  cases h

/-- A pipeline is valid when its last use is allowed and those before it, which a pipe follows,
are valid. -/
theorem valid_concat {uses : List WrittenUse} {written : WrittenUse} {onward : Bool} :
    catalog.Valid policy withDeprecated (uses ++ [written]) onward ↔
      catalog.Valid policy withDeprecated uses true ∧ ∃ component,
        catalog.Allows policy withDeprecated (uses.map WrittenUse.meaning) onward written
          component := by
  have hlength : (uses ++ [written]).length = uses.length + 1 := by simp
  -- at the earlier places nothing changes but that a pipe follows the last of them
  have hearlier : ∀ (i : Nat) (h : i < uses.length), (uses ++ [written])[i] = uses[i] ∧
      ((uses ++ [written]).map WrittenUse.meaning).take i =
        (uses.map WrittenUse.meaning).take i := by
    intro i h
    refine ⟨List.getElem_append_left h, ?_⟩
    rw [List.map_append, List.take_append_of_le_length (by simpa using Nat.le_of_lt h)]
  have hlast : ((uses ++ [written]).map WrittenUse.meaning).take uses.length =
      uses.map WrittenUse.meaning := by
    rw [List.map_append]
    exact List.take_left' (by simp)
  constructor
  · intro h
    constructor
    · intro i hi
      obtain ⟨component, hallows⟩ := h i (by omega)
      rw [(hearlier i hi).1, (hearlier i hi).2] at hallows
      refine ⟨component, ?_⟩
      simpa [hlength, show i + 1 < uses.length + 1 by omega] using hallows
    · obtain ⟨component, hallows⟩ := h uses.length (by omega)
      rw [hlast] at hallows
      exact ⟨component, by simpa using hallows⟩
  · rintro ⟨huses, component, hallows⟩ i hi
    by_cases hless : i < uses.length
    · obtain ⟨other, hother⟩ := huses i hless
      refine ⟨other, ?_⟩
      rw [(hearlier i hless).1, (hearlier i hless).2]
      simpa [hlength, show i + 1 < uses.length + 1 by omega] using hother
    · obtain rfl : i = uses.length := by omega
      refine ⟨component, ?_⟩
      rw [hlast]
      simpa using hallows

/-- A component name where a name is due. -/
theorem Valid.name {uses : List WrittenUse} (h : catalog.Valid policy withDeprecated uses true)
    {name : Text} {component : Component}
    (hresolves : (Directory.ofCatalog catalog policy).resolveAfter name
      (uses.map WrittenUse.meaning) = some component) :
    catalog.Valid policy withDeprecated (uses ++ [⟨name, []⟩]) false := by
  refine valid_concat.2 ⟨h, component, hresolves, ?_, ?_, List.nodup_nil⟩
  · intro honward
    cases honward
  · intro entry hentry
    cases hentry

/-- The component of the last use is the one that the directory finds. -/
theorem Valid.last {uses : List WrittenUse} {written : WrittenUse} {onward : Bool}
    (h : catalog.Valid policy withDeprecated (uses ++ [written]) onward) {component : Component}
    (hresolves : (Directory.ofCatalog catalog policy).resolveLast
      ((uses ++ [written]).map WrittenUse.meaning) = some component) :
    catalog.Allows policy withDeprecated (uses.map WrittenUse.meaning) onward written
      component := by
  obtain ⟨-, found, hallows⟩ := valid_concat.1 h
  have hfound := hallows.resolves
  simp only [Directory.resolveLast, List.map_append, List.map_cons, List.map_nil,
    List.getLast?_concat, List.dropLast_concat, WrittenUse.name_meaning] at hresolves
  obtain rfl : found = component := Option.some.inj (hfound.symm.trans hresolves)
  exact hallows

/-- A pipe behind a component that passes something on. -/
theorem Valid.pipe {uses : List WrittenUse} {written : WrittenUse}
    (h : catalog.Valid policy withDeprecated (uses ++ [written]) false) {component : Component}
    (hresolves : (Directory.ofCatalog catalog policy).resolveLast
      ((uses ++ [written]).map WrittenUse.meaning) = some component)
    (haccepts : component.category.acceptsDownstream = true) :
    catalog.Valid policy withDeprecated (uses ++ [written]) true := by
  obtain ⟨hbefore, -⟩ := valid_concat.1 h
  have hallows := h.last hresolves
  exact valid_concat.2 ⟨hbefore, component, { hallows with passesOn := fun _ => haccepts }⟩

/-- An option that is not used yet, with a value that it suggests. -/
theorem Valid.configure {uses : List WrittenUse} {written : WrittenUse}
    (h : catalog.Valid policy withDeprecated (uses ++ [written]) false) {component : Component}
    (hresolves : (Directory.ofCatalog catalog policy).resolveLast
      ((uses ++ [written]).map WrittenUse.meaning) = some component) {option : OptionSpec}
    (hoption : option ∈ catalog.optionsOf component.name component.category)
    (havailable : Directory.isAvailable withDeprecated written.meaning option = true)
    {value : Text} (hvalue : value ∈ option.hints ∨ option.defaultValue = some value) :
    catalog.Valid policy withDeprecated (uses ++ [written.configure option.id value]) false := by
  have hallows := h.last hresolves
  obtain ⟨hbefore, -⟩ := valid_concat.1 h
  simp only [Directory.isAvailable, Bool.and_eq_true, Bool.or_eq_true,
    Bool.not_eq_true'] at havailable
  refine valid_concat.2 ⟨hbefore, component, hallows.resolves, hallows.passesOn, ?_, ?_⟩
  · intro entry hentry
    rw [WrittenUse.meaning_configure] at hentry
    rcases ComponentUse.mem_putOption hentry with rfl | hearlier
    · refine ⟨option, hoption, rfl, fun hdeprecated => ?_, hvalue⟩
      simpa [hdeprecated] using havailable.1
    · exact hallows.registered entry hearlier
  · -- an option that the use does not have was not written either
    have hunused : option.id ∉ written.options.map (·.1) := by
      rw [← WrittenUse.hasOption_meaning, havailable.2]
      decide
    rw [WrittenUse.configure, List.map_append]
    exact hallows.once.append (List.nodup_singleton _) (by simpa using hunused)

end Valid

end Catalog

/-! ## Components that are proposed -/

/-- A component that can follow a definition is found there under its name, or another one is. -/
theorem Directory.exists_resolveAfter {catalog : Catalog} {policy : StagePolicy}
    {definition : Definition} {component : Component}
    (h : component ∈ (ofCatalog catalog policy).componentsAfter definition) :
    ∃ found, (ofCatalog catalog policy).resolveAfter component.name definition = some found := by
  obtain ⟨hcategory, entry, hentry, rfl⟩ := mem_componentsAfter h
  have hfind : (catalog.find? entry.component.name entry.component.category).isSome = true := by
    rw [Catalog.find?, Option.isSome_map, Catalog.entry?, List.find?_isSome]
    exact ⟨entry, hentry, by simp⟩
  apply Option.isSome_iff_exists.1
  rw [resolveAfter, List.findSome?_isSome_iff]
  exact ⟨entry.component.category, hcategory, hfind⟩

end PipeAssist

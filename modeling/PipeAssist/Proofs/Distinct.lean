import Mathlib.Data.List.Nodup
import Mathlib.Data.List.Perm.Subperm
import PipeAssist.Text.Basic

/-!
# First elements of every key

What `distinctBy` keeps of a list and of a joined list, and when a list can be cut before its
repeated keys are dropped. Cutting first is harmless exactly when the cut keeps no key twice or
loses no key (`CutExact`, `distinctBy_take_iff`); lists that are cut one by one and then joined need
no more than that of each (`take_distinctBy_flatMap`).
-/

set_option autoImplicit false

namespace PipeAssist

theorem capped_sublist {α : Type} (level : Nat) (items : List α) :
    (capped level items).Sublist items := by
  unfold capped
  split
  · exact List.Sublist.refl items
  · exact List.take_sublist level items

theorem length_capped_le {α : Type} {level : Nat} (h : 0 < level) (items : List α) :
    (capped level items).length ≤ level := by
  rw [capped, if_neg (Nat.ne_of_gt h)]
  exact List.length_take_le level items

theorem mem_of_mem_capped {α : Type} {level : Nat} {items : List α} {a : α}
    (h : a ∈ capped level items) : a ∈ items :=
  (capped_sublist level items).subset h

section Distinct

variable {α κ : Type} [DecidableEq κ] {key : α → κ}

theorem distinctBy_sublist (items : List α) : (distinctBy key items).Sublist items := by
  induction items with
  | nil => exact List.Sublist.slnil
  | cons a rest ih => exact (List.filter_sublist.trans ih).cons_cons a

theorem length_distinctBy_take (n : Nat) (items : List α) :
    (distinctBy key (items.take n)).length ≤ n :=
  Nat.le_trans (distinctBy_sublist _).length_le (List.length_take_le n items)

theorem mem_of_mem_distinctBy {items : List α} {a : α} (h : a ∈ distinctBy key items) :
    a ∈ items :=
  (distinctBy_sublist items).subset h

theorem mem_map_distinctBy {items : List α} {k : κ} :
    k ∈ (distinctBy key items).map key ↔ k ∈ items.map key := by
  induction items with
  | nil => rfl
  | cons a rest ih =>
      rw [distinctBy, List.map_cons, List.map_cons, List.mem_cons, List.mem_cons, ← ih]
      -- a key other than that of the first element survives the filter
      by_cases hk : k = key a
      · simp [hk]
      · simp only [hk, false_or, List.mem_map, List.mem_filter, decide_eq_true_eq]
        constructor
        · rintro ⟨b, ⟨hb, -⟩, rfl⟩
          exact ⟨b, hb, rfl⟩
        · rintro ⟨b, hb, rfl⟩
          exact ⟨b, ⟨hb, hk⟩, rfl⟩

/-- No element is lost when elements are their own keys. -/
theorem mem_distinctBy_self {items : List κ} {k : κ} :
    k ∈ distinctBy (fun k => k) items ↔ k ∈ items := by
  have hkeys := @mem_map_distinctBy _ _ _ (fun k : κ => k) items k
  rwa [List.map_id', List.map_id'] at hkeys

theorem nodup_distinctBy (items : List α) : ((distinctBy key items).map key).Nodup := by
  induction items with
  | nil => exact List.nodup_nil
  | cons a rest ih =>
      rw [distinctBy, List.map_cons, List.nodup_cons]
      constructor
      · simp
      · exact ih.sublist (List.filter_sublist.map key)

/-- An element is kept exactly when it is the first one with its key. -/
theorem mem_distinctBy_iff {items : List α} {a : α} :
    a ∈ distinctBy key items ↔ items.find? (fun b => key b = key a) = some a := by
  induction items with
  | nil => simp [distinctBy]
  | cons b rest ih =>
      rw [distinctBy, List.mem_cons, List.mem_filter, decide_eq_true_eq, List.find?_cons]
      by_cases hkey : key b = key a
      · simp [hkey, eq_comm]
      · -- another key comes first, so both sides are about the rest
        have hne : a ≠ b := by
          rintro rfl
          exact hkey rfl
        simp only [hne, false_or, hkey, decide_false, ← ih]
        exact and_iff_left (Ne.symm hkey)

/-- Nothing is dropped where no key is there twice. -/
theorem distinctBy_of_nodup {items : List α} (h : (items.map key).Nodup) :
    distinctBy key items = items := by
  induction items with
  | nil => rfl
  | cons a rest ih =>
      rw [List.map_cons, List.nodup_cons] at h
      rw [distinctBy, ih h.2, List.filter_eq_self.2]
      intro b hb
      rw [decide_eq_true_eq]
      intro hkey
      exact h.1 (hkey ▸ List.mem_map_of_mem hb)

theorem distinctBy_append (a b : List α) :
    distinctBy key (a ++ b) =
      distinctBy key a ++ (distinctBy key b).filter fun x => key x ∉ a.map key := by
  induction a with
  | nil => simp [distinctBy]
  | cons x rest ih =>
      rw [List.cons_append, distinctBy, distinctBy, ih, List.filter_append, List.filter_filter,
        List.cons_append]
      congr 3
      funext y
      simp [not_or]

/-- Elements whose keys have come before are dropped. -/
theorem distinctBy_append_of_subset {a c : List α} (h : c.map key ⊆ a.map key) (b : List α) :
    distinctBy key (a ++ (c ++ b)) = distinctBy key (a ++ b) := by
  have hnone : (distinctBy key c).filter (fun x => key x ∉ a.map key) = [] := by
    rw [List.filter_eq_nil_iff]
    intro x hx
    simpa using List.mem_map.1 (h (List.mem_map_of_mem (mem_of_mem_distinctBy hx)))
  rw [← List.append_assoc, distinctBy_append (a ++ c), distinctBy_append a c, hnone,
    distinctBy_append a b, List.append_nil]
  congr 2
  funext x
  simp only [List.map_append, List.mem_append, not_or, decide_eq_decide]
  exact ⟨And.left, fun hx => ⟨hx, fun hc => hx (h hc)⟩⟩

/-! ## Cuts -/

/-- Whether a list of keys can be cut behind its first `n`: none of them is there twice, or no other
key comes later. -/
def CutExact (n : Nat) (keys : List κ) : Prop := (keys.take n).Nodup ∨ keys ⊆ keys.take n

omit [DecidableEq κ] in
theorem CutExact.of_nodup {keys : List κ} (h : keys.Nodup) (n : Nat) : CutExact n keys :=
  Or.inl (h.sublist (List.take_sublist n keys))

omit [DecidableEq κ] in
theorem cutExact_map {β : Type} {f : κ → β} (hf : Function.Injective f) {n : Nat} {keys : List κ} :
    CutExact n (keys.map f) ↔ CutExact n keys := by
  unfold CutExact
  rw [← List.map_take, List.nodup_map_iff hf, List.map_subset_iff f hf]

/-- A list in the middle may be cut before the repeated keys of the whole are dropped. -/
theorem take_distinctBy_cut {n : Nat} {items : List α} (h : CutExact n (items.map key))
    (before after : List α) :
    (distinctBy key (before ++ (items.take n ++ after))).take n =
      (distinctBy key (before ++ (items ++ after))).take n := by
  have hitems : items ++ after = items.take n ++ (items.drop n ++ after) := by
    rw [← List.append_assoc, List.take_append_drop]
  rw [hitems]
  rcases h with hnodup | hsubset
  · by_cases hlength : items.length ≤ n
    · rw [List.drop_eq_nil_iff.2 hlength, List.nil_append]
    · -- the first `n` elements of the list fill the first `n` places by themselves
      have hfull : n ≤ (distinctBy key (before ++ items.take n)).length := by
        have hkeys : (items.take n).map key ⊆
            (distinctBy key (before ++ items.take n)).map key := by
          intro k hk
          rw [mem_map_distinctBy, List.map_append]
          exact List.mem_append_right _ hk
        rw [← List.map_take] at hnodup
        have hle := (List.subperm_of_subset hnodup hkeys).length_le
        simp only [List.length_map, List.length_take] at hle
        omega
      rw [← List.append_assoc, ← List.append_assoc, distinctBy_append, distinctBy_append _ (_ ++ _),
        List.take_append_of_le_length hfull, List.take_append_of_le_length hfull]
  · have hdrop : (items.drop n).map key ⊆ (before ++ items.take n).map key := by
      intro k hk
      rw [List.map_append, List.map_take]
      exact List.mem_append_right _
        (hsubset (((List.drop_sublist n items).map key).subset hk))
    rw [← List.append_assoc before, ← List.append_assoc before,
      distinctBy_append_of_subset hdrop]

/-- Lists that are cut one by one and then joined. -/
theorem take_distinctBy_flatMap {ι : Type} {n : Nat} (items : ι → List α) (indices : List ι)
    (h : ∀ i ∈ indices, CutExact n ((items i).map key)) :
    (distinctBy key (indices.flatMap fun i => (items i).take n)).take n =
      (distinctBy key (indices.flatMap items)).take n := by
  -- what came before takes part in dropping keys, so the induction is over every such list
  suffices hbefore : ∀ before : List α,
      (distinctBy key (before ++ indices.flatMap fun i => (items i).take n)).take n =
        (distinctBy key (before ++ indices.flatMap items)).take n from hbefore []
  induction indices with
  | nil => exact fun _ => rfl
  | cons i rest ih =>
      intro before
      have hrest := ih (fun j hj => h j (List.mem_cons_of_mem _ hj)) (before ++ (items i).take n)
      rw [List.append_assoc, List.append_assoc] at hrest
      rw [List.flatMap_cons, List.flatMap_cons, hrest]
      exact take_distinctBy_cut (h i List.mem_cons_self) before _

/-- A list may be cut before its repeated keys are dropped exactly when its keys allow it. -/
theorem distinctBy_take_iff {n : Nat} {items : List α} :
    distinctBy key (items.take n) = (distinctBy key items).take n ↔ CutExact n (items.map key) := by
  constructor
  · intro heq
    by_cases hnodup : ((items.take n).map key).Nodup
    · rw [List.map_take] at hnodup
      exact Or.inl hnodup
    · -- a repeated key leaves a place free that a key behind the cut would have taken
      have hless : (distinctBy key (items.take n)).length < n := by
        rcases Nat.lt_or_ge (distinctBy key (items.take n)).length n with hlt | hge
        · exact hlt
        · exfalso
          apply hnodup
          have hsame : distinctBy key (items.take n) = items.take n :=
            (distinctBy_sublist _).eq_of_length_le
              (Nat.le_trans (List.length_take_le n items) hge)
          rw [← hsame]
          exact nodup_distinctBy _
      have hall : (distinctBy key items).take n = distinctBy key items := by
        rw [heq, List.length_take] at hless
        exact List.take_of_length_le (by omega)
      refine Or.inr fun k hk => ?_
      rw [← List.map_take, ← mem_map_distinctBy, heq, hall]
      exact mem_map_distinctBy.2 hk
  · intro h
    have hcut := take_distinctBy_cut h [] []
    simp only [List.nil_append, List.append_nil] at hcut
    rwa [List.take_of_length_le (length_distinctBy_take n items)] at hcut

/-- What the first list adds can be told from the whole when a property tells both lists apart. -/
theorem filter_take_distinctBy {p : α → Bool} {items after : List α}
    (hitems : ∀ a ∈ items, p a = true) (hafter : ∀ a ∈ after, p a = false) (n : Nat) :
    ((distinctBy key (items ++ after)).take n).filter p = (distinctBy key items).take n := by
  rw [distinctBy_append, List.take_append, List.filter_append]
  have hfirst : ((distinctBy key items).take n).filter p = (distinctBy key items).take n := by
    rw [List.filter_eq_self]
    intro a ha
    exact hitems a (mem_of_mem_distinctBy (List.mem_of_mem_take ha))
  have hsecond : (((distinctBy key after).filter fun x => key x ∉ items.map key).take
      (n - (distinctBy key items).length)).filter p = [] := by
    rw [List.filter_eq_nil_iff]
    intro a ha
    rw [hafter a (mem_of_mem_distinctBy (List.mem_filter.1 (List.mem_of_mem_take ha)).1)]
    simp
  rw [hfirst, hsecond, List.append_nil]

/-- The first of two lists that a property tells apart may be cut if the whole may be. -/
theorem cutExact_of_take_append {p : α → Bool} {n : Nat} {items after : List α}
    (hitems : ∀ a ∈ items, p a = true) (hafter : ∀ a ∈ after, p a = false)
    (h : (distinctBy key (items.take n ++ after.take n)).take n =
      (distinctBy key (items ++ after)).take n) :
    CutExact n (items.map key) := by
  have hfilter := congrArg (List.filter p) h
  rw [filter_take_distinctBy (fun a ha => hitems a (List.mem_of_mem_take ha))
      (fun a ha => hafter a (List.mem_of_mem_take ha)),
    filter_take_distinctBy hitems hafter,
    List.take_of_length_le (length_distinctBy_take n items)] at hfilter
  exact distinctBy_take_iff.1 hfilter

end Distinct

end PipeAssist

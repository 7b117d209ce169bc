import PipeAssist.Completion.Registry
import PipeAssist.Proofs.Endings

/-!
# Shapes that a registry rejects

A registry rejects a shape whose fingerprint holds the end of input or ends with another token kind
than the one that its fault kind fixes (`Shape.Barred`). Both are known beforehand to fit no fault:
the tail of a fault holds significant tokens only (`Fault.endOfInput_not_mem_tail`), and where the
fault kind fixes the last token, the phase in which the text ended has just read such a token
(`Fault.lastToken_kind`). So no shape is rejected that could fit (`Shape.barred_never_fits`).
-/

set_option autoImplicit false

namespace PipeAssist

/-! ## The tail of a fault -/

namespace Fault

/-- The end of input is not among the tokens that fingerprints are compared with. -/
theorem endOfInput_not_mem_tail (fault : Fault) : Token.Kind.endOfInput ∉ fault.tail := by
  intro hmem
  rw [tail, List.mem_reverse, List.mem_map] at hmem
  obtain ⟨token, htoken, hkind⟩ := hmem
  have hsignificant := (List.mem_filter.1 htoken).2
  simp [Token.isSignificant, hkind] at hsignificant

/-- A fingerprint that fits holds kinds of the tail only. -/
theorem mem_tail_of_endsWith {fault : Fault} {kinds : List Token.Kind} {kind : Token.Kind}
    (h : fault.endsWith kinds = true) (hkind : kind ∈ kinds) : kind ∈ fault.tail := by
  have hfront : kinds.reverse <+: fault.tail := List.isPrefixOf_iff_prefix.1 h
  exact hfront.subset (List.mem_reverse.2 hkind)

/-- A fingerprint that fits ends with the kind of the last token. -/
theorem kind_of_endsWith {fault : Fault} {kinds : List Token.Kind} {last : Token.Kind}
    {token : Token} (h : fault.endsWith kinds = true) (hlast : kinds.getLast? = some last)
    (htoken : fault.lastToken? = some token) : token.kind = last := by
  have hfront : kinds.reverse <+: fault.tail := List.isPrefixOf_iff_prefix.1 h
  have hhead : fault.tail.head? = some last := by
    obtain ⟨front, rfl⟩ := List.getLast?_eq_some_iff.1 hlast
    obtain ⟨rest, hrest⟩ := hfront
    rw [← hrest]
    simp
  -- the tail is read from the last token on
  obtain ⟨front, hfilter⟩ := List.getLast?_eq_some_iff.1 htoken
  simpa [tail, hfilter] using hhead

end Fault

/-! ## Rejected shapes -/

namespace Shape

/-- Shapes with the end of input in their fingerprint, or with a fingerprint that ends with another
kind than the fault kind fixes. -/
def Barred (shape : Shape) : Prop :=
  .endOfInput ∈ shape.fingerprint ∨
    ∃ expected last, shape.fault.lastToken? = some expected ∧
      shape.fingerprint.getLast? = some last ∧ last ≠ expected

/-- These are the shapes that are rejected. -/
theorem problem_ne_none_iff (strategy : String) (shape : Shape) :
    shape.problem? strategy ≠ none ↔ shape.Barred := by
  unfold problem? Barred
  by_cases hend : .endOfInput ∈ shape.fingerprint
  · simp [hend]
  · rw [if_neg hend]
    cases hfixed : shape.fault.lastToken? with
    | none => simp [hend]
    | some expected =>
        cases hlast : shape.fingerprint.getLast? with
        | none => simp [hend]
        | some last => by_cases heq : last = expected <;> simp [hend, heq]

/-- A barred shape does not fit a fault whose last token is as its kind says. -/
theorem Barred.fits_eq_false {shape : Shape} {fault : Fault} (h : shape.Barred)
    (hlast : ∀ kind, fault.kind.lastToken? = some kind →
      ∃ token, fault.lastToken? = some token ∧ token.kind = kind) : shape.fits fault = false := by
  rw [Bool.eq_false_iff]
  intro hfits
  rw [fits, Bool.and_eq_true, decide_eq_true_eq] at hfits
  obtain ⟨hkind, hends⟩ := hfits
  rcases h with hend | ⟨expected, last, hfixed, hprint, hne⟩
  · exact fault.endOfInput_not_mem_tail (Fault.mem_tail_of_endsWith hends hend)
  · rw [← hkind] at hfixed
    obtain ⟨token, htoken, hexpected⟩ := hlast expected hfixed
    exact hne ((Fault.kind_of_endsWith hends hprint htoken).symm.trans hexpected)

/-- A shape that a registry rejects fits no fault of a text, and where the kind of a fault fixes the
last token, the last token is of that kind. -/
theorem barred_never_fits (strategy : String) (shape : Shape) (text : Text) (fault : Fault)
    (h : Definition.read text = .error fault ∨ Definition.readFinished text = .error fault) :
    (shape.problem? strategy ≠ none ↔ shape.Barred) ∧
      (shape.problem? strategy ≠ none → shape.fits fault = false) ∧
      ∀ kind, fault.kind.lastToken? = some kind →
        ∃ token, fault.lastToken? = some token ∧ token.kind = kind := by
  have hlast : ∀ kind, fault.kind.lastToken? = some kind →
      ∃ token, fault.lastToken? = some token ∧ token.kind = kind := by
    intro kind hkind
    rcases h with hopen | hfinished
    · exact Fault.lastToken_kind hopen hkind
    · exact Fault.lastToken_kind hfinished hkind
  refine ⟨problem_ne_none_iff strategy shape, ?_, hlast⟩
  intro hproblem
  exact ((problem_ne_none_iff strategy shape).1 hproblem).fits_eq_false hlast

/-- A dash at the end of a text that is read as finished, behind an option. -/
theorem barred_never_fits_dash :
    ∃ fault, Definition.readFinished "a --k=v -".toList = .error fault ∧
      fault.kind = .unfinishedOptionMarker ∧
      fits ⟨.unfinishedOptionMarker, [.identifier, .optionMarker]⟩ fault = false ∧
      fits ⟨.unfinishedOptionMarker, [.identifier, .unknown]⟩ fault = true := by
  refine ⟨_, rfl, rfl, ?_, rfl⟩
  exact (barred_never_fits "markers" ⟨.unfinishedOptionMarker, [.identifier, .optionMarker]⟩
    "a --k=v -".toList _ (Or.inr rfl)).2.1 (by decide)

end Shape

end PipeAssist

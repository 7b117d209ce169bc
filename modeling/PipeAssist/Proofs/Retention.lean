import PipeAssist.Proofs.Progress
import PipeAssist.Proofs.SuggestedValues

/-!
# What accepting a proposal keeps

A proposal after a fault never takes back what the text has committed. The text that is proposed
reads with the same definition, or with the name that was being typed as one more use, or with one
entry more at the last use (`Fault.Keeps`). Which of them it is follows from how the proposal is read
(`Resumed.keeps`), so it holds of every proposal at every level (`proposals_keep`). The options of a
use hold one value for each key, so an entry more is safe only because the key was not there.
-/

set_option autoImplicit false

namespace PipeAssist

/-- The definitions in which everything that a fault has committed is still there, and nothing else
but what the fault was about. -/
inductive Fault.Keeps (fault : Fault) : Definition → Prop where
  /-- Nothing more is committed. -/
  | same : Keeps fault fault.definition
  /-- The name that was being typed is a use without options. -/
  | named {fragment : Text} (reason : fault.reason = .danglingComponentName fragment) :
      Keeps fault (fault.definition ++ [⟨fragment, []⟩])
  /-- The option that lacked a value has one. -/
  | supplied {key value : Text} {grown : Definition}
      (reason : fault.reason = .missingOptionValue key true)
      (gains : fault.definition.Gains key value grown) : Keeps fault grown

/-- However a proposal is read, what was committed is kept. -/
theorem Resumed.keeps {directory : Directory} {withDeprecated : Bool} {text proposed : Text}
    {fault : Fault} (h : Definition.read text = .error fault)
    (hresumed : Resumed directory withDeprecated text fault proposed) :
    fault.Keeps (Definition.committed (Definition.read proposed)) := by
  cases hresumed with
  | pending read _ _ _ =>
      rw [read]
      exact .same
  | onward typing reason _ _ =>
      -- the pipe is behind the name, so the name can no longer grow
      obtain ⟨state, hfeed, hsettle⟩ := typing.feed_text
      rw [Definition.read_pipe typing.isSealed hfeed hsettle rfl]
      exact .named reason
  | configure typing reason _ =>
      obtain ⟨state, hfeed, hsettle⟩ := typing.feed_text
      rw [Definition.read_marked typing.isSealed hfeed hsettle rfl]
      exact .named reason
  | supplied lacks written found _ reason =>
      obtain ⟨use, hlast, hunused⟩ := Strategy.exists_lastUse found
      rw [Fault.read_value h lacks written]
      exact .supplied reason (Fault.gains_withOption h lacks hlast hunused _)

namespace Engine

/-- Accepting a proposal loses and changes nothing of what the text has committed. -/
theorem proposals_keep (catalog : Catalog) (hcatalog : catalog.WellFormed)
    (rule : Definition → List Category) (withDeprecated : Bool) (text : Text) (fault : Fault)
    (h : Definition.read text = .error fault) (level : Nat) (proposal : Proposal)
    (hproposal : proposal ∈
      (standard (Directory.underRule catalog rule) withDeprecated).complete text level) :
    fault.Keeps (Definition.committed (Definition.read proposal.text)) := by
  have hrepair := recover_repair (mem_recover h hproposal)
  exact (hrepair.resumed hcatalog h).keeps h

/-- A fault in the middle of a text whose tail is dropped, and a name behind which a marker comes. -/
theorem proposals_keep_midway :
    (∃ fault, Definition.read "http --port=1 --format.type= | log --level=".toList = .error fault ∧
      fault.reason = .missingOptionValue "format.type".toList true ∧
      fault.Keeps (Definition.committed
        (Definition.read "http --port=1 --format.type=json".toList))) ∧
    ∃ fault, Definition.read "http --port=1 | log".toList = .error fault ∧
      fault.reason = .danglingComponentName "log".toList ∧
      fault.Keeps (Definition.committed (Definition.read "http --port=1 | log --".toList)) := by
  constructor
  · refine ⟨_, rfl, rfl, ?_⟩
    exact proposals_keep .builtin Catalog.builtin_wellFormed StagePolicy.byPosition.categoriesAfter
      false "http --port=1 --format.type= | log --level=".toList _ rfl 2
      ⟨"http --port=1 --format.type=json".toList, "Suggested value"⟩ (by decide)
  · refine ⟨_, rfl, rfl, ?_⟩
    exact proposals_keep .builtin Catalog.builtin_wellFormed (fun _ => [.sink]) false
      "http --port=1 | log".toList _ rfl 0
      ⟨"http --port=1 | log --".toList, "Configure 'log' (3 options available)"⟩ (by decide)

end Engine

end PipeAssist

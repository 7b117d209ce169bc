import PipeAssist.Proofs.Progress
import PipeAssist.Proofs.TrailingBlanks

/-!
# Continuations are read on

Behind a complete text that does not end in an open literal a pipe or two dashes are proposed. The
blank in front of them ends the last token, so the new text has the tokens of the old one and one
more. Reading it commits what was complete and stops because a component name or an option name is
missing (`continuations_stop`). That is so whether the text is finished or not, since only names
that touch the end of a text may grow (`Definition.stopsWith_of_read`).
-/

set_option autoImplicit false

namespace PipeAssist

open Reading

namespace Definition

/-- Texts that are read with one fault, finished or not. -/
def StopsWith (text : Text) (fault : Fault) : Prop :=
  read text = .error fault ∧ readFinished text = .error fault

/-- Declaring a text finished changes only the faults of names that may still grow. -/
theorem stopsWith_of_read {text : Text} {fault : Fault} (h : read text = .error fault)
    (hname : ∀ fragment, fault.reason ≠ .danglingComponentName fragment)
    (hkey : ∀ fragment, fault.reason ≠ .unfinishedOptionName fragment) : StopsWith text fault := by
  refine ⟨h, ?_⟩
  obtain ⟨ending, hholds, -⟩ := Ending.exists_holds text
  cases ending with
  | complete =>
      obtain ⟨definition, hopen, -⟩ := hholds
      rw [h] at hopen
      cases hopen
  | componentName =>
      obtain ⟨other, name, hopen, hreason, -⟩ := hholds
      rw [h] at hopen
      cases hopen
      exact absurd hreason (hname name)
  | optionName =>
      obtain ⟨other, key, hopen, hreason, -⟩ := hholds
      rw [h] at hopen
      cases hopen
      exact absurd hreason (hkey key)
  | fault =>
      obtain ⟨other, hopen, hfinished⟩ := hholds
      rw [h] at hopen
      cases hopen
      exact hfinished

end Definition

namespace Engine

/-- What is proposed behind a complete text is one of its continuations. -/
theorem mem_continuations_of_mem_complete {engine : Engine} {text : Text} {definition : Definition}
    {level : Nat} {proposal : Proposal} (h : Definition.read text = .ok definition)
    (hclosed : Token.EndsClosed text) (hproposal : proposal ∈ engine.complete text level) :
    ∃ suffix ∈ [['|'], Strategy.marked []], ∃ explanation,
      proposal = Proposal.separate (Text.trimEnd text) suffix explanation := by
  have hforward := mem_forward h hproposal
  simp only [forward, closeLiteral_eq_none hclosed] at hforward
  split at hforward
  · rcases mem_continuations hforward with ⟨-, explanation, rfl⟩ | ⟨explanation, rfl⟩
    · exact ⟨['|'], by simp, explanation, rfl⟩
    · exact ⟨Strategy.marked [], by simp, explanation, rfl⟩
  · cases hforward

/-- Every proposal behind a complete text adds a pipe or two dashes to its trimmed form. With the
pipe all tokens and the pipe are committed and a component name is missing, with the dashes all
tokens are committed and an option name is missing. -/
theorem continuations_stop (engine : Engine) (text : Text) (definition : Definition)
    (h : Definition.read text = .ok definition) (hclosed : Token.EndsClosed text) (level : Nat)
    (proposal : Proposal) (hproposal : proposal ∈ engine.complete text level) :
    (proposal.text = Text.trimEnd text ++ " |".toList ∧
      Definition.StopsWith proposal.text ⟨proposal.text, Token.scan proposal.text,
        ((Token.scan text).filter Token.isSignificant).length + 1, definition, .trailingPipe⟩) ∨
    (proposal.text = Text.trimEnd text ++ " --".toList ∧
      Definition.StopsWith proposal.text ⟨proposal.text, Token.scan proposal.text,
        ((Token.scan text).filter Token.isSignificant).length, definition,
        .trailingOptionMarker⟩) := by
  obtain ⟨hsealed, hne, htokens, state, settled, hfeed, hsettle, hphase, rfl⟩ :=
    Definition.exists_settled_trimEnd h hclosed
  -- everything that was read is committed when it settles
  have htraced := traced_feed (fun _ htoken => Token.inText_kind_ne htoken) hfeed
  obtain ⟨hconsumed, hcheckpoint⟩ := htraced.settle_eq hsettle
  rw [Token.filter_isSignificant_scan, ← htokens]
  obtain ⟨suffix, hsuffix, explanation, rfl⟩ :=
    mem_continuations_of_mem_complete h hclosed hproposal
  simp only [List.mem_cons, List.not_mem_nil, or_false] at hsuffix
  rcases hsuffix with rfl | rfl
  · left
    have hread := Definition.read_pipe hsealed hfeed hsettle hphase explanation
    rw [hconsumed] at hread
    exact ⟨hsealed.separate_text hne _ _,
      Definition.stopsWith_of_read hread (by simp) (by simp)⟩
  · right
    have hread := Definition.read_marked hsealed hfeed hsettle hphase explanation
    rw [hcheckpoint] at hread
    exact ⟨hsealed.separate_text hne _ _,
      Definition.stopsWith_of_read hread (by simp) (by simp)⟩

/-- A pipe behind a quoted value that ends in an escaped quote and a blank, and behind a tab. -/
theorem continuations_stop_quoted :
    Definition.read "http --path-pattern='\\' '\t".toList =
        .ok [⟨"http".toList, [("path-pattern".toList, "' ".toList)]⟩] ∧
      ∃ proposal ∈ (standard (Directory.ofCatalog .builtin .byPosition) false).complete
          "http --path-pattern='\\' '\t".toList 1,
        proposal.text = "http --path-pattern='\\' ' |".toList ∧
          Definition.StopsWith proposal.text ⟨proposal.text, Token.scan proposal.text, 6,
            [⟨"http".toList, [("path-pattern".toList, "' ".toList)]⟩], .trailingPipe⟩ := by
  have hread : Definition.read "http --path-pattern='\\' '\t".toList =
      .ok [⟨"http".toList, [("path-pattern".toList, "' ".toList)]⟩] := by
    decide
  have hproposal : ⟨"http --path-pattern='\\' ' |".toList,
      "Send the output of 'http' to another component"⟩ ∈
      (standard (Directory.ofCatalog .builtin .byPosition) false).complete
        "http --path-pattern='\\' '\t".toList 1 := by
    decide
  have hclosed : Token.EndsClosed "http --path-pattern='\\' '\t".toList := by
    rintro token ⟨⟩
    rfl
  have hcount : ((Token.scan "http --path-pattern='\\' '\t".toList).filter
      Token.isSignificant).length = 5 := by
    decide
  refine ⟨hread, _, hproposal, ?_⟩
  rcases continuations_stop _ _ _ hread hclosed 1 _ hproposal with ⟨-, hpipe⟩ | ⟨htext, -⟩
  · rw [hcount] at hpipe
    exact ⟨rfl, hpipe⟩
  · exact absurd htext (by decide)

end Engine

end PipeAssist

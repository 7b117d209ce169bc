import PipeAssist.Proofs.Descent

/-!
# Reading arbitrary tokens

Tokens need not come from a text: their kinds, values and places can be anything, and ends of input
can stand anywhere. An end is added if the last token is none (`exists_terminated`), and reading
gets its outcome at the first one (`run_behind_end`). The main statement says that reading is total
and local on all such lists, also by descent (`ofTokens_total`).
-/

set_option autoImplicit false

namespace PipeAssist

open Reading

/-! ## The first end of input -/

namespace Token

/-- The tokens up to and including the first end of input, or all of them if there is none. -/
def upToEnd : List Token → List Token
  | [] => []
  | token :: rest => if token.kind = .endOfInput then [token] else token :: upToEnd rest

theorem upToEnd_append {front : List Token} (hfront : ∀ token ∈ front, token.kind ≠ .endOfInput)
    (rest : List Token) : upToEnd (front ++ rest) = front ++ upToEnd rest := by
  induction front with
  | nil => rfl
  | cons token tail ih =>
      rw [List.cons_append, upToEnd, if_neg (hfront token List.mem_cons_self),
        ih fun t ht => hfront t (List.mem_cons_of_mem _ ht)]
      rfl

theorem exists_firstEnd {tokens : List Token} (h : ∃ token ∈ tokens, token.kind = .endOfInput) :
    ∃ front final rest, tokens = front ++ final :: rest ∧
      (∀ token ∈ front, token.kind ≠ .endOfInput) ∧ final.kind = .endOfInput := by
  cases hfind : tokens.find? fun token => decide (token.kind = .endOfInput) with
  | none =>
      obtain ⟨token, hmem, hkind⟩ := h
      have hnot := List.find?_eq_none.1 hfind token hmem
      exact absurd hkind (by simpa using hnot)
  | some final =>
      obtain ⟨hfinal, front, rest, htokens, hfront⟩ := List.find?_eq_some_iff_append.1 hfind
      exact ⟨front, final, rest, htokens, by simpa using hfront, by simpa using hfinal⟩

theorem terminated_concat {final : Token} (hfinal : final.kind = .endOfInput) (front : List Token) :
    terminated (front ++ [final]) = front ++ [final] := by
  simp [terminated, hfinal]

/-- What is added at the end comes behind all the tokens, and then there is an end of input. -/
theorem exists_terminated (tokens : List Token) :
    ∃ more final, terminated tokens = tokens ++ more ∧
      (terminated tokens).getLast? = some final ∧ final.kind = .endOfInput := by
  unfold terminated
  cases hlast : tokens.getLast? with
  | none =>
      have hnil : tokens = [] := List.getLast?_eq_none_iff.1 hlast
      exact ⟨[finish 0], finish 0, by rw [hnil]; rfl, rfl, rfl⟩
  | some last =>
      by_cases hkind : last.kind = .endOfInput
      · exact ⟨[], last, by simp [hkind], by simp [hkind, hlast], hkind⟩
      · exact ⟨[finish last.stop], finish last.stop, by simp [hkind], by simp [hkind], rfl⟩

end Token

/-- Nothing is read behind an end of input. -/
theorem Reading.run_behind_end {final : Token} (hfinal : final.kind = .endOfInput)
    (finished : Bool) (state : Reading) (front rest : List Token) :
    state.run finished (front ++ final :: rest) = state.run finished (front ++ [final]) := by
  induction front generalizing state with
  | nil =>
      rw [List.nil_append, List.nil_append, run, run, step_endOfInput hfinal]
  | cons token tail ih =>
      rw [List.cons_append, List.cons_append, run, run]
      cases state.step finished token with
      | inl next => exact ih next
      | inr outcome => rfl

namespace Definition

/-- The outcome that a result tells of: the definition, or the place and reason of a fault. -/
def outcomeOf : Except Fault Definition → Outcome
  | .ok definition => .complete definition
  | .error fault => .stopped fault.checkpoint fault.definition fault.reason

theorem outcomeOf_ofTokens (finished : Bool) (input : Text) (tokens : List Token) :
    outcomeOf (ofTokens finished input tokens) =
      initial.run finished (Token.terminated tokens) := by
  simp only [ofTokens]
  cases initial.run finished (Token.terminated tokens) with
  | complete definition => rfl
  | stopped checkpoint definition reason => rfl

/-- What comes behind the first end of input does not matter. -/
theorem run_upToEnd (finished : Bool) (tokens : List Token) :
    initial.run finished (Token.terminated (Token.upToEnd tokens)) =
      initial.run finished (Token.terminated tokens) := by
  by_cases hsome : ∃ token ∈ tokens, token.kind = .endOfInput
  · obtain ⟨front, final, rest, rfl, hfront, hfinal⟩ := Token.exists_firstEnd hsome
    obtain ⟨more, -, hmore, -⟩ := Token.exists_terminated (front ++ final :: rest)
    -- an end that is added comes behind the first one as well
    have hcut : Token.upToEnd (front ++ final :: rest) = front ++ [final] := by
      rw [Token.upToEnd_append hfront, Token.upToEnd, if_pos hfinal]
    rw [hcut, Token.terminated_concat hfinal, hmore, List.append_assoc, List.cons_append]
    exact (run_behind_end hfinal finished initial front (rest ++ more)).symm
  · have hnone : ∀ token ∈ tokens, token.kind ≠ .endOfInput := by
      intro token hmem hkind
      exact hsome ⟨token, hmem, hkind⟩
    have hall := Token.upToEnd_append hnone []
    rw [List.append_nil] at hall
    rw [hall, Token.upToEnd, List.append_nil]

/-- The checkpoint of a fault lies within the tokens, in front of the first end of input. -/
theorem checkpoint_lt {finished : Bool} {tokens : List Token} {checkpoint : Nat}
    {definition : Definition} {reason : Fault.Reason}
    (h : initial.run finished (Token.terminated tokens) = .stopped checkpoint definition reason) :
    checkpoint < (Token.terminated tokens).length := by
  obtain ⟨-, final, -, hlast, hfinal⟩ := Token.exists_terminated tokens
  obtain ⟨front, first, rest, hsplit, hfront, hfirst⟩ :=
    Token.exists_firstEnd ⟨final, List.mem_of_getLast? hlast, hfinal⟩
  rw [hsplit, run_behind_end hfirst] at h
  obtain ⟨-, ⟨hle, -⟩, -⟩ := run_stopped traced_initial hfront hfirst h
  rw [hsplit, List.length_append, List.length_cons]
  rw [List.nil_append] at hle
  omega

/-- Reading is total and local on every list of tokens. Descent through the tokens comes to an end,
its loops taking no more turns than there are tokens, without looking outside of them, and has the
same outcome; the checkpoint of a fault is less than the number of tokens; and the outcome stays
when everything behind the first end of input is left out. -/
theorem ofTokens_total (finished : Bool) (input : Text) (tokens : List Token) :
    (∀ turns ≥ (Token.terminated tokens).length,
        Descent.outcome? finished (Token.terminated tokens) turns =
          some (outcomeOf (ofTokens finished input tokens))) ∧
      (∀ fault, ofTokens finished input tokens = .error fault →
        fault.tokens = Token.terminated tokens ∧ fault.checkpoint < fault.tokens.length) ∧
      outcomeOf (ofTokens finished input (Token.upToEnd tokens)) =
        outcomeOf (ofTokens finished input tokens) := by
  rw [outcomeOf_ofTokens, outcomeOf_ofTokens]
  obtain ⟨more, final, -, hlast, hfinal⟩ := Token.exists_terminated tokens
  refine ⟨?_, ?_, run_upToEnd finished tokens⟩
  · intro turns hturns
    have hne : Token.terminated tokens ≠ [] := by
      intro hnil
      rw [hnil] at hlast
      cases hlast
    refine Descent.outcome_eq_run finished hne ?_ hturns
    rw [hlast]
    rintro token ⟨⟩
    exact hfinal
  · intro fault h
    have htokens : fault.tokens = Token.terminated tokens := by
      simp only [ofTokens] at h
      split at h
      · cases h
      · cases h
        rfl
    have houtcome := outcomeOf_ofTokens finished input tokens
    rw [h] at houtcome
    rw [htokens]
    exact ⟨rfl, checkpoint_lt houtcome.symm⟩

/-- A marker in front of an end of input that is not the last token, at places that overlap. -/
theorem ofTokens_total_overlapping :
    let tokens : List Token := [⟨⟨.identifier, ['a'], ['a']⟩, 9, 2⟩,
      ⟨⟨.optionMarker, ['-', '-'], []⟩, 0, 7⟩, Token.finish 3, ⟨⟨.pipe, ['|'], []⟩, 1, 1⟩]
    Descent.outcome? true (Token.terminated tokens) 5 =
        some (.stopped 1 [⟨['a'], []⟩] .trailingOptionMarker) ∧
      outcomeOf (ofTokens true [] (Token.upToEnd tokens)) =
        .stopped 1 [⟨['a'], []⟩] .trailingOptionMarker := by
  intro tokens
  obtain ⟨hdescent, -, hlocal⟩ := ofTokens_total true [] tokens
  exact ⟨hdescent 5 (by decide), hlocal⟩

end Definition

end PipeAssist

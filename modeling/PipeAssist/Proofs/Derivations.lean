import PipeAssist.Proofs.Endings
import PipeAssist.Proofs.Meanings
import PipeAssist.Proofs.Resumption

/-!
# Readings are derivations

Whatever the machine has read is the beginning of a derivation: its phase says how far the
derivation has got, and the definition is the meaning of the uses before (`Begun`). One token more
is one more step of the derivation (`begun_step`), so that behind all the tokens of a complete
definition stands a derivation of the whole (`derived_of_complete`). With the machine following
derivations, a finished text is read as a definition exactly when the grammar derives its tokens,
and the definition is what they mean (`readFinished_iff`).
-/

set_option autoImplicit false

namespace PipeAssist

open Grammar

namespace Grammar

/-- The two dashes and the name of an option. -/
inductive Key : List Token → Text → Prop where
  | marked {marker : Token} {tokens : List Token} {key : Text}
      (kind : marker.kind = .optionMarker) (words : Words tokens key) : Key (marker :: tokens) key

theorem Key.dotted {tokens : List Token} {key : Text} {dot token : Token} (h : Key tokens key)
    (hdot : dot.kind = .dot) (hkind : token.kind = .identifier) :
    Key (tokens ++ [dot, token]) (key ++ '.' :: token.value) := by
  cases h with
  | marked kind words => exact .marked kind (.dotted words hdot hkind)

theorem Key.assign {tokens valueTokens : List Token} {key value : Text} {equals : Token}
    (h : Key tokens key) (hequals : equals.kind = .equals) (hvalue : Value valueTokens value) :
    Setting (tokens ++ equals :: valueTokens) key value := by
  cases h with
  | marked kind words => exact .assign kind words hequals hvalue

/-- What the tokens read so far make up, by phase: the derivation of a pipeline with the meaning
`definition`, and how far the next name, pipe or option has got behind it. -/
inductive Begun : List Token → Definition → Reading.Phase → Prop where
  | start : Begun [] [] .start
  | piped {tokens : List Token} {uses : List WrittenUse} {pipe : Token}
      (front : Pipeline tokens uses) (kind : pipe.kind = .pipe) :
      Begun (tokens ++ [pipe]) (uses.map WrittenUse.meaning) .piped
  | named {tokens : List Token} {uses : List WrittenUse} {name : Text} {stop : Nat}
      (whole : Pipeline tokens (uses ++ [⟨name, []⟩])) :
      Begun tokens (uses.map WrittenUse.meaning) (.named name stop)
  | settled {tokens : List Token} {uses : List WrittenUse} (whole : Pipeline tokens uses) :
      Begun tokens (uses.map WrittenUse.meaning) .settled
  /-- A dash leads nowhere. -/
  | dashed {tokens : List Token} {definition : Definition} : Begun tokens definition .dashed
  | marked {tokens : List Token} {uses : List WrittenUse} {marker : Token}
      (front : Pipeline tokens uses) (kind : marker.kind = .optionMarker) :
      Begun (tokens ++ [marker]) (uses.map WrittenUse.meaning) .marked
  | keyed {tokens more : List Token} {uses : List WrittenUse} {key : Text} {stop : Nat}
      (front : Pipeline tokens uses) (name : Key more key) :
      Begun (tokens ++ more) (uses.map WrittenUse.meaning) (.keyed key stop)
  | keyDotted {tokens more : List Token} {uses : List WrittenUse} {key : Text} {dot : Token}
      (front : Pipeline tokens uses) (name : Key more key) (kind : dot.kind = .dot) :
      Begun (tokens ++ (more ++ [dot])) (uses.map WrittenUse.meaning) (.keyDotted (key ++ ['.']))
  | assigned {tokens more : List Token} {uses : List WrittenUse} {key : Text} {equals : Token}
      (front : Pipeline tokens uses) (name : Key more key) (kind : equals.kind = .equals) :
      Begun (tokens ++ (more ++ [equals])) (uses.map WrittenUse.meaning) (.assigned key)
  | valued {tokens more words : List Token} {uses : List WrittenUse} {key value : Text}
      {equals : Token} (front : Pipeline tokens uses) (name : Key more key)
      (kind : equals.kind = .equals) (plain : Words words value) :
      Begun (tokens ++ (more ++ equals :: words)) (uses.map WrittenUse.meaning) (.valued key value)
  | valueDotted {tokens more words : List Token} {uses : List WrittenUse} {key value : Text}
      {equals dot : Token} (front : Pipeline tokens uses) (name : Key more key)
      (kind : equals.kind = .equals) (plain : Words words value) (dotKind : dot.kind = .dot) :
      Begun (tokens ++ (more ++ equals :: (words ++ [dot]))) (uses.map WrittenUse.meaning)
        (.valueDotted key value)

/-- An option behind a pipeline makes a pipeline with that option in its meaning. -/
theorem Pipeline.supply {tokens more : List Token} {uses : List WrittenUse} {key value : Text}
    (h : Pipeline tokens uses) (hsetting : Setting more key value) :
    ∃ supplied, Pipeline (tokens ++ more) supplied ∧ supplied.map WrittenUse.meaning =
      Definition.withOption (uses.map WrittenUse.meaning) key value := by
  obtain ⟨front, written, rfl, hsupplied⟩ := h.configure hsetting
  refine ⟨_, hsupplied, ?_⟩
  rw [List.map_append, List.map_append, List.map_singleton, List.map_singleton,
    Definition.withOption_concat, WrittenUse.meaning_configure]

end Grammar

namespace Reading

/-! ## One token -/

/-- What is pending completes a pipeline when it settles. -/
theorem begun_settle {tokens : List Token} {state settled : Reading}
    (h : Begun tokens state.definition state.phase) (hsettle : state.settle? = some settled)
    (hphase : settled.phase = .settled) :
    ∃ uses, Pipeline tokens uses ∧ settled.definition = uses.map WrittenUse.meaning := by
  obtain ⟨consumed, checkpoint, definition, phase⟩ := state
  cases h with
  | start | piped _ _ =>
      cases hsettle
      cases hphase
  | settled whole =>
      cases hsettle
      exact ⟨_, whole, rfl⟩
  | named whole =>
      cases hsettle
      exact ⟨_, whole, by simp [commit, WrittenUse.meaning]⟩
  | valued front name kind plain =>
      cases hsettle
      obtain ⟨uses, hpipeline, hmeaning⟩ := front.supply (name.assign kind (.plain plain))
      exact ⟨uses, hpipeline, hmeaning.symm⟩
  | _ => cases hsettle

/-- A token that stays pending goes on with the derivation. -/
theorem begun_pends {tokens : List Token} {definition : Definition} {phase next : Phase}
    {token : Token} (h : Begun tokens definition phase) (hpends : Pends phase token next) :
    Begun (tokens ++ [token]) definition next := by
  cases hpends with
  | firstName kind =>
      cases h
      exact @Begun.named _ [] _ _ (.use (.name kind))
  | nextName kind =>
      cases h with
      | piped front pipeKind =>
          rw [List.append_assoc]
          exact .named (.pipe front pipeKind (.name kind))
  | key kind =>
      cases h with
      | marked front markerKind =>
          rw [List.append_assoc]
          exact .keyed front (.marked markerKind (.word kind))
  | keyDot kind =>
      cases h with
      | keyed front name =>
          rw [List.append_assoc]
          exact .keyDotted front name kind
  | keyMore kind =>
      cases h with
      | keyDotted front name dotKind =>
          rw [List.append_assoc, List.append_assoc, List.append_assoc]
          exact .keyed front (name.dotted dotKind kind)
  | equals kind =>
      cases h with
      | keyed front name =>
          rw [List.append_assoc]
          exact .assigned front name kind
  | value kind =>
      cases h with
      | assigned front name equalsKind =>
          rw [List.append_assoc, List.append_assoc]
          exact .valued front name equalsKind (.word kind)
  | valueDot kind =>
      cases h with
      | valued front name equalsKind plain =>
          rw [List.append_assoc, List.append_assoc]
          exact .valueDotted front name equalsKind plain kind
  | valueMore kind =>
      cases h with
      | valueDotted front name equalsKind plain dotKind =>
          have hmore := Begun.valued front name equalsKind (.dotted plain dotKind kind)
          simpa using hmore

/-- What one token preserves. -/
theorem begun_step {tokens : List Token} {state next : Reading} {token : Token}
    (h : Begun tokens state.definition state.phase) (hkind : token.kind ≠ .endOfInput)
    (hstep : state.step false token = .inl next) :
    Begun (tokens ++ [token]) next.definition next.phase := by
  rcases step_inl hkind hstep with ⟨phase, hpends, rfl⟩ | ⟨settled, hsettle, hphase, hnext⟩ |
    ⟨key, hphase, hliteral, rfl⟩
  · exact begun_pends h hpends
  · obtain ⟨uses, hpipeline, hdefinition⟩ := begun_settle h hsettle hphase
    rcases stepSettled_inl hnext with ⟨phase, ⟨rfl, hmarker⟩ | ⟨rfl, -⟩, rfl⟩ | ⟨hpipe, rfl⟩
    · rw [hdefinition]
      exact .marked hpipeline hmarker
    · exact .dashed
    · rw [hdefinition]
      exact .piped hpipeline hpipe
  · -- a quoted value completes the option at once
    obtain ⟨consumed, checkpoint, definition, phase⟩ := state
    cases hphase
    cases h with
    | assigned front name equalsKind =>
        obtain ⟨uses, hpipeline, hmeaning⟩ :=
          front.supply (name.assign equalsKind (.quoted hliteral))
        rw [List.append_assoc, List.append_assoc]
        show Begun _ (Definition.withOption _ key token.value) .settled
        rw [← hmeaning]
        exact .settled hpipeline

/-- What the tokens of a text preserve. -/
theorem begun_feed {tokens : List Token} (hkinds : ∀ token ∈ tokens, token.kind ≠ .endOfInput)
    {last : Reading} (hfeed : initial.feed false tokens = some last) :
    Begun tokens last.definition last.phase := by
  induction tokens using List.reverseRecOn generalizing last with
  | nil =>
      cases hfeed
      exact .start
  | append_singleton front token ih =>
      obtain ⟨before, hbefore, hstep⟩ := feed_concat_inv hfeed
      have hfront := ih (fun t ht => hkinds t (List.mem_append_left _ ht)) hbefore
      exact begun_step hfront (hkinds token (by simp)) hstep

/-- A text that is complete at its end is complete because what is pending settles. -/
theorem settle_of_atEnd {state : Reading} {size : Nat} {finished : Bool} {definition : Definition}
    (h : state.atEnd finished size = .complete definition) :
    ∃ settled, state.settle? = some settled ∧ settled.phase = .settled ∧
      settled.definition = definition := by
  unfold atEnd at h
  cases hphase : state.phase with
  | named name stop =>
      simp only [hphase] at h
      split at h
      · cases h
      · cases h
        exact ⟨state.commit _, by simp only [settle?, hphase], rfl, rfl⟩
  | settled =>
      simp only [hphase] at h
      cases h
      exact ⟨state, by simp [settle?, hphase], hphase, rfl⟩
  | valued key value =>
      simp only [hphase] at h
      cases h
      exact ⟨state.commit (state.definition.withOption key value),
        by simp only [settle?, hphase], rfl, rfl⟩
  | keyed key stop =>
      simp only [hphase] at h
      split at h <;> cases h
  | _ =>
      simp only [hphase] at h
      cases h

end Reading

/-! ## Whole texts -/

namespace Definition

open Reading

/-- A text that is read as a definition is read to its end, where what is pending settles. -/
theorem exists_settled {finished : Bool} {text : Text} {definition : Definition}
    (h : ofTokens finished text (Token.scan text) = .ok definition) :
    ∃ state settled, initial.feed false (Token.inText 0 text) = some state ∧
      state.settle? = some settled ∧ settled.phase = .settled ∧
      settled.definition = definition := by
  rcases ofTokens_ends text with ⟨last, hfeed, hread⟩ | ⟨fault, -, hread⟩
  · rw [hread] at h
    cases hend : last.atEnd finished (Text.byteSize text) with
    | complete other =>
        rw [hend] at h
        cases h
        obtain ⟨settled, hsettle, hphase, hdefinition⟩ := settle_of_atEnd hend
        exact ⟨last, settled, hfeed, hsettle, hphase, hdefinition⟩
    | stopped checkpoint other reason =>
        rw [hend] at h
        cases h
  · rw [hread] at h
    cases h

/-- A text that is read as a definition is derived, whether it is finished or not. -/
theorem derived_of_complete {finished : Bool} {text : Text} {definition : Definition}
    (h : ofTokens finished text (Token.scan text) = .ok definition) :
    ∃ uses, Pipeline (Token.inText 0 text) uses ∧ definition = uses.map WrittenUse.meaning := by
  obtain ⟨state, settled, hfeed, hsettle, hphase, rfl⟩ := exists_settled h
  have hbegun := begun_feed (fun _ htoken => Token.inText_kind_ne htoken) hfeed
  exact begun_settle hbegun hsettle hphase

/-- A text that is derived is read as its meaning when it is finished. -/
theorem readFinished_of_derived {text : Text} {uses : List WrittenUse}
    (h : Pipeline (Token.inText 0 text) uses) :
    readFinished text = .ok (uses.map WrittenUse.meaning) := by
  obtain ⟨state, hfeed, hsettle⟩ := h.feed
  exact ofTokens_complete hfeed (atEnd_complete hsettle rfl fun _ _ _ => Or.inl rfl)

/-- A finished text is read as a definition exactly when the grammar derives its tokens as uses that
mean the uses of the definition, one by one. -/
theorem readFinished_iff (text : Text) (definition : Definition) :
    readFinished text = .ok definition ↔
      ∃ uses, Pipeline ((Token.scan text).filter Token.isSignificant) uses ∧
        List.Forall₂ WrittenUse.Means uses definition := by
  simp only [Token.filter_isSignificant_scan, WrittenUse.forall_means_iff]
  constructor
  · intro h
    obtain ⟨uses, hpipeline, hmeaning⟩ := derived_of_complete h
    exact ⟨uses, hpipeline, hmeaning.symm⟩
  · rintro ⟨uses, hpipeline, rfl⟩
    exact readFinished_of_derived hpipeline

end Definition

end PipeAssist

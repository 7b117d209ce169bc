import PipeAssist.Proofs.Derivations
import PipeAssist.Proofs.TrailingBlanks

/-!
# Faults that more text does not repair

Some faults are there because the text ends too early. Others stand at a token that cannot be where
it is: something else than a component name where one is due, or something else than an option, a
pipe or the end behind a component (`Fault.Reason.isMisplaced`). What is typed behind the text
leaves the tokens in front of its last one as they are, and the last one keeps its kind, except that
a dash can become an option marker (`Token.inText_append_at`). A token that is misplaced stays so
(`Reading.Misplaced.growsTo`): the reading stops at the same place again, with the same definition
and a fault of the same kind (`Reading.step_growsTo`).

One fault of this kind stands at no token: a dot that ends the text behind a plain value is taken
for a misplaced one, because no identifier follows it (`Fault.EndsInValueDot`). A word repairs it.
The main statement says that it is the only exception (`Fault.lasts_iff_not_valueDot`).
-/

set_option autoImplicit false

namespace PipeAssist

open Grammar

/-! ## Tokens of a longer text -/

/-- What can become of a lexeme when more is typed behind it: a lexeme of the same kind, which has
the same character if it is unknown, or an option marker where there was a dash. -/
inductive Lexeme.GrowsTo (before after : Lexeme) : Prop where
  | kept (kind : after.kind = before.kind)
      (raw : before.kind = .unknown → after.raw = before.raw) : GrowsTo before after
  | marked (kind : before.kind = .unknown) (dash : before.raw = ['-'])
      (marker : after.kind = .optionMarker) : GrowsTo before after

theorem Lexeme.GrowsTo.kind_ne {before after : Lexeme} (h : before.GrowsTo after)
    {kind : Token.Kind} (hkind : before.kind ≠ kind) (hmarker : kind ≠ .optionMarker) :
    after.kind ≠ kind := by
  cases h with
  | kept same _ => rwa [same]
  | marked _ _ marker =>
      rw [marker]
      exact hmarker.symm

/-- The first character decides on the kind of a lexeme, unless it is a dash at the end. -/
theorem Piece.firstLexeme_growsTo (c : Char) (rest suffix : Text) :
    (firstLexeme c rest).GrowsTo (firstLexeme c (rest ++ suffix)) := by
  by_cases hdash : c = '-'
  · subst hdash
    have hquote : Literal.isQuote '-' = false := by decide
    have hword : Text.isWordStart '-' = false := by decide
    cases rest with
    | nil =>
        by_cases hmarker : suffix.head? = some '-'
        · exact .marked rfl rfl (by simp [firstLexeme, hmarker])
        · have hsame : firstLexeme '-' ([] ++ suffix) = firstLexeme '-' [] := by
            simp [firstLexeme, hmarker, hquote, hword]
          exact .kept (by rw [hsame]) (fun _ => by rw [hsame])
    | cons d ds =>
        -- the second character decides, and it stays
        have hsame : firstLexeme '-' (d :: ds ++ suffix) = firstLexeme '-' (d :: ds) := by
          simp [firstLexeme, hquote, hword]
        exact .kept (by rw [hsame]) (fun _ => by rw [hsame])
  · unfold firstLexeme
    simp only [hdash, decide_false, Bool.false_and, Bool.false_eq_true, if_false]
    split
    · exact .kept rfl fun _ => rfl
    split
    · exact .kept rfl fun _ => rfl
    split
    · exact .kept rfl fun _ => rfl
    split
    · exact .kept rfl fun hkind => Token.Kind.noConfusion hkind
    split
    · exact .kept rfl fun hkind => Token.Kind.noConfusion hkind
    · exact .kept rfl fun _ => rfl

namespace Token

/-- Behind blanks the first token is the lexeme that starts there. -/
theorem inText_gap {gap : Text} (hgap : Text.isAllBlank gap = true) {c : Char}
    (hc : Text.isBlank c = false) (rest : Text) (offset : Nat) :
    ∃ token more, inText offset (gap ++ c :: rest) = token :: more ∧
      token.toLexeme = Piece.firstLexeme c rest := by
  have hfirst : Piece.first c rest = .lexeme (Piece.firstLexeme c rest) := by
    simp [Piece.first, hc]
  have hhead : (c :: rest).head?.any Text.isBlank = false := by simpa using hc
  rw [inText_blanks hgap hhead, inText, Piece.split, Piece.splitAfter, hfirst]
  exact ⟨_, _, rfl, rfl⟩

/-- In front of the first token of a text stand blanks only. -/
theorem exists_gap_of_inText {offset : Nat} {text : Text} {token : Token} {back : List Token}
    (h : inText offset text = token :: back) :
    ∃ gap c rest, text = gap ++ c :: rest ∧ Text.isAllBlank gap = true ∧
      Text.isBlank c = false := by
  have hgap : Text.isAllBlank (text.takeWhile Text.isBlank) = true :=
    List.all_eq_true.2 fun c hc => List.mem_takeWhile_imp hc
  have htext : text.takeWhile Text.isBlank ++ text.dropWhile Text.isBlank = text :=
    List.takeWhile_append_dropWhile
  have hhead := Piece.head_dropWhile Text.isBlank text
  cases hdrop : text.dropWhile Text.isBlank with
  | nil =>
      -- a text of blanks has no tokens
      rw [hdrop, List.append_nil] at htext
      rw [← htext, inText_of_isAllBlank hgap] at h
      cases h
  | cons c rest =>
      rw [hdrop] at htext hhead
      exact ⟨_, c, rest, htext.symm, hgap, by simpa using hhead⟩

/-- The first token of a text when more is typed behind the text. -/
theorem inText_append_first {offset : Nat} {text : Text} {token : Token} {back : List Token}
    (h : inText offset text = token :: back) (suffix : Text) :
    ∃ grown more, inText offset (text ++ suffix) = grown :: more ∧
      token.toLexeme.GrowsTo grown.toLexeme := by
  obtain ⟨gap, c, rest, rfl, hgap, hc⟩ := exists_gap_of_inText h
  obtain ⟨first, more, hfirst, hlexeme⟩ := inText_gap hgap hc rest offset
  rw [h] at hfirst
  obtain ⟨rfl, -⟩ := List.cons.inj hfirst
  obtain ⟨grown, others, hgrown, hlonger⟩ := inText_gap hgap hc (rest ++ suffix) offset
  refine ⟨grown, others, ?_, ?_⟩
  · rw [List.append_assoc, List.cons_append]
    exact hgrown
  · rw [hlexeme, hlonger]
    exact Piece.firstLexeme_growsTo c rest suffix

/-- Any token of a text when more is typed behind the text: the tokens in front of it stay. -/
theorem inText_append_at {text : Text} {front back : List Token} {token : Token}
    (h : inText 0 text = front ++ token :: back) (suffix : Text) :
    ∃ grown more, inText 0 (text ++ suffix) = front ++ grown :: more ∧
      token.toLexeme.GrowsTo grown.toLexeme := by
  have hlength : front.length ≤ (inText 0 text).length := by
    rw [h, List.length_append]
    omega
  obtain ⟨a, b, htext, hpieces, hfront, hback, -⟩ := exists_cut text hlength
  rw [h, List.take_left' rfl] at hfront
  rw [h, List.drop_left' rfl] at hback
  -- the second part starts with the token or with blanks, so typing behind it leaves its start
  have hhead : (b ++ suffix).head? = b.head? := by
    cases b with
    | nil => cases hback
    | cons c cs => rfl
  have hends : ∀ p ∈ (Piece.split a).getLast?, p.stopsAt (b ++ suffix).head? = true := by
    have hcanonical := Piece.canonical_split text
    rw [hpieces, Piece.canonical_append, Piece.spelled_split] at hcanonical
    rw [hhead]
    exact hcanonical.2.2
  obtain ⟨grown, more, hgrown, hgrows⟩ := inText_append_first hback suffix
  refine ⟨grown, more, ?_, hgrows⟩
  rw [htext, List.append_assoc, inText_append hends, hfront, Nat.zero_add, hgrown]

end Token

/-! ## Misplaced tokens -/

/-- Faults at something that cannot stand where it is. -/
def Fault.Reason.isMisplaced : Fault.Reason → Bool
  | .missingSeparator _ => true
  | .missingComponent found => found ≠ .endOfInput
  | _ => false

/-- The lexemes with which a text goes on behind a component or an option. -/
def Lexeme.isSeparator (item : Lexeme) : Bool :=
  match item.kind with
  | .optionMarker | .pipe => true
  | .unknown => item.raw = ['-']
  | _ => false

theorem Lexeme.GrowsTo.isSeparator_eq_false {before after : Lexeme} (h : before.GrowsTo after)
    (hother : before.isSeparator = false) : after.isSeparator = false := by
  unfold isSeparator at hother ⊢
  cases h with
  | kept same raw =>
      rw [same]
      cases hkind : before.kind with
      | unknown =>
          rw [raw hkind]
          simpa [hkind] using hother
      | optionMarker | pipe => simp [hkind] at hother
      | _ => rfl
  | marked unknown dash _ =>
      -- a dash is taken for the start of an option already
      simp [unknown, dash] at hother

namespace Reading

/-- The ways in which a token is misplaced behind what was read, with the fault that it makes. -/
inductive Misplaced (state : Reading) (token : Token) :
    Nat → Definition → Fault.Reason → Prop where
  /-- A component name is due. -/
  | name (phase : state.phase = .start ∨ state.phase = .piped) (kind : token.kind ≠ .identifier) :
      Misplaced state token state.checkpoint state.definition (.missingComponent token.kind)
  /-- An option, a pipe or the end is due. A dot would go on with a plain value. -/
  | separator {settled : Reading} (settles : state.settle? = some settled)
      (phase : settled.phase = .settled) (other : token.isSeparator = false)
      (dot : ∀ key value, state.phase = .valued key value → token.kind ≠ .dot) :
      Misplaced state token settled.checkpoint settled.definition (.missingSeparator token.kind)
  /-- A dash is no option marker. -/
  | dash (phase : state.phase = .dashed) :
      Misplaced state token state.checkpoint state.definition (.missingSeparator .unknown)
  /-- The dot in front of the token belongs to no value. -/
  | dot {key value : Text} (phase : state.phase = .valueDotted key value)
      (kind : token.kind ≠ .identifier) :
      Misplaced state token (state.consumed - 1) (state.definition.withOption key value)
        (.missingSeparator .dot)

theorem stepSettled_stop {state : Reading} {token : Token} (hkind : token.kind ≠ .endOfInput)
    (hother : token.isSeparator = false) :
    state.stepSettled token = state.stop (.missingSeparator token.kind) := by
  unfold stepSettled
  unfold Lexeme.isSeparator at hother
  cases hcase : token.kind with
  | endOfInput => exact absurd hcase hkind
  | optionMarker | pipe => simp [hcase] at hother
  | unknown =>
      have hdash : token.raw ≠ ['-'] := by simpa [hcase] using hother
      simp [hdash]
  | _ => rfl

theorem misplaced_of_stepSettled {state settled : Reading} {token : Token} {checkpoint : Nat}
    {definition : Definition} {reason : Fault.Reason} (hsettle : state.settle? = some settled)
    (hphase : settled.phase = .settled)
    (hdot : ∀ key value, state.phase = .valued key value → token.kind ≠ .dot)
    (hstop : settled.stepSettled token = .inr (.stopped checkpoint definition reason)) :
    Misplaced state token checkpoint definition reason := by
  obtain ⟨-, -, -, hkind⟩ := stepSettled_stopped hstop
  have hother : token.isSeparator = false := by
    unfold stepSettled at hstop
    unfold Lexeme.isSeparator
    cases hcase : token.kind with
    | optionMarker | pipe =>
        rw [hcase] at hstop
        cases hstop
    | unknown =>
        rw [hcase] at hstop
        by_cases hdash : token.raw = ['-']
        · simp only [hdash, if_true] at hstop
          cases hstop
        · simp [hdash]
    | _ => rfl
  rw [stepSettled_stop hkind hother] at hstop
  cases hstop
  exact .separator hsettle hphase hother hdot

/-- What a fault at a misplaced token says about the state in front of it. -/
theorem misplaced_of_step {state : Reading} {token : Token} {checkpoint : Nat}
    {definition : Definition} {reason : Fault.Reason} (hkind : token.kind ≠ .endOfInput)
    (hstep : state.step false token = .inr (.stopped checkpoint definition reason))
    (hmisplaced : reason.isMisplaced = true) :
    Misplaced state token checkpoint definition reason := by
  unfold step at hstep
  cases hphase : state.phase with
  | start =>
      simp only [hphase, stepName] at hstep
      split at hstep
      · cases hstep
      next hname =>
        cases hstep
        exact .name (Or.inl hphase) hname
  | piped =>
      simp only [hphase, hkind, if_false, stepName] at hstep
      split at hstep
      · cases hstep
      next hname =>
        cases hstep
        exact .name (Or.inr hphase) hname
  | named name stop =>
      simp only [hphase, mayGrow_eq_false hkind, Bool.false_eq_true, if_false] at hstep
      exact misplaced_of_stepSettled (by simp [settle?, hphase]) rfl (by simp [hphase]) hstep
  | settled =>
      simp only [hphase] at hstep
      exact misplaced_of_stepSettled (by simp [settle?, hphase]) hphase (by simp [hphase]) hstep
  | dashed =>
      simp only [hphase, hkind, if_false] at hstep
      cases hstep
      exact .dash hphase
  | valued key value =>
      simp only [hphase] at hstep
      split at hstep
      · cases hstep
      next hdot =>
        exact misplaced_of_stepSettled (by simp [settle?, hphase]) rfl (fun _ _ _ => hdot) hstep
  | valueDotted key value =>
      simp only [hphase] at hstep
      split at hstep
      · cases hstep
      next hname =>
        cases hstep
        exact .dot hphase hname
  | marked | assigned key | keyDotted key =>
      -- inside an option the fault is that of a name or of a value
      simp only [hphase] at hstep
      split at hstep <;> cases hstep <;> cases hmisplaced
  | keyed key stop =>
      simp only [hphase, mayGrow_eq_false hkind, Bool.false_eq_true, if_false] at hstep
      split at hstep <;> cases hstep
      cases hmisplaced

/-- A misplaced token stops the reading. -/
theorem Misplaced.step_eq {state : Reading} {token : Token} {checkpoint : Nat}
    {definition : Definition} {reason : Fault.Reason}
    (h : Misplaced state token checkpoint definition reason) (hkind : token.kind ≠ .endOfInput) :
    state.step false token = .inr (.stopped checkpoint definition reason) := by
  cases h with
  | name phase kind =>
      rcases phase with phase | phase <;> simp [step, phase, hkind, stepName, kind, stop]
  | separator settles phase other dot =>
      rw [step_eq_stepSettled settles phase hkind dot, stepSettled_stop hkind other]
      rfl
  | dash phase => simp [step, phase, hkind, stop]
  | dot phase kind => simp [step, phase, kind]

/-- A token that is misplaced stays so, in the same way, when it grows. -/
theorem Misplaced.growsTo {state : Reading} {token grown : Token} {checkpoint : Nat}
    {definition : Definition} {reason : Fault.Reason}
    (h : Misplaced state token checkpoint definition reason)
    (hgrows : token.toLexeme.GrowsTo grown.toLexeme) :
    ∃ other, Misplaced state grown checkpoint definition other ∧ other.kind = reason.kind := by
  cases h with
  | name phase kind =>
      -- a dash that has become a marker is no name either
      exact ⟨_, .name phase (hgrows.kind_ne kind (by simp)), rfl⟩
  | separator settles phase other dot =>
      refine ⟨_, .separator settles phase ?_ ?_, rfl⟩
      · exact hgrows.isSeparator_eq_false other
      · intro key value hvalued
        exact hgrows.kind_ne (dot key value hvalued) (by simp)
  | dash phase => exact ⟨_, .dash phase, rfl⟩
  | dot phase kind =>
      exact ⟨_, .dot phase (hgrows.kind_ne kind (by simp)), rfl⟩

/-- A reading that stops at a misplaced token stops at the token that it grows to. -/
theorem step_growsTo {state : Reading} {token grown : Token} {checkpoint : Nat}
    {definition : Definition} {reason : Fault.Reason} (hkind : token.kind ≠ .endOfInput)
    (hgrown : grown.kind ≠ .endOfInput) (hgrows : token.toLexeme.GrowsTo grown.toLexeme)
    (hstep : state.step false token = .inr (.stopped checkpoint definition reason))
    (hmisplaced : reason.isMisplaced = true) :
    ∃ other, state.step false grown = .inr (.stopped checkpoint definition other) ∧
      other.kind = reason.kind := by
  obtain ⟨other, hother, hsame⟩ := (misplaced_of_step hkind hstep hmisplaced).growsTo hgrows
  exact ⟨other, hother.step_eq hgrown, hsame⟩

/-- At the end there is one fault that says something is misplaced: the dot behind a value. -/
theorem atEnd_misplaced {state : Reading} {size checkpoint : Nat} {definition : Definition}
    {reason : Fault.Reason}
    (h : state.atEnd false size = .stopped checkpoint definition reason)
    (hmisplaced : reason.isMisplaced = true) :
    ∃ key value, state.phase = .valueDotted key value := by
  unfold atEnd at h
  cases hphase : state.phase with
  | valueDotted key value => exact ⟨key, value, rfl⟩
  | named name stop | keyed key stop =>
      simp only [hphase] at h
      split at h <;> cases h <;> cases hmisplaced
  | _ =>
      simp only [hphase] at h
      cases h <;> cases hmisplaced

/-- Behind an equals sign and words a plain value is pending. -/
theorem valued_of_feed {front words : List Token} {equals : Token} {value : Text} {state : Reading}
    (hequals : equals.kind = .equals) (hwords : Words words value)
    (hfeed : initial.feed false (front ++ equals :: words) = some state) :
    ∃ key, state.phase = .valued key value := by
  rw [← List.singleton_append, ← List.append_assoc, feed_append, Option.bind_eq_some_iff] at hfeed
  obtain ⟨middle, hmiddle, hstate⟩ := hfeed
  obtain ⟨before, -, hstep⟩ := feed_concat_inv hmiddle
  have hbehind := step_isBehind (by simp [hequals]) hstep
  -- of all phases only that of an assigned option comes right behind an equals sign
  cases hphase : middle.phase with
  | assigned key =>
      rw [hwords.feed_value hphase] at hstate
      cases hstate
      exact ⟨key, rfl⟩
  | start => simp [hphase, Phase.IsBehind] at hbehind
  | _ => simp [hphase, Phase.IsBehind, hequals] at hbehind

/-- A dot that is said to be misplaced is the token that stopped the reading, and no value is
pending in front of it, or it stands before that token. -/
theorem Misplaced.dot_place {read : List Token} {state : Reading} {token : Token} {checkpoint : Nat}
    {definition : Definition} {reason : Fault.Reason} (htraced : Traced read state)
    (h : Misplaced state token checkpoint definition reason)
    (hreason : reason = .missingSeparator .dot) :
    checkpoint < read.length ∨
      checkpoint = read.length ∧ ∀ key value, state.phase ≠ .valued key value := by
  cases h with
  | name _ _ => cases hreason
  | separator settles _ _ dot =>
      refine Or.inr ⟨(htraced.settle_eq settles).2, ?_⟩
      intro key value hvalued
      apply dot key value hvalued
      cases hkind : token.kind with
      | dot => rfl
      | _ => simp [hkind] at hreason
  | dash _ => cases hreason
  | dot phase _ =>
      have hbehind := htraced.behind (by rw [phase]; rfl)
      rw [htraced.consumed]
      left
      omega

end Reading

/-- The tokens of a value with a dot behind it, at the end of what was read. -/
theorem Grammar.Begun.exists_value {tokens : List Token} {definition : Definition}
    {key value : Text} (h : Begun tokens definition (.valueDotted key value)) :
    ∃ front equals words dot, tokens = front ++ equals :: words ++ [dot] ∧
      equals.kind = .equals ∧ Words words value ∧ dot.kind = .dot := by
  cases h with
  | @valueDotted before more words uses _ _ equals dot _ _ kind plain dotKind =>
      exact ⟨before ++ more, equals, words, dot, by simp, kind, plain, dotKind⟩

/-! ## The dot behind a value -/

namespace Fault

open Reading

/-- The fault is at the last token of the text, a dot behind a plain value. -/
def EndsInValueDot (fault : Fault) : Prop :=
  fault.reason = .missingSeparator .dot ∧ ∃ front equals words value dot,
    fault.tokens.filter Token.isSignificant = front ++ equals :: words ++ [dot] ∧
      fault.checkpoint = (front ++ equals :: words).length ∧ equals.kind = .equals ∧
      Words words value ∧ dot.kind = .dot

/-- A text stops with the same kind of fault, behind the same committed tokens. -/
def LastsIn (fault : Fault) (text : Text) : Prop :=
  ∃ later, Definition.read text = .error later ∧ later.kind = fault.kind ∧
    later.checkpoint = fault.checkpoint ∧ later.definition = fault.definition

section ValueDot

variable {text : Text} {fault : Fault} (h : Definition.read text = .error fault)

include h

/-- A text whose fault is such a dot is read to its end. -/
theorem valueDotted_of_endsInValueDot (hdot : fault.EndsInValueDot) :
    ∃ last key value, initial.feed false (Token.inText 0 text) = some last ∧
      last.phase = .valueDotted key value := by
  obtain ⟨hreason, front, equals, words, value, dot, htokens, hcheckpoint, hequals, hwords, -⟩ :=
    hdot
  obtain ⟨-, hscan, hrun⟩ := ofScan h
  rw [hscan, Token.filter_isSignificant_scan] at htokens
  rw [Token.scan_eq] at hrun
  have hmisplaced : fault.reason.isMisplaced = true := by
    rw [hreason]
    rfl
  rcases run_stops rfl hrun with ⟨last, hfeed, hend⟩ |
    ⟨read, token, back, before, hcut, hfeed, hstep⟩
  · obtain ⟨key, value, hphase⟩ := atEnd_misplaced hend hmisplaced
    exact ⟨last, key, value, hfeed, hphase⟩
  · -- a reading that stops at a token stops at the dot or before it, but there a value is pending
    exfalso
    have hkinds : ∀ t ∈ read ++ token :: back, t.kind ≠ .endOfInput := by
      rw [← hcut]
      exact fun _ htoken => Token.inText_kind_ne htoken
    have htraced := traced_feed (fun t ht => hkinds t (List.mem_append_left _ ht)) hfeed
    have hlength : read.length ≤ (front ++ equals :: words).length := by
      have hsame := congrArg List.length (htokens.symm.trans hcut)
      simp only [List.length_append, List.length_cons, List.length_nil] at hsame ⊢
      omega
    rcases (misplaced_of_step (hkinds token (by simp)) hstep hmisplaced).dot_place htraced hreason
      with hless | ⟨heq, hvalued⟩
    · omega
    · obtain ⟨rfl, -⟩ := List.append_inj (htokens.symm.trans hcut) (hcheckpoint.symm.trans heq)
      obtain ⟨key, hphase⟩ := valued_of_feed hequals hwords hfeed
      exact hvalued key value hphase

/-- A text that is read up to a dot behind a plain value has its fault there. -/
theorem endsInValueDot_of_valueDotted {last : Reading} {key value : Text}
    (hfeed : initial.feed false (Token.inText 0 text) = some last)
    (hphase : last.phase = .valueDotted key value) : fault.EndsInValueDot := by
  have hkinds : ∀ token ∈ Token.inText 0 text, token.kind ≠ .endOfInput :=
    fun _ htoken => Token.inText_kind_ne htoken
  obtain ⟨-, hscan, hrun⟩ := ofScan h
  rw [Definition.run_scan false hfeed] at hrun
  simp only [atEnd, hphase, Outcome.stopped.injEq] at hrun
  obtain ⟨hcheckpoint, -, hreason⟩ := hrun
  have hbegun := begun_feed hkinds hfeed
  rw [hphase] at hbegun
  obtain ⟨front, equals, words, dot, htokens, hequals, hwords, hdot⟩ := hbegun.exists_value
  refine ⟨hreason.symm, front, equals, words, value, dot, ?_, ?_, hequals, hwords, hdot⟩
  · rw [hscan, Token.filter_isSignificant_scan, htokens]
  · rw [← hcheckpoint, (traced_feed hkinds hfeed).consumed, htokens, List.length_append,
      List.length_singleton, Nat.add_sub_cancel]

end ValueDot

/-- A word behind such a dot goes on with the value, and completes the text. -/
theorem read_word_of_valueDotted {text word : Text} {last : Reading} {key value : Text}
    (hfeed : initial.feed false (Token.inText 0 text) = some last)
    (hphase : last.phase = .valueDotted key value) (hword : Text.isWord word = true) :
    ∃ definition, Definition.read (text ++ word) = .ok definition := by
  obtain ⟨token, htoken, hbehind⟩ :=
    exists_isBehind (fun _ htoken => Token.inText_kind_ne htoken) hfeed (by simp [hphase])
  rw [hphase] at hbehind
  have hends : ∀ p ∈ (Piece.split text).getLast?, p.stopsAt word.head? = true := by
    intro p hp
    obtain ⟨front, hfront⟩ := List.getLast?_eq_some_iff.1 hp
    cases p with
    | blank run => simp [Piece.stopsAt, Text.isBlank_head_of_isWord hword]
    | lexeme item =>
        -- a lexeme at the end of the text is the dot
        rw [Token.inText, hfront, Token.lay_concat, List.getLast?_concat] at htoken
        cases htoken
        have hdot : item.kind = .dot := hbehind
        simp [Piece.stopsAt, Lexeme.stopsAt, hdot]
  have hlonger : initial.feed false (Token.inText 0 (text ++ word)) =
      some { last with
        consumed := last.consumed + 1, phase := .valued key (value ++ '.' :: word) } := by
    rw [Token.inText_append hends, Token.inText_single hword]
    apply feed_concat hfeed
    simp [step, hphase, next]
  exact ⟨_, Definition.ofTokens_complete hlonger rfl⟩

/-! ## Lasting faults -/

/-- A fault at a misplaced token lasts, whatever is typed behind the text. -/
theorem lastsIn_of_step {text : Text} {fault : Fault} {front back : List Token} {token : Token}
    {before : Reading} (htokens : Token.inText 0 text = front ++ token :: back)
    (hfeed : initial.feed false front = some before)
    (hstep : before.step false token =
      .inr (.stopped fault.checkpoint fault.definition fault.reason))
    (hmisplaced : fault.reason.isMisplaced = true) (suffix : Text) :
    fault.LastsIn (text ++ suffix) := by
  have hkinds : ∀ (text : Text), ∀ token ∈ Token.inText 0 text, token.kind ≠ .endOfInput :=
    fun _ _ htoken => Token.inText_kind_ne htoken
  obtain ⟨grown, more, hlonger, hgrows⟩ := Token.inText_append_at htokens suffix
  have hkind := hkinds text token (by simp [htokens])
  have hgrown := hkinds (text ++ suffix) grown (by simp [hlonger])
  obtain ⟨other, hother, hsame⟩ := step_growsTo hkind hgrown hgrows hstep hmisplaced
  have hrun : initial.run false (Token.scan (text ++ suffix)) =
      .stopped fault.checkpoint fault.definition other := by
    rw [Token.scan_eq, hlonger, List.append_assoc, run_of_feed hfeed, List.cons_append, run,
      hother]
  refine ⟨⟨text ++ suffix, Token.scan (text ++ suffix), fault.checkpoint, fault.definition,
    other⟩, ?_, hsame, rfl, rfl⟩
  rw [Definition.read, Definition.ofTokens_scan, hrun]
  rfl

/-- A fault of something misplaced lasts in every longer text, except for a dot that ends the text
behind a plain value: there every word completes the text. -/
theorem lasts_iff_not_valueDot (text : Text) (fault : Fault)
    (h : Definition.read text = .error fault) (hmisplaced : fault.reason.isMisplaced = true) :
    ((∀ suffix, fault.LastsIn (text ++ suffix)) ↔ ¬ fault.EndsInValueDot) ∧
      (fault.EndsInValueDot → ∀ word, Text.isWord word = true →
        ∃ definition, Definition.read (text ++ word) = .ok definition) := by
  have hrepaired : fault.EndsInValueDot → ∀ word, Text.isWord word = true →
      ∃ definition, Definition.read (text ++ word) = .ok definition := by
    intro hdot word hword
    obtain ⟨last, key, value, hfeed, hphase⟩ := valueDotted_of_endsInValueDot h hdot
    exact read_word_of_valueDotted hfeed hphase hword
  refine ⟨⟨?_, ?_⟩, hrepaired⟩
  · intro hlasts hdot
    obtain ⟨definition, hread⟩ := hrepaired hdot ['x'] (by decide)
    obtain ⟨later, hlater, -⟩ := hlasts ['x']
    rw [hread] at hlater
    cases hlater
  · intro hdot suffix
    obtain ⟨-, -, hrun⟩ := ofScan h
    rw [Token.scan_eq] at hrun
    rcases run_stops rfl hrun with ⟨last, hfeed, hend⟩ |
      ⟨front, token, back, before, hcut, hfeed, hstep⟩
    · obtain ⟨key, value, hphase⟩ := atEnd_misplaced hend hmisplaced
      exact absurd (endsInValueDot_of_valueDotted h hfeed hphase) hdot
    · exact lastsIn_of_step hcut hfeed hstep hmisplaced suffix

/-- A dash behind a pipe, which may become an option marker, and a dot behind a value. -/
theorem lasts_iff_not_valueDot_dash :
    (∃ fault, Definition.read "http | -".toList = .error fault ∧
      ∀ suffix, fault.LastsIn ("http | -".toList ++ suffix)) ∧
    (∃ fault, Definition.read "http --host=a.b. ".toList = .error fault ∧
      fault.EndsInValueDot ∧ ∀ word, Text.isWord word = true →
        ∃ definition, Definition.read ("http --host=a.b. ".toList ++ word) = .ok definition) := by
  constructor
  · refine ⟨_, rfl, (lasts_iff_not_valueDot _ _ rfl rfl).1.2 ?_⟩
    rintro ⟨hreason, -⟩
    cases hreason
  · obtain ⟨fault, hread⟩ :
        ∃ fault, Definition.read "http --host=a.b. ".toList = .error fault := ⟨_, rfl⟩
    have hdot := endsInValueDot_of_valueDotted hread rfl rfl
    refine ⟨fault, hread, hdot, (lasts_iff_not_valueDot _ _ hread ?_).2 hdot⟩
    rw [hdot.1]
    rfl

end Fault

end PipeAssist

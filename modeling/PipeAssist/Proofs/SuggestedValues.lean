import PipeAssist.Proofs.DetailCap
import PipeAssist.Proofs.Derivations
import PipeAssist.Proofs.Repairs

/-!
# Values that are proposed

Behind the equals sign of an option its values are proposed, spelled so that they read back. The
name in front of the sign was read from tokens, so it is a dotted word whatever the directory says
(`Fault.isDottedWord_option`), and the option is one that the last use lacks. So the text that is
proposed for a value reads as the committed definition with exactly that entry more
(`Definition.Gains`), and different values are proposed as different texts
(`optionValue_readsBack`).
-/

set_option autoImplicit false

namespace PipeAssist

open Grammar Reading

/-! ## One entry more -/

namespace ComponentUse

theorem perm_putOption {key : Text} (value : Text) {options : List (Text × Text)}
    (h : key ∉ options.map (·.1)) :
    (putOption key value options).Perm ((key, value) :: options) := by
  induction options with
  | nil => exact List.Perm.refl _
  | cons first rest ih =>
      obtain ⟨k, v⟩ := first
      rw [List.map_cons, List.mem_cons, not_or] at h
      rw [putOption, if_neg h.1]
      split
      · exact List.Perm.refl _
      · exact ((ih h.2).cons (k, v)).trans (List.Perm.swap (key, value) (k, v) rest)

/-- Uses `grown` that have one entry more than `use`, for a key that `use` lacks. -/
structure Gains (use : ComponentUse) (key value : Text) (grown : ComponentUse) : Prop where
  unused : use.hasOption key = false
  name : grown.name = use.name
  options : grown.options.Perm ((key, value) :: use.options)
  /-- The entries are again in the order of their keys. -/
  ordered : Ordered grown.options

theorem gains_withOption {use : ComponentUse} (hordered : Ordered use.options) {key : Text}
    (hunused : use.hasOption key = false) (value : Text) :
    use.Gains key value (use.withOption key value) where
  unused := hunused
  name := rfl
  options := by
    apply perm_putOption
    intro hmem
    obtain ⟨entry, hentry, rfl⟩ := List.mem_map.1 hmem
    simp only [hasOption, List.any_eq_false, decide_eq_true_eq] at hunused
    exact hunused entry hentry rfl
  ordered := ordered_putOption key value hordered

end ComponentUse

/-- Definitions `grown` that have one entry more than `definition`, at the last use. -/
def Definition.Gains (definition : Definition) (key value : Text) (grown : Definition) : Prop :=
  ∃ front use more, definition = front ++ [use] ∧ ComponentUse.Gains use key value more ∧
    grown = front ++ [more]

/-! ## Where a value is missing -/

namespace Reading

/-- A run gets its outcome from one token, in the state behind the tokens in front of it. -/
theorem exists_step_of_run {state : Reading} {finished : Bool} {tokens : List Token} {last : Token}
    {outcome : Outcome} (hlast : last.kind = .endOfInput)
    (hrun : state.run finished (tokens ++ [last]) = outcome) :
    ∃ front token before, front <+: tokens ∧ state.feed finished front = some before ∧
      before.step finished token = .inr outcome := by
  rcases run_stops hlast hrun with ⟨before, hfeed, rfl⟩ |
    ⟨front, token, back, before, rfl, hfeed, hstep⟩
  · exact ⟨tokens, last, before, List.prefix_refl _, hfeed, step_endOfInput hlast before finished⟩
  · exact ⟨front, token, before, List.prefix_append _ _, hfeed, hstep⟩

/-- A value is missing only right behind the name of an option or its equals sign. -/
theorem phase_of_missingValue {state : Reading} {token : Token} {finished afterEquals : Bool}
    {checkpoint : Nat} {definition : Definition} {key : Text}
    (h : state.step finished token =
      .inr (.stopped checkpoint definition (.missingOptionValue key afterEquals))) :
    (∃ stop, state.phase = .keyed key stop) ∨ state.phase = .assigned key := by
  -- behind a settled component the fault is always that of a separator
  have hsettled : ∀ settled : Reading, settled.stepSettled token ≠
      .inr (.stopped checkpoint definition (.missingOptionValue key afterEquals)) := by
    intro settled hstop
    unfold stepSettled at hstop
    split at hstop
    · cases hstop
    · cases hstop
    · cases hstop
    · split at hstop <;> cases hstop
    · cases hstop
  unfold step at h
  cases hphase : state.phase with
  | start | piped =>
      simp only [hphase, stepName] at h
      repeat' split at h
      all_goals cases h
  | named name stop =>
      simp only [hphase] at h
      split at h
      · cases h
      · exact absurd h (hsettled _)
  | settled =>
      simp only [hphase] at h
      exact absurd h (hsettled _)
  | dashed | marked | keyDotted _ | valueDotted _ _ =>
      simp only [hphase] at h
      split at h <;> cases h
  | keyed name stop =>
      simp only [hphase] at h
      split at h
      · cases h
      · split at h <;> cases h
        exact Or.inl ⟨stop, rfl⟩
  | assigned name =>
      simp only [hphase] at h
      split at h <;> cases h
      exact Or.inr rfl
  | valued name value =>
      simp only [hphase] at h
      split at h
      · cases h
      · exact absurd h (hsettled _)

end Reading

namespace Grammar

theorem Words.isDottedWord {tokens : List Token} {text : Text} (h : Words tokens text)
    (hformed : ∀ token ∈ tokens, token.toLexeme.Formed) : Text.isDottedWord text = true := by
  induction h with
  | @word token kind =>
      have hword := Token.formed_identifier (hformed token List.mem_cons_self) kind
      exact Text.isDottedWord_of_isWord hword.1
  | @dotted tokens text dot token _ _ kind ih =>
      have hfront := ih fun other hother => hformed other (List.mem_append_left _ hother)
      have hword := Token.formed_identifier (hformed token (by simp)) kind
      rw [Text.isDottedWord_append_dot, hfront, Text.isDottedWord_of_isWord hword.1]
      rfl

/-- The name of an option that is being read is made of words among the tokens. -/
theorem Begun.exists_words {tokens : List Token} {definition : Definition} {phase : Phase}
    {key : Text} (h : Begun tokens definition phase)
    (hphase : (∃ stop, phase = .keyed key stop) ∨ phase = .assigned key) :
    ∃ words, words ⊆ tokens ∧ Words words key := by
  have hkey : ∀ {front more : List Token}, Key more key →
      ∃ words, words ⊆ front ++ more ∧ Words words key := by
    rintro front _ ⟨_, words⟩
    exact ⟨_, fun token htoken => List.mem_append_right _ (List.mem_cons_of_mem _ htoken), words⟩
  rcases hphase with ⟨stop, rfl⟩ | rfl
  · cases h with
    | keyed front name => exact hkey name
  · cases h with
    | assigned front name kind =>
        obtain ⟨words, hsubset, hwords⟩ := hkey name
        refine ⟨words, fun token htoken => ?_, hwords⟩
        rw [← List.append_assoc]
        exact List.mem_append_left _ (hsubset htoken)

end Grammar

namespace Fault

/-- The name of the option that lacks a value is a dotted word. -/
theorem isDottedWord_option {text key : Text} {fault : Fault} {afterEquals : Bool}
    (h : Definition.read text = .error fault)
    (hreason : fault.reason = .missingOptionValue key afterEquals) :
    Text.isDottedWord key = true := by
  obtain ⟨-, -, hrun⟩ := ofScan h
  rw [Token.scan_eq, hreason] at hrun
  obtain ⟨front, token, before, hfront, hfeed, hstep⟩ := exists_step_of_run rfl hrun
  have hbegun := begun_feed (fun _ htoken => Token.inText_kind_ne (hfront.subset htoken)) hfeed
  obtain ⟨words, hsubset, hwords⟩ := hbegun.exists_words (phase_of_missingValue hstep)
  apply hwords.isDottedWord
  intro other hother
  exact Token.inText_formed (hfront.subset (hsubset hother))

/-- What a fault behind a component has committed is in the order of its keys. -/
theorem ordered {text : Text} {fault : Fault} (h : Definition.read text = .error fault)
    (hlacks : fault.reason.lacksName = false) :
    ∀ use ∈ fault.definition, ComponentUse.Ordered use.options := by
  obtain ⟨due, ⟨-, state, hfeed, hsettle⟩, -, hiff, -⟩ := grounded h
  obtain rfl : due = .settled := hiff.2 hlacks
  have hbegun := begun_feed
    (fun _ htoken => Token.inText_kind_ne (List.mem_of_mem_take htoken)) hfeed
  obtain ⟨uses, -, hmeaning⟩ := begun_settle hbegun hsettle rfl
  have hdefinition : fault.definition = uses.map WrittenUse.meaning := hmeaning
  intro use huse
  rw [hdefinition] at huse
  obtain ⟨written, -, rfl⟩ := List.mem_map.1 huse
  exact written.means_meaning.ordered

/-- Supplying an option that the last use lacks adds one entry. -/
theorem gains_withOption {text : Text} {fault : Fault} (h : Definition.read text = .error fault)
    (hlacks : fault.reason.lacksName = false) {use : ComponentUse}
    (hlast : fault.definition.getLast? = some use) {key : Text}
    (hunused : use.hasOption key = false) (value : Text) :
    fault.definition.Gains key value (fault.definition.withOption key value) := by
  obtain ⟨front, hfront⟩ := List.getLast?_eq_some_iff.1 hlast
  have hordered := ordered h hlacks use (hfront ▸ List.mem_append_right front List.mem_cons_self)
  rw [hfront, Definition.withOption_concat]
  exact ⟨front, use, _, rfl, ComponentUse.gains_withOption hordered hunused value, rfl⟩

end Fault

/-! ## Proposals -/

namespace Strategy

/-- The text that is proposed for a value of the option `key`, which lacks one. -/
def assignment (fault : Fault) (key value : Text) : Text :=
  (Proposal.separate fault.safePrefix (marked (key ++ ['=']) ++ Literal.spell value) "").text

theorem assignment_injective (fault : Fault) (key : Text) :
    Function.Injective (assignment fault key) := by
  intro a b hab
  have hsuffix := Proposal.separate_text_injective fault.safePrefix (fun _ => "") hab
  exact Literal.spell_injective (List.append_cancel_left hsuffix)

/-- The values of an option that lacks one come from an option that can still be supplied. -/
theorem mem_valueCandidates {withDeprecated : Bool} {fault : Fault} {directory : Directory}
    {key : Text} (hreason : fault.reason = .missingOptionValue key true) {entry : Text × String}
    (h : entry ∈ valueCandidates withDeprecated fault directory) :
    ∃ option, openOption? withDeprecated fault directory key = some option ∧
      entry ∈ suggestedValues option := by
  simp only [valueCandidates, hreason] at h
  cases hfound : openOption? withDeprecated fault directory key with
  | none =>
      rw [hfound] at h
      cases h
  | some option =>
      rw [hfound] at h
      exact ⟨option, rfl, h⟩

/-- Behind the equals sign of an option one text is proposed for each of its hints and its default,
in their order and up to the level. It reads as the committed definition with exactly that value
more, under a key that was not there, and different values have different texts. -/
theorem optionValue_readsBack (directory : Directory) (withDeprecated : Bool) (text key : Text)
    (fault : Fault) (h : Definition.read text = .error fault)
    (hreason : fault.reason = .missingOptionValue key true) :
    (∀ level, (optionValue withDeprecated).propose fault directory level =
      (capped level (valueCandidates withDeprecated fault directory)).map fun entry =>
        ⟨assignment fault key entry.1, entry.2⟩) ∧
    (∀ entry ∈ valueCandidates withDeprecated fault directory,
      (∃ option, openOption? withDeprecated fault directory key = some option ∧
        (entry.1 ∈ option.hints ∨ option.defaultValue = some entry.1)) ∧
      ∃ grown, Definition.read (assignment fault key entry.1) = .ok grown ∧
        fault.definition.Gains key entry.1 grown) ∧
    ∀ a b, a ≠ b → assignment fault key a ≠ assignment fault key b := by
  have hlacks : fault.reason.lacksName = false := by
    rw [hreason]
    rfl
  refine ⟨?_, ?_, ?_⟩
  · intro level
    rw [optionValue_propose hreason]
    apply List.map_congr_left
    intro entry _
    exact Proposal.separate_eq _ _ _
  · intro entry hentry
    obtain ⟨option, hfound, hsuggested⟩ := mem_valueCandidates hreason hentry
    refine ⟨⟨option, hfound, mem_suggestedValues hsuggested⟩, ?_⟩
    -- the name was read from the text, so it is written as it was
    have hkey := Fault.isDottedWord_option h hreason
    obtain ⟨use, hlast, hunused⟩ := exists_lastUse hfound
    exact ⟨_, Fault.read_value h hlacks hkey entry.1 "",
      Fault.gains_withOption h hlacks hlast hunused entry.1⟩
  · intro a b hne hsame
    exact hne (assignment_injective fault key hsame)

/-- A catalog with an option of which only one value can be written without quotes. -/
def quoting : Catalog :=
  ⟨[⟨⟨['a'], .source, none⟩, [⟨['x'], [], "", false, some [],
    [['i', 't', '\'', 's'], ['\\', '\n', '\x00'], ['u', '.', 'v']]⟩]⟩]⟩

/-- A quote, a backslash in front of a line break, a dotted word and the empty default. -/
theorem optionValue_readsBack_quoted :
    ∃ fault, Definition.read ['a', ' ', '-', '-', 'x', '='] = .error fault ∧
      fault.reason = .missingOptionValue ['x'] true ∧
      ∀ entry ∈ [(['i', 't', '\'', 's'], "Suggested value"),
          (['\\', '\n', '\x00'], "Suggested value"), (['u', '.', 'v'], "Suggested value"),
          ([], "Default value")],
        ∃ spelled grown, ⟨spelled, entry.2⟩ ∈ (optionValue false).propose fault
            (Directory.ofCatalog quoting .byPosition) 0 ∧
          Definition.read spelled = .ok grown ∧ fault.definition.Gains ['x'] entry.1 grown := by
  refine ⟨_, rfl, rfl, ?_⟩
  obtain ⟨hpropose, hread, -⟩ := optionValue_readsBack (Directory.ofCatalog quoting .byPosition)
    false ['a', ' ', '-', '-', 'x', '='] ['x'] _ rfl rfl
  intro entry hentry
  obtain ⟨-, grown, hgrown, hgains⟩ := hread entry hentry
  rw [hpropose]
  exact ⟨_, grown, List.mem_map.2 ⟨entry, hentry, rfl⟩, hgrown, hgains⟩

end Strategy

end PipeAssist

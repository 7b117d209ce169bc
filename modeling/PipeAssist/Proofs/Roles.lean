import PipeAssist.Shell.Highlight
import PipeAssist.Proofs.Derivations

/-!
# Highlighting follows the grammar

The highlighter styles a lexeme by its kind and by the place that the kinds before it lead to. Along
a derivation of the grammar these places are the right ones: dotted words of an option name stay
where option names are expected, those of a value go to and fro between two places, and every
marker, sign and pipe leads to the place of what is due behind it (`Shown` and its lemmas, one for
each rule of the grammar). What a reading has committed is derived (`Fault.exists_committed`), so
the parts of a line agree with its definition, and up to the checkpoint where the line has a fault
(`highlight_agrees`).
-/

set_option autoImplicit false

namespace PipeAssist

open Grammar

/-! ## Committed tokens are derived -/

/-- The committed tokens of a fault are derived, and they mean the definition of the fault. -/
theorem Fault.exists_committed {finished : Bool} {text : Text} {fault : Fault}
    (h : Definition.ofTokens finished text (Token.scan text) = .error fault) :
    ∃ uses onward, Committed ((Token.inText 0 text).take fault.checkpoint) uses onward ∧
      uses.map WrittenUse.meaning = fault.definition := by
  obtain ⟨due, ⟨-, state, hfeed, hsettle⟩, hrest, -, -⟩ := grounded h
  have hkinds : ∀ token ∈ (Token.inText 0 text).take fault.checkpoint,
      token.kind ≠ .endOfInput := by
    intro token htoken
    exact Token.inText_kind_ne (List.mem_of_mem_take htoken)
  have hbegun := Reading.begun_feed hkinds hfeed
  by_cases hdue : due = .settled
  · obtain ⟨uses, hpipeline, hdefinition⟩ := Reading.begun_settle hbegun hsettle hdue
    exact ⟨uses, false, .pipeline hpipeline, hdefinition.symm⟩
  · -- where a name is due nothing is pending
    rw [Reading.eq_of_settle hsettle hdue] at hbegun
    generalize (Token.inText 0 text).take fault.checkpoint = tokens at hbegun ⊢
    generalize fault.definition = definition at hbegun ⊢
    cases hbegun with
    | start => exact ⟨[], false, .nothing, rfl⟩
    | piped front kind => exact ⟨_, true, .onward front kind, rfl⟩
    | settled whole => exact absurd rfl hdue
    | _ => cases hrest

/-- An option among tokens, with the tokens of its name and of its value: it stands behind a
pipeline, whatever follows it. -/
inductive Grammar.OptionIn : List Token → List Token → List Token → Prop where
  | behind {front keyTokens valueTokens back : List Token} {marker equals : Token}
      {uses : List WrittenUse} {key value : Text} (pipeline : Pipeline front uses)
      (markerKind : marker.kind = .optionMarker) (name : Words keyTokens key)
      (equalsKind : equals.kind = .equals) (valued : Value valueTokens value) :
      OptionIn (front ++ marker :: (keyTokens ++ equals :: (valueTokens ++ back))) keyTokens
        valueTokens

namespace Shell

/-! ## Places behind tokens -/

/-- The place behind tokens of which the first one stands at a place. -/
def Place.afterAll (place : Place) : List Token → Place
  | [] => place
  | token :: rest => (place.after token.kind).afterAll rest

theorem Place.after_optionMarker (place : Place) : place.after .optionMarker = .optionName := rfl

theorem Place.after_equals (place : Place) : place.after .equals = .optionValue := rfl

theorem Place.afterAll_append (place : Place) (a b : List Token) :
    place.afterAll (a ++ b) = (place.afterAll a).afterAll b := by
  induction a generalizing place with
  | nil => rfl
  | cons token rest ih => exact ih (place.after token.kind)

/-- The parts of tokens of which the first one stands at a place, without the blanks. -/
def styleTokens (place : Place) : List Token → List StyledPart
  | [] => []
  | token :: rest =>
    ⟨styleOf place token.kind, token.raw⟩ :: styleTokens (place.after token.kind) rest

theorem styleTokens_append (place : Place) (a b : List Token) :
    styleTokens place (a ++ b) = styleTokens place a ++ styleTokens (place.afterAll a) b := by
  induction a generalizing place with
  | nil => rfl
  | cons token rest ih => exact congrArg (_ :: ·) (ih (place.after token.kind))

/-- Blanks are plain, so that any other style is that of a token. -/
theorem filter_stylePieces {test : StyledPart → Bool} (hplain : ∀ run, test ⟨.plain, run⟩ = false)
    (pieces : List Piece) (place : Place) (offset : Nat) :
    (stylePieces place pieces).filter test =
      (styleTokens place (Token.lay offset pieces)).filter test := by
  induction pieces generalizing place offset with
  | nil => rfl
  | cons piece rest ih =>
      cases piece with
      | blank run =>
          rw [stylePieces, List.filter_cons_of_neg (by simp [hplain]), Token.lay]
          exact ih place _
      | lexeme item =>
          simp only [stylePieces, Token.lay, styleTokens, List.filter_cons]
          rw [ih (place.after item.kind) (offset + Text.byteSize item.raw)]

theorem stylePieces_append (place : Place) (a b : List Piece) :
    ∃ next, stylePieces place (a ++ b) = stylePieces place a ++ stylePieces next b := by
  induction a generalizing place with
  | nil => exact ⟨place, rfl⟩
  | cons piece rest ih =>
      cases piece with
      | blank run =>
          obtain ⟨next, hnext⟩ := ih place
          exact ⟨next, congrArg (_ :: ·) hnext⟩
      | lexeme item =>
          obtain ⟨next, hnext⟩ := ih (place.after item.kind)
          exact ⟨next, congrArg (_ :: ·) hnext⟩

/-- Whether a token is shown in a style: the part that starts at its first byte has its characters
and the style. -/
def Shows (parts : List StyledPart) (token : Token) (style : Style) : Prop :=
  ∃ before after, parts = before ++ ⟨style, token.raw⟩ :: after ∧
    Text.byteSize (before.flatMap (·.text)) = token.start

/-- A token has a part of its own, in the style of the place behind the tokens before it. -/
theorem exists_part (place : Place) {pieces : List Piece} {offset : Nat} {front back : List Token}
    {token : Token} (h : Token.lay offset pieces = front ++ token :: back) :
    ∃ before after, stylePieces place pieces =
        before ++ ⟨styleOf (place.afterAll front) token.kind, token.raw⟩ :: after ∧
      offset + Text.byteSize (before.flatMap (·.text)) = token.start := by
  -- every piece moves the offset on, but only lexemes move the place
  induction pieces generalizing offset place front with
  | nil => simp [Token.lay] at h
  | cons piece rest ih =>
      cases piece with
      | blank run =>
          obtain ⟨before, after, hparts, hstart⟩ := ih place h
          refine ⟨⟨.plain, run⟩ :: before, after, congrArg (_ :: ·) hparts, ?_⟩
          rw [List.flatMap_cons, Text.byteSize_append, ← Nat.add_assoc, hstart]
      | lexeme item =>
          cases front with
          | nil =>
              obtain ⟨rfl, -⟩ := List.cons.inj h
              exact ⟨[], stylePieces (place.after item.kind) rest, rfl, rfl⟩
          | cons first front =>
              obtain ⟨rfl, hrest⟩ := List.cons.inj h
              obtain ⟨before, after, hparts, hstart⟩ := ih (place.after item.kind) hrest
              refine ⟨⟨styleOf place item.kind, item.raw⟩ :: before, after,
                congrArg (_ :: ·) hparts, ?_⟩
              rw [List.flatMap_cons, Text.byteSize_append, ← Nat.add_assoc, hstart]

theorem shows_of_inText {text : Text} {front back : List Token} {token : Token}
    (h : Token.inText 0 text = front ++ token :: back) :
    Shows (highlight true text) token
      (styleOf (Place.component.afterAll front) token.kind) := by
  obtain ⟨before, after, hparts, hstart⟩ := exists_part .component h
  exact ⟨before, after, hparts, by rw [← hstart, Nat.zero_add]⟩

/-! ## Tokens of a derivation -/

/-- Parts in the style of component names. -/
def StyledPart.isName (part : StyledPart) : Bool := part.style = .boldColored .cyan

/-- Parts in red, bold or not. -/
def StyledPart.isRed (part : StyledPart) : Bool := part.style.color = some .red

/-- How tokens are shown from one place to another: `names` are in the style of component names, and
nothing is red. -/
structure Shown (place : Place) (tokens : List Token) (next : Place) (names : List Text) :
    Prop where
  after : place.afterAll tokens = next
  names : ((styleTokens place tokens).filter StyledPart.isName).map (·.text) = names
  notRed : (styleTokens place tokens).filter StyledPart.isRed = []

namespace Shown

theorem append {place middle next : Place} {a b : List Token} {first second : List Text}
    (ha : Shown place a middle first) (hb : Shown middle b next second) :
    Shown place (a ++ b) next (first ++ second) where
  after := by rw [Place.afterAll_append, ha.after, hb.after]
  names := by
    rw [styleTokens_append, List.filter_append, List.map_append, ha.names, ha.after, hb.names]
  notRed := by
    rw [styleTokens_append, List.filter_append, ha.notRed, ha.after, hb.notRed]
    rfl

/-- A token that is neither a name nor red. -/
theorem single {place : Place} {token : Token}
    (hname : styleOf place token.kind ≠ .boldColored .cyan)
    (hred : (styleOf place token.kind).color ≠ some .red) :
    Shown place [token] (place.after token.kind) [] where
  after := rfl
  names := by simp [styleTokens, StyledPart.isName, hname]
  notRed := by simp [styleTokens, StyledPart.isRed, hred]

/-- A pipe, an option marker or an equals sign leads to the place of what is due behind it. -/
theorem sign {token : Token} {kind : Token.Kind} (h : token.kind = kind)
    (hsign : kind = .pipe ∨ kind = .optionMarker ∨ kind = .equals) (place : Place) :
    Shown place [token] (Place.component.after kind) [] := by
  have hafter : place.after token.kind = Place.component.after kind := by
    rcases hsign with rfl | rfl | rfl <;> rw [h] <;> rfl
  rw [← hafter]
  apply single
  · rcases hsign with rfl | rfl | rfl <;> simp [h, styleOf, Style.boldColored, Style.colored]
  · rcases hsign with rfl | rfl | rfl <;> simp [h, styleOf, Style.boldColored, Style.colored]

theorem pipe {token : Token} (h : token.kind = .pipe) (place : Place) :
    Shown place [token] .component [] :=
  sign h (Or.inl rfl) place

end Shown

/-- Places between which dotted words lead: an identifier leads from the first to the second and a
dot leads back, and identifiers at the first are neither names nor red. -/
structure Place.Carries (start stop : Place) : Prop where
  word : start.after .identifier = stop
  dot : stop.after .dot = start
  notName : start.style ≠ .boldColored .cyan
  notRed : start.style.color ≠ some .red

theorem Place.carries_name : Carries .optionName .optionName := ⟨rfl, rfl, by decide, by decide⟩

theorem Place.carries_value : Carries .optionValue .afterValue := ⟨rfl, rfl, by decide, by decide⟩

theorem Place.Carries.shown_word {start stop : Place} (h : start.Carries stop) {token : Token}
    (hkind : token.kind = .identifier) : Shown start [token] stop [] := by
  have hshown : Shown start [token] (start.after token.kind) [] :=
    .single (by rw [hkind]; exact h.notName) (by rw [hkind]; exact h.notRed)
  rwa [hkind, h.word] at hshown

theorem Place.Carries.shown_dot {start stop : Place} (h : start.Carries stop) {token : Token}
    (hkind : token.kind = .dot) : Shown stop [token] start [] := by
  have hshown : Shown stop [token] (stop.after token.kind) [] :=
    .single (by simp [hkind, styleOf, Style.boldColored, Style.colored])
      (by simp [hkind, styleOf, Style.colored])
  rwa [hkind, h.dot] at hshown

theorem shown_words {start stop : Place} (hcarries : start.Carries stop) {tokens : List Token}
    {text : Text} (h : Words tokens text) : Shown start tokens stop [] := by
  induction h with
  | word kind => exact hcarries.shown_word kind
  | dotted _ dotKind kind ih =>
      exact ih.append ((hcarries.shown_dot dotKind).append (hcarries.shown_word kind))

theorem shown_value {tokens : List Token} {value : Text} (h : Value tokens value) :
    ∃ next, Shown .optionValue tokens next [] := by
  cases h with
  | plain words => exact ⟨_, shown_words Place.carries_value words⟩
  | @quoted token kind =>
      refine ⟨_, @Shown.single _ token ?_ ?_⟩
      · simp [kind, styleOf, Style.boldColored, Style.colored]
      · simp [kind, styleOf, Style.colored]

theorem shown_setting {tokens : List Token} {key value : Text} (h : Setting tokens key value)
    (place : Place) : ∃ next, Shown place tokens next [] := by
  cases h with
  | assign markerKind keyWords equalsKind valued =>
      -- a marker leads to option names from any place, so a setting may stand anywhere
      obtain ⟨next, hvalue⟩ := shown_value valued
      have hname := shown_words Place.carries_name keyWords
      have hmarker := Shown.sign markerKind (Or.inr (Or.inl rfl)) place
      have hequals := Shown.sign equalsKind (Or.inr (Or.inr rfl)) .optionName
      exact ⟨next, hmarker.append (hname.append (hequals.append hvalue))⟩

/-- A component use shows its name and nothing else as a name. -/
theorem shown_use {tokens : List Token} {written : WrittenUse} (h : Use tokens written)
    (hraw : ∀ token ∈ tokens, token.kind = .identifier → token.raw = token.value) :
    ∃ next, Shown .component tokens next [written.name] := by
  induction h with
  | @name token kind =>
      refine ⟨.afterComponent, ?_, ?_, ?_⟩
      · simp [Place.afterAll, kind, Place.after]
      · simp [styleTokens, StyledPart.isName, styleOf, Place.style, kind,
          hraw token List.mem_cons_self kind]
      · simp [styleTokens, StyledPart.isRed, styleOf, Place.style, kind, Style.boldColored]
  | option _ setting ih =>
      obtain ⟨middle, hfront⟩ := ih fun token htoken => hraw token (List.mem_append_left _ htoken)
      obtain ⟨next, hsetting⟩ := shown_setting setting middle
      exact ⟨next, hfront.append hsetting⟩

theorem shown_pipeline {tokens : List Token} {uses : List WrittenUse} (h : Pipeline tokens uses)
    (hraw : ∀ token ∈ tokens, token.kind = .identifier → token.raw = token.value) :
    ∃ next, Shown .component tokens next (uses.map (·.name)) := by
  induction h with
  | use single => exact shown_use single hraw
  | pipe _ kind last ih =>
      obtain ⟨middle, hfront⟩ := ih fun token htoken => hraw token (List.mem_append_left _ htoken)
      obtain ⟨next, hlast⟩ := shown_use last fun token htoken =>
        hraw token (List.mem_append_right _ (List.mem_cons_of_mem _ htoken))
      rw [List.map_append]
      exact ⟨next, hfront.append ((Shown.pipe kind middle).append hlast)⟩

theorem shown_committed {tokens : List Token} {uses : List WrittenUse} {onward : Bool}
    (h : Committed tokens uses onward)
    (hraw : ∀ token ∈ tokens, token.kind = .identifier → token.raw = token.value) :
    ∃ next, Shown .component tokens next (uses.map (·.name)) := by
  cases h with
  | nothing => exact ⟨.component, rfl, rfl, rfl⟩
  | pipeline front => exact shown_pipeline front hraw
  | onward front kind =>
      obtain ⟨middle, hfront⟩ :=
        shown_pipeline front fun token htoken => hraw token (List.mem_append_left _ htoken)
      have hshown := hfront.append (Shown.pipe kind middle)
      rw [List.append_nil] at hshown
      exact ⟨_, hshown⟩

/-! ## Names and values of options -/

/-- Dotted words are identifiers and dots, and before each identifier stands the place where the
words started. -/
theorem exists_word {start stop : Place} (hcarries : start.Carries stop) {tokens : List Token}
    {text : Text} (h : Words tokens text) {token : Token} (hmem : token ∈ tokens)
    (hkind : token.kind ≠ .dot) :
    token.kind = .identifier ∧
      ∃ front back, tokens = front ++ token :: back ∧ start.afterAll front = start := by
  induction h with
  | word kind =>
      rw [List.mem_singleton.1 hmem]
      exact ⟨kind, [], [], rfl, rfl⟩
  | @dotted tokens text dot last words dotKind kind ih =>
      rcases List.mem_append.1 hmem with hfront | hlast
      · obtain ⟨hword, front, back, rfl, hplace⟩ := ih hfront
        exact ⟨hword, front, back ++ [dot, last], by simp, hplace⟩
      · simp only [List.mem_cons, List.not_mem_nil, or_false] at hlast
        rcases hlast with rfl | rfl
        · exact absurd dotKind hkind
        · -- the words in front and the dot lead back to where they started
          refine ⟨kind, tokens ++ [dot], [], by simp, ?_⟩
          exact ((shown_words hcarries words).append (hcarries.shown_dot dotKind)).after

/-- Identifiers and literals of a value are green. -/
theorem exists_value {tokens : List Token} {value : Text} (h : Value tokens value) {token : Token}
    (hmem : token ∈ tokens) (hkind : token.kind ≠ .dot) :
    ∃ front back, tokens = front ++ token :: back ∧
      styleOf (Place.optionValue.afterAll front) token.kind = .colored .green := by
  cases h with
  | quoted kind =>
      rw [List.mem_singleton.1 hmem, kind]
      exact ⟨[], [], rfl, rfl⟩
  | plain words =>
      obtain ⟨hword, front, back, htokens, hplace⟩ :=
        exists_word Place.carries_value words hmem hkind
      exact ⟨front, back, htokens, by rw [hplace, hword]; rfl⟩

section Options

variable {text : Text} {keyTokens valueTokens : List Token}
  (h : OptionIn (Token.inText 0 text) keyTokens valueTokens) {token : Token}

include h

/-- The identifiers of an option name are yellow. -/
theorem shows_optionName (hmem : token ∈ keyTokens) (hkind : token.kind = .identifier) :
    Shows (highlight true text) token (.colored .yellow) := by
  generalize htokens : Token.inText 0 text = tokens at h
  cases h with
  | @behind front _ _ back marker equals uses key value _ markerKind name _ _ =>
      obtain ⟨-, before, after, rfl, hplace⟩ :=
        exists_word Place.carries_name name hmem (by simp [hkind])
      have hposition : Token.inText 0 text = (front ++ marker :: before) ++ token ::
          (after ++ equals :: (valueTokens ++ back)) := by
        rw [htokens]
        simp
      have hshows := shows_of_inText hposition
      -- the marker leads to option names from wherever the pipeline ends
      rwa [Place.afterAll_append, Place.afterAll, markerKind, Place.after_optionMarker, hplace,
        hkind] at hshows

/-- The identifiers and literals of an option value are green. -/
theorem shows_optionValue (hmem : token ∈ valueTokens)
    (hkind : token.kind = .identifier ∨ token.kind = .stringLiteral) :
    Shows (highlight true text) token (.colored .green) := by
  generalize htokens : Token.inText 0 text = tokens at h
  cases h with
  | @behind front _ _ back marker equals uses key value _ _ _ equalsKind valued =>
      obtain ⟨before, after, rfl, hstyle⟩ := exists_value valued hmem
        (by rcases hkind with hkind | hkind <;> simp [hkind])
      have hposition : Token.inText 0 text = (front ++ marker :: (keyTokens ++ equals :: before)) ++
          token :: (after ++ back) := by
        rw [htokens]
        simp
      have hshows := shows_of_inText hposition
      rwa [Place.afterAll_append, Place.afterAll, Place.afterAll_append, Place.afterAll, equalsKind,
        Place.after_equals, hstyle] at hshows

end Options

/-! ## Lines -/

/-- Parts of a line that agree with a definition which its tokens make up: the parts in the style of
component names are its names in order, identifiers of option names are yellow, identifiers and
literals of option values are green, and nothing is red. -/
structure Agrees (parts : List StyledPart) (tokens : List Token) (definition : Definition) :
    Prop where
  derived : ∃ uses onward, Committed tokens uses onward ∧
    uses.map WrittenUse.meaning = definition
  names : (parts.filter fun part => part.style = .boldColored .cyan).map (·.text) =
    definition.map (·.name)
  optionNames : ∀ keyTokens valueTokens, OptionIn tokens keyTokens valueTokens →
    ∀ token ∈ keyTokens, token.kind = .identifier → Shows parts token (.colored .yellow)
  optionValues : ∀ keyTokens valueTokens, OptionIn tokens keyTokens valueTokens →
    ∀ token ∈ valueTokens, token.kind = .identifier ∨ token.kind = .stringLiteral →
      Shows parts token (.colored .green)
  notRed : ∀ part ∈ parts, part.style.color ≠ some .red

/-- A text whose tokens are derived is shown as its derivation says. -/
theorem agrees_of_committed {text : Text} {uses : List WrittenUse} {onward : Bool}
    (h : Committed (Token.inText 0 text) uses onward) :
    Agrees (highlight true text) (Token.inText 0 text) (uses.map WrittenUse.meaning) := by
  have hraw : ∀ token ∈ Token.inText 0 text, token.kind = .identifier →
      token.raw = token.value := by
    intro token htoken hkind
    exact (Token.formed_identifier (Token.inText_formed htoken) hkind).2
  obtain ⟨next, hshown⟩ := shown_committed h hraw
  refine ⟨⟨uses, onward, h, rfl⟩, ?_, ?_, ?_, ?_⟩
  · calc ((highlight true text).filter StyledPart.isName).map (·.text)
        = ((styleTokens .component (Token.inText 0 text)).filter StyledPart.isName).map
            (·.text) :=
          congrArg (List.map (·.text)) (filter_stylePieces (fun _ => rfl) _ _ _)
      _ = uses.map (·.name) := hshown.names
      _ = (uses.map WrittenUse.meaning).map (·.name) := by simp
  · intro keyTokens valueTokens hoption token hmem hkind
    exact shows_optionName hoption hmem hkind
  · intro keyTokens valueTokens hoption token hmem hkind
    exact shows_optionValue hoption hmem hkind
  · intro part hpart hred
    have hnone : (highlight true text).filter StyledPart.isRed = [] :=
      (filter_stylePieces (fun _ => rfl) _ _ 0).trans hshown.notRed
    exact (List.filter_eq_nil_iff.1 hnone) part hpart (by simp [StyledPart.isRed, hred])

/-- Highlighting agrees with reading. The parts of a line that is complete when it is finished agree
with its definition. Where the line has a fault, its first parts are those of the committed text,
and they agree with what was committed. -/
theorem highlight_agrees (line : Text) :
    match Definition.readFinished line with
    | .ok definition =>
      Agrees (highlight true line) ((Token.scan line).filter Token.isSignificant) definition
    | .error fault =>
      ∃ rest, highlight true line = highlight true fault.safePrefix ++ rest ∧
        Agrees (highlight true fault.safePrefix) (fault.tokens.take fault.checkpoint)
          fault.definition := by
  cases hread : Definition.readFinished line with
  | ok definition =>
      obtain ⟨uses, hpipeline, rfl⟩ := Definition.derived_of_complete hread
      simp only [Token.filter_isSignificant_scan]
      exact agrees_of_committed (.pipeline hpipeline)
  | error fault =>
      obtain ⟨-, htokens, -⟩ := Fault.ofScan hread
      obtain ⟨-, ⟨hle, -⟩, -⟩ := Fault.grounded hread
      -- the committed text is cut off between two pieces, so its parts are the first ones
      obtain ⟨rest, -, hsplit, htaken, -, -⟩ := Fault.cut_pieces hread
      obtain ⟨uses, onward, hcommitted, hmeaning⟩ := Fault.exists_committed hread
      obtain ⟨next, hparts⟩ := stylePieces_append .component (Piece.split fault.safePrefix)
        (Piece.split rest)
      refine ⟨stylePieces next (Piece.split rest), ?_, ?_⟩
      · rw [← hsplit] at hparts
        exact hparts
      · rw [htokens, Token.scan_eq, List.take_append_of_le_length hle, ← htaken, ← hmeaning]
        rw [← htaken] at hcommitted
        exact agrees_of_committed hcommitted

example : (highlight true "a --k.l=v.w x".toList).map (fun part => part.style) =
    [.boldColored .cyan, .plain, .colored .yellow, .colored .yellow, .colored .yellow,
      .colored .yellow, .colored .darkGray, .colored .green, .colored .yellow, .colored .green,
      .plain, .colored .red] := by
  decide

end Shell

end PipeAssist

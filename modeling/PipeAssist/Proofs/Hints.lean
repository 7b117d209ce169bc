import PipeAssist.Catalog.Builtin
import PipeAssist.Shell.Hint
import PipeAssist.Proofs.Registrations
import PipeAssist.Proofs.Spans

/-!
# Hints along an editing session

While lines are edited, lines are saved to the history and hints are asked for, in any order
(`EditEvent`). A hint is what a longer text has behind the line (`extension_eq`): the first
proposal that is one, or else the line that a search of the history finds. The history is that of
the line editor, whichever it is: that its searches find the newest saved line is an assumption
(`FindsNewest`), which holds of the history in memory as long as it has room
(`History.findsNewest`). The hint on display is found anew for every line, and where there is none
it is empty; the same comes from clearing it in place and setting it again where one is found
(`Hinter.refresh`). The main statement says what is on display after any sequence of events
(`hint_current`).
-/

set_option autoImplicit false

namespace PipeAssist.Shell

/-! ## Longer texts -/

/-- Whether a text starts with a line and goes on behind it. -/
def isLonger (line longer : Text) : Bool :=
  Text.byteSize line < Text.byteSize longer && Text.startsWith longer line

/-- What a text has from the byte on where a line ends. -/
def behind (line longer : Text) : Text :=
  longer.between (Text.byteSize line) (Text.byteSize longer)

theorem isLonger_iff (line longer : Text) :
    isLonger line longer = true ↔ ∃ rest, longer = line ++ rest ∧ rest ≠ [] := by
  rw [isLonger, Bool.and_eq_true, decide_eq_true_eq, Text.startsWith, List.isPrefixOf_iff_prefix]
  constructor
  · rintro ⟨hless, rest, rfl⟩
    refine ⟨rest, rfl, ?_⟩
    rintro rfl
    simp at hless
  · rintro ⟨rest, rfl, hne⟩
    have hpos := Text.byteSize_pos hne
    rw [Text.byteSize_append]
    exact ⟨by omega, List.prefix_append line rest⟩

theorem behind_append (line rest : Text) : behind line (line ++ rest) = rest := by
  have hcut := Text.between_append line rest []
  rwa [List.append_nil, ← Text.byteSize_append] at hcut

theorem append_behind {line longer : Text} (h : isLonger line longer = true) :
    line ++ behind line longer = longer := by
  obtain ⟨rest, rfl, -⟩ := (isLonger_iff line longer).1 h
  rw [behind_append]

theorem behind_ne_nil {line longer : Text} (h : isLonger line longer = true) :
    behind line longer ≠ [] := by
  obtain ⟨rest, rfl, hne⟩ := (isLonger_iff line longer).1 h
  rwa [behind_append]

/-- A text goes on with a line if it is longer, and with what it has behind it: characters and
bytes count alike. -/
theorem extension_eq (line longer : Text) :
    extension? line longer = (Option.guard (isLonger line) longer).map (behind line) := by
  cases hlonger : isLonger line longer with
  | true =>
      obtain ⟨rest, rfl, hne⟩ := (isLonger_iff line longer).1 hlonger
      have hstarts : Text.startsWith (line ++ rest) line = true :=
        List.isPrefixOf_iff_prefix.2 (List.prefix_append line rest)
      have hpos := List.length_pos_iff.2 hne
      simp [extension?, hstarts, Option.guard, hlonger, behind_append, hpos]
  | false =>
      have hnot : (Text.startsWith longer line && line.length < longer.length) = false := by
        rw [Bool.eq_false_iff]
        intro htrue
        rw [Bool.and_eq_true, Text.startsWith, List.isPrefixOf_iff_prefix,
          decide_eq_true_eq] at htrue
        obtain ⟨⟨rest, rfl⟩, hless⟩ := htrue
        have hne : rest ≠ [] := by
          rintro rfl
          simp at hless
        rw [(isLonger_iff line (line ++ rest)).2 ⟨rest, rfl, hne⟩] at hlonger
        cases hlonger
      simp [extension?, hnot, Option.guard, hlonger]

/-! ## Editing -/

/-- What is done while lines are edited: a line is saved, or the hint for a line is asked for with
the cursor at a byte. -/
inductive EditEvent where
  | save (line : Text)
  | handle (line : Text) (cursor : Nat)
deriving DecidableEq, Repr

/-- The lines that are saved, newest first. -/
def EditEvent.saved : List EditEvent → List Text
  | [] => []
  | .save line :: rest => saved rest ++ [line]
  | .handle _ _ :: rest => saved rest

theorem EditEvent.saved_append (a b : List EditEvent) : saved (a ++ b) = saved b ++ saved a := by
  induction a with
  | nil => exact (List.append_nil _).symm
  | cons event rest ih =>
      cases event with
      | save line => rw [List.cons_append, saved, saved, ih, List.append_assoc]
      | handle line cursor => exact ih

/-- The history, and the hint on display. -/
structure Editing (σ : Type) where
  history : σ
  hinter : Hinter := {}
deriving DecidableEq, Repr

section Events

variable {σ : Type} [LineHistory σ]

/-- The history behind some saved lines, which are listed newest first. -/
def LineHistory.saveAll (history : σ) (saved : List Text) : σ :=
  saved.foldr (fun line history => save history line) history

namespace Editing

/-- One event. -/
def after (engine : Engine) (editing : Editing σ) : EditEvent → Editing σ
  | .save line => { editing with history := LineHistory.save editing.history line }
  | .handle line cursor =>
    { editing with hinter := editing.hinter.handle engine editing.history line cursor }

/-- Events, one after the other. -/
def afterAll (engine : Engine) (editing : Editing σ) (events : List EditEvent) : Editing σ :=
  events.foldl (after engine) editing

theorem afterAll_concat (engine : Engine) (editing : Editing σ) (events : List EditEvent)
    (event : EditEvent) :
    editing.afterAll engine (events ++ [event]) =
      (editing.afterAll engine events).after engine event := List.foldl_concat ..

/-- Only saving changes the history. -/
theorem history_afterAll (engine : Engine) (editing : Editing σ) (events : List EditEvent) :
    (editing.afterAll engine events).history =
      LineHistory.saveAll editing.history (EditEvent.saved events) := by
  -- the newest line is saved last, so the events are taken from the last one back
  induction events using List.reverseRecOn with
  | nil => rfl
  | append_singleton front event ih =>
      rw [afterAll_concat, EditEvent.saved_append]
      cases event with
      | save line => exact congrArg (LineHistory.save · line) ih
      | handle line cursor => exact ih

end Editing

end Events

/-! ## The history -/

/-- What is asked of a history: once the lines are saved, which are listed newest first, a search
finds the newest one that starts with the text that is looked for. -/
def FindsNewest {σ : Type} [LineHistory σ] (fresh : σ) (saved : List Text) : Prop :=
  ∀ start, start ≠ [] → LineHistory.newestWith? (LineHistory.saveAll fresh saved) start =
    saved.find? fun line => Text.startsWith line start

@[simp] theorem History.capacity_save (history : History) (line : Text) :
    (history.save line).capacity = history.capacity := by
  unfold save
  split <;> rfl

/-- A history that finds what a search through all saved lines, newest first, would find. -/
structure History.Remembers (history : History) (saved : List Text) : Prop where
  length_le : history.lines.length ≤ saved.length
  newestWith : ∀ start, start ≠ [] →
    history.newestWith? start = saved.find? fun line => Text.startsWith line start

/-- What saving one line preserves, as long as there is room. -/
theorem History.Remembers.save {history : History} {saved : List Text}
    (h : history.Remembers saved) (hroom : saved.length < history.capacity) (line : Text) :
    (history.save line).Remembers (line :: saved) := by
  have hlength := h.length_le
  unfold History.save
  by_cases hempty : line = []
  · -- an empty line starts with nothing that is looked for
    subst hempty
    refine ⟨by simp; omega, fun start hstart => ?_⟩
    have hnot : Text.startsWith [] start = false := by
      obtain ⟨c, cs, rfl⟩ := List.exists_cons_of_ne_nil hstart
      rfl
    simpa [hnot] using h.newestWith start hstart
  by_cases hsame : history.lines.head? = some line
  · -- the newest line again: it is found where it stands already
    refine ⟨by simp [hsame]; omega, fun start hstart => ?_⟩
    have hnewest := h.newestWith start hstart
    obtain ⟨older, hlines⟩ := List.head?_eq_some_iff.1 hsame
    simp only [hsame, decide_true, Bool.or_true, if_true]
    cases hfits : Text.startsWith line start with
    | true => simp [newestWith?, hlines, hfits]
    | false => simpa [hfits] using hnewest
  · have hkept : (line :: history.lines).take history.capacity = line :: history.lines :=
      List.take_of_length_le (by simp; omega)
    simp only [hempty, hsame, decide_false, Bool.or_false, Bool.false_eq_true, if_false, hkept]
    refine ⟨by simp; omega, fun start hstart => ?_⟩
    have hnewest := h.newestWith start hstart
    unfold newestWith? at hnewest ⊢
    simp only [List.find?_cons, hnewest]

/-- What saving lines preserves, with room for all of them. -/
theorem History.remembers_saveAll {capacity : Nat} {saved : List Text}
    (hroom : saved.length ≤ capacity) :
    (LineHistory.saveAll (⟨capacity, []⟩ : History) saved).capacity = capacity ∧
      (LineHistory.saveAll (⟨capacity, []⟩ : History) saved).Remembers saved := by
  induction saved with
  | nil => exact ⟨rfl, Nat.le_refl _, fun _ _ => rfl⟩
  | cons line older ih =>
      have hless : older.length < capacity := hroom
      obtain ⟨hcapacity, hremembers⟩ := ih (Nat.le_of_lt hless)
      exact ⟨(capacity_save _ line).trans hcapacity,
        hremembers.save (hcapacity.symm ▸ hless) line⟩

/-- With room for all of them, the newest of the saved lines is found. -/
theorem History.findsNewest {capacity : Nat} {saved : List Text}
    (hroom : saved.length ≤ capacity) : FindsNewest (⟨capacity, []⟩ : History) saved :=
  (remembers_saveAll hroom).2.newestWith

/-! ## The hint for a line -/

section Hint

variable {σ : Type} [LineHistory σ]
variable {engine : Engine} {history : σ} {line : Text} {cursor : Nat}

theorem hintFor_eq_nil (h : cursor ≠ Text.byteSize line ∨ Text.isAllBlank line = true) :
    hintFor engine history line cursor = [] := by
  unfold hintFor
  rcases h with hcursor | hblank
  · simp [hcursor]
  · simp [hblank]

theorem hintFor_eq (hcursor : cursor = Text.byteSize line)
    (hblank : Text.isAllBlank line = false) :
    hintFor engine history line cursor =
      ((proposedHint? engine line).or (rememberedHint? history line)).getD [] := by
  simp [hintFor, hcursor, hblank]

/-- The first proposal that goes on with the line is the one that counts. -/
theorem proposedHint_eq :
    proposedHint? engine line =
      ((engine.complete line 0).find? fun p => isLonger line p.text).map
        fun p => behind line p.text := by
  rw [proposedHint?, List.find?_eq_findSome?_guard, List.map_findSome?]
  congr 1
  funext p
  rw [extension_eq]
  simp only [Function.comp, Option.guard]
  split <;> rfl

/-- The newest line of the history that starts with the line counts if it goes on with it. -/
theorem rememberedHint_eq :
    rememberedHint? history line =
      ((LineHistory.newestWith? history line).filter (isLonger line)).map (behind line) := by
  rw [rememberedHint?]
  cases LineHistory.newestWith? history line with
  | none => rfl
  | some entry =>
      rw [Option.bind_some, extension_eq]
      rfl

/-- A hint that is found is not empty. -/
theorem ne_nil_of_found {hint : Text}
    (h : (proposedHint? engine line).or (rememberedHint? history line) = some hint) :
    hint ≠ [] := by
  rw [proposedHint_eq, rememberedHint_eq, Option.or_eq_some_iff, Option.map_eq_some_iff,
    Option.map_eq_some_iff] at h
  rcases h with ⟨proposal, hfind, rfl⟩ | ⟨-, entry, hentry, rfl⟩
  · have hlonger : isLonger line proposal.text = true := by
      simpa using List.find?_some hfind
    exact behind_ne_nil hlonger
  · exact behind_ne_nil (Option.filter_eq_some_iff.1 hentry).2

/-- What the line becomes with its hint. -/
theorem append_hintFor (hcursor : cursor = Text.byteSize line)
    (hblank : Text.isAllBlank line = false) :
    (∀ proposal, (engine.complete line 0).find? (fun p => isLonger line p.text) = some proposal →
      line ++ hintFor engine history line cursor = proposal.text) ∧
    ((∀ proposal ∈ engine.complete line 0, isLonger line proposal.text = false) →
      (∀ entry, LineHistory.newestWith? history line = some entry → isLonger line entry = true →
        line ++ hintFor engine history line cursor = entry) ∧
      ((∀ entry, LineHistory.newestWith? history line = some entry → isLonger line entry = false) →
        hintFor engine history line cursor = [])) := by
  rw [hintFor_eq hcursor hblank, proposedHint_eq, rememberedHint_eq]
  constructor
  · intro proposal hproposal
    have hlonger : isLonger line proposal.text = true := by
      simpa using List.find?_some hproposal
    rw [hproposal]
    exact append_behind hlonger
  · intro hproposals
    have hskip : (engine.complete line 0).find? (fun p => isLonger line p.text) = none := by
      rw [List.find?_eq_none]
      intro proposal hmem
      simp [hproposals proposal hmem]
    rw [hskip]
    constructor
    · intro entry hfound hlonger
      rw [hfound]
      simpa [Option.filter, hlonger] using append_behind hlonger
    · intro hshort
      have hfilter :
          (LineHistory.newestWith? history line).filter (isLonger line) = none := by
        rw [Option.filter_eq_none_iff]
        intro entry hentry
        simp [hshort entry hentry]
      rw [hfilter]
      rfl

end Hint

/-! ## In place -/

namespace Hinter

section InPlace

variable {σ : Type} [LineHistory σ]

/-- The hint of another line, found in place: the one on display is cleared first, and set again
only where there is one. Texts are compared and cut by bytes. The result is what is shown. -/
def refresh (engine : Engine) (history : σ) (line : Text) (cursor : Nat) (colors : Bool) :
    StateM Hinter String := do
  set (⟨[]⟩ : Hinter)
  if cursor ≠ Text.byteSize line || Text.trim line = [] then
    return ""
  let proposed := ((engine.complete line 0).find? fun p => isLonger line p.text).map
    fun p => behind line p.text
  let remembered :=
    ((LineHistory.newestWith? history line).filter (isLonger line)).map (behind line)
  match proposed.or remembered with
  | none => return ""
  | some hint =>
    set (⟨hint⟩ : Hinter)
    return if colors then style.paint (Text.str hint) else Text.str hint

/-- Finding the hint in place comes to the same, whatever is on display before. -/
theorem refresh_run (hinter : Hinter) (engine : Engine) (history : σ) (line : Text)
    (cursor : Nat) (colors : Bool) :
    (refresh engine history line cursor colors).run hinter =
      ((hinter.handle engine history line cursor).shown colors,
        hinter.handle engine history line cursor) := by
  unfold refresh handle
  by_cases hnone : cursor ≠ Text.byteSize line ∨ Text.isAllBlank line = true
  · have hcheck :
        (decide (cursor ≠ Text.byteSize line) || decide (Text.trim line = [])) = true := by
      simpa [Text.trim_eq_nil_iff] using hnone
    rw [hintFor_eq_nil hnone]
    simp only [hcheck]
    cases colors <;> rfl
  · have hcheck :
        (decide (cursor ≠ Text.byteSize line) || decide (Text.trim line = [])) = false := by
      simpa [Text.trim_eq_nil_iff] using hnone
    rw [not_or, ne_eq, not_not, Bool.not_eq_true] at hnone
    rw [hintFor_eq hnone.1 hnone.2]
    simp only [hcheck, ← proposedHint_eq, ← rememberedHint_eq]
    cases hfound : (proposedHint? engine line).or (rememberedHint? history line) with
    | none => cases colors <;> rfl
    | some hint =>
        have hne := ne_nil_of_found hfound
        simp [shown, hne]
        rfl

end InPlace

/-! ## The next word -/

/-- The first word of the hint stands behind its leading blanks and ends at a blank or where the
hint does. Where the hint has no word, the blanks are all of it. -/
theorem nextWord_spec (hinter : Hinter) :
    ∃ blanks word rest, hinter.hint = blanks ++ word ++ rest ∧ hinter.nextWord = blanks ++ word ∧
      Text.isAllBlank blanks = true ∧ (∀ c ∈ word, Text.isBlank c = false) ∧
      (∀ c ∈ rest.head?, Text.isBlank c = true) ∧ (word = [] → rest = []) := by
  let blanks := hinter.hint.takeWhile Text.isBlank
  let behindBlanks := hinter.hint.dropWhile Text.isBlank
  have hhint : hinter.hint = blanks ++ behindBlanks := List.takeWhile_append_dropWhile.symm
  have hdrop : hinter.hint.drop blanks.length = behindBlanks := by
    conv_lhs => rw [hhint]
    exact List.drop_left
  refine ⟨blanks, behindBlanks.takeWhile fun c => !Text.isBlank c,
    behindBlanks.dropWhile fun c => !Text.isBlank c, ?_, ?_, ?_, ?_, ?_, ?_⟩
  · rw [List.append_assoc, List.takeWhile_append_dropWhile, ← hhint]
  · rw [← hdrop]
    rfl
  · exact List.all_eq_true.2 fun c hc => List.mem_takeWhile_imp hc
  · intro c hc
    simpa using List.mem_takeWhile_imp hc
  · intro c hc
    have hhead := Piece.head_dropWhile (fun c => !Text.isBlank c) behindBlanks
    rw [Option.mem_def.1 hc] at hhead
    simpa using hhead
  · -- behind the blanks comes a word, if anything
    intro hword
    have hhead := Piece.head_dropWhile Text.isBlank hinter.hint
    cases hcase : behindBlanks with
    | nil => rfl
    | cons c cs =>
        have hblank : Text.isBlank c = false := by
          have hfirst : (hinter.hint.dropWhile Text.isBlank).head? = some c := by
            rw [show hinter.hint.dropWhile Text.isBlank = c :: cs from hcase]
            rfl
          rw [hfirst] at hhead
          simpa using hhead
        rw [hcase] at hword
        simp [hblank] at hword

end Hinter

/-- What is on display after any sequence of events whose last one asks for the hint of a line, with
any history. There is no hint unless the cursor is at the end of a line that is not blank. Otherwise
the line and the hint are the first proposal that goes on with the line; or else the line found in
the history, if it goes on; or else there is no hint. The line that is found is the newest of the
saved lines that starts with this one, if the history finds the newest; one in memory with room for
the lines does. Nothing depends on what was on display before, finding the hint in place comes to
the same, and without colours the hint is shown as it is. The next word is a part in front of the
hint, which is not empty unless the hint is; it is the leading blanks and the first word, if there
is one. -/
theorem hint_current {σ : Type} [LineHistory σ] (engine : Engine) (fresh : σ)
    (events : List EditEvent) (line : Text) (cursor : Nat) :
    let start : Editing σ := { history := fresh }
    let before := start.afterAll engine events
    let found := LineHistory.newestWith? before.history line
    let hinter := (start.afterAll engine (events ++ [.handle line cursor])).hinter
    (cursor ≠ Text.byteSize line ∨ Text.isAllBlank line = true → hinter.hint = []) ∧
    (cursor = Text.byteSize line → Text.isAllBlank line = false →
      (∀ proposal, (engine.complete line 0).find? (fun p => isLonger line p.text) = some proposal →
        line ++ hinter.hint = proposal.text) ∧
      ((∀ proposal ∈ engine.complete line 0, isLonger line proposal.text = false) →
        (∀ entry, found = some entry → isLonger line entry = true → line ++ hinter.hint = entry) ∧
        ((∀ entry, found = some entry → isLonger line entry = false) → hinter.hint = []))) ∧
    (FindsNewest fresh (EditEvent.saved events) → line ≠ [] →
      found = (EditEvent.saved events).find? fun entry => Text.startsWith entry line) ∧
    (∀ capacity, (EditEvent.saved events).length ≤ capacity →
      FindsNewest (⟨capacity, []⟩ : History) (EditEvent.saved events)) ∧
    (∀ other : Hinter, other.handle engine before.history line cursor = hinter) ∧
    (∀ colors, (Hinter.refresh engine before.history line cursor colors).run before.hinter =
      (hinter.shown colors, hinter)) ∧
    hinter.shown false = Text.str hinter.hint ∧
    hinter.nextWord <+: hinter.hint ∧
    (hinter.hint ≠ [] → hinter.nextWord ≠ []) ∧
    (Text.isAllBlank hinter.hint = false → ∃ blanks word rest,
      hinter.hint = blanks ++ word ++ rest ∧ hinter.nextWord = blanks ++ word ∧
      Text.isAllBlank blanks = true ∧ word ≠ [] ∧ (∀ c ∈ word, Text.isBlank c = false) ∧
      ∀ c ∈ rest.head?, Text.isBlank c = true) := by
  intro start before found hinter
  -- the last event alone sets the hint, from the line and the history
  have hhinter : hinter = ⟨hintFor engine before.history line cursor⟩ := by
    simp only [hinter, Editing.afterAll_concat]
    rfl
  have hhint : hinter.hint = hintFor engine before.history line cursor := by rw [hhinter]
  obtain ⟨blanks, word, rest, hparts, hnext, hblanks, hword, hrest, hnone⟩ := hinter.nextWord_spec
  refine ⟨?_, ?_, ?_, ?_, ?_, ?_, rfl, ?_, ?_, ?_⟩
  · intro h
    rw [hhint, hintFor_eq_nil h]
  · intro hcursor hblank
    rw [hhint]
    exact append_hintFor hcursor hblank
  · intro hfinds hne
    simp only [found, before, Editing.history_afterAll]
    exact hfinds line hne
  · intro capacity hroom
    exact History.findsNewest hroom
  · intro other
    exact hhinter.symm
  · intro colors
    rw [Hinter.refresh_run, hhinter]
    rfl
  · rw [hnext, hparts]
    exact List.prefix_append _ _
  · intro hne hnil
    rw [hnext, List.append_eq_nil_iff] at hnil
    rw [hparts, hnil.1, hnil.2, hnone hnil.2] at hne
    exact hne rfl
  · intro hsome
    refine ⟨blanks, word, rest, hparts, hnext, hblanks, ?_, hword, hrest⟩
    intro hnil
    rw [hparts, hnil, hnone hnil, List.append_nil, List.append_nil, hblanks] at hsome
    cases hsome

/-- A line that no proposal goes on with, after one that has a hint: the history is asked, and it
finds the newest line. -/
theorem hint_current_custom :
    FindsNewest ({ capacity := 1 } : History) ["nope --custom=1".toList] ∧
    "nope --cu".toList ++ (Editing.afterAll
      (.standard (Directory.ofCatalog .builtin .byPosition) false)
        { history := ({ capacity := 1 } : History) }
        [.save "nope --custom=1".toList, .handle "http --for".toList 10,
          .handle "nope --cu".toList 9]).hinter.hint = "nope --custom=1".toList := by
  have hfinds : FindsNewest ({ capacity := 1 } : History) ["nope --custom=1".toList] :=
    History.findsNewest (by decide)
  obtain ⟨-, hhint, hfound, -⟩ :=
    hint_current (.standard (Directory.ofCatalog .builtin .byPosition) false)
      ({ capacity := 1 } : History)
      [.save "nope --custom=1".toList, .handle "http --for".toList 10] "nope --cu".toList 9
  refine ⟨hfinds, ?_⟩
  exact ((hhint (by decide) (by decide)).2 (by decide)).1 _
    ((hfound hfinds (by decide)).trans (by decide)) (by decide)

end PipeAssist.Shell

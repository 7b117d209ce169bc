import PipeAssist.Proofs.Replay

/-!
# Reading by descent

The grammar of definitions can also be read by descent: one part for each rule, with loops for what
repeats, and a cursor that moves through a list of tokens and looks one token ahead. The cursor
stays at the last token when it would move behind it, so a step of a loop could change nothing.
`Descent` gives no result where a part looks outside the tokens, or where a loop takes more turns
than there are allowed, so a result is all there is to show for both.

Each part is followed by the machine that takes one token per step. Where the part begins, the
machine is in a certain phase, and where the part ends, in another one with the same outcome ahead
(`Leads`, `Resumes`). So the descent has the outcome of the machine on every list of tokens that
ends with the end of input, with as many turns as there are tokens or more (`outcome_eq_run`).
-/

set_option autoImplicit false

namespace PipeAssist

open Reading

/-- The place of a descent in the tokens, and what is committed. -/
structure Descent.Cursor where
  place : Nat := 0
  checkpoint : Nat := 0
  definition : Definition := []
deriving DecidableEq, Repr

/-- A part of a descent: it moves the cursor and gives a value, or it stops with an outcome. There
is no result where it looks outside the tokens or runs out of turns. -/
abbrev Descent := StateT Descent.Cursor (ExceptT Outcome Option)

namespace Descent

/-! ## The parts -/

section Parts

variable (finished : Bool) (tokens : List Token)

/-- No result. -/
def fail {α : Type} : Descent α := fun _ => (none : Option (Except Outcome (α × Cursor)))

/-- The token at a place, or the last one behind it. -/
def look (place : Nat) : Descent Token :=
  match tokens[min place (tokens.length - 1)]? with
  | none => fail
  | some token => pure token

/-- The token at the cursor. -/
def current : Descent Token := do look tokens (← get).place

/-- The token behind the one at the cursor. -/
def peek : Descent Token := do look tokens ((← get).place + 1)

/-- Moves the cursor by one token, unless it is at the last one. -/
def advance : Descent Unit :=
  modify fun cursor =>
    if cursor.place < tokens.length - 1 then { cursor with place := cursor.place + 1 } else cursor

/-- Commits the tokens in front of the cursor, with a change to the definition. -/
def commit (change : Definition → Definition) : Descent Unit :=
  modify fun cursor =>
    { cursor with checkpoint := cursor.place, definition := change cursor.definition }

/-- Stops with a reason. -/
def stop {α : Type} (reason : Fault.Reason) : Descent α := do
  let cursor ← get
  throw (.stopped cursor.checkpoint cursor.definition reason)

/-- Whether the text ends at the cursor, right behind a token that may still be typed on. -/
def mayGrow (token : Token) : Descent Bool := do
  return Reading.mayGrow finished token.stop (← current tokens)

/-- The rest of an option name of which the last word was read, and the token of its last word. The
loops are allowed so many turns, and one less within a turn. -/
def keyRest : Nat → Text → Token → Descent (Text × Token)
  | 0, _, _ => fail
  | turns + 1, key, last => do
    if (← current tokens).kind = .dot then
      advance tokens
      let word ← current tokens
      if word.kind = .identifier then
        advance tokens
        keyRest turns (key ++ ['.'] ++ word.value) word
      else stop (.unfinishedOptionName (key ++ ['.']))
    else return (key, last)

/-- The rest of a plain value. A dot belongs to it if an identifier follows. -/
def valueRest : Nat → Text → Descent Text
  | 0, _ => fail
  | turns + 1, value => do
    if (← current tokens).kind = .dot then
      if (← peek tokens).kind = .identifier then
        advance tokens
        let word ← current tokens
        advance tokens
        valueRest turns (value ++ '.' :: word.value)
      -- the dot is left where it is, for the options to stop at
      else return value
    else return value

/-- The value of an option. -/
def value (turns : Nat) (key : Text) : Descent Text := do
  let first ← current tokens
  match first.kind with
  | .identifier =>
    advance tokens
    valueRest tokens turns first.value
  | .stringLiteral =>
    advance tokens
    return first.value
  | _ => stop (.missingOptionValue key true)

/-- What comes behind an option name: an equals sign and a value, to be committed with it. -/
def assignment (turns : Nat) (key : Text) (last : Token) : Descent Unit := do
  if ← mayGrow finished tokens last then stop (.unfinishedOptionName key)
  else if (← current tokens).kind = .equals then
    advance tokens
    let value ← value tokens turns key
    commit fun definition => definition.withOption key value
  else stop (.missingOptionValue key false)

/-- An option, from its marker on. -/
def option (turns : Nat) : Descent Unit := do
  advance tokens
  let first ← current tokens
  match first.kind with
  | .identifier =>
    advance tokens
    let (key, last) ← keyRest tokens turns first.value first
    assignment finished tokens turns key last
  | .endOfInput => stop .trailingOptionMarker
  | _ => stop (.unfinishedOptionName [])

/-- The options of a component, up to a pipe or the end. -/
def options : Nat → Descent Unit
  | 0 => fail
  | turns + 1 => do
    let here ← current tokens
    match here.kind with
    | .optionMarker =>
      option finished tokens turns
      options turns
    | .pipe | .endOfInput => return
    | .unknown =>
      -- a dash in front of the end may still become a marker
      if here.raw = ['-'] then
        if (← peek tokens).kind = .endOfInput then stop .unfinishedOptionMarker
        else stop (.missingSeparator .unknown)
      else stop (.missingSeparator .unknown)
    | found => stop (.missingSeparator found)

/-- A component with its options. -/
def use (turns : Nat) : Descent Unit := do
  let name ← current tokens
  if name.kind = .identifier then
    advance tokens
    if ← mayGrow finished tokens name then stop (.danglingComponentName name.value)
    else
      commit fun definition => definition ++ [⟨name.value, []⟩]
      options finished tokens turns
  else stop (.missingComponent name.kind)

/-- Components with pipes between them. -/
def uses : Nat → Descent Definition
  | 0 => fail
  | turns + 1 => do
    use finished tokens turns
    match (← current tokens).kind with
    | .endOfInput => return (← get).definition
    | .pipe =>
      advance tokens
      commit id
      if (← current tokens).kind = .endOfInput then stop .trailingPipe
      else uses turns
    | found => stop (.missingSeparator found)

/-- The outcome of a descent from the first token on, with so many turns. -/
def outcome? (turns : Nat) : Option Outcome :=
  match (uses finished tokens turns).run {} with
  | none => none
  | some (.error outcome) => some outcome
  | some (.ok (definition, _)) => some (.complete definition)

end Parts

/-! ## Results of parts -/

section Results

variable {α β : Type} {part : Descent α} {next : α → Descent β} {cursor moved : Cursor} {a : α}
  {outcome : Outcome}

theorem bind_of_ok (h : part cursor = some (.ok (a, moved))) :
    (part >>= next) cursor = next a moved := by
  show ExceptT.bind (part cursor) _ = _
  rw [h]
  rfl

theorem bind_of_error (h : part cursor = some (.error outcome)) :
    (part >>= next) cursor = some (.error outcome) := by
  show ExceptT.bind (part cursor) _ = _
  rw [h]
  rfl

/-- A part comes to an end: it stops with the outcome, or it goes on as `exit` says. -/
def Leads {α : Type} (result : Option (Except Outcome (α × Cursor))) (outcome : Outcome)
    (exit : α → Cursor → Prop) : Prop :=
  result = some (.error outcome) ∨ ∃ a moved, result = some (.ok (a, moved)) ∧ exit a moved

theorem Leads.bind {exit : α → Cursor → Prop} {later : β → Cursor → Prop}
    (h : Leads (part cursor) outcome exit)
    (hnext : ∀ a moved, exit a moved → Leads (next a moved) outcome later) :
    Leads ((part >>= next) cursor) outcome later := by
  rcases h with herror | ⟨a, moved, hok, hexit⟩
  · exact Or.inl (bind_of_error herror)
  · rw [bind_of_ok hok]
    exact hnext a moved hexit

end Results

/-! ## The cursor -/

/-- The cursor one token further. -/
def Cursor.forward (cursor : Cursor) : Cursor := { cursor with place := cursor.place + 1 }

/-- The cursor with everything in front of it committed. -/
def Cursor.commit (cursor : Cursor) (definition : Definition) : Cursor :=
  { cursor with checkpoint := cursor.place, definition := definition }

/-- The state of the machine at a cursor. -/
def Cursor.reading (cursor : Cursor) (phase : Phase) : Reading :=
  ⟨cursor.place, cursor.checkpoint, cursor.definition, phase⟩

@[simp] theorem Cursor.phase_reading (cursor : Cursor) (phase : Phase) :
    (cursor.reading phase).phase = phase := rfl

@[simp] theorem Cursor.definition_reading (cursor : Cursor) (phase : Phase) :
    (cursor.reading phase).definition = cursor.definition := rfl

@[simp] theorem Cursor.commit_reading (cursor : Cursor) (phase : Phase) (definition : Definition) :
    (cursor.reading phase).commit definition = (cursor.commit definition).reading .settled := rfl

@[simp] theorem Cursor.next_reading (cursor : Cursor) (phase later : Phase) :
    (cursor.reading phase).next later = .inl (cursor.forward.reading later) := rfl

@[simp] theorem Cursor.stop_reading (cursor : Cursor) (phase : Phase) (reason : Fault.Reason) :
    (cursor.reading phase).stop reason =
      .inr (.stopped cursor.checkpoint cursor.definition reason) := rfl

section Cursor

variable {tokens rest : List Token} {token next : Token} {cursor : Cursor} {place : Nat}

theorem exists_drop (h : place < tokens.length) : ∃ token rest, tokens.drop place = token :: rest :=
  ⟨_, _, List.drop_eq_getElem_cons h⟩

theorem drop_succ (h : tokens.drop place = token :: rest) : tokens.drop (place + 1) = rest := by
  rw [← List.tail_drop, h]
  rfl

theorem lt_length_of_drop (h : tokens.drop place = token :: rest) : place < tokens.length := by
  rw [← List.drop_eq_nil_iff.not.trans Nat.not_le, h]
  exact List.cons_ne_nil _ _

/-- Looking at a place within the tokens. -/
theorem look_eq (h : tokens.drop place = token :: rest) :
    look tokens place cursor = some (.ok (token, cursor)) := by
  have hless := lt_length_of_drop h
  have hmin : min place (tokens.length - 1) = place := by omega
  have htoken : tokens[place]? = some token := by
    rw [← List.head?_drop, h]
    rfl
  rw [look, hmin, htoken]
  rfl

theorem current_eq (h : tokens.drop cursor.place = token :: rest) :
    current tokens cursor = some (.ok (token, cursor)) := look_eq h

theorem peek_eq (h : tokens.drop cursor.place = token :: next :: rest) :
    peek tokens cursor = some (.ok (next, cursor)) := look_eq (drop_succ h)

/-- In front of another token the cursor does move. -/
theorem advance_eq (h : tokens.drop cursor.place = token :: next :: rest) :
    advance tokens cursor = some (.ok ((), cursor.forward)) := by
  have hless := lt_length_of_drop (drop_succ h)
  have hmoves : cursor.place < tokens.length - 1 := by omega
  show some (Except.ok ((), if cursor.place < tokens.length - 1 then _ else cursor)) = _
  rw [if_pos hmoves]
  rfl

theorem mayGrow_eq (finished : Bool) (last : Token)
    (h : tokens.drop cursor.place = token :: rest) :
    mayGrow finished tokens last cursor =
      some (.ok (Reading.mayGrow finished last.stop token, cursor)) := by
  rw [mayGrow, bind_of_ok (current_eq h)]
  rfl

/-- A token other than the end of input is not the last one. -/
theorem exists_next (hend : ∀ token ∈ tokens.getLast?, token.kind = .endOfInput)
    (h : tokens.drop place = token :: rest) (hkind : token.kind ≠ .endOfInput) :
    ∃ next more, rest = next :: more := by
  apply List.exists_cons_of_ne_nil
  rintro rfl
  apply hkind
  apply hend
  have hlast := List.getLast?_drop (l := tokens) (i := place)
  rw [if_neg (Nat.not_le.2 (lt_length_of_drop h)), h] at hlast
  exact hlast.symm

end Cursor

/-! ## The machine beside the cursor -/

/-- The machine goes on from a phase with an outcome, when the cursor is at one of the tokens, at
place `least` or behind it. -/
structure Resumes (finished : Bool) (tokens : List Token) (least : Nat) (outcome : Outcome)
    (cursor : Cursor) (phase : Phase) : Prop where
  least_le : least ≤ cursor.place
  lt_length : cursor.place < tokens.length
  run_eq : (cursor.reading phase).run finished (tokens.drop cursor.place) = outcome

section Resumes

variable {finished : Bool} {tokens rest : List Token} {least : Nat} {outcome : Outcome}
  {cursor moved : Cursor} {phase later : Phase} {token next : Token}

theorem Resumes.mono (h : Resumes finished tokens least outcome cursor phase) {lower : Nat}
    (hle : lower ≤ least) : Resumes finished tokens lower outcome cursor phase :=
  ⟨Nat.le_trans hle h.least_le, h.lt_length, h.run_eq⟩

theorem Resumes.here (h : Resumes finished tokens least outcome cursor phase) :
    Resumes finished tokens cursor.place outcome cursor phase :=
  ⟨Nat.le_refl _, h.lt_length, h.run_eq⟩

/-- At the same token, from a state that does the same there. -/
theorem Resumes.congr (h : Resumes finished tokens least outcome cursor phase)
    (hplace : moved.place = cursor.place) (hdrop : tokens.drop cursor.place = token :: rest)
    (hstep : (moved.reading later).step finished token =
      (cursor.reading phase).step finished token) :
    Resumes finished tokens least outcome moved later := by
  refine ⟨hplace ▸ h.least_le, hplace ▸ h.lt_length, ?_⟩
  rw [hplace, ← h.run_eq, hdrop, run, run, hstep]

/-- The machine takes a token. -/
theorem Resumes.step (h : Resumes finished tokens least outcome cursor phase)
    (hdrop : tokens.drop cursor.place = token :: next :: rest)
    (hplace : moved.place = cursor.place + 1)
    (hstep : (cursor.reading phase).step finished token = .inl (moved.reading later)) :
    Resumes finished tokens (least + 1) outcome moved later := by
  have hleast := h.least_le
  have hless := lt_length_of_drop (drop_succ hdrop)
  refine ⟨by omega, by omega, ?_⟩
  have hrun := h.run_eq
  rw [hdrop, run, hstep] at hrun
  rw [hplace, drop_succ hdrop]
  exact hrun

/-- The machine stops at a token. -/
theorem Resumes.stop (h : Resumes finished tokens least outcome cursor phase)
    (hdrop : tokens.drop cursor.place = token :: rest) {last : Outcome}
    (hstep : (cursor.reading phase).step finished token = .inr last) : last = outcome := by
  have hrun := h.run_eq
  rw [hdrop, run, hstep] at hrun
  exact hrun

theorem Resumes.of_stop (hleast : least ≤ cursor.place)
    (hdrop : tokens.drop cursor.place = token :: rest)
    (hstep : (cursor.reading phase).step finished token = .inr outcome) :
    Resumes finished tokens least outcome cursor phase := by
  refine ⟨hleast, lt_length_of_drop hdrop, ?_⟩
  rw [hdrop, run, hstep]

end Resumes

theorem Leads.of_stop {α : Type} {cursor : Cursor} {reason : Fault.Reason} {outcome : Outcome}
    {exit : α → Cursor → Prop}
    (h : Outcome.stopped cursor.checkpoint cursor.definition reason = outcome) :
    Leads (Descent.stop reason cursor) outcome exit := by
  rw [← h]
  exact Or.inl rfl

/-! ## What the parts do -/

section Parts

variable {finished : Bool} {tokens : List Token} {least turns : Nat} {outcome : Outcome}
  {cursor : Cursor} (hend : ∀ token ∈ tokens.getLast?, token.kind = .endOfInput)

include hend

/-- The rest of a plain value is read, to be committed behind it. -/
theorem valueRest_leads {key value : Text}
    (h : Resumes finished tokens least outcome cursor (.valued key value))
    (hturns : tokens.length ≤ cursor.place + turns) :
    Leads (valueRest tokens turns value cursor) outcome fun value moved =>
      Resumes finished tokens least outcome
        (moved.commit (moved.definition.withOption key value)) .settled := by
  induction turns generalizing value cursor with
  | zero => exact absurd h.lt_length (Nat.not_lt.2 hturns)
  | succ turns ih =>
      obtain ⟨token, rest, hdrop⟩ := exists_drop h.lt_length
      rw [valueRest, bind_of_ok (current_eq hdrop)]
      by_cases hdot : token.kind = .dot
      · obtain ⟨next, more, rfl⟩ := exists_next hend hdrop (by simp [hdot])
        have hdotted : Resumes finished tokens (least + 1) outcome cursor.forward
            (.valueDotted key value) := h.step hdrop rfl (by simp [step, hdot])
        have hnext : tokens.drop cursor.forward.place = next :: more := drop_succ hdrop
        rw [if_pos hdot, bind_of_ok (peek_eq hdrop)]
        by_cases hword : next.kind = .identifier
        · -- two tokens further the value is longer by a dot and a word
          obtain ⟨after, others, rfl⟩ := exists_next hend hnext (by simp [hword])
          have hlonger : Resumes finished tokens (least + 2) outcome cursor.forward.forward
              (.valued key (value ++ '.' :: next.value)) :=
            hdotted.step hnext rfl (by simp [step, hword])
          rw [if_pos hword, bind_of_ok (advance_eq hdrop), bind_of_ok (current_eq hnext),
            bind_of_ok (advance_eq hnext)]
          refine ih (hlonger.mono (by omega)) ?_
          simp only [Cursor.forward]
          omega
        · -- the dot is misplaced behind the value, whoever finds it
          have hstop : Outcome.stopped cursor.place (cursor.definition.withOption key value)
              (.missingSeparator .dot) = outcome :=
            hdotted.stop hnext (by simp [step, hword, Cursor.forward, Cursor.reading])
          rw [if_neg hword]
          refine Or.inr ⟨value, cursor, rfl, Resumes.of_stop h.least_le hdrop ?_⟩
          simp [step, stepSettled, hdot, ← hstop, Cursor.commit]
      · -- what comes behind the value finds it committed
        rw [if_neg hdot]
        exact Or.inr ⟨value, cursor, rfl, h.congr rfl hdrop (by simp [step, hdot])⟩

/-- A value is read, to be committed behind it. -/
theorem value_leads {key : Text}
    (h : Resumes finished tokens least outcome cursor (.assigned key))
    (hturns : tokens.length ≤ cursor.place + turns) :
    Leads (value tokens turns key cursor) outcome fun value moved =>
      Resumes finished tokens least outcome
        (moved.commit (moved.definition.withOption key value)) .settled := by
  obtain ⟨token, rest, hdrop⟩ := exists_drop h.lt_length
  rw [value, bind_of_ok (current_eq hdrop)]
  cases hkind : token.kind with
  | identifier =>
      obtain ⟨next, more, rfl⟩ := exists_next hend hdrop (by simp [hkind])
      dsimp only
      rw [bind_of_ok (advance_eq hdrop)]
      have hvalued : Resumes finished tokens (least + 1) outcome cursor.forward
          (.valued key token.value) := h.step hdrop rfl (by simp [step, hkind])
      refine valueRest_leads hend (hvalued.mono (Nat.le_succ least)) ?_
      simp only [Cursor.forward]
      omega
  | stringLiteral =>
      obtain ⟨next, more, rfl⟩ := exists_next hend hdrop (by simp [hkind])
      dsimp only
      rw [bind_of_ok (advance_eq hdrop)]
      have hsettled : Resumes finished tokens (least + 1) outcome
          (cursor.forward.commit (cursor.definition.withOption key token.value)) .settled :=
        h.step hdrop rfl (by simp [step, hkind]; rfl)
      exact Or.inr ⟨_, _, rfl, hsettled.mono (Nat.le_succ least)⟩
  | _ => exact Leads.of_stop (h.stop hdrop (by simp [step, hkind]))

/-- The rest of an option name is read; what comes behind it is no dot. -/
theorem keyRest_leads {key : Text} {last : Token}
    (h : Resumes finished tokens least outcome cursor (.keyed key last.stop))
    (hturns : tokens.length ≤ cursor.place + turns) :
    Leads (keyRest tokens turns key last cursor) outcome fun read moved =>
      Resumes finished tokens least outcome moved (.keyed read.1 read.2.stop) ∧
        ∀ token ∈ (tokens.drop moved.place).head?, token.kind ≠ .dot := by
  induction turns generalizing key last cursor with
  | zero => exact absurd h.lt_length (Nat.not_lt.2 hturns)
  | succ turns ih =>
      obtain ⟨token, rest, hdrop⟩ := exists_drop h.lt_length
      rw [keyRest, bind_of_ok (current_eq hdrop)]
      by_cases hdot : token.kind = .dot
      · obtain ⟨next, more, rfl⟩ := exists_next hend hdrop (by simp [hdot])
        have hdotted : Resumes finished tokens (least + 1) outcome cursor.forward
            (.keyDotted (key ++ ['.'])) := by
          refine h.step hdrop rfl ?_
          simp [step, hdot, mayGrow_eq_false (show token.kind ≠ .endOfInput by simp [hdot])]
        have hnext : tokens.drop cursor.forward.place = next :: more := drop_succ hdrop
        rw [if_pos hdot, bind_of_ok (advance_eq hdrop), bind_of_ok (current_eq hnext)]
        by_cases hword : next.kind = .identifier
        · obtain ⟨after, others, rfl⟩ := exists_next hend hnext (by simp [hword])
          have hlonger : Resumes finished tokens (least + 2) outcome cursor.forward.forward
              (.keyed (key ++ ['.'] ++ next.value) next.stop) :=
            hdotted.step hnext rfl (by simp [step, hword])
          rw [if_pos hword, bind_of_ok (advance_eq hnext)]
          refine ih (hlonger.mono (by omega)) ?_
          simp only [Cursor.forward]
          omega
        · rw [if_neg hword]
          exact Leads.of_stop (hdotted.stop hnext (by simp [step, hword, Cursor.forward]))
      · rw [if_neg hdot]
        refine Or.inr ⟨_, cursor, rfl, h, ?_⟩
        rw [hdrop]
        rintro other ⟨⟩
        exact hdot

/-- Behind an option name its value is read, and both are committed. -/
theorem assignment_leads {key : Text} {last token : Token} {rest : List Token}
    (h : Resumes finished tokens least outcome cursor (.keyed key last.stop))
    (hdrop : tokens.drop cursor.place = token :: rest) (hdot : token.kind ≠ .dot)
    (hturns : tokens.length ≤ cursor.place + (turns + 1)) :
    Leads (assignment finished tokens turns key last cursor) outcome fun _ moved =>
      Resumes finished tokens least outcome moved .settled := by
  rw [assignment, bind_of_ok (mayGrow_eq finished last hdrop)]
  by_cases hgrow : Reading.mayGrow finished last.stop token = true
  · rw [if_pos hgrow]
    exact Leads.of_stop (h.stop hdrop (by simp [step, hgrow]))
  rw [if_neg hgrow, bind_of_ok (current_eq hdrop)]
  by_cases hequals : token.kind = .equals
  · obtain ⟨next, more, rfl⟩ := exists_next hend hdrop (by simp [hequals])
    have hassigned : Resumes finished tokens (least + 1) outcome cursor.forward (.assigned key) :=
      h.step hdrop rfl (by simp [step, hgrow, hequals])
    have henough : tokens.length ≤ cursor.forward.place + turns := by
      simp only [Cursor.forward]
      omega
    rw [if_pos hequals, bind_of_ok (advance_eq hdrop)]
    refine (value_leads hend (hassigned.mono (Nat.le_succ least)) henough).bind ?_
    intro value moved hvalue
    exact Or.inr ⟨(), _, rfl, hvalue⟩
  · have hmissing : (cursor.reading (.keyed key last.stop)).step finished token =
        .inr (.stopped cursor.checkpoint cursor.definition (.missingOptionValue key false)) := by
      cases hkind : token.kind <;> simp_all [step]
    rw [if_neg hequals]
    exact Leads.of_stop (h.stop hdrop hmissing)

/-- An option is read from its marker on, and committed. -/
theorem option_leads {token : Token} {rest : List Token}
    (h : Resumes finished tokens cursor.place outcome cursor .settled)
    (hdrop : tokens.drop cursor.place = token :: rest) (hmarker : token.kind = .optionMarker)
    (hturns : tokens.length ≤ cursor.place + (turns + 1)) :
    Leads (option finished tokens turns cursor) outcome fun _ moved =>
      Resumes finished tokens (cursor.place + 1) outcome moved .settled := by
  obtain ⟨first, more, rfl⟩ := exists_next hend hdrop (by simp [hmarker])
  have hmarked : Resumes finished tokens (cursor.place + 1) outcome cursor.forward .marked :=
    h.step hdrop rfl (by simp [step, stepSettled, hmarker])
  have hfirst : tokens.drop cursor.forward.place = first :: more := drop_succ hdrop
  rw [option, bind_of_ok (advance_eq hdrop), bind_of_ok (current_eq hfirst)]
  cases hkind : first.kind with
  | identifier =>
      obtain ⟨next, others, rfl⟩ := exists_next hend hfirst (by simp [hkind])
      have hkeyed : Resumes finished tokens (cursor.place + 1 + 1) outcome cursor.forward.forward
          (.keyed first.value first.stop) := hmarked.step hfirst rfl (by simp [step, hkind])
      have hplace := hkeyed.least_le
      dsimp only
      rw [bind_of_ok (advance_eq hfirst)]
      refine (keyRest_leads hend (hkeyed.mono (Nat.le_succ _)) (by omega)).bind ?_
      rintro ⟨key, last⟩ moved ⟨hread, hnodot⟩
      have hbehind := hread.least_le
      obtain ⟨here, behind, hhere⟩ := exists_drop hread.lt_length
      have hdot : here.kind ≠ .dot := hnodot here (by rw [hhere]; rfl)
      exact assignment_leads hend hread hhere hdot (by omega)
  | endOfInput => exact Leads.of_stop (hmarked.stop hfirst (by simp [step, hkind, Cursor.forward]))
  | _ => exact Leads.of_stop (hmarked.stop hfirst (by simp [step, hkind, Cursor.forward]))

/-- The options of a component are read, up to a pipe or the end. -/
theorem options_leads (h : Resumes finished tokens least outcome cursor .settled)
    (hturns : tokens.length ≤ cursor.place + turns) :
    Leads (options finished tokens turns cursor) outcome fun _ moved =>
      Resumes finished tokens least outcome moved .settled ∧
        ∀ token ∈ (tokens.drop moved.place).head?,
          token.kind = .pipe ∨ token.kind = .endOfInput := by
  induction turns generalizing cursor with
  | zero => exact absurd h.lt_length (Nat.not_lt.2 hturns)
  | succ turns ih =>
      obtain ⟨token, rest, hdrop⟩ := exists_drop h.lt_length
      rw [options, bind_of_ok (current_eq hdrop)]
      cases hkind : token.kind with
      | optionMarker =>
          -- an option has at least its marker, so fewer tokens are left behind it
          dsimp only
          refine (option_leads hend h.here hdrop hkind hturns).bind ?_
          intro _ moved hmoved
          have hleast := h.least_le
          have hplace := hmoved.least_le
          exact ih (hmoved.mono (by omega)) (by omega)
      | pipe | endOfInput =>
          refine Or.inr ⟨(), cursor, rfl, h, ?_⟩
          rw [hdrop]
          rintro other ⟨⟩
          simp [hkind]
      | unknown =>
          obtain ⟨next, more, rfl⟩ := exists_next hend hdrop (by simp [hkind])
          dsimp only
          by_cases hdash : token.raw = ['-']
          · have hdashed : Resumes finished tokens (least + 1) outcome cursor.forward .dashed :=
              h.step hdrop rfl (by simp [step, stepSettled, hkind, hdash])
            have hnext : tokens.drop cursor.forward.place = next :: more := drop_succ hdrop
            rw [if_pos hdash, bind_of_ok (peek_eq hdrop)]
            by_cases hlast : next.kind = .endOfInput
            · rw [if_pos hlast]
              exact Leads.of_stop (hdashed.stop hnext (by simp [step, hlast, Cursor.forward]))
            · rw [if_neg hlast]
              exact Leads.of_stop (hdashed.stop hnext (by simp [step, hlast, Cursor.forward]))
          · rw [if_neg hdash]
            exact Leads.of_stop (h.stop hdrop (by simp [step, stepSettled, hkind, hdash]))
      | _ => exact Leads.of_stop (h.stop hdrop (by simp [step, stepSettled, hkind]))

/-- A component is read where one is due, with its options, up to a pipe or the end. -/
theorem use_leads {phase : Phase} {token : Token} {rest : List Token}
    (h : Resumes finished tokens least outcome cursor phase)
    (hdrop : tokens.drop cursor.place = token :: rest)
    (hdue : phase = .start ∨ phase = .piped ∧ token.kind ≠ .endOfInput)
    (hturns : tokens.length ≤ cursor.place + (turns + 1)) :
    Leads (use finished tokens turns cursor) outcome fun _ moved =>
      Resumes finished tokens (least + 1) outcome moved .settled ∧
        ∀ token ∈ (tokens.drop moved.place).head?,
          token.kind = .pipe ∨ token.kind = .endOfInput := by
  -- the end of input behind a pipe is all that is not read as at the start
  have hstep : (cursor.reading phase).step finished token =
      (cursor.reading phase).stepName token := by
    rcases hdue with rfl | ⟨rfl, hkind⟩
    · rfl
    · simp [step, hkind]
  rw [use, bind_of_ok (current_eq hdrop)]
  by_cases hname : token.kind = .identifier
  · obtain ⟨next, more, rfl⟩ := exists_next hend hdrop (by simp [hname])
    have hnamed : Resumes finished tokens (least + 1) outcome cursor.forward
        (.named token.value token.stop) := h.step hdrop rfl (by simp [hstep, stepName, hname])
    have hnext : tokens.drop cursor.forward.place = next :: more := drop_succ hdrop
    rw [if_pos hname, bind_of_ok (advance_eq hdrop), bind_of_ok (mayGrow_eq finished token hnext)]
    by_cases hgrow : Reading.mayGrow finished token.stop next = true
    · rw [if_pos hgrow]
      exact Leads.of_stop (hnamed.stop hnext (by simp [step, hgrow, Cursor.forward]))
    · -- the name is committed in front of whatever comes behind it
      have hsettled : Resumes finished tokens (least + 1) outcome
          (cursor.forward.commit (cursor.definition ++ [⟨token.value, []⟩])) .settled :=
        hnamed.congr rfl hnext (by simp [step, hgrow, Cursor.forward])
      rw [if_neg hgrow]
      refine options_leads hend hsettled ?_
      simp only [Cursor.forward]
      omega
  · rw [if_neg hname]
    exact Leads.of_stop (h.stop hdrop (by simp [hstep, stepName, hname]))

/-- Components with pipes between them are read to the end. -/
theorem uses_leads {phase : Phase} {token : Token} {rest : List Token}
    (h : Resumes finished tokens least outcome cursor phase)
    (hdrop : tokens.drop cursor.place = token :: rest)
    (hdue : phase = .start ∨ phase = .piped ∧ token.kind ≠ .endOfInput)
    (hturns : tokens.length ≤ cursor.place + turns) :
    Leads (uses finished tokens turns cursor) outcome fun definition _ =>
      outcome = .complete definition := by
  induction turns generalizing least cursor phase token rest with
  | zero => exact absurd h.lt_length (Nat.not_lt.2 hturns)
  | succ turns ih =>
      rw [uses]
      refine (use_leads hend h.here hdrop hdue hturns).bind ?_
      rintro _ moved ⟨hmoved, hhead⟩
      obtain ⟨here, behind, hhere⟩ := exists_drop hmoved.lt_length
      rw [hhere] at hhead
      rw [bind_of_ok (current_eq hhere)]
      -- a component is read up to a pipe or the end, so nothing else can be here
      rcases hhead here rfl with hpipe | hlast
      · obtain ⟨next, more, rfl⟩ := exists_next hend hhere (by simp [hpipe])
        have hpiped : Resumes finished tokens (cursor.place + 1 + 1) outcome
            (moved.forward.commit moved.definition) .piped := by
          refine hmoved.step hhere rfl ?_
          simp only [step, Cursor.phase_reading, stepSettled, hpipe]
          rfl
        have hnext : tokens.drop (moved.forward.commit moved.definition).place = next :: more :=
          drop_succ hhere
        have hcommit : commit id moved.forward =
            some (.ok ((), moved.forward.commit moved.definition)) := rfl
        rw [hpipe]
        dsimp only
        rw [bind_of_ok (advance_eq hhere), bind_of_ok hcommit, bind_of_ok (current_eq hnext)]
        by_cases hstop : next.kind = .endOfInput
        · rw [if_pos hstop]
          exact Leads.of_stop (hpiped.stop hnext (by simp [step, hstop]))
        · rw [if_neg hstop]
          have hplace := hpiped.least_le
          exact ih hpiped hnext (Or.inr ⟨rfl, hstop⟩) (by omega)
      · rw [hlast]
        refine Or.inr ⟨moved.definition, moved, rfl, (hmoved.stop hhere ?_).symm⟩
        simp [step, stepSettled, hlast]

end Parts

/-- With as many turns as there are tokens, the descent comes to an end on every list of tokens that
ends with the end of input, it never looks outside, and it has the outcome of the machine. -/
theorem outcome_eq_run (finished : Bool) {tokens : List Token} (hne : tokens ≠ [])
    (hend : ∀ token ∈ tokens.getLast?, token.kind = .endOfInput) {turns : Nat}
    (hturns : tokens.length ≤ turns) :
    outcome? finished tokens turns = some (initial.run finished tokens) := by
  obtain ⟨token, rest, hdrop⟩ := List.exists_cons_of_ne_nil hne
  have hstart : Resumes finished tokens 0 (initial.run finished tokens) {} .start :=
    ⟨Nat.le_refl _, List.length_pos_iff.2 hne, rfl⟩
  have henough : tokens.length ≤ ({} : Cursor).place + turns := by simpa using hturns
  have hleads := uses_leads hend hstart hdrop (Or.inl rfl) henough
  unfold outcome?
  rcases hleads with herror | ⟨definition, moved, hok, houtcome⟩
  · rw [show (uses finished tokens turns).run {} = _ from herror]
  · rw [show (uses finished tokens turns).run {} = _ from hok, houtcome]

end Descent

end PipeAssist

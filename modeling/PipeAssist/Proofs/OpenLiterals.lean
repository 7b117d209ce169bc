import PipeAssist.Proofs.Extensions

/-!
# Open literals

A literal is read from the left by a loop: a turn passes one character, or a backslash together with
the character behind it, and the loop is left in front of a closing quote or where the text ends
(`Literal.Cursor.turn?`, `Literal.Cursor.run`). What the literal will be is settled by what has been
passed and what is ahead, and no turn changes it (`literal_turn`). So the literal is what the loop
has passed when it is left, together with the closing quote if there is one (`read_of_run`).

Whether a literal is open is told afterwards and from the right, by the last quote and the run of
backslashes in front of it. The main statement is that for the tokens of every text this agrees with
how the loop was left (`Token.isOpenLiteral_iff_runsOut`).
-/

set_option autoImplicit false

namespace PipeAssist

/-! ## The loop -/

namespace Literal

/-- Where the loop that reads a literal stands: the characters behind the opening quote that it has
passed, the value they denote, and the text ahead. -/
structure Cursor where
  passed : Text
  value : Text
  ahead : Text
deriving DecidableEq, Repr

namespace Cursor

variable {quote : Char} {cursor next : Cursor}

/-- Right behind the opening quote. -/
def start (body : Text) : Cursor := ⟨[], [], body⟩

/-- One turn of the loop, unless the text has ended or the closing quote is next. -/
def turn? (quote : Char) (cursor : Cursor) : Option Cursor :=
  match cursor.ahead with
  | [] => none
  | c :: rest =>
    if c = quote then none
    else if c = '\\' then
      match rest with
      -- a backslash at the end of the text escapes nothing and stands for itself
      | [] => some ⟨cursor.passed ++ [c], cursor.value ++ [c], []⟩
      | d :: rest => some ⟨cursor.passed ++ [c, d], cursor.value ++ unescape d, rest⟩
    else some ⟨cursor.passed ++ [c], cursor.value ++ [c], rest⟩

/-- The loop is left where the text ends and in front of the closing quote. -/
theorem turn_eq_none_iff :
    cursor.turn? quote = none ↔ cursor.ahead = [] ∨ ∃ after, cursor.ahead = quote :: after := by
  obtain ⟨passed, value, ahead⟩ := cursor
  cases ahead with
  | nil => simp [turn?]
  | cons c rest =>
      by_cases hquote : c = quote
      · simp [turn?, hquote]
      · by_cases hback : c = '\\'
        · cases rest <;> simp [turn?, hback, hback ▸ hquote]
        · simp [turn?, hquote, hback]

/-- What a turn can do. -/
theorem turn_cases (h : cursor.turn? quote = some next) :
    (∃ c rest, c ≠ quote ∧ c ≠ '\\' ∧ cursor.ahead = c :: rest ∧
      next = ⟨cursor.passed ++ [c], cursor.value ++ [c], rest⟩) ∨
    (cursor.ahead = ['\\'] ∧ next = ⟨cursor.passed ++ ['\\'], cursor.value ++ ['\\'], []⟩) ∨
    ∃ d rest, cursor.ahead = '\\' :: d :: rest ∧
      next = ⟨cursor.passed ++ ['\\', d], cursor.value ++ unescape d, rest⟩ := by
  obtain ⟨passed, value, ahead⟩ := cursor
  cases ahead with
  | nil => simp [turn?] at h
  | cons c rest =>
      by_cases hquote : c = quote
      · simp [turn?, hquote] at h
      · by_cases hback : c = '\\'
        · subst hback
          cases rest with
          | nil => exact Or.inr (Or.inl ⟨rfl, by simpa [turn?, hquote] using h.symm⟩)
          | cons d rest =>
              exact Or.inr (Or.inr ⟨d, rest, rfl, by simpa [turn?, hquote] using h.symm⟩)
        · exact Or.inl ⟨c, rest, hquote, hback, rfl, by simpa [turn?, hquote, hback] using h.symm⟩

/-- A turn leaves less ahead. -/
theorem length_turn (h : cursor.turn? quote = some next) :
    next.ahead.length < cursor.ahead.length := by
  rcases turn_cases h with ⟨c, rest, -, -, hahead, rfl⟩ | ⟨hahead, rfl⟩ | ⟨d, rest, hahead, rfl⟩
  · simp [hahead]
  · simp [hahead]
  · simp only [hahead, List.length_cons]
    omega

/-- The turns of the loop, up to where it is left. -/
def run (quote : Char) (cursor : Cursor) : Cursor :=
  match h : cursor.turn? quote with
  | none => cursor
  | some next =>
    have := length_turn h
    next.run quote
termination_by cursor.ahead.length

/-- The literal that is being read: what has been passed, and what reading finds ahead. -/
def literal (quote : Char) (cursor : Cursor) : Literal :=
  let rest := read quote cursor.ahead
  ⟨cursor.passed ++ rest.raw, cursor.value ++ rest.value, rest.closed⟩

/-- A turn moves characters from the text ahead to the passed ones. -/
theorem text_turn (h : cursor.turn? quote = some next) :
    next.passed ++ next.ahead = cursor.passed ++ cursor.ahead := by
  rcases turn_cases h with ⟨c, rest, -, -, hahead, rfl⟩ | ⟨hahead, rfl⟩ | ⟨d, rest, hahead, rfl⟩ <;>
    simp [hahead]

/-- A turn does not change the literal that is being read. -/
theorem literal_turn (h : cursor.turn? quote = some next) :
    next.literal quote = cursor.literal quote := by
  rcases turn_cases h with
    ⟨c, rest, hquote, hback, hahead, rfl⟩ | ⟨hahead, rfl⟩ | ⟨d, rest, hahead, rfl⟩
  · simp [literal, hahead, read_cons quote hback, hquote]
  · simp [literal, hahead, read]
  · simp [literal, hahead, read]

/-- The loop is not left before the text ends or the closing quote is next. -/
theorem turn_run (quote : Char) (cursor : Cursor) : (cursor.run quote).turn? quote = none := by
  fun_induction run quote cursor with
  | case1 cursor hnone => exact hnone
  | case2 cursor next hturn hless ih => exact ih

/-- What no turn changes is the same when the loop is left. -/
theorem run_eq_of_turn {β : Type} (view : Cursor → β) (quote : Char)
    (h : ∀ cursor next, cursor.turn? quote = some next → view next = view cursor)
    (cursor : Cursor) : view (cursor.run quote) = view cursor := by
  fun_induction run quote cursor with
  | case1 cursor hnone => rfl
  | case2 cursor next hturn hless ih => exact ih.trans (h cursor next hturn)

theorem text_run (quote : Char) (cursor : Cursor) :
    (cursor.run quote).passed ++ (cursor.run quote).ahead = cursor.passed ++ cursor.ahead :=
  run_eq_of_turn (fun cursor => cursor.passed ++ cursor.ahead) quote
    (fun _ _ hturn => text_turn hturn) cursor

theorem literal_run (quote : Char) (cursor : Cursor) :
    (cursor.run quote).literal quote = cursor.literal quote :=
  run_eq_of_turn (literal quote) quote (fun _ _ hturn => literal_turn hturn) cursor

end Cursor

/-- What reading gives, by the two ways in which the loop can be left. -/
theorem read_of_run {quote : Char} (hq : quote ≠ '\\') (body : Text) :
    let exit := (Cursor.start body).run quote
    (exit.ahead = [] ∧ read quote body = ⟨exit.passed, exit.value, false⟩) ∨
      ∃ after, exit.ahead = quote :: after ∧
        read quote body = ⟨exit.passed ++ [quote], exit.value, true⟩ := by
  intro exit
  have hread : read quote body = exit.literal quote :=
    (Cursor.literal_run quote (Cursor.start body)).symm
  have hleft := Cursor.turn_eq_none_iff.1 (Cursor.turn_run quote (Cursor.start body))
  rcases hleft with hend | ⟨after, hafter⟩
  · refine Or.inl ⟨hend, ?_⟩
    rw [hread, Cursor.literal, hend]
    simp [read]
  · refine Or.inr ⟨after, hafter, ?_⟩
    rw [hread, Cursor.literal, hafter, read_cons quote hq, if_pos rfl]
    simp

end Literal

/-! ## Tokens -/

/-- A lexeme that is a literal starts with a quote and is what reading finds behind it. -/
theorem Piece.firstLexeme_literal {c : Char} {rest : Text}
    (h : (firstLexeme c rest).kind = .stringLiteral) :
    Literal.isQuote c = true ∧ firstLexeme c rest =
      ⟨.stringLiteral, c :: (Literal.read c rest).raw, (Literal.read c rest).value⟩ := by
  unfold firstLexeme at h ⊢
  split_ifs at h ⊢ with hpipe hdot hequals hmarker hquote hword
  exact ⟨hquote, rfl⟩

namespace Token

/-- A token is the first lexeme of the text that starts where the token does. -/
theorem exists_firstLexeme {text : Text} {token : Token} (h : token ∈ inText 0 text) :
    ∃ before c rest, text = before ++ c :: rest ∧ token.start = Text.byteSize before ∧
      token.stop = token.start + Text.byteSize token.raw ∧
      Piece.firstLexeme c rest = token.toLexeme := by
  obtain ⟨before, after, hpieces, hstart, hstop⟩ := exists_split_of_mem_lay h
  have hcanonical := Piece.canonical_split text
  rw [hpieces, Piece.canonical_append] at hcanonical
  obtain ⟨-, ⟨-, hstops, -⟩, -⟩ := hcanonical
  obtain ⟨c, cs, hraw, -, hfirst⟩ := Piece.firstLexeme_append (inText_formed h) hstops
  refine ⟨Piece.spelled before, c, cs ++ Piece.spelled after, ?_, ?_, hstop, hfirst⟩
  · rw [← Piece.spelled_split text, hpieces, Piece.spelled_append, Piece.spelled_cons]
    show _ ++ (token.raw ++ _) = _
    rw [hraw, List.cons_append]
  · rw [hstart, Nat.zero_add]

/-- A literal among the tokens of a text is what reading finds behind its quote. -/
theorem exists_read {text : Text} {token : Token} (h : token ∈ inText 0 text)
    (hkind : token.kind = .stringLiteral) :
    ∃ before quote body, text = before ++ quote :: body ∧ token.start = Text.byteSize before ∧
      token.stop = token.start + Text.byteSize token.raw ∧ Literal.isQuote quote = true ∧
      token.raw = quote :: (Literal.read quote body).raw ∧
      token.value = (Literal.read quote body).value := by
  obtain ⟨before, quote, body, htext, hstart, hstop, hfirst⟩ := exists_firstLexeme h
  have hfirstKind : (Piece.firstLexeme quote body).kind = .stringLiteral := by
    rw [hfirst]
    exact hkind
  obtain ⟨hquote, hliteral⟩ := Piece.firstLexeme_literal hfirstKind
  rw [hfirst] at hliteral
  exact ⟨before, quote, body, htext, hstart, hstop, hquote, congrArg Lexeme.raw hliteral,
    congrArg Lexeme.value hliteral⟩

/-- A token that ends where the text does is the last one. -/
theorem scan_eq_of_stop {text : Text} {token : Token} (h : token ∈ inText 0 text)
    (hstop : token.stop = Text.byteSize text) :
    ∃ front, scan text = front ++ [token, finish (Text.byteSize text)] := by
  obtain ⟨front, behind, hsplit⟩ := List.append_of_mem h
  cases behind with
  | nil =>
      refine ⟨front, ?_⟩
      rw [scan_eq, hsplit, List.append_assoc]
      rfl
  | cons next rest =>
      have hless := inText_stop_lt hsplit
      omega

/-- Whether a literal is open can be told from the right. Every literal among the tokens of a text
starts with a quote, and the text behind the quote is read. It counts as open exactly when reading
found no closing quote: the loop was left because the text had ended, and nothing more was taken. It
counts as closed exactly when the loop was left in front of a quote, which was taken as well. An
open literal ends where the text does, and only the end of input comes behind it. -/
theorem isOpenLiteral_iff_runsOut (text : Text) (token : Token) (hmem : token ∈ scan text)
    (hkind : token.kind = .stringLiteral) :
    ∃ before quote body, text = before ++ quote :: body ∧ Text.byteSize before = token.start ∧
      Literal.isQuote quote = true ∧
      let exit := (Literal.Cursor.start body).run quote
      exit.passed ++ exit.ahead = body ∧ token.value = exit.value ∧
      (token.isOpenLiteral = true ↔ (Literal.read quote body).closed = false) ∧
      (token.isOpenLiteral = true ↔ exit.ahead = [] ∧ token.raw = quote :: exit.passed) ∧
      (token.isOpenLiteral = false ↔
        ∃ after, exit.ahead = quote :: after ∧ token.raw = quote :: (exit.passed ++ [quote])) ∧
      (token.isOpenLiteral = true → token.stop = Text.byteSize text ∧
        ∃ front, scan text = front ++ [token, finish (Text.byteSize text)]) := by
  have hin : token ∈ inText 0 text := by
    rw [← filter_isSignificant_scan]
    exact List.mem_filter.2 ⟨hmem, by simp [isSignificant, hkind]⟩
  obtain ⟨before, quote, body, htext, hstart, hstop, hquote, hraw, hvalue⟩ := exists_read hin hkind
  obtain ⟨-, -, -, -, hback, -⟩ := Piece.isQuote_ne hquote
  have hopen : token.isOpenLiteral = !(Literal.read quote body).closed := by
    rw [isOpenLiteral, hkind, hraw, Literal.isOpen_read quote hback]
    simp
  have hbody := Literal.Cursor.text_run quote (Literal.Cursor.start body)
  refine ⟨before, quote, body, htext, hstart.symm, hquote, hbody, ?_⟩
  rcases Literal.read_of_run hback body with ⟨hend, hread⟩ | ⟨after, hafter, hread⟩
  · rw [hread] at hraw hvalue hopen
    -- nothing is ahead, so the token takes the rest of the text
    have hpassed : ((Literal.Cursor.start body).run quote).passed = body := by
      rw [hend, List.append_nil] at hbody
      exact hbody
    have hsize : token.stop = Text.byteSize text := by
      rw [hstop, hstart, hraw, hpassed, htext, Text.byteSize_append]
    refine ⟨hvalue, iff_of_true hopen (by rw [hread]), iff_of_true hopen ⟨hend, hraw⟩, ?_, ?_⟩
    · simp [hopen, hend]
    · intro _
      exact ⟨hsize, scan_eq_of_stop hin hsize⟩
  · rw [hread] at hraw hvalue hopen
    refine ⟨hvalue, ?_, ?_, iff_of_true hopen ⟨after, hafter, hraw⟩, ?_⟩
    · simp [hopen, hread]
    · simp [hopen, hafter]
    · simp [hopen]

/-- A literal that is closed behind an escaped backslash, and one whose last quote is escaped. -/
theorem isOpenLiteral_iff_runsOut_escaped :
    let text := "'\\\\' \"\\\"".toList
    let first : Token := ⟨⟨.stringLiteral, ['\'', '\\', '\\', '\''], ['\\']⟩, 0, 4⟩
    let second : Token := ⟨⟨.stringLiteral, ['"', '\\', '"'], ['"']⟩, 5, 8⟩
    scan text = [first, second, finish 8] ∧
      (∃ before quote body after, text = before ++ quote :: body ∧ Text.byteSize before = 0 ∧
        ((Literal.Cursor.start body).run quote).ahead = quote :: after) ∧
      (∃ before quote body, text = before ++ quote :: body ∧ Text.byteSize before = 5 ∧
        ((Literal.Cursor.start body).run quote).ahead = []) ∧
      second.stop = Text.byteSize text := by
  intro text first second
  have hscan : scan text = [first, second, finish 8] := by decide
  obtain ⟨before, quote, body, htext, hstart, -, -, -, -, -, hclosed, -⟩ :=
    isOpenLiteral_iff_runsOut text first (by simp [hscan]) rfl
  obtain ⟨before', quote', body', htext', hstart', -, -, -, -, hopen, -, hlast⟩ :=
    isOpenLiteral_iff_runsOut text second (by simp [hscan]) rfl
  obtain ⟨after, hafter, -⟩ := hclosed.1 (by decide)
  obtain ⟨hend, -⟩ := hopen.1 (by decide)
  exact ⟨hscan, ⟨before, quote, body, after, htext, hstart, hafter⟩,
    ⟨before', quote', body', htext', hstart', hend⟩, (hlast (by decide)).1⟩

/-- A quote at the end of a text is an open literal by itself. -/
example : (scan "a '".toList).map isOpenLiteral = [false, true, false] := by
  decide

end Token

end PipeAssist

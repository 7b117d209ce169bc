import PipeAssist.Proofs.TrailingBlanks

/-!
# Closing open literals

A literal without its closing quote runs to the end of the text. The characters that are proposed to
close it, a quote and in front of it a second backslash where one is dangling, leave its value as it
is (`Literal.read_closing`). In the text only its last token changes, and that token has the same
kind and value (`Token.EndsOpen.inText_close`). So the closed text has the same definition, and
closing the literal is all that is proposed for a complete text which ends in an open one
(`closeLiteral_exact`).
-/

set_option autoImplicit false

namespace PipeAssist

/-! ## Characters -/

namespace Literal

/-- A part that ends in no escape has no influence on how the text behind it ends. -/
theorem endsInEscape_append {before : Text} (hbefore : endsInEscape before = false) (text : Text) :
    endsInEscape (before ++ text) = endsInEscape text := by
  induction text using List.reverseRecOn with
  | nil =>
      rw [List.append_nil, hbefore]
      rfl
  | append_singleton front c ih =>
      rw [← List.append_assoc, endsInEscape_concat, endsInEscape_concat, ih]

theorem closing_append (quote : Char) {before : Text} (hbefore : endsInEscape before = false)
    (text : Text) : closing (quote :: (before ++ text)) = closing (quote :: text) := by
  simp only [closing, endsInEscape_append hbefore]

/-- Closing an open literal keeps its value. -/
theorem read_closing (quote : Char) (hq : quote ≠ '\\') (text : Text)
    (h : (read quote text).closed = false) :
    read quote (text ++ closing (quote :: text)) =
      ⟨text ++ closing (quote :: text), (read quote text).value, true⟩ := by
  have hend : read quote [quote] = ⟨[quote], [], true⟩ := by
    rw [read_cons quote hq, if_pos rfl]
  -- what closes the literal depends on its last characters only, so it stays the same throughout
  induction text using pairInduction with
  | nil => exact hend
  | dangling =>
      show (⟨'\\' :: '\\' :: (read quote [quote]).raw,
        unescape '\\' ++ (read quote [quote]).value, (read quote [quote]).closed⟩ : Literal) = _
      rw [hend]
      rfl
  | pair c cs ih =>
      have hclosing := closing_append quote (endsInEscape_pair [] c rfl) cs
      simp only [List.nil_append, List.cons_append] at hclosing
      rw [read] at h
      rw [hclosing, List.cons_append, List.cons_append, read, ih h, read]
  | plain c cs hc ih =>
      have hplain : endsInEscape [c] = false := by
        have hconcat := endsInEscape_concat [] c
        rwa [decide_eq_false hc, Bool.false_and] at hconcat
      have hclosing := closing_append quote hplain cs
      rw [List.singleton_append] at hclosing
      rw [read_cons quote hc] at h
      by_cases hquote : c = quote
      · simp [hquote] at h
      · rw [if_neg hquote] at h
        rw [hclosing, List.cons_append, read_cons quote hc, if_neg hquote, ih h,
          read_cons quote hc, if_neg hquote]

end Literal

/-! ## Tokens -/

namespace Lexeme

/-- String literals in which reading finds no closing quote before their characters run out. -/
def Unclosed (item : Lexeme) : Prop :=
  item.kind = .stringLiteral ∧
    ∃ quote body, item.raw = quote :: body ∧ (Literal.read quote body).closed = false

/-- The lexeme with a suffix behind its characters, and the value it had. -/
def extend (item : Lexeme) (suffix : Text) : Lexeme := { item with raw := item.raw ++ suffix }

/-- The lexeme of an open literal stays a lexeme when it is closed. -/
theorem Formed.close {item : Lexeme} (h : item.Formed) (hopen : item.Unclosed) :
    (item.extend (Literal.closing item.raw)).Formed ∧
      Literal.isOpen (item.raw ++ Literal.closing item.raw) = false := by
  obtain ⟨hkind, quote, body, hraw, hclosed⟩ := hopen
  cases h with
  | literal isQuote full =>
      cases hraw
      obtain ⟨-, -, -, -, hback, -⟩ := Piece.isQuote_ne isQuote
      have hread := Literal.read_closing quote hback body hclosed
      constructor
      · have hformed := @Formed.literal quote (body ++ Literal.closing (quote :: body)) isQuote
          (by rw [hread])
        rwa [hread] at hformed
      · have hisOpen := Literal.isOpen_read quote hback (body ++ Literal.closing (quote :: body))
        rwa [hread] at hisOpen
  | _ => cases hkind

end Lexeme

namespace Token

/-- The token with a suffix behind its characters, and the value it had. -/
def extend (token : Token) (suffix : Text) : Token :=
  ⟨token.toLexeme.extend suffix, token.start, token.stop + Text.byteSize suffix⟩

/-- The characters of a token show from the right what reading it from the left finds. -/
theorem isOpenLiteral_iff {token : Token} (h : token.toLexeme.Formed) :
    token.isOpenLiteral = true ↔ token.toLexeme.Unclosed := by
  obtain ⟨item, start, stop⟩ := token
  simp only [isOpenLiteral, Lexeme.Unclosed, Bool.and_eq_true, decide_eq_true_eq]
  refine and_congr_right fun hkind => ?_
  cases h with
  | @literal quote body isQuote full =>
      obtain ⟨-, -, -, -, hback, -⟩ := Piece.isQuote_ne isQuote
      have hisOpen := Literal.isOpen_read quote hback body
      rw [full] at hisOpen
      rw [hisOpen, Bool.not_eq_true']
      constructor
      · intro hclosed
        exact ⟨quote, body, rfl, hclosed⟩
      · rintro ⟨quote', body', hraw, hclosed⟩
        cases hraw
        exact hclosed
  | _ => cases hkind

/-- Texts that end in an open literal: its token, and what is in front of it. -/
structure EndsOpen (text kept : Text) (token : Token) : Prop where
  text_eq : text = kept ++ token.raw
  tokens : inText 0 text = inText 0 kept ++ [token]
  formed : token.toLexeme.Formed
  isOpen : token.toLexeme.Unclosed
  start_eq : token.start = Text.byteSize kept
  stop_eq : token.stop = Text.byteSize text
  /-- The literal is a piece of its own. -/
  ends : ∀ p ∈ (Piece.split kept).getLast?, p.stopsAt token.raw.head? = true

/-- An open literal at the end of a text takes the rest of the text. -/
theorem stop_of_isOpenLiteral {text : Text} {front : List Token} {token : Token}
    (h : inText 0 text = front ++ [token]) (hopen : token.isOpenLiteral = true) :
    token.stop = Text.byteSize text := by
  obtain ⟨kept, gap, htext, hsplit, hkept, -, hlast⟩ := exists_cut text (Nat.le_refl _)
  rw [List.take_length] at hkept
  -- the literal is the last piece in front of the gap, and no gap can end it
  have hstop := endOf_inText hlast
  rw [hkept, h, endOf_concat] at hstop
  have hgap : gap = [] := by
    rcases List.eq_nil_or_concat (Piece.split kept) with hnil | ⟨pieces, last, hconcat⟩
    · rw [inText, hnil, h] at hkept
      simp [lay] at hkept
    · rw [List.concat_eq_append] at hconcat
      obtain ⟨item, rfl⟩ := hlast last (by simp [hconcat])
      have hitem : item = token.toLexeme := by
        rw [inText, hconcat, lay_concat, h] at hkept
        have htoken := List.head_eq_of_cons_eq (List.append_inj' hkept rfl).2
        rw [← htoken]
      have hcanonical := Piece.canonical_split text
      rw [hsplit, Piece.canonical_append] at hcanonical
      have hstops := hcanonical.2.2 (.lexeme item) (by simp [hconcat])
      simp only [isOpenLiteral, Bool.and_eq_true, decide_eq_true_eq] at hopen
      rw [Piece.spelled_split, hitem, Piece.stopsAt] at hstops
      simpa [Lexeme.stopsAt, hopen.1, hopen.2] using hstops
  rw [htext, hgap, List.append_nil]
  exact hstop

theorem endsOpen_of_isOpenLiteral {text : Text} {token : Token}
    (h : lastSignificant? (scan text) = some token) (hopen : token.isOpenLiteral = true) :
    ∃ kept, EndsOpen text kept token := by
  rw [lastSignificant_scan] at h
  obtain ⟨front, hfront⟩ := List.getLast?_eq_some_iff.1 h
  have hstop := stop_of_isOpenLiteral hfront hopen
  obtain ⟨kept, htext, hkept, hstart, hends⟩ := exists_last hfront hstop
  have hformed : token.toLexeme.Formed := inText_formed (List.mem_of_getLast? h)
  refine ⟨kept, htext, ?_, hformed, (isOpenLiteral_iff hformed).1 hopen, hstart, hstop, hends⟩
  rw [hkept, hfront]

namespace EndsOpen

variable {text kept : Text} {token : Token}

/-- The characters that close the literal. -/
theorem closed_eq (h : EndsOpen text kept token) :
    text ++ Literal.closing token.raw = kept ++ (token.extend (Literal.closing token.raw)).raw := by
  rw [h.text_eq, List.append_assoc]
  rfl

/-- Closing the literal changes the last token only. -/
theorem inText_close (h : EndsOpen text kept token) :
    inText 0 (text ++ Literal.closing token.raw) =
      inText 0 kept ++ [token.extend (Literal.closing token.raw)] := by
  obtain ⟨hformed, -⟩ := h.formed.close h.isOpen
  have hhead : (token.extend (Literal.closing token.raw)).raw.head? = token.raw.head? := by
    obtain ⟨c, cs, hraw⟩ := List.exists_cons_of_ne_nil (Piece.formed_raw_ne_nil h.formed)
    simp [extend, Lexeme.extend, hraw]
  have hliteral := inText_lexeme hformed [] (Piece.stopsAt_none (.lexeme _)) (Text.byteSize kept)
  rw [List.append_nil] at hliteral
  rw [h.closed_eq, inText_append (by rw [hhead]; exact h.ends), Nat.zero_add]
  congr 1
  refine hliteral.trans ?_
  have hstop : token.stop = Text.byteSize kept + Text.byteSize token.raw := by
    rw [h.stop_eq, h.text_eq, Text.byteSize_append]
  simp [extend, Lexeme.extend, h.start_eq, hstop, Nat.add_assoc, show inText _ [] = [] from rfl]

/-- The token of the closed literal is no open literal. -/
theorem isOpenLiteral_close (h : EndsOpen text kept token) :
    (token.extend (Literal.closing token.raw)).isOpenLiteral = false := by
  obtain ⟨-, hclosed⟩ := h.formed.close h.isOpen
  simp [isOpenLiteral, extend, Lexeme.extend, hclosed]

theorem endsClosed_close (h : EndsOpen text kept token) :
    EndsClosed (text ++ Literal.closing token.raw) := by
  intro last hlast
  rw [lastSignificant_scan, h.inText_close, List.getLast?_concat] at hlast
  cases hlast
  exact h.isOpenLiteral_close

end EndsOpen

end Token

theorem closeLiteral_eq_some_iff {text : Text} {proposal : Proposal} :
    closeLiteral? text = some proposal ↔
      ∃ token, Token.lastSignificant? (Token.scan text) = some token ∧
        token.isOpenLiteral = true ∧
        proposal = .adjoin text (Literal.closing token.raw) "Close the quoted value" := by
  unfold closeLiteral?
  cases Token.lastSignificant? (Token.scan text) with
  | none => simp
  | some token =>
      simp only [Option.ite_none_right_eq_some, Option.some.injEq, exists_eq_left']
      exact and_congr_right fun _ => eq_comm

/-! ## Reading -/

open Reading

/-- Of a quoted value only the value matters. -/
theorem Reading.step_literal_congr {a b : Token} (ha : a.kind = .stringLiteral)
    (hb : b.kind = .stringLiteral) (hvalue : a.value = b.value) (state : Reading)
    (finished : Bool) : state.step finished a = state.step finished b := by
  unfold step
  cases state.phase <;> simp [stepName, stepSettled, mayGrow, ha, hb, hvalue]

/-- A complete text that ends in an open literal has the same definition when the literal is
closed. -/
theorem Token.EndsOpen.read_close {text kept : Text} {token : Token} {definition : Definition}
    (h : EndsOpen text kept token) (hread : Definition.read text = .ok definition) :
    Definition.read (text ++ Literal.closing token.raw) = .ok definition := by
  obtain ⟨state, settled, hfeed, hsettle, hphase, rfl⟩ := Definition.exists_settled hread
  have hkind : token.kind = .stringLiteral := h.isOpen.1
  rw [h.tokens] at hfeed
  obtain ⟨before, hbefore, hstep⟩ := feed_concat_inv hfeed
  have hclosed : initial.feed false (inText 0 (text ++ Literal.closing token.raw)) =
      some state := by
    rw [h.inText_close]
    refine feed_concat hbefore ?_
    have hextended : (token.extend (Literal.closing token.raw)).kind = .stringLiteral := hkind
    rw [← hstep]
    exact step_literal_congr hextended hkind rfl before false
  refine Definition.ofTokens_complete hclosed (atEnd_complete hsettle hphase ?_)
  -- behind a literal no name is pending
  intro name stop hnamed
  rw [step_literal hkind hstep] at hnamed
  cases hnamed

/-- Behind a complete text that ends in an open literal only its end is proposed. -/
theorem Engine.complete_closeLiteral {engine : Engine} {text : Text} {definition : Definition}
    {proposal : Proposal} (h : Definition.read text = .ok definition)
    (hclose : closeLiteral? text = some proposal) (level : Nat) :
    engine.complete text level = [proposal] := by
  have hforward : engine.forward text definition = [proposal] := by
    simp only [forward, hclose]
  have hdistinct : Proposal.distinct [proposal] = [proposal] := rfl
  simp only [complete, h, hforward, hdistinct]
  cases level with
  | zero => rfl
  | succ n => simp [capped]

/-- A literal is closed exactly where a text ends in one that reading finds no closing quote for.
The closed text has the tokens of the text, except that the literal has more characters, is closed
and keeps its value, and that the end of input moves. There is nothing more to close in it. Where
the text is complete, closing the literal is all that is proposed, and the closed text has the same
definition. -/
theorem closeLiteral_exact (text : Text) :
    ((closeLiteral? text).isSome = true ↔
      ∃ token, Token.lastSignificant? (Token.scan text) = some token ∧
        token.toLexeme.Unclosed ∧ token.stop = Text.byteSize text) ∧
    ∀ proposal, closeLiteral? text = some proposal →
      (∃ front token suffix, proposal.text = text ++ suffix ∧
        Token.scan text = front ++ [token, Token.finish (Text.byteSize text)] ∧
        Token.scan proposal.text =
          front ++ [token.extend suffix, Token.finish (Text.byteSize proposal.text)] ∧
        token.isOpenLiteral = true ∧ (token.extend suffix).isOpenLiteral = false) ∧
      closeLiteral? proposal.text = none ∧
      ∀ definition, Definition.read text = .ok definition →
        Definition.read proposal.text = .ok definition ∧
          ∀ (engine : Engine) (level : Nat), engine.complete text level = [proposal] := by
  constructor
  · rw [Option.isSome_iff_exists]
    constructor
    · rintro ⟨proposal, hclose⟩
      obtain ⟨token, hlast, hopen, -⟩ := closeLiteral_eq_some_iff.1 hclose
      obtain ⟨kept, hends⟩ := Token.endsOpen_of_isOpenLiteral hlast hopen
      exact ⟨token, hlast, hends.isOpen, hends.stop_eq⟩
    · rintro ⟨token, hlast, hopen, -⟩
      have hformed : token.toLexeme.Formed := by
        rw [Token.lastSignificant_scan] at hlast
        exact Token.inText_formed (List.mem_of_getLast? hlast)
      refine ⟨_, closeLiteral_eq_some_iff.2 ⟨token, hlast, ?_, rfl⟩⟩
      exact (Token.isOpenLiteral_iff hformed).2 hopen
  · intro proposal hclose
    obtain ⟨token, hlast, hopen, rfl⟩ := closeLiteral_eq_some_iff.1 hclose
    obtain ⟨kept, hends⟩ := Token.endsOpen_of_isOpenLiteral hlast hopen
    refine ⟨⟨Token.inText 0 kept, token, Literal.closing token.raw, rfl, ?_, ?_, hopen,
      hends.isOpenLiteral_close⟩, closeLiteral_eq_none hends.endsClosed_close, ?_⟩
    · rw [Token.scan_eq, hends.tokens, List.append_assoc]
      rfl
    · rw [Token.scan_eq]
      simp only [Proposal.adjoin, hends.inText_close, List.append_assoc]
      rfl
    · intro definition hread
      exact ⟨hends.read_close hread,
        fun engine level => Engine.complete_closeLiteral hread hclose level⟩

/-- A backslash dangles at the end of the text: it stands for itself before and after the literal is
closed. -/
theorem closeLiteral_exact_backslash :
    ∃ proposal, closeLiteral? "log --name='a\\".toList = some proposal ∧
      proposal.text = "log --name='a\\\\'".toList ∧ closeLiteral? proposal.text = none ∧
      Definition.read proposal.text = .ok [⟨"log".toList, [("name".toList, "a\\".toList)]⟩] := by
  obtain ⟨-, hclosed⟩ := closeLiteral_exact "log --name='a\\".toList
  refine ⟨_, rfl, rfl, (hclosed _ rfl).2.1, ?_⟩
  exact ((hclosed _ rfl).2.2 _ rfl).1

end PipeAssist

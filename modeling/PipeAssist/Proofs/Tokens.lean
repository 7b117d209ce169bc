import Mathlib.Data.List.Basic
import PipeAssist.Proofs.Pieces
import PipeAssist.Completion.Proposal

/-!
# Tokens of cut and joined texts

The tokens of a text without the end of input are `Token.inText`, placed from any byte on. They
follow one another without overlap (`inText_stop_lt`). Cutting a text behind one of its tokens
leaves exactly the tokens before the cut (`exists_cut`), and appending to a text, right at its end
or as a new token, appends tokens (`inText_append`, `inText_separate`).
-/

set_option autoImplicit false

namespace PipeAssist

namespace Token

/-- The tokens of consecutive pieces of which the first one starts at byte `offset`. -/
def lay : Nat → List Piece → List Token
  | _, [] => []
  | offset, .blank run :: pieces => lay (offset + Text.byteSize run) pieces
  | offset, .lexeme item :: pieces =>
    ⟨item, offset, offset + Text.byteSize item.raw⟩ ::
      lay (offset + Text.byteSize item.raw) pieces

/-- The tokens of a text that starts at byte `offset`, without the end of input. -/
def inText (offset : Nat) (text : Text) : List Token := lay offset (Piece.split text)

theorem place_eq (offset : Nat) (pieces : List Piece) :
    place offset pieces =
      lay offset pieces ++ [finish (offset + Text.byteSize (Piece.spelled pieces))] := by
  induction pieces generalizing offset with
  | nil => rfl
  | cons piece rest ih =>
      cases piece with
      | blank run =>
          rw [place, lay, ih, Piece.spelled_cons, Text.byteSize_append, Nat.add_assoc]
          rfl
      | lexeme item =>
          rw [place, lay, ih, Piece.spelled_cons, Text.byteSize_append, Nat.add_assoc]
          rfl

/-- Scanning gives the tokens of the text and the end of input. -/
theorem scan_eq (text : Text) : scan text = inText 0 text ++ [finish (Text.byteSize text)] := by
  rw [scan, place_eq, Piece.spelled_split, Nat.zero_add, inText]

theorem lay_append (offset : Nat) (a b : List Piece) :
    lay offset (a ++ b) =
      lay offset a ++ lay (offset + Text.byteSize (Piece.spelled a)) b := by
  induction a generalizing offset with
  | nil => rfl
  | cons piece rest ih =>
      cases piece with
      | blank run =>
          rw [List.cons_append, lay, lay, ih, Piece.spelled_cons, Text.byteSize_append,
            Nat.add_assoc]
          rfl
      | lexeme item =>
          rw [List.cons_append, lay, lay, ih, Piece.spelled_cons, Text.byteSize_append,
            Nat.add_assoc]
          rfl

/-- Every token comes from a lexeme among the pieces, lies within their bytes, and covers as many
bytes as its characters take. -/
theorem lay_bounds {offset : Nat} {pieces : List Piece} {token : Token}
    (h : token ∈ lay offset pieces) :
    Piece.lexeme token.toLexeme ∈ pieces ∧ offset ≤ token.start ∧
      token.stop = token.start + Text.byteSize token.raw ∧
      token.stop ≤ offset + Text.byteSize (Piece.spelled pieces) := by
  induction pieces generalizing offset with
  | nil => cases h
  | cons piece rest ih =>
      rw [Piece.spelled_cons, Text.byteSize_append]
      cases piece with
      | blank run =>
          obtain ⟨hmem, hstart, hstop, hbound⟩ := ih h
          refine ⟨List.mem_cons_of_mem _ hmem, by omega, hstop, ?_⟩
          show _ ≤ offset + (Text.byteSize run + _)
          omega
      | lexeme item =>
          rw [lay, List.mem_cons] at h
          rcases h with rfl | h
          · refine ⟨List.mem_cons_self, Nat.le_refl _, rfl, ?_⟩
            show offset + Text.byteSize item.raw ≤ offset + (Text.byteSize item.raw + _)
            omega
          · obtain ⟨hmem, hstart, hstop, hbound⟩ := ih h
            refine ⟨List.mem_cons_of_mem _ hmem, by omega, hstop, ?_⟩
            show _ ≤ offset + (Text.byteSize item.raw + _)
            omega

/-- The last token of pieces that end with a lexeme ends where they end. -/
theorem lay_concat (offset : Nat) (pieces : List Piece) (item : Lexeme) :
    lay offset (pieces ++ [.lexeme item]) =
      lay offset pieces ++ [⟨item, offset + Text.byteSize (Piece.spelled pieces),
        offset + Text.byteSize (Piece.spelled (pieces ++ [.lexeme item]))⟩] := by
  rw [lay_append, Piece.spelled_append, Text.byteSize_append, ← Nat.add_assoc, Piece.spelled_cons,
    Piece.spelled_nil, List.append_nil]
  rfl

end Token

namespace Piece

theorem canonical_whole {pieces : List Piece} (h : Canonical pieces) {piece : Piece}
    (hmem : piece ∈ pieces) : piece.Whole := by
  induction pieces with
  | nil => cases hmem
  | cons head rest ih =>
      rcases List.mem_cons.1 hmem with rfl | hrest
      · exact h.1
      · exact ih h.2.2 hrest

end Piece

namespace Token

/-- The lexemes of tokens are those that scanning gives. -/
theorem inText_formed {offset : Nat} {text : Text} {token : Token}
    (h : token ∈ inText offset text) : token.toLexeme.Formed := by
  cases Piece.canonical_whole (Piece.canonical_split text) (lay_bounds h).1 with
  | lexeme formed => exact formed

theorem formed_kind_ne_endOfInput {item : Lexeme} (h : item.Formed) : item.kind ≠ .endOfInput := by
  cases h <;> simp

theorem formed_identifier {item : Lexeme} (h : item.Formed) (hkind : item.kind = .identifier) :
    Text.isWord item.value = true ∧ item.raw = item.value := by
  cases h with
  | word isWord => exact ⟨isWord, rfl⟩
  | _ => cases hkind

theorem inText_kind_ne {offset : Nat} {text : Text} {token : Token}
    (h : token ∈ inText offset text) : token.kind ≠ .endOfInput :=
  formed_kind_ne_endOfInput (inText_formed h)

/-- The significant tokens of a scan are the tokens of the text. -/
theorem filter_isSignificant_scan (text : Text) :
    (scan text).filter isSignificant = inText 0 text := by
  rw [scan_eq, List.filter_append]
  have hall : (inText 0 text).filter isSignificant = inText 0 text := by
    rw [List.filter_eq_self]
    intro token htoken
    simpa [isSignificant] using inText_kind_ne htoken
  have hend : [finish (Text.byteSize text)].filter isSignificant = [] := rfl
  rw [hall, hend, List.append_nil]

/-- The end of input is in its place already. -/
theorem terminated_scan (text : Text) : terminated (scan text) = scan text := by
  unfold terminated
  rw [scan_eq, List.getLast?_concat]
  rfl

/-! ## Cutting -/

/-- Pieces can be cut behind any of their tokens, so that the first part ends with a lexeme. -/
theorem exists_cut_pieces (pieces : List Piece) (offset k : Nat)
    (hk : k ≤ (lay offset pieces).length) :
    ∃ a b, pieces = a ++ b ∧ (lay offset a).length = k ∧
      ∀ p ∈ a.getLast?, ∃ item, p = .lexeme item := by
  induction pieces generalizing offset k with
  | nil =>
      refine ⟨[], [], rfl, ?_, by simp⟩
      have hzero : k = 0 := Nat.le_zero.1 hk
      rw [hzero]
      rfl
  | cons piece rest ih =>
      cases k with
      | zero => exact ⟨[], piece :: rest, rfl, rfl, by simp⟩
      | succ n =>
          cases piece with
          | blank run =>
              obtain ⟨a, b, rfl, hlength, hlast⟩ := ih (offset + Text.byteSize run) (n + 1) hk
              refine ⟨.blank run :: a, b, rfl, hlength, ?_⟩
              -- the cut lies behind a token, so the blanks are not all of the first part
              cases a with
              | nil => simp [lay] at hlength
              | cons q tail => simpa [List.getLast?_cons_cons] using hlast
          | lexeme item =>
              obtain ⟨a, b, rfl, hlength, hlast⟩ := ih (offset + Text.byteSize item.raw) n
                (Nat.le_of_succ_le_succ hk)
              refine ⟨.lexeme item :: a, b, rfl, congrArg (· + 1) hlength, ?_⟩
              cases a with
              | nil => simp
              | cons q tail => simpa [List.getLast?_cons_cons] using hlast

/-- A text can be cut behind any of its tokens: the first part ends with that token, and both parts
keep their tokens. -/
theorem exists_cut (text : Text) {k : Nat} (hk : k ≤ (inText 0 text).length) :
    ∃ a b, text = a ++ b ∧ Piece.split text = Piece.split a ++ Piece.split b ∧
      inText 0 a = (inText 0 text).take k ∧
      inText (Text.byteSize a) b = (inText 0 text).drop k ∧
      ∀ p ∈ (Piece.split a).getLast?, ∃ item, p = .lexeme item := by
  obtain ⟨a, b, hpieces, hlength, hlast⟩ := exists_cut_pieces (Piece.split text) 0 k hk
  have hcanonical := Piece.canonical_split text
  rw [hpieces, Piece.canonical_append] at hcanonical
  obtain ⟨ha, hb, -⟩ := hcanonical
  have htext : text = Piece.spelled a ++ Piece.spelled b := by
    rw [← Piece.spelled_append, ← hpieces, Piece.spelled_split]
  have htokens : inText 0 text =
      lay 0 a ++ lay (Text.byteSize (Piece.spelled a)) b := by
    rw [inText, hpieces, lay_append, Nat.zero_add]
  refine ⟨Piece.spelled a, Piece.spelled b, htext, ?_, ?_, ?_, ?_⟩
  · rw [Piece.split_of_canonical ha, Piece.split_of_canonical hb, hpieces]
  · rw [inText, Piece.split_of_canonical ha, htokens, ← hlength, List.take_left']
    rfl
  · rw [inText, Piece.split_of_canonical hb, htokens, ← hlength, List.drop_left']
    rfl
  · rwa [Piece.split_of_canonical ha]

@[simp] theorem endOf_concat (front : List Token) (token : Token) :
    endOf (front ++ [token]) = token.stop := by
  rw [endOf, List.getLast?_concat]

/-- Tokens end where one of them does, or at the start if there is none. -/
theorem endOf_eq_zero_or_mem (tokens : List Token) :
    endOf tokens = 0 ∨ ∃ token ∈ tokens, endOf tokens = token.stop := by
  rcases List.eq_nil_or_concat' tokens with rfl | ⟨front, last, rfl⟩
  · exact .inl rfl
  · exact .inr ⟨last, by simp, endOf_concat front last⟩

/-- The byte where a text ends that ends with its last token. -/
theorem endOf_inText {text : Text}
    (h : ∀ p ∈ (Piece.split text).getLast?, ∃ item, p = .lexeme item) :
    endOf (inText 0 text) = Text.byteSize text := by
  rcases List.eq_nil_or_concat' (Piece.split text) with hnil | ⟨front, last, hconcat⟩
  · have htext : text = [] := by rw [← Piece.spelled_split text, hnil]; rfl
    rw [htext]
    rfl
  · rw [hconcat] at h
    obtain ⟨item, hitem⟩ := h last (by simp)
    have hsize : Text.byteSize text = Text.byteSize (Piece.spelled (front ++ [.lexeme item])) := by
      rw [← Piece.spelled_split text, hconcat, hitem]
    rw [inText, hconcat, hitem, lay_concat, endOf_concat, hsize]
    exact Nat.zero_add _

/-- A token that another one follows ends before the end of the text. -/
theorem inText_stop_lt {text : Text} {before after : List Token} {token next : Token}
    (h : inText 0 text = before ++ token :: next :: after) : token.stop < Text.byteSize text := by
  have hlength : before.length + 1 ≤ (inText 0 text).length := by
    rw [h, List.length_append]
    simp
  obtain ⟨a, b, htext, -, hleft, hright, hlast⟩ := exists_cut text hlength
  -- cut behind the token: it ends the first part, and the next token has bytes in the second
  have hleft' : inText 0 a = before ++ [token] := by
    rw [hleft, h, ← List.singleton_append, ← List.append_assoc]
    exact List.take_left' (by simp)
  have hright' : inText (Text.byteSize a) b = next :: after := by
    rw [hright, h, ← List.singleton_append, ← List.append_assoc]
    exact List.drop_left' (by simp)
  have hstop := endOf_inText hlast
  rw [hleft', endOf_concat] at hstop
  have hnext : next ∈ inText (Text.byteSize a) b := by
    rw [hright']
    exact List.mem_cons_self
  have hpos := Text.byteSize_pos (Piece.formed_raw_ne_nil (inText_formed hnext))
  obtain ⟨-, hstart, hsize, hbound⟩ := lay_bounds hnext
  rw [Piece.spelled_split] at hbound
  rw [htext, Text.byteSize_append]
  omega

/-- The last token of a text that ends where the text does is cut off with its characters. -/
theorem exists_last {text : Text} {front : List Token} {token : Token}
    (h : inText 0 text = front ++ [token]) (hstop : token.stop = Text.byteSize text) :
    ∃ kept, text = kept ++ token.raw ∧ inText 0 kept = front ∧
      token.start = Text.byteSize kept ∧
      ∀ p ∈ (Piece.split kept).getLast?, p.stopsAt token.raw.head? = true := by
  rcases List.eq_nil_or_concat (Piece.split text) with hnil | ⟨pieces, last, hconcat⟩
  · rw [inText, hnil] at h
    simp [lay] at h
  · rw [List.concat_eq_append] at hconcat
    have hcanonical := Piece.canonical_split text
    rw [hconcat, Piece.canonical_append] at hcanonical
    obtain ⟨hpieces, hlast, hstops⟩ := hcanonical
    have htext : text = Piece.spelled pieces ++ last.raw := by
      rw [← Piece.spelled_split text, hconcat, Piece.spelled_append, Piece.spelled_cons,
        Piece.spelled_nil, List.append_nil]
    cases last with
    | blank run =>
        -- the blanks would stand behind the last token
        exfalso
        have hmem : token ∈ lay 0 pieces := by
          rw [inText, hconcat, lay_append] at h
          simp only [lay, List.append_nil] at h
          rw [h]
          exact List.mem_append_right front List.mem_cons_self
        obtain ⟨-, -, -, hbound⟩ := lay_bounds hmem
        have hpos := Text.byteSize_pos hlast.1.raw_ne_nil
        rw [htext, Text.byteSize_append] at hstop
        omega
    | lexeme item =>
        rw [inText, hconcat, lay_concat] at h
        obtain ⟨hfront, htoken⟩ := List.append_inj' h rfl
        have hitem := List.head_eq_of_cons_eq htoken
        have hraw : item.raw = token.raw := by rw [← hitem]
        refine ⟨Piece.spelled pieces, ?_, ?_, ?_, ?_⟩
        · rw [htext, ← hraw]
          rfl
        · rw [inText, Piece.split_of_canonical hpieces, hfront]
        · rw [← hitem]
          exact Nat.zero_add _
        · rw [Piece.split_of_canonical hpieces, ← hraw]
          rw [Piece.spelled_cons, Piece.spelled_nil, List.append_nil] at hstops
          exact hstops

/-! ## Joining -/

/-- Appending to a text appends to its tokens when its last piece ends there. -/
theorem inText_append {a b : Text} (h : ∀ p ∈ (Piece.split a).getLast?, p.stopsAt b.head? = true)
    (offset : Nat) :
    inText offset (a ++ b) = inText offset a ++ inText (offset + Text.byteSize a) b := by
  rw [inText, Piece.split_append h, lay_append, Piece.spelled_split]
  rfl

/-- Texts whose last piece is a lexeme that a blank ends, and the empty text. They end neither in
blanks nor in an open literal. -/
def Sealed (text : Text) : Prop :=
  ∀ p ∈ (Piece.split text).getLast?, ∃ item, p = .lexeme item ∧ item.stopsAt (some ' ') = true

theorem sealed_nil : Sealed [] := by
  intro p hp
  cases hp

/-- The last character of a lexeme that a blank ends is no blank. -/
theorem formed_getLast_not_blank {item : Lexeme} (h : item.Formed)
    (hstops : item.stopsAt (some ' ') = true) : item.raw.getLast?.any Text.isBlank = false := by
  cases h with
  | pipe => decide
  | dot => decide
  | equals => decide
  | optionMarker => decide
  | @literal quote body isQuote full =>
      have hlast : body.getLast? = some quote := by
        simp only [Lexeme.stopsAt, Literal.isOpen, Option.isNone_some, Bool.false_or,
          Bool.not_eq_true', Bool.or_eq_false_iff, decide_eq_false_iff_not, not_not] at hstops
        exact hstops.1
      have hraw : (quote :: body).getLast? = some quote := by
        rw [List.getLast?_cons, hlast]
        rfl
      simpa [hraw] using (Piece.isQuote_ne isQuote).2.2.2.2.2
  | @word word isWord =>
      cases hlast : word.getLast? with
      | none => rfl
      | some c =>
          have hc : c ∈ word := List.mem_of_getLast? hlast
          cases word with
          | nil => cases hc
          | cons d ds =>
              simp only [Text.isWord, Bool.and_eq_true, List.all_eq_true] at isWord
              have hpart : Text.isWordPart c = true := by
                rcases List.mem_cons.1 hc with rfl | hc
                · exact Text.isWordPart_of_isWordStart isWord.1
                · exact isWord.2 c hc
              exact Text.isBlank_eq_false_of_isWordPart hpart
  | unknown notBlank => simpa using notBlank

theorem Sealed.endsInBlank_eq_false {text : Text} (h : Sealed text) :
    Text.endsInBlank text = false := by
  rcases List.eq_nil_or_concat (Piece.split text) with hnil | ⟨front, last, hconcat⟩
  · have htext : text = [] := by rw [← Piece.spelled_split text, hnil]; rfl
    rw [htext]
    rfl
  · rw [List.concat_eq_append] at hconcat
    unfold Sealed at h
    rw [hconcat] at h
    obtain ⟨item, rfl, hstops⟩ := h last (by simp)
    have hwhole := Piece.canonical_whole (Piece.canonical_split text)
      (hconcat ▸ List.mem_append_right front List.mem_cons_self)
    cases hwhole with
    | lexeme formed =>
        have htext : text = Piece.spelled front ++ item.raw := by
          rw [← Piece.spelled_split text, hconcat, Piece.spelled_append, Piece.spelled_cons,
            Piece.spelled_nil, List.append_nil]
          rfl
        have hne := Piece.formed_raw_ne_nil formed
        rw [Text.endsInBlank, htext, List.getLast?_append_of_ne_nil _ hne]
        exact formed_getLast_not_blank formed hstops

/-- Behind a text that does not end inside a token a proposal puts one blank. -/
theorem Sealed.separate_text {kept : Text} (h : Sealed kept) (hne : kept ≠ []) (suffix : Text)
    (explanation : String) :
    (Proposal.separate kept suffix explanation).text = kept ++ ' ' :: suffix := by
  simp [Proposal.separate, h.endsInBlank_eq_false, hne]

/-- A proposal that adds a token adds its pieces behind at most one blank. -/
theorem split_separate {kept : Text} (hkept : Sealed kept) (suffix : Text)
    (hsuffix : suffix.head?.any Text.isBlank = false) (explanation : String) :
    ∃ gap : List Piece, Piece.split (Proposal.separate kept suffix explanation).text =
      Piece.split kept ++ gap ++ Piece.split suffix ∧
      ∀ offset, lay offset gap = [] := by
  unfold Proposal.separate
  rw [hkept.endsInBlank_eq_false, Bool.or_false]
  by_cases hnil : kept = []
  · refine ⟨[], ?_, fun _ => rfl⟩
    simp [hnil, Proposal.adjoin, show Piece.split [] = [] from rfl]
  · -- the blank ends the last lexeme before it, and what comes behind it does not extend it
    refine ⟨[.blank [' ']], ?_, fun _ => rfl⟩
    have hblank : Piece.split (' ' :: suffix) = .blank [' '] :: Piece.split suffix := by
      have hwhole : Piece.Whole (.blank [' ']) := .blank (by decide) rfl
      exact Piece.split_append_of_stopsAt hwhole (by simpa [Piece.stopsAt] using hsuffix)
    have hlast : ∀ p ∈ (Piece.split kept).getLast?, p.stopsAt (' ' :: suffix).head? = true := by
      intro p hp
      obtain ⟨item, rfl, hstops⟩ := hkept p hp
      exact hstops
    simp only [hnil, decide_false, Bool.false_eq_true, if_false]
    rw [Piece.split_append hlast, hblank, List.append_assoc]
    rfl

/-- A proposal that adds a token keeps the tokens before it. -/
theorem inText_separate {kept : Text} (hkept : Sealed kept) (suffix : Text)
    (hsuffix : suffix.head?.any Text.isBlank = false) (explanation : String) :
    ∃ offset, inText 0 (Proposal.separate kept suffix explanation).text =
        inText 0 kept ++ inText offset suffix ∧
      offset + Text.byteSize suffix =
        Text.byteSize (Proposal.separate kept suffix explanation).text := by
  obtain ⟨gap, hsplit, hgap⟩ := split_separate hkept suffix hsuffix explanation
  refine ⟨0 + Text.byteSize (Piece.spelled (Piece.split kept ++ gap)), ?_, ?_⟩
  · rw [inText, hsplit, lay_append, lay_append, hgap, List.append_nil]
    rfl
  · rw [← Piece.spelled_split (Proposal.separate kept suffix explanation).text, hsplit,
      Piece.spelled_append (_ ++ gap), Piece.spelled_split suffix, Text.byteSize_append,
      Nat.zero_add]

/-- A lexeme that a blank ends may stand in front of anything that ends it. -/
theorem Sealed.lexeme_append {item : Lexeme} (hformed : item.Formed)
    (hclosed : item.kind = .stringLiteral → Literal.isOpen item.raw = false) (after : Text)
    (hstops : item.stopsAt after.head? = true) (hafter : Sealed after) :
    Sealed (item.raw ++ after) := by
  intro p hp
  rw [show item.raw = (Piece.lexeme item).raw from rfl,
    Piece.split_append_of_stopsAt (.lexeme hformed) hstops, List.getLast?_cons] at hp
  cases hlast : (Piece.split after).getLast? with
  | none =>
      rw [hlast] at hp
      obtain rfl : Piece.lexeme item = p := Option.some.inj hp
      exact ⟨item, rfl, Lexeme.stopsAt_blank hclosed⟩
  | some q =>
      rw [hlast] at hp
      obtain rfl : q = p := Option.some.inj hp
      exact hafter q hlast

theorem sealed_lexeme {item : Lexeme} (hformed : item.Formed)
    (hclosed : item.kind = .stringLiteral → Literal.isOpen item.raw = false) :
    Sealed item.raw := by
  have h := Sealed.lexeme_append hformed hclosed [] (Piece.stopsAt_none (.lexeme item)) sealed_nil
  rwa [List.append_nil] at h

/-- A text ends like what is appended to it. -/
theorem Sealed.append {a b : Text} (h : ∀ p ∈ (Piece.split a).getLast?, p.stopsAt b.head? = true)
    (hb : Sealed b) (hne : b ≠ []) : Sealed (a ++ b) := by
  intro p hp
  rw [Piece.split_append h, List.getLast?_append_of_ne_nil _ (Piece.split_ne_nil hne)] at hp
  exact hb p hp

/-- A proposal ends like the token it adds. -/
theorem Sealed.separate {kept suffix : Text} (hkept : Sealed kept)
    (hblank : suffix.head?.any Text.isBlank = false) (hne : suffix ≠ [])
    (hsuffix : Sealed suffix) (explanation : String) :
    Sealed (Proposal.separate kept suffix explanation).text := by
  obtain ⟨gap, hsplit, -⟩ := split_separate hkept suffix hblank explanation
  intro p hp
  rw [hsplit, List.getLast?_append_of_ne_nil _ (Piece.split_ne_nil hne)] at hp
  exact hsuffix p hp

end Token

end PipeAssist

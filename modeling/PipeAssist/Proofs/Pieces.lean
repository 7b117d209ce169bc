import Mathlib.Data.List.TakeWhile
import PipeAssist.Token.Scan
import PipeAssist.Proofs.Literals

/-!
# Splitting texts into pieces

`Piece.split` looks at most one character beyond a piece. Which pieces there are is said by
`Piece.Whole`, and whether a piece ends at a place is a matter of the character that follows
(`Piece.stopsAt`). A list of pieces is the split of the text that it spells exactly when every piece
is whole and ends where the next one begins (`split_of_canonical`, `canonical_split`). Cutting a
text between two pieces and appending to a text are read off from this.
-/

set_option autoImplicit false

namespace PipeAssist

/-- The lexemes that scanning gives. -/
inductive Lexeme.Formed : Lexeme → Prop where
  | pipe : Formed ⟨.pipe, ['|'], []⟩
  | dot : Formed ⟨.dot, ['.'], []⟩
  | equals : Formed ⟨.equals, ['='], []⟩
  | optionMarker : Formed ⟨.optionMarker, ['-', '-'], []⟩
  | literal {quote : Char} {body : Text} (isQuote : Literal.isQuote quote = true)
      (full : (Literal.read quote body).raw = body) :
      Formed ⟨.stringLiteral, quote :: body, (Literal.read quote body).value⟩
  | word {word : Text} (isWord : Text.isWord word = true) : Formed ⟨.identifier, word, word⟩
  | unknown {c : Char} (notBlank : Text.isBlank c = false) (notPipe : c ≠ '|') (notDot : c ≠ '.')
      (notEquals : c ≠ '=') (notQuote : Literal.isQuote c = false)
      (notWord : Text.isWordStart c = false) : Formed ⟨.unknown, [c], []⟩

/-- Whether a lexeme ends before the character `next`, or before the end of the text. -/
def Lexeme.stopsAt (item : Lexeme) (next : Option Char) : Bool :=
  match item.kind with
  | .identifier => !next.any Text.isWordPart
  | .unknown => item.raw ≠ ['-'] || next ≠ some '-'
  | .stringLiteral => next.isNone || !Literal.isOpen item.raw
  | _ => true

/-- A blank ends every lexeme but an open literal. -/
theorem Lexeme.stopsAt_blank {item : Lexeme}
    (h : item.kind = .stringLiteral → Literal.isOpen item.raw = false) :
    item.stopsAt (some ' ') = true := by
  unfold stopsAt
  cases hkind : item.kind with
  | identifier => rfl
  | unknown => simp
  | stringLiteral => simp [h hkind]
  | _ => rfl

namespace Piece

/-- The pieces that scanning gives. -/
inductive Whole : Piece → Prop where
  | blank {c : Char} {cs : Text} (head : Text.isBlank c = true)
      (full : cs.takeWhile Text.isBlank = cs) : Whole (.blank (c :: cs))
  | lexeme {item : Lexeme} (formed : item.Formed) : Whole (.lexeme item)

/-- Whether a piece ends before the character `next`, or before the end of the text. -/
def stopsAt : Piece → Option Char → Bool
  | .blank _, next => !next.any Text.isBlank
  | .lexeme item, next => item.stopsAt next

/-- The characters of consecutive pieces. -/
def spelled (pieces : List Piece) : Text := pieces.flatMap raw

/-- Lists of whole pieces, each of which ends where the next one begins. -/
def Canonical : List Piece → Prop
  | [] => True
  | piece :: rest => piece.Whole ∧ piece.stopsAt (spelled rest).head? = true ∧ Canonical rest

@[simp] theorem spelled_nil : spelled [] = [] := rfl

@[simp] theorem spelled_cons (piece : Piece) (rest : List Piece) :
    spelled (piece :: rest) = piece.raw ++ spelled rest := rfl

@[simp] theorem spelled_append (a b : List Piece) : spelled (a ++ b) = spelled a ++ spelled b := by
  simp [spelled]

theorem formed_raw_ne_nil {item : Lexeme} (h : item.Formed) : item.raw ≠ [] := by
  cases h with
  | word isWord =>
      rintro rfl
      cases isWord
  | _ => simp

theorem Whole.raw_ne_nil {piece : Piece} (h : piece.Whole) : piece.raw ≠ [] := by
  cases h with
  | blank => simp [raw]
  | lexeme formed => exact formed_raw_ne_nil formed

/-! ## Runs of characters -/

/-- A leading run is followed by a character that does not belong to it. -/
theorem head_dropWhile (p : Char → Bool) (text : Text) :
    (text.dropWhile p).head?.any p = false := by
  have hnot := List.head?_dropWhile_not p text
  cases hhead : (text.dropWhile p).head? with
  | none => rfl
  | some c =>
      rw [hhead] at hnot
      exact hnot

/-- A run that fills a text stays the leading run when a character outside the run follows. -/
theorem takeWhile_append_of_head {p : Char → Bool} {run after : Text}
    (hrun : run.takeWhile p = run) (hafter : after.head?.any p = false) :
    (run ++ after).takeWhile p = run := by
  rw [List.takeWhile_append_of_pos (List.takeWhile_eq_self_iff.1 hrun)]
  cases after with
  | nil => simp
  | cons c cs =>
      have hc : p c = false := by simpa using hafter
      simp [hc]

/-! ## The first piece -/

theorem isQuote_ne {c : Char} (h : Literal.isQuote c = true) :
    c ≠ '|' ∧ c ≠ '.' ∧ c ≠ '=' ∧ c ≠ '-' ∧ c ≠ '\\' ∧ Text.isBlank c = false := by
  simp only [Literal.isQuote, Bool.or_eq_true, decide_eq_true_eq] at h
  rcases h with rfl | rfl <;> decide

/-- The first lexeme of a text that starts with no blank is one of the lexemes, a leading part of
the text, and ends where the rest begins. -/
theorem firstLexeme_spec {c : Char} (hblank : Text.isBlank c = false) (rest : Text) :
    ∃ after, c :: rest = (firstLexeme c rest).raw ++ after ∧ (firstLexeme c rest).Formed ∧
      (firstLexeme c rest).stopsAt after.head? = true := by
  unfold firstLexeme
  by_cases hpipe : c = '|'
  · subst hpipe
    exact ⟨rest, rfl, .pipe, rfl⟩
  by_cases hdot : c = '.'
  · subst hdot
    exact ⟨rest, rfl, .dot, rfl⟩
  by_cases hequals : c = '='
  · subst hequals
    exact ⟨rest, rfl, .equals, rfl⟩
  simp only [hpipe, hdot, hequals, if_false]
  by_cases hmarker : c = '-' ∧ rest.head? = some '-'
  · obtain ⟨rfl, hhead⟩ := hmarker
    obtain ⟨after, rfl⟩ := List.head?_eq_some_iff.1 hhead
    exact ⟨after, rfl, .optionMarker, rfl⟩
  have hmarker' : (decide (c = '-') && decide (rest.head? = some '-')) = false := by
    simpa [Bool.and_eq_false_iff] using hmarker
  simp only [hmarker', Bool.false_eq_true, if_false]
  by_cases hquote : Literal.isQuote c = true
  · obtain ⟨-, -, -, -, hback, -⟩ := isQuote_ne hquote
    obtain ⟨after, hafter⟩ := Literal.read_raw_append c rest
    simp only [hquote, if_true]
    -- a closed literal reads the same without the rest; behind an open one there is no rest
    cases hclosed : (Literal.read c rest).closed with
    | true =>
        have hread : Literal.read c (Literal.read c rest).raw = Literal.read c rest := by
          simpa using Literal.read_append_of_closed c rest [] hclosed
        refine ⟨after, congrArg (c :: ·) hafter, ?_, ?_⟩
        · have hformed := Lexeme.Formed.literal hquote (congrArg Literal.raw hread)
          rwa [hread] at hformed
        · simp [Lexeme.stopsAt, Literal.isOpen_read c hback, hclosed]
    | false =>
        have hraw := Literal.read_raw_of_open c rest hclosed
        rw [hraw]
        exact ⟨[], by simp, .literal hquote hraw, by simp [Lexeme.stopsAt]⟩
  simp only [hquote, Bool.false_eq_true, if_false]
  by_cases hword : Text.isWordStart c = true
  · simp only [hword, if_true]
    refine ⟨rest.dropWhile Text.isWordPart, ?_, .word ?_, ?_⟩
    · show c :: rest = c :: (rest.takeWhile Text.isWordPart ++ rest.dropWhile Text.isWordPart)
      rw [List.takeWhile_append_dropWhile]
    · simp only [Text.isWord, hword, Bool.true_and, List.all_eq_true]
      exact fun d hd => List.mem_takeWhile_imp hd
    · simp [Lexeme.stopsAt, head_dropWhile]
  · simp only [hword, Bool.false_eq_true, if_false]
    refine ⟨rest, rfl, .unknown hblank hpipe hdot hequals (by simpa using hquote)
      (by simpa using hword), ?_⟩
    by_cases hdash : c = '-'
    · have hhead : rest.head? ≠ some '-' := fun h => hmarker ⟨hdash, h⟩
      simp [Lexeme.stopsAt, hhead]
    · simp [Lexeme.stopsAt, hdash]

/-- The first piece of a text is whole, a leading part of the text, and ends where the rest
begins. -/
theorem first_spec (c : Char) (rest : Text) :
    ∃ after, c :: rest = (first c rest).raw ++ after ∧ (first c rest).Whole ∧
      (first c rest).stopsAt after.head? = true := by
  unfold first
  by_cases hblank : Text.isBlank c = true
  · simp only [hblank, if_true]
    refine ⟨rest.dropWhile Text.isBlank, ?_, .blank hblank List.takeWhile_idem, ?_⟩
    · show c :: rest = c :: (rest.takeWhile Text.isBlank ++ rest.dropWhile Text.isBlank)
      rw [List.takeWhile_append_dropWhile]
    · simp [stopsAt, head_dropWhile]
  · simp only [hblank, Bool.false_eq_true, if_false]
    obtain ⟨after, htext, hformed, hstops⟩ := firstLexeme_spec (by simpa using hblank) rest
    exact ⟨after, htext, .lexeme hformed, hstops⟩

/-- A lexeme starts with no blank and is the first one of every text that starts with it and goes on
where it ends. -/
theorem firstLexeme_append {item : Lexeme} (h : item.Formed) {after : Text}
    (hstops : item.stopsAt after.head? = true) :
    ∃ c cs, item.raw = c :: cs ∧ Text.isBlank c = false ∧ firstLexeme c (cs ++ after) = item := by
  cases h with
  | pipe => exact ⟨'|', [], rfl, by decide, rfl⟩
  | dot => exact ⟨'.', [], rfl, by decide, rfl⟩
  | equals => exact ⟨'=', [], rfl, by decide, rfl⟩
  | optionMarker => exact ⟨'-', ['-'], rfl, by decide, rfl⟩
  | @literal quote body isQuote full =>
      obtain ⟨hpipe, hdot, hequals, hdash, hback, hblank⟩ := isQuote_ne isQuote
      refine ⟨quote, body, rfl, hblank, ?_⟩
      have hread : Literal.read quote (body ++ after) = Literal.read quote body := by
        cases hclosed : (Literal.read quote body).closed with
        | true =>
            have happend := Literal.read_append_of_closed quote body after hclosed
            rwa [full] at happend
        | false =>
            have hopen := Literal.isOpen_read quote hback body
            rw [full, hclosed] at hopen
            have hnil : after = [] := by simpa [Lexeme.stopsAt, hopen] using hstops
            rw [hnil, List.append_nil]
      simp [firstLexeme, hpipe, hdot, hequals, hdash, isQuote, hread, full]
  | @word word isWord =>
      cases word with
      | nil => cases isWord
      | cons c cs =>
          simp only [Text.isWord, Bool.and_eq_true, List.all_eq_true] at isWord
          obtain ⟨hstart, hparts⟩ := isWord
          obtain ⟨hpipe, hdot, hequals, hdash, hquote⟩ := Text.isWordStart_punctuation hstart
          refine ⟨c, cs, rfl, Text.isBlank_eq_false_of_isWordStart hstart, ?_⟩
          have hrun : (cs ++ after).takeWhile Text.isWordPart = cs :=
            takeWhile_append_of_head (List.takeWhile_eq_self_iff.2 hparts)
              (by simpa [Lexeme.stopsAt] using hstops)
          simp [firstLexeme, hpipe, hdot, hequals, hdash, hquote, hstart, hrun]
  | @unknown c notBlank notPipe notDot notEquals notQuote notWord =>
      refine ⟨c, [], rfl, notBlank, ?_⟩
      -- a single dash is the one unknown character whose neighbour matters
      have hmarker : (decide (c = '-') && decide (after.head? = some '-')) = false := by
        by_cases hdash : c = '-'
        · simpa [Lexeme.stopsAt, hdash] using hstops
        · simp [hdash]
      simp [firstLexeme, notPipe, notDot, notEquals, notQuote, notWord, hmarker]

/-- A whole piece is the first one of every text that starts with it and goes on where it ends. -/
theorem Whole.first_append {piece : Piece} (h : piece.Whole) {after : Text}
    (hstops : piece.stopsAt after.head? = true) :
    ∃ c cs, piece.raw = c :: cs ∧ first c (cs ++ after) = piece := by
  cases h with
  | @blank c cs head full =>
      refine ⟨c, cs, rfl, ?_⟩
      have hrun : (cs ++ after).takeWhile Text.isBlank = cs :=
        takeWhile_append_of_head full (by simpa [stopsAt] using hstops)
      simp [first, head, hrun]
  | lexeme formed =>
      obtain ⟨c, cs, hraw, hblank, hfirst⟩ := firstLexeme_append formed hstops
      exact ⟨c, cs, hraw, by simp [first, hblank, hfirst]⟩

/-! ## Splits -/

/-- The characters to be passed over are dropped. -/
theorem splitAfter_length (skipped rest : Text) :
    splitAfter skipped.length (skipped ++ rest) = split rest := by
  induction skipped with
  | nil => rfl
  | cons c cs ih =>
      show splitAfter (cs.length + 1) (c :: (cs ++ rest)) = split rest
      rw [splitAfter]
      exact ih

/-- A whole piece that ends where `after` begins is split off. -/
theorem split_append_of_stopsAt {piece : Piece} {after : Text} (hwhole : piece.Whole)
    (hstops : piece.stopsAt after.head? = true) :
    split (piece.raw ++ after) = piece :: split after := by
  obtain ⟨c, cs, hraw, hfirst⟩ := hwhole.first_append hstops
  rw [hraw]
  show splitAfter 0 (c :: (cs ++ after)) = _
  rw [splitAfter]
  simp only [hfirst, hraw, List.length_cons, Nat.add_sub_cancel]
  rw [splitAfter_length]

/-- Induction along the pieces of a text. -/
theorem splitInduction {motive : Text → Prop} (nil : motive [])
    (piece : ∀ (p : Piece) (after : Text), p.Whole → p.stopsAt after.head? = true →
      motive after → motive (p.raw ++ after)) (text : Text) : motive text := by
  induction hlength : text.length using Nat.strong_induction_on generalizing text with
  | _ n ih =>
      cases text with
      | nil => exact nil
      | cons c rest =>
          obtain ⟨after, htext, hwhole, hstops⟩ := first_spec c rest
          have hpos := List.length_pos_iff.2 hwhole.raw_ne_nil
          have hshorter : after.length < n := by
            rw [← hlength, htext, List.length_append]
            omega
          rw [htext]
          exact piece _ after hwhole hstops (ih after.length hshorter after rfl)

/-- The pieces of a text spell the text. -/
@[simp] theorem spelled_split (text : Text) : spelled (split text) = text := by
  induction text using splitInduction with
  | nil => rfl
  | piece p after hwhole hstops ih => rw [split_append_of_stopsAt hwhole hstops, spelled_cons, ih]

theorem split_ne_nil {text : Text} (h : text ≠ []) : split text ≠ [] := by
  intro hnil
  apply h
  rw [← spelled_split text, hnil]
  rfl

theorem canonical_split (text : Text) : Canonical (split text) := by
  induction text using splitInduction with
  | nil => trivial
  | piece p after hwhole hstops ih =>
      rw [split_append_of_stopsAt hwhole hstops]
      exact ⟨hwhole, by rwa [spelled_split], ih⟩

/-- A canonical list of pieces is the split of what it spells. -/
theorem split_of_canonical {pieces : List Piece} (h : Canonical pieces) :
    split (spelled pieces) = pieces := by
  induction pieces with
  | nil => rfl
  | cons p rest ih =>
      obtain ⟨hwhole, hstops, hrest⟩ := h
      rw [spelled_cons, split_append_of_stopsAt hwhole hstops, ih hrest]

/-- Every piece ends at the end of the text. -/
theorem stopsAt_none (piece : Piece) : piece.stopsAt none = true := by
  cases piece with
  | blank run => rfl
  | lexeme item =>
      obtain ⟨kind, raw, value⟩ := item
      cases kind <;> simp [stopsAt, Lexeme.stopsAt]

/-- Canonical lists can be joined when the last piece of the first ends where the second begins. -/
theorem canonical_append {a b : List Piece} :
    Canonical (a ++ b) ↔ Canonical a ∧ Canonical b ∧
      ∀ p ∈ a.getLast?, p.stopsAt (spelled b).head? = true := by
  induction a with
  | nil => simp [Canonical]
  | cons p rest ih =>
      cases rest with
      | nil => simp [Canonical, stopsAt_none, and_comm, and_left_comm]
      | cons q tail =>
          have hhead : (spelled (q :: tail ++ b)).head? = (spelled (q :: tail)).head? ∨
              q.raw = [] := by
            cases hq : q.raw with
            | nil => exact Or.inr rfl
            | cons c cs => exact Or.inl (by simp [hq])
          rw [List.cons_append, Canonical, ih, Canonical, List.getLast?_cons_cons]
          constructor
          · rintro ⟨hwhole, hstops, hrest, hb, hlast⟩
            have hq := hrest.1.raw_ne_nil
            rw [hhead.resolve_right hq] at hstops
            exact ⟨⟨hwhole, hstops, hrest⟩, hb, hlast⟩
          · rintro ⟨⟨hwhole, hstops, hrest⟩, hb, hlast⟩
            have hq := hrest.1.raw_ne_nil
            rw [← hhead.resolve_right hq] at hstops
            exact ⟨hwhole, hstops, hrest, hb, hlast⟩

/-- Appending to a text appends to its pieces when its last piece ends there. -/
theorem split_append {a b : Text} (h : ∀ p ∈ (split a).getLast?, p.stopsAt b.head? = true) :
    split (a ++ b) = split a ++ split b := by
  have hcanonical : Canonical (split a ++ split b) :=
    canonical_append.2 ⟨canonical_split a, canonical_split b, by rwa [spelled_split]⟩
  simpa using split_of_canonical hcanonical

end Piece

end PipeAssist

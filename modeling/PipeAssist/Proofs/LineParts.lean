import PipeAssist.Proofs.Roles
import PipeAssist.Proofs.Spans

/-!
# Parts of a highlighted line

Highlighting gives every piece of a line a style and nothing else: the parts are the pieces, in
order and with their characters. So they make up the line (`flatMap_text_stylePieces`), and with the
bytes that they cover (`placeParts`) each of them is a token or a run of blanks
(`isToken_or_isAllBlank`), where no token has two parts (`countP_isToken`). The same parts come from
cutting the line at the bytes where its tokens start and stop (`stylePieces_eq_cutParts`). The main
statement puts this together for whole lines (`highlight_lossless`).
-/

set_option autoImplicit false

namespace PipeAssist.Shell

/-! ## Parts and their bytes -/

/-- A part of a line and the bytes it covers, from `start` up to but not including `stop`. -/
structure PlacedPart extends StyledPart where
  start : Nat
  stop : Nat
deriving DecidableEq, Repr

/-- The parts of a line with the bytes they cover when the first one starts at byte `offset`. -/
def placeParts : Nat → List StyledPart → List PlacedPart
  | _, [] => []
  | offset, part :: rest =>
    let stop := offset + Text.byteSize part.text
    ⟨part, offset, stop⟩ :: placeParts stop rest

/-- Whether a part is a token: it covers the same bytes and has the same characters. -/
def PlacedPart.isToken (token : Token) (part : PlacedPart) : Bool :=
  part.start = token.start && part.stop = token.stop && part.text = token.raw

/-- Parts start where their line starts, or later. -/
theorem le_start_of_mem_placeParts {offset : Nat} {parts : List StyledPart} {part : PlacedPart}
    (h : part ∈ placeParts offset parts) : offset ≤ part.start := by
  induction parts generalizing offset with
  | nil => cases h
  | cons first rest ih =>
      rcases List.mem_cons.1 h with rfl | hrest
      · exact Nat.le_refl _
      · exact Nat.le_trans (Nat.le_add_right _ _) (ih hrest)

/-! ## Pieces and their parts -/

/-- Every piece has a part of its own, with its characters. -/
theorem map_text_stylePieces (place : Place) (pieces : List Piece) :
    (stylePieces place pieces).map (·.text) = pieces.map Piece.raw := by
  induction pieces generalizing place with
  | nil => rfl
  | cons piece rest ih =>
      cases piece with
      | blank run => exact congrArg (run :: ·) (ih place)
      | lexeme item => exact congrArg (item.raw :: ·) (ih (place.after item.kind))

theorem flatMap_text_stylePieces (place : Place) (pieces : List Piece) :
    (stylePieces place pieces).flatMap (·.text) = Piece.spelled pieces := by
  rw [Piece.spelled, List.flatMap_def, List.flatMap_def, map_text_stylePieces]

section Whole

variable {pieces : List Piece} (hwhole : ∀ p ∈ pieces, p.Whole)

include hwhole

theorem text_ne_nil_of_mem_stylePieces {place : Place} {part : StyledPart}
    (h : part ∈ stylePieces place pieces) : part.text ≠ [] := by
  have hmem : part.text ∈ pieces.map Piece.raw := by
    rw [← map_text_stylePieces place]
    exact List.mem_map_of_mem h
  obtain ⟨piece, hpiece, hraw⟩ := List.mem_map.1 hmem
  rw [← hraw]
  exact (hwhole piece hpiece).raw_ne_nil

/-- Every part is a token or a run of blanks. -/
theorem isToken_or_isAllBlank {place : Place} {offset : Nat} {part : PlacedPart}
    (h : part ∈ placeParts offset (stylePieces place pieces)) :
    (∃ token ∈ Token.lay offset pieces, part.isToken token = true) ∨
      Text.isAllBlank part.text = true := by
  induction pieces generalizing place offset with
  | nil => cases h
  | cons piece rest ih =>
      have hrest := fun p hp => hwhole p (List.mem_cons_of_mem _ hp)
      cases piece with
      | blank run =>
          rcases List.mem_cons.1 h with rfl | hmem
          · cases hwhole _ List.mem_cons_self with
            | blank head full =>
                refine Or.inr (List.all_eq_true.2 fun c hc => ?_)
                rcases List.mem_cons.1 hc with rfl | hc
                · exact head
                · exact List.takeWhile_eq_self_iff.1 full c hc
          · exact ih hrest hmem
      | lexeme item =>
          rcases List.mem_cons.1 h with rfl | hmem
          · exact Or.inl ⟨_, List.mem_cons_self, by simp [PlacedPart.isToken]⟩
          · rcases ih hrest hmem with ⟨token, htoken, his⟩ | hblank
            · exact Or.inl ⟨token, List.mem_cons_of_mem _ htoken, his⟩
            · exact Or.inr hblank

/-- A token is exactly one part. -/
theorem countP_isToken (place : Place) {offset : Nat} {token : Token}
    (h : token ∈ Token.lay offset pieces) :
    (placeParts offset (stylePieces place pieces)).countP (·.isToken token) = 1 := by
  -- a piece covers a byte at least, so what comes behind it starts later than it does
  induction pieces generalizing place offset with
  | nil => cases h
  | cons piece rest ih =>
      have hrest := fun p hp => hwhole p (List.mem_cons_of_mem _ hp)
      have hpos := Text.byteSize_pos (hwhole piece List.mem_cons_self).raw_ne_nil
      cases piece with
      | blank run =>
          have hlater : token ∈ Token.lay (offset + Text.byteSize run) rest := h
          have hstart : offset ≠ token.start := by
            have hle := (Token.lay_bounds hlater).2.1
            have hrun : 0 < Text.byteSize run := hpos
            omega
          rw [stylePieces, placeParts,
            List.countP_cons_of_neg (by simp [PlacedPart.isToken, hstart])]
          exact ih hrest place hlater
      | lexeme item =>
          have hraw : 0 < Text.byteSize item.raw := hpos
          rw [stylePieces, placeParts]
          rcases List.mem_cons.1 h with rfl | hlater
          · rw [List.countP_cons_of_pos (by simp [PlacedPart.isToken]), Nat.add_eq_right,
              List.countP_eq_zero]
            intro part hpart
            have hle := le_start_of_mem_placeParts hpart
            have hstart : part.start ≠ offset := by
              simp only at hle
              omega
            simp [PlacedPart.isToken, hstart]
          · have hstart : offset ≠ token.start := by
              have hle := (Token.lay_bounds hlater).2.1
              omega
            rw [List.countP_cons_of_neg (by simp [PlacedPart.isToken, hstart])]
            exact ih hrest (place.after item.kind) hlater

end Whole

/-! ## Cutting at bytes -/

/-- The parts of a line cut at the bytes of its tokens, when everything in front of byte `written`
is done: what stands in front of each token, if there is anything, and the token; and at last what
stands behind them all. -/
def cutParts (line : Text) (place : Place) (written : Nat) : List Token → List StyledPart
  | [] =>
    if written < Text.byteSize line then
      [⟨.plain, line.between written (Text.byteSize line)⟩]
    else []
  | token :: rest =>
    let part : StyledPart := ⟨styleOf place token.kind, line.between token.start token.stop⟩
    let behind := part :: cutParts line (place.after token.kind) token.stop rest
    if written < token.start then ⟨.plain, line.between written token.start⟩ :: behind
    else behind

theorem cutParts_gap {line : Text} {place : Place} {written : Nat} {token : Token}
    {rest : List Token} (h : written < token.start) :
    cutParts line place written (token :: rest) =
      ⟨.plain, line.between written token.start⟩ ::
        cutParts line place token.start (token :: rest) := by
  simp only [cutParts, h, if_true, Nat.lt_irrefl, if_false]

/-- The pieces of a line, each in its style, are what cutting gives. -/
theorem stylePieces_eq_cutParts {pieces : List Piece} (h : Piece.Canonical pieces) (place : Place)
    (before : Text) :
    stylePieces place pieces = cutParts (before ++ Piece.spelled pieces) place
      (Text.byteSize before) (Token.lay (Text.byteSize before) pieces) := by
  induction pieces generalizing place before with
  | nil => simp [stylePieces, cutParts, Token.lay]
  | cons piece rest ih =>
      obtain ⟨hwhole, hstops, hrest⟩ := h
      have hline : before ++ Piece.spelled (piece :: rest) =
          (before ++ piece.raw) ++ Piece.spelled rest := by
        rw [Piece.spelled_cons, List.append_assoc]
      have hpart := Text.between_append before piece.raw (Piece.spelled rest)
      rw [← List.append_assoc, ← hline] at hpart
      have hbehind := fun place => ih hrest place (before ++ piece.raw)
      simp only [← hline, Text.byteSize_append] at hbehind
      cases piece with
      | lexeme item =>
          simp only [Piece.raw] at hpart hbehind
          simp only [stylePieces, Token.lay, cutParts, Nat.lt_irrefl, if_false, hpart]
          rw [hbehind (place.after item.kind)]
      | blank run =>
          have hpos : 0 < Text.byteSize run := Text.byteSize_pos hwhole.raw_ne_nil
          simp only [Piece.raw] at hpart hbehind
          -- behind blanks the line ends or a token starts: the blanks before it are all the gap
          cases rest with
          | nil =>
              have hsize : Text.byteSize (before ++ Piece.spelled [.blank run]) =
                  Text.byteSize before + Text.byteSize run := by
                simp [Piece.raw]
              simp only [stylePieces, Token.lay, cutParts, hsize, hpart]
              rw [if_pos (Nat.lt_add_of_pos_right hpos)]
          | cons next tail =>
              cases next with
              | blank other =>
                  exfalso
                  cases hrest.1 with
                  | blank head full => simp [Piece.stopsAt, Piece.raw, head] at hstops
              | lexeme item =>
                  rw [stylePieces, hbehind place]
                  refine Eq.trans ?_ (cutParts_gap ?_).symm
                  · simp only [hpart, Token.lay]
                  · exact Nat.lt_add_of_pos_right hpos

/-- Highlighting never alters the line: with or without it the parts make up the line. With it, no
part is empty, every token of the line is exactly one part, every other part is blank, and the parts
are those that come from cutting the line at the bytes of its tokens. -/
theorem highlight_lossless (line : Text) :
    let tokens := (Token.scan line).filter Token.isSignificant
    (∀ enabled, (highlight enabled line).flatMap (·.text) = line) ∧
    (∀ part ∈ highlight true line, part.text ≠ []) ∧
    (∀ token ∈ tokens, (placeParts 0 (highlight true line)).countP (·.isToken token) = 1) ∧
    (∀ part ∈ placeParts 0 (highlight true line),
      (∃ token ∈ tokens, part.isToken token = true) ∨ Text.isAllBlank part.text = true) ∧
    highlight true line = cutParts line .component 0 tokens := by
  intro tokens
  have htokens : tokens = Token.lay 0 (Piece.split line) := Token.filter_isSignificant_scan line
  have hcanonical := Piece.canonical_split line
  have hwhole : ∀ p ∈ Piece.split line, p.Whole := by
    intro p hp
    exact Piece.canonical_whole hcanonical hp
  rw [htokens]
  refine ⟨?_, ?_, ?_, ?_, ?_⟩
  · intro enabled
    cases enabled with
    | false => exact List.append_nil line
    | true =>
        calc (highlight true line).flatMap (·.text)
            = Piece.spelled (Piece.split line) := flatMap_text_stylePieces .component _
          _ = line := Piece.spelled_split line
  · intro part hpart
    exact text_ne_nil_of_mem_stylePieces hwhole hpart
  · intro token htoken
    exact countP_isToken hwhole .component htoken
  · intro part hpart
    exact isToken_or_isAllBlank hwhole hpart
  · have hcut := stylePieces_eq_cutParts hcanonical .component []
    rwa [List.nil_append, Piece.spelled_split] at hcut

example : (placeParts 0 (highlight true " né='b ".toList)).map
    (fun part => (part.text, part.start, part.stop)) =
      [([' '], 0, 1), (['n', 'é'], 1, 4), (['='], 4, 5), (['\'', 'b', ' '], 5, 8)] := by
  decide

end PipeAssist.Shell

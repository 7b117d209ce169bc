import PipeAssist.Proofs.TrailingBlanks

/-!
# Stable tokens

No token depends on what stands behind it once something has ended it. So a text that is cut behind
one of its tokens keeps the tokens in front of the cut (`upToByte_endOf`), and a blank starts
scanning anew: what comes behind it has the tokens that it has on its own, further back by the bytes
in front of it (`inText_blank_append`). Only an open literal goes on behind a blank. The main
statement says both for whole scans, with the end of input where it belongs (`scan_stable`).
-/

set_option autoImplicit false

namespace PipeAssist.Token

/-! ## Places -/

/-- The token as it is `size` bytes further back. -/
def shift (size : Nat) (token : Token) : Token :=
  { token with start := token.start + size, stop := token.stop + size }

theorem lay_shift (size offset : Nat) (pieces : List Piece) :
    lay (offset + size) pieces = (lay offset pieces).map (shift size) := by
  induction pieces generalizing offset with
  | nil => rfl
  | cons piece rest ih =>
      cases piece with
      | blank run =>
          rw [lay, lay, ← ih, Nat.add_right_comm]
      | lexeme item =>
          rw [lay, lay, List.map_cons, ← ih, shift, Nat.add_right_comm]

/-- A text has the same tokens wherever it starts, at other places. -/
theorem inText_shift (size : Nat) (text : Text) :
    inText size text = (inText 0 text).map (shift size) := by
  have hshift := lay_shift size 0 (Piece.split text)
  rwa [Nat.zero_add] at hshift

/-! ## Cutting -/

/-- The part of a text up to the end of one of its tokens: the cut falls between two characters, and
the part has the tokens up to there. -/
theorem upToByte_endOf (text : Text) {k : Nat} (hk : k ≤ (inText 0 text).length) :
    ∃ part, Text.upToByte? (endOf ((inText 0 text).take k)) text = some part ∧
      inText 0 part = (inText 0 text).take k ∧
      Text.byteSize part = endOf ((inText 0 text).take k) := by
  obtain ⟨part, rest, htext, -, htokens, -, hlast⟩ := exists_cut text hk
  have hsize : endOf ((inText 0 text).take k) = Text.byteSize part := by
    rw [← htokens]
    exact endOf_inText hlast
  refine ⟨part, ?_, htokens, hsize.symm⟩
  have hpart : Text.takeBytes (Text.byteSize part) text = part := by
    rw [htext]
    exact Text.takeBytes_append part rest
  rw [hsize, Text.upToByte?, hpart, if_pos rfl]

/-! ## Joining -/

/-- Blanks in front of a text move its tokens back, also where the text starts with blanks. -/
theorem inText_gap_append {gap : Text} (hgap : Text.isAllBlank gap = true) (text : Text)
    (offset : Nat) : inText offset (gap ++ text) = inText (offset + Text.byteSize gap) text := by
  -- the blanks run together with those at the start of the text, up to its first token
  let lead := text.takeWhile Text.isBlank
  let rest := text.dropWhile Text.isBlank
  have htext : text = lead ++ rest := List.takeWhile_append_dropWhile.symm
  have hlead : Text.isAllBlank lead = true :=
    List.all_eq_true.2 fun c hc => List.mem_takeWhile_imp hc
  have hrest : rest.head?.any Text.isBlank = false := Piece.head_dropWhile Text.isBlank text
  have hboth : Text.isAllBlank (gap ++ lead) = true := by
    rw [Text.isAllBlank_append, hgap, hlead]
    rfl
  calc inText offset (gap ++ text)
      = inText offset ((gap ++ lead) ++ rest) := by rw [htext, List.append_assoc]
    _ = inText (offset + Text.byteSize (gap ++ lead)) rest := inText_blanks hboth hrest offset
    _ = inText (offset + Text.byteSize gap + Text.byteSize lead) rest := by
        rw [Text.byteSize_append, Nat.add_assoc]
    _ = inText (offset + Text.byteSize gap) (lead ++ rest) := (inText_blanks hlead hrest _).symm
    _ = inText (offset + Text.byteSize gap) text := by rw [← htext]

/-- A blank behind a closed end starts scanning anew. -/
theorem EndsClosed.inText_blank_append {text : Text} (h : EndsClosed text) {c : Char}
    (hc : Text.isBlank c = true) (rest : Text) :
    inText 0 (text ++ c :: rest) =
      inText 0 text ++ inText (Text.byteSize (text ++ [c])) rest := by
  obtain ⟨gap, htext, hgap, hsealed⟩ := h.exists_gap
  have hblanks : Text.isAllBlank (gap ++ [c]) = true := by
    rw [Text.isAllBlank_append, hgap]
    simpa [Text.isAllBlank] using hc
  have hends : ∀ p ∈ (Piece.split (Text.trimEnd text)).getLast?,
      p.stopsAt (gap ++ [c] ++ rest).head? = true := by
    intro p hp
    obtain ⟨item, rfl, hstops⟩ := hsealed p hp
    cases gap with
    | nil => exact Lexeme.stopsAt_of_isBlank hstops hc
    | cons d ds =>
        rw [Text.isAllBlank, List.all_cons, Bool.and_eq_true] at hgap
        exact Lexeme.stopsAt_of_isBlank hstops hgap.1
  have hkept : inText 0 text = inText 0 (Text.trimEnd text) := by
    conv_lhs => rw [htext]
    exact hsealed.inText_append hgap 0
  calc inText 0 (text ++ c :: rest)
      = inText 0 (Text.trimEnd text ++ (gap ++ [c] ++ rest)) := by
        conv_lhs => rw [htext]
        simp
    _ = inText 0 (Text.trimEnd text) ++
          inText (0 + Text.byteSize (Text.trimEnd text)) (gap ++ [c] ++ rest) :=
        Token.inText_append hends 0
    _ = inText 0 text ++ inText (Text.byteSize (text ++ [c])) rest := by
        rw [inText_gap_append hblanks, ← hkept, Nat.zero_add, ← Text.byteSize_append,
          ← List.append_assoc, ← htext]

/-- Tokens are stable. A text cut behind its first `k` tokens scans as these tokens and the end of
input, which is where the last of them ends. A text with a closed end and a blank behind it keeps
its tokens, and what comes then scans as on its own, further back by the bytes in front of it. -/
theorem scan_stable (text : Text) :
    (∀ k ≤ ((scan text).filter isSignificant).length,
      let kept := ((scan text).filter isSignificant).take k
      ∃ part, Text.upToByte? (endOf kept) text = some part ∧
        scan part = kept ++ [finish (endOf kept)]) ∧
    (EndsClosed text → ∀ (c : Char) (rest : Text), Text.isBlank c = true →
      scan (text ++ c :: rest) =
        (scan text).dropLast ++ (scan rest).map (shift (Text.byteSize (text ++ [c])))) := by
  rw [filter_isSignificant_scan]
  constructor
  · intro k hk kept
    obtain ⟨part, hpart, htokens, hsize⟩ := upToByte_endOf text hk
    exact ⟨part, hpart, by rw [scan_eq, htokens, hsize]⟩
  · intro hclosed c rest hc
    -- the end of input belongs to the tokens that move back
    have hend : finish (Text.byteSize (text ++ c :: rest)) =
        shift (Text.byteSize (text ++ [c])) (finish (Text.byteSize rest)) := by
      have hsize : Text.byteSize (text ++ c :: rest) =
          Text.byteSize rest + Text.byteSize (text ++ [c]) := by
        rw [Nat.add_comm, ← Text.byteSize_append, List.append_assoc]
        rfl
      rw [hsize]
      rfl
    rw [scan_eq, scan_eq text, scan_eq rest, List.dropLast_concat, List.map_append, ← inText_shift,
      hclosed.inText_blank_append hc, hend, List.append_assoc]
    rfl

/-- A literal that ends in an escaped quote and its closing one, cut behind the dash in front of it,
and joined to a dash by a wide blank. -/
theorem scan_stable_escaped :
    (∃ part, Text.upToByte? 5 "né -'\\''".toList = some part ∧
      scan part = [⟨⟨.identifier, ['n', 'é'], ['n', 'é']⟩, 0, 3⟩, ⟨⟨.unknown, ['-'], []⟩, 4, 5⟩,
        finish 5]) ∧
    scan ("né -'\\''".toList ++ '\u3000' :: " -".toList) =
      (scan "né -'\\''".toList).dropLast ++ (scan " -".toList).map (shift 12) := by
  constructor
  · exact (scan_stable "né -'\\''".toList).1 2 (by decide)
  · refine (scan_stable "né -'\\''".toList).2 ?_ '\u3000' " -".toList (by decide)
    intro token htoken
    cases htoken
    rfl

end PipeAssist.Token

import PipeAssist.Proofs.Extensions
import PipeAssist.Proofs.TrailingBlanks

/-!
# Spans of tokens

The tokens of a text take up all of it but blanks: each one stands behind blanks only and covers its
own characters, and the end of input stands where the text ends (`Token.Tiles`). Scanning gives such
tokens (`tiles_scan`). It follows that their spans come one behind the other, and that the text is
what stands in front of each token together with the token (`scan_lossless`).
-/

set_option autoImplicit false

namespace PipeAssist

/-! ## Parts of a text between two bytes -/

namespace Text

/-- The characters of a text from byte `start` up to but not including byte `stop`. -/
def between (start stop : Nat) (text : Text) : Text :=
  (takeBytes stop text).drop (takeBytes start text).length

theorem between_append (before part after : Text) :
    between (byteSize before) (byteSize before + byteSize part) (before ++ (part ++ after)) =
      part := by
  have hstop : takeBytes (byteSize before + byteSize part) (before ++ (part ++ after)) =
      before ++ part := by
    rw [← byteSize_append, ← List.append_assoc]
    exact takeBytes_append _ _
  rw [between, hstop, takeBytes_append]
  exact List.drop_left' rfl

end Text

namespace Token

/-! ## Tiled texts -/

/-- Tokens that take up a text which starts at byte `offset`: each stands behind blanks only and
covers its own characters, and behind the last one come blanks and the end of input. -/
inductive Tiles : Nat → Text → List Token → Prop where
  | finish {offset : Nat} {gap : Text} (blank : Text.isAllBlank gap = true) :
      Tiles offset gap [finish (offset + Text.byteSize gap)]
  | token {offset : Nat} {gap rest : Text} {item : Lexeme} {tokens : List Token}
      (blank : Text.isAllBlank gap = true) (formed : item.Formed)
      (tail : Tiles (offset + Text.byteSize gap + Text.byteSize item.raw) rest tokens) :
      Tiles offset (gap ++ (item.raw ++ rest))
        (⟨item, offset + Text.byteSize gap, offset + Text.byteSize gap + Text.byteSize item.raw⟩ ::
          tokens)

/-- Blanks in front of a text belong to the gap in front of its first token. -/
theorem Tiles.blank {offset : Nat} {run text : Text} {tokens : List Token}
    (hrun : Text.isAllBlank run = true) (h : Tiles (offset + Text.byteSize run) text tokens) :
    Tiles offset (run ++ text) tokens := by
  cases h with
  | finish blank =>
      have hgap : Text.isAllBlank (run ++ text) = true := by
        rw [Text.isAllBlank_append, hrun, blank]
        rfl
      rw [Nat.add_assoc, ← Text.byteSize_append]
      exact .finish hgap
  | @token _ gap rest item tokens blank formed tail =>
      have hgap : Text.isAllBlank (run ++ gap) = true := by
        rw [Text.isAllBlank_append, hrun, blank]
        rfl
      rw [← List.append_assoc, Nat.add_assoc offset, ← Text.byteSize_append]
      refine .token hgap formed ?_
      rwa [Text.byteSize_append, ← Nat.add_assoc]

/-- Whole pieces are taken up by their tokens. -/
theorem tiles_place {pieces : List Piece} (hwhole : ∀ p ∈ pieces, p.Whole) (offset : Nat) :
    Tiles offset (Piece.spelled pieces) (place offset pieces) := by
  induction pieces generalizing offset with
  | nil => exact .finish rfl
  | cons piece rest ih =>
      have hrest := ih fun p hp => hwhole p (List.mem_cons_of_mem _ hp)
      rw [Piece.spelled_cons]
      cases hwhole piece List.mem_cons_self with
      | blank head full =>
          refine Tiles.blank ?_ (hrest _)
          rw [Piece.raw, Text.isAllBlank, List.all_cons, head, Bool.true_and]
          exact List.all_eq_true.2 (List.takeWhile_eq_self_iff.1 full)
      | lexeme formed => exact @Tiles.token _ [] _ _ _ rfl formed (hrest _)

/-- A text is taken up by its tokens. -/
theorem tiles_scan (text : Text) : Tiles 0 text (scan text) := by
  have hwhole : ∀ p ∈ Piece.split text, p.Whole := by
    intro p hp
    exact Piece.canonical_whole (Piece.canonical_split text) hp
  have htiles := tiles_place hwhole 0
  rwa [Piece.spelled_split] at htiles

/-! ## Order and gaps -/

/-- Tokens start where their text starts, or later. -/
theorem Tiles.le_start {offset : Nat} {text : Text} {tokens : List Token}
    (h : Tiles offset text tokens) : ∀ token ∈ tokens, offset ≤ token.start := by
  induction h with
  | finish blank =>
      intro token htoken
      rw [List.mem_singleton.1 htoken]
      exact Nat.le_add_right _ _
  | token blank formed tail ih =>
      intro token htoken
      rcases List.mem_cons.1 htoken with rfl | hmem
      · exact Nat.le_add_right _ _
      · have hle := ih token hmem
        omega

/-- Tokens come one behind the other. -/
theorem Tiles.pairwise {offset : Nat} {text : Text} {tokens : List Token}
    (h : Tiles offset text tokens) :
    tokens.Pairwise fun a b => a.start < b.start ∧ a.stop ≤ b.start := by
  induction h with
  | finish blank => exact List.pairwise_singleton _ _
  | token blank formed tail ih =>
      refine List.pairwise_cons.2 ⟨fun token htoken => ?_, ih⟩
      have hle := tail.le_start token htoken
      have hpos := Text.byteSize_pos (Piece.formed_raw_ne_nil formed)
      exact ⟨Nat.lt_of_lt_of_le (Nat.lt_add_of_pos_right hpos) hle, hle⟩

/-- What stands in front of each token: the characters of `text` from the end of the token before
it, or from byte `offset` for the first one. -/
def gaps (text : Text) : Nat → List Token → List Text
  | _, [] => []
  | offset, token :: rest => text.between offset token.start :: gaps text token.stop rest

/-- The gaps in front of tokens and the tokens themselves, in order. -/
def rejoin (text : Text) (offset : Nat) (tokens : List Token) : Text :=
  (List.zipWith (fun gap token => gap ++ token.raw) (gaps text offset tokens) tokens).flatten

/-- The gaps of a text that is taken up by tokens are blank, and with the tokens they make up the
text. -/
theorem Tiles.rejoin_eq {offset : Nat} {text : Text} {tokens : List Token}
    (h : Tiles offset text tokens) (before : Text) (hbefore : Text.byteSize before = offset) :
    (∀ gap ∈ gaps (before ++ text) offset tokens, Text.isAllBlank gap = true) ∧
      rejoin (before ++ text) offset tokens = text := by
  -- the text in front grows by a gap and a token in every step
  induction h generalizing before with
  | @finish offset gap blank =>
      have hgap : (before ++ gap).between offset (offset + Text.byteSize gap) = gap := by
        have hbetween := Text.between_append before gap []
        rwa [List.append_nil, hbefore] at hbetween
      simp [gaps, rejoin, Token.finish, hgap, blank]
  | @token offset gap rest item tokens blank formed tail ih =>
      have hgap : (before ++ (gap ++ (item.raw ++ rest))).between offset
          (offset + Text.byteSize gap) = gap := by
        rw [← hbefore]
        exact Text.between_append before gap (item.raw ++ rest)
      obtain ⟨hblank, hrest⟩ := ih (before ++ (gap ++ item.raw)) (by
        rw [Text.byteSize_append, Text.byteSize_append, hbefore, Nat.add_assoc])
      rw [List.append_assoc, List.append_assoc] at hblank hrest
      constructor
      · intro part hpart
        rw [gaps, hgap] at hpart
        rcases List.mem_cons.1 hpart with rfl | hmem
        · exact blank
        · exact hblank part hmem
      · simp only [rejoin, gaps, hgap, List.zipWith_cons_cons, List.flatten_cons] at hrest ⊢
        rw [hrest, List.append_assoc]

/-! ## Single tokens -/

/-- Identifiers have their characters for a value, and of the other tokens only literals have a
value. -/
theorem formed_value {item : Lexeme} (h : item.Formed) :
    (item.kind = .identifier → item.value = item.raw) ∧
      (item.value ≠ [] → item.kind = .identifier ∨ item.kind = .stringLiteral) := by
  cases h with
  | literal isQuote full => exact ⟨fun hkind => Token.Kind.noConfusion hkind, fun _ => Or.inr rfl⟩
  | word isWord => exact ⟨fun _ => rfl, fun _ => Or.inl rfl⟩
  | _ => exact ⟨fun hkind => Token.Kind.noConfusion hkind, fun hvalue => absurd rfl hvalue⟩

/-- A token of a text covers at least one byte, and its characters are those of the text there. -/
theorem raw_eq_between {text : Text} {token : Token} (h : token ∈ inText 0 text) :
    token.start < token.stop ∧ text.between token.start token.stop = token.raw := by
  obtain ⟨before, after, htext, hstart, hstop⟩ := exists_around h
  constructor
  · have hpos := Text.byteSize_pos (Piece.formed_raw_ne_nil (inText_formed h))
    omega
  · rw [hstop, hstart, htext]
    exact Text.between_append before token.raw after

/-- Scanning loses nothing. The end of input occurs once, behind all other tokens and where the text
ends. Every other token covers at least one byte, starts and ends between two characters, and has
the characters of the text there. The tokens come one behind the other, what stands between them is
blank, and all of it in order is the text. Identifiers have their characters for a value, and of the
other tokens only literals have a value. -/
theorem scan_lossless (text : Text) :
    (∃ tokens, scan text = tokens ++ [finish (Text.byteSize text)] ∧ ∀ token ∈ tokens,
      token.kind ≠ .endOfInput ∧ token.start < token.stop ∧
        text.IsBoundary token.start ∧ text.IsBoundary token.stop ∧
        text.between token.start token.stop = token.raw) ∧
    (scan text).Pairwise (fun a b => a.start < b.start ∧ a.stop ≤ b.start) ∧
    (∀ gap ∈ gaps text 0 (scan text), Text.isAllBlank gap = true) ∧
    rejoin text 0 (scan text) = text ∧
    ∀ token ∈ scan text, (token.kind = .identifier → token.value = token.raw) ∧
      (token.value ≠ [] → token.kind = .identifier ∨ token.kind = .stringLiteral) := by
  have htiles := tiles_scan text
  obtain ⟨hblank, hrejoin⟩ := htiles.rejoin_eq [] rfl
  refine ⟨⟨inText 0 text, scan_eq text, ?_⟩, htiles.pairwise, hblank, hrejoin, ?_⟩
  · intro token htoken
    obtain ⟨hless, hraw⟩ := raw_eq_between htoken
    have hmem : token ∈ scan text := by
      rw [scan_eq]
      exact List.mem_append_left _ htoken
    obtain ⟨hstart, hstop⟩ := isBoundary_of_mem_scan hmem
    exact ⟨inText_kind_ne htoken, hless, hstart, hstop, hraw⟩
  · intro token htoken
    rw [scan_eq, List.mem_append, List.mem_singleton] at htoken
    rcases htoken with hmem | rfl
    · exact formed_value (inText_formed hmem)
    · -- the end of input has neither characters nor a value
      exact ⟨fun _ => rfl, fun hvalue => absurd rfl hvalue⟩

example : (scan " né -|".toList).map (fun token => (token.kind, token.start, token.stop)) =
    [(.identifier, 1, 4), (.unknown, 5, 6), (.pipe, 6, 7), (.endOfInput, 7, 7)] := by
  decide

end Token

end PipeAssist

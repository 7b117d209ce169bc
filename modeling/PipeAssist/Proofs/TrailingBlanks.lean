import PipeAssist.Catalog.Builtin
import PipeAssist.Proofs.DetailCap
import PipeAssist.Proofs.Derivations

/-!
# Blanks at the end of a text

Blanks behind a text add no tokens, unless the text ends inside an open literal. So a text whose
last token is no open literal is its trimmed form and blanks (`Token.EndsClosed.exists_gap`), and the
trimmed form ends with that token. A name that touches the end of a text may still grow; with a
blank behind it the name is committed (`Definition.read_blanks`). What is proposed there is what was
proposed for the name as it stood, if it is the name of a component (`complete_append_blanks`).
-/

set_option autoImplicit false

namespace PipeAssist

/-! ## Trimming -/

namespace Text

theorem trimEnd_eq_self {text : Text} (h : endsInBlank text = false) :
    trimEnd text = text := by
  induction text with
  | nil => rfl
  | cons c cs ih =>
      cases cs with
      | nil =>
          have hblank : isBlank c = false := h
          simp [trimEnd, hblank]
      | cons d ds =>
          have hrest : trimEnd (d :: ds) = d :: ds := by
            apply ih
            simpa [endsInBlank, List.getLast?_cons_cons] using h
          rw [trimEnd, hrest]

theorem trimEnd_of_isAllBlank {gap : Text} (h : isAllBlank gap = true) : trimEnd gap = [] := by
  induction gap with
  | nil => rfl
  | cons c cs ih =>
      rw [isAllBlank, List.all_cons, Bool.and_eq_true] at h
      simp [trimEnd, ih h.2, h.1]

/-- Blanks at the end do not count. -/
theorem trimEnd_append_of_isAllBlank (text : Text) {gap : Text} (h : isAllBlank gap = true) :
    trimEnd (text ++ gap) = trimEnd text := by
  induction text with
  | nil => exact trimEnd_of_isAllBlank h
  | cons c cs ih => rw [List.cons_append, trimEnd, trimEnd, ih]

theorem isAllBlank_append (a b : Text) :
    isAllBlank (a ++ b) = (isAllBlank a && isAllBlank b) := List.all_append

end Text

/-- A lexeme that one blank ends is ended by every blank. -/
theorem Lexeme.stopsAt_of_isBlank {item : Lexeme} (h : item.stopsAt (some ' ') = true) {c : Char}
    (hc : Text.isBlank c = true) : item.stopsAt (some c) = true := by
  unfold stopsAt at h ⊢
  cases hkind : item.kind with
  | identifier =>
      have hpart : Text.isWordPart c = false := by
        rw [Bool.eq_false_iff]
        intro hpart
        rw [Text.isBlank_eq_false_of_isWordPart hpart] at hc
        cases hc
      simp [hpart]
  | unknown =>
      have hdash : c ≠ '-' := by
        rintro rfl
        exact absurd hc (by decide)
      simp [hdash]
  | stringLiteral =>
      rw [hkind] at h
      exact h
  | _ => rfl

namespace Piece

/-- Blanks are one piece. -/
theorem split_of_isAllBlank {gap : Text} (h : Text.isAllBlank gap = true) (hne : gap ≠ []) :
    split gap = [.blank gap] := by
  obtain ⟨c, cs, rfl⟩ := List.exists_cons_of_ne_nil hne
  rw [Text.isAllBlank, List.all_cons, Bool.and_eq_true] at h
  have hwhole : Whole (.blank (c :: cs)) :=
    .blank h.1 (List.takeWhile_eq_self_iff.2 (List.all_eq_true.1 h.2))
  have hends : (Piece.blank (c :: cs)).stopsAt (List.head? []) = true := rfl
  have hsplit := split_append_of_stopsAt hwhole hends
  rwa [List.append_nil] at hsplit

end Piece

namespace Token

/-! ## Tokens in front of blanks -/

theorem inText_of_isAllBlank {gap : Text} (h : Text.isAllBlank gap = true) (offset : Nat) :
    inText offset gap = [] := by
  by_cases hne : gap = []
  · rw [hne]
    rfl
  · rw [inText, Piece.split_of_isAllBlank h hne]
    rfl

/-- Blanks that end where a text begins move its tokens back. -/
theorem inText_blanks {gap text : Text} (hgap : Text.isAllBlank gap = true)
    (htext : text.head?.any Text.isBlank = false) (offset : Nat) :
    inText offset (gap ++ text) = inText (offset + Text.byteSize gap) text := by
  have hends : ∀ p ∈ (Piece.split gap).getLast?, p.stopsAt text.head? = true := by
    intro p hp
    by_cases hne : gap = []
    · rw [hne] at hp
      cases hp
    · rw [Piece.split_of_isAllBlank hgap hne] at hp
      cases hp
      simp [Piece.stopsAt, htext]
  rw [Token.inText_append hends, inText_of_isAllBlank hgap, List.nil_append]

/-- Blanks add no tokens. -/
theorem Sealed.inText_append {text gap : Text} (h : Sealed text) (hgap : Text.isAllBlank gap = true)
    (offset : Nat) : inText offset (text ++ gap) = inText offset text := by
  have hends : ∀ p ∈ (Piece.split text).getLast?, p.stopsAt gap.head? = true := by
    intro p hp
    obtain ⟨item, rfl, hstops⟩ := h p hp
    cases gap with
    | nil => exact Piece.stopsAt_none _
    | cons c cs =>
        rw [Text.isAllBlank, List.all_cons, Bool.and_eq_true] at hgap
        exact Lexeme.stopsAt_of_isBlank hstops hgap.1
  rw [Token.inText_append hends, inText_of_isAllBlank hgap, List.append_nil]

/-- Pieces without tokens are blanks. -/
theorem isAllBlank_of_lay {pieces : List Piece} (hwhole : ∀ p ∈ pieces, p.Whole) {offset : Nat}
    (h : lay offset pieces = []) : Text.isAllBlank (Piece.spelled pieces) = true := by
  induction pieces generalizing offset with
  | nil => rfl
  | cons piece rest ih =>
      have hrest : ∀ p ∈ rest, p.Whole := by
        intro p hp
        exact hwhole p (List.mem_cons_of_mem _ hp)
      cases hwhole piece List.mem_cons_self with
      | @blank c cs head full =>
          have hrun : Text.isAllBlank (c :: cs) = true := by
            rw [Text.isAllBlank, List.all_cons, head, Bool.true_and]
            exact List.all_eq_true.2 (List.takeWhile_eq_self_iff.1 full)
          rw [Piece.spelled_cons, Text.isAllBlank_append, ih hrest h, Bool.and_true]
          exact hrun
      | lexeme formed => cases h

/-- A text without tokens is blank. -/
theorem isAllBlank_of_inText {offset : Nat} {text : Text} (h : inText offset text = []) :
    Text.isAllBlank text = true := by
  have hwhole : ∀ p ∈ Piece.split text, p.Whole := by
    intro p hp
    exact Piece.canonical_whole (Piece.canonical_split text) hp
  rw [← Piece.spelled_split text]
  exact isAllBlank_of_lay hwhole h

/-- Texts whose last token is no open literal. -/
def EndsClosed (text : Text) : Prop :=
  ∀ token, lastSignificant? (scan text) = some token → token.isOpenLiteral = false

theorem lastSignificant_scan (text : Text) :
    lastSignificant? (scan text) = (inText 0 text).getLast? := by
  rw [lastSignificant?, filter_isSignificant_scan]

theorem Sealed.endsClosed {text : Text} (h : Sealed text) : EndsClosed text := by
  intro token htoken
  rw [lastSignificant_scan] at htoken
  rcases List.eq_nil_or_concat (Piece.split text) with hnil | ⟨front, last, hconcat⟩
  · rw [inText, hnil] at htoken
    cases htoken
  · rw [List.concat_eq_append] at hconcat
    unfold Sealed at h
    rw [hconcat] at h
    obtain ⟨item, rfl, hstops⟩ := h last (by simp)
    rw [inText, hconcat, lay_concat, List.getLast?_concat] at htoken
    cases htoken
    have hclosed : item.kind = .stringLiteral → Literal.isOpen item.raw = false := by
      intro hliteral
      simpa [Lexeme.stopsAt, hliteral] using hstops
    simpa [isOpenLiteral] using hclosed

/-- A text whose last token is no open literal is its trimmed form and blanks, and the trimmed form
ends with that token. -/
theorem EndsClosed.exists_gap {text : Text} (h : EndsClosed text) :
    ∃ gap, text = Text.trimEnd text ++ gap ∧ Text.isAllBlank gap = true ∧
      Sealed (Text.trimEnd text) := by
  obtain ⟨kept, gap, htext, -, hkept, hgap, hlast⟩ := exists_cut text (Nat.le_refl _)
  rw [List.drop_length] at hgap
  rw [List.take_length] at hkept
  have hblank := isAllBlank_of_inText hgap
  have hsealed : Sealed kept := by
    intro p hp
    obtain ⟨item, rfl⟩ := hlast p hp
    refine ⟨item, rfl, Lexeme.stopsAt_blank fun hliteral => ?_⟩
    -- the last piece in front of the gap is the last token of the text
    obtain ⟨front, hfront⟩ := List.getLast?_eq_some_iff.1 hp
    have htoken : ∃ token, lastSignificant? (scan text) = some token ∧ token.toLexeme = item := by
      rw [lastSignificant_scan, ← hkept, inText, hfront, lay_concat, List.getLast?_concat]
      exact ⟨_, rfl, rfl⟩
    obtain ⟨token, htoken, rfl⟩ := htoken
    simpa [isOpenLiteral, hliteral] using h token htoken
  have htrim : Text.trimEnd text = kept := by
    rw [htext, Text.trimEnd_append_of_isAllBlank kept hblank]
    exact Text.trimEnd_eq_self hsealed.endsInBlank_eq_false
  rw [htrim]
  exact ⟨gap, htext, hblank, hsealed⟩

/-- Blanks behind a closed end add no tokens. -/
theorem EndsClosed.inText_append {text blanks : Text} (h : EndsClosed text)
    (hblanks : Text.isAllBlank blanks = true) (offset : Nat) :
    inText offset (text ++ blanks) = inText offset text := by
  obtain ⟨gap, htext, hgap, hsealed⟩ := h.exists_gap
  have hboth : Text.isAllBlank (gap ++ blanks) = true := by
    rw [Text.isAllBlank_append, hgap, hblanks]
    rfl
  calc inText offset (text ++ blanks)
      = inText offset (Text.trimEnd text ++ (gap ++ blanks)) := by
        rw [← List.append_assoc, ← htext]
    _ = inText offset (Text.trimEnd text) := hsealed.inText_append hboth offset
    _ = inText offset (Text.trimEnd text ++ gap) := (hsealed.inText_append hgap offset).symm
    _ = inText offset text := by rw [← htext]

theorem EndsClosed.append {text blanks : Text} (h : EndsClosed text)
    (hblanks : Text.isAllBlank blanks = true) : EndsClosed (text ++ blanks) := by
  intro token htoken
  apply h token
  rwa [lastSignificant_scan, h.inText_append hblanks, ← lastSignificant_scan] at htoken

end Token

/-- There is a literal to close only where the text ends in an open one. -/
theorem closeLiteral_eq_none {text : Text} (h : Token.EndsClosed text) :
    closeLiteral? text = none := by
  unfold closeLiteral?
  split
  · rfl
  next token htoken => simp [h token htoken]

/-! ## Reading -/

open Reading

/-- A name that is pending behind all the tokens of a text ends within the text. -/
theorem Reading.named_stop_le {text name : Text} {state : Reading} {stop : Nat}
    (hfeed : initial.feed false (Token.inText 0 text) = some state)
    (hphase : state.phase = .named name stop) : stop ≤ Text.byteSize text := by
  obtain ⟨token, htoken, hbehind⟩ :=
    exists_isBehind (fun _ htoken => Token.inText_kind_ne htoken) hfeed (by simp [hphase])
  rw [hphase] at hbehind
  obtain ⟨-, -, -, hbound⟩ := Token.lay_bounds (List.mem_of_getLast? htoken)
  rw [Piece.spelled_split, hbehind.2] at hbound
  omega

/-- With a blank behind it, a text that can be complete is complete: no name touches its end. -/
theorem Definition.read_blanks {text blanks : Text} {state settled : Reading}
    (hclosed : Token.EndsClosed text)
    (hfeed : initial.feed false (Token.inText 0 text) = some state)
    (hsettle : state.settle? = some settled) (hphase : settled.phase = .settled)
    (hblanks : Text.isAllBlank blanks = true) (hne : blanks ≠ []) :
    read (text ++ blanks) = .ok settled.definition := by
  rw [← hclosed.inText_append hblanks] at hfeed
  refine ofTokens_complete hfeed (atEnd_complete hsettle hphase ?_)
  intro name stop hnamed
  right
  rw [hclosed.inText_append hblanks] at hfeed
  have hstop := named_stop_le hfeed hnamed
  have hpos := Text.byteSize_pos hne
  rw [Text.byteSize_append]
  omega

/-- The trimmed form of a complete text whose last token is no open literal: it is not empty, has all
the tokens of the text, and behind them what is pending settles as the definition. -/
theorem Definition.exists_settled_trimEnd {text : Text} {definition : Definition}
    (h : read text = .ok definition) (hclosed : Token.EndsClosed text) :
    Token.Sealed (Text.trimEnd text) ∧ Text.trimEnd text ≠ [] ∧
      Token.inText 0 (Text.trimEnd text) = Token.inText 0 text ∧
      ∃ state settled, initial.feed false (Token.inText 0 (Text.trimEnd text)) = some state ∧
        state.settle? = some settled ∧ settled.phase = .settled ∧
        settled.definition = definition := by
  obtain ⟨state, settled, hfeed, hsettle, hphase, hdefinition⟩ := exists_settled h
  obtain ⟨gap, htext, hgap, hsealed⟩ := hclosed.exists_gap
  have htokens : Token.inText 0 text = Token.inText 0 (Text.trimEnd text) := by
    conv_lhs => rw [htext]
    exact hsealed.inText_append hgap 0
  rw [htokens] at hfeed
  refine ⟨hsealed, ?_, htokens.symm, state, settled, hfeed, hsettle, hphase, hdefinition⟩
  intro hnil
  -- nothing is settled before the first token
  rw [hnil] at hfeed
  cases hfeed
  cases hsettle
  cases hphase

/-! ## Completion -/

namespace Engine

/-- No text is proposed twice for a complete text, so all its continuations are proposals. -/
theorem complete_eq_forward {engine : Engine} {text : Text} {definition : Definition}
    (h : Definition.read text = .ok definition) :
    engine.complete text 0 = engine.forward text definition := by
  have hnodup : ((engine.forward text definition).map (·.text)).Nodup := by
    unfold forward
    split
    · exact List.nodup_singleton _
    · split
      · exact Strategy.nodup_continuations
      · exact List.nodup_nil
  simp only [complete, h, capped, if_true]
  exact distinctBy_of_nodup hnodup

/-- Blanks behind a text change nothing in what is proposed, except that a component name at its end
can no longer grow: what is left is what is proposed for the name as it stands. -/
theorem complete_append_blanks (directory : Directory) (withDeprecated : Bool)
    (text blanks : Text) (hblanks : Text.isAllBlank blanks = true) (hne : blanks ≠ []) :
    (∀ fault fragment, Definition.read text = .error fault →
      fault.reason = .danglingComponentName fragment →
      (standard directory withDeprecated).complete (text ++ blanks) 0 =
        (Strategy.resolvedComponent withDeprecated).propose fault directory 0) ∧
    (∀ definition, Definition.read text = .ok definition → Token.EndsClosed text →
      (standard directory withDeprecated).complete (text ++ blanks) 0 =
        (standard directory withDeprecated).complete text 0) := by
  constructor
  · intro fault fragment h hreason
    obtain ⟨kept, token, before, htyping⟩ := Fault.typing h hreason
    obtain ⟨state, hfeed, hsettle⟩ := htyping.feed_text
    have hclosed := htyping.isSealed.endsClosed
    have htrim : Text.trimEnd (text ++ blanks) = text := by
      rw [Text.trimEnd_append_of_isAllBlank text hblanks]
      exact Text.trimEnd_eq_self htyping.isSealed.endsInBlank_eq_false
    -- the name is committed as a use without options, and the same component is found for it
    have hread : Definition.read (text ++ blanks) =
        .ok (fault.definition ++ [⟨fragment, []⟩]) :=
      Definition.read_blanks hclosed hfeed hsettle rfl hblanks hne
    have hlast : (fault.definition ++ [(⟨fragment, []⟩ : ComponentUse)]).getLast? =
        some ⟨fragment, []⟩ := List.getLast?_concat
    have hresolve : directory.resolveLast (fault.definition ++ [⟨fragment, []⟩]) =
        directory.resolveAfter fragment fault.definition := by
      simp [Directory.resolveLast]
    rw [complete_eq_forward hread, forward, closeLiteral_eq_none (hclosed.append hblanks), htrim]
    simp only [standard, hlast, hresolve, Strategy.resolvedComponent, hreason, htyping.last,
      htyping.stop_eq]
    cases directory.resolveAfter fragment fault.definition with
    | none => rfl
    | some component => rfl
  · intro definition h hclosed
    obtain ⟨state, settled, hfeed, hsettle, hphase, hdefinition⟩ := Definition.exists_settled h
    have hread : Definition.read (text ++ blanks) = .ok definition := by
      rw [← hdefinition]
      exact Definition.read_blanks hclosed hfeed hsettle hphase hblanks hne
    rw [complete_eq_forward hread, complete_eq_forward h, forward, forward,
      closeLiteral_eq_none (hclosed.append hblanks), closeLiteral_eq_none hclosed,
      Text.trimEnd_append_of_isAllBlank text hblanks]

/-- A tab and a wide blank, behind the name of a component and behind a value. -/
theorem complete_append_blanks_http :
    (∃ fault, Definition.read "http".toList = .error fault ∧
      (standard (Directory.ofCatalog .builtin .byPosition) false).complete
          ("http".toList ++ ['\t', '\u3000']) 0 =
        (Strategy.resolvedComponent false).propose fault
          (Directory.ofCatalog .builtin .byPosition) 0) ∧
      (standard (Directory.ofCatalog .builtin .byPosition) false).complete
          ("http --port=1".toList ++ ['\t', '\u3000']) 0 =
        (standard (Directory.ofCatalog .builtin .byPosition) false).complete
          "http --port=1".toList 0 := by
  refine ⟨⟨_, rfl, ?_⟩, ?_⟩
  · exact (complete_append_blanks _ false _ _ (by decide) (by decide)).1 _ "http".toList rfl rfl
  · refine (complete_append_blanks _ false _ _ (by decide) (by decide)).2 _ rfl ?_
    intro token htoken
    cases htoken
    rfl

end Engine

end PipeAssist

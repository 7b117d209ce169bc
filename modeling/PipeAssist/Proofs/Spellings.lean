import PipeAssist.Completion.OptionNames
import PipeAssist.Proofs.Grammar

/-!
# Tokens of names, options and values

What completion writes is scanned as it is meant: a word is one identifier, a dotted word is
identifiers joined by dots (`inText_dotted`), and a spelled value is one value (`value_spell`).
-/

set_option autoImplicit false

namespace PipeAssist

namespace Text

/-! ## Segments -/

theorem segments_ne_nil (text : Text) : segments text ≠ [] := by
  cases text with
  | nil => simp [segments]
  | cons c cs =>
      unfold segments
      split
      · simp
      · split <;> simp

/-- The segments on both sides of a dot are separate. -/
theorem segments_append_dot (a b : Text) :
    segments (a ++ '.' :: b) = segments a ++ segments b := by
  induction a with
  | nil => simp [segments]
  | cons c cs ih =>
      rw [List.cons_append, segments, segments, ih]
      by_cases hdot : c = '.'
      · simp [hdot]
      · obtain ⟨first, rest, hcs⟩ := List.exists_cons_of_ne_nil (segments_ne_nil cs)
        simp [hdot, hcs]

theorem segments_eq_singleton {text : Text} (h : '.' ∉ text) : segments text = [text] := by
  induction text with
  | nil => rfl
  | cons c cs ih =>
      rw [List.mem_cons, not_or] at h
      have hdot : c ≠ '.' := fun heq => h.1 heq.symm
      simp [segments, ih h.2, hdot]

theorem isBlank_head_of_isWord {word : Text} (h : isWord word = true) :
    word.head?.any isBlank = false := by
  cases word with
  | nil => rfl
  | cons c cs =>
      simp only [isWord, Bool.and_eq_true] at h
      exact isBlank_eq_false_of_isWordStart h.1

theorem dot_not_mem_of_isWord {word : Text} (h : isWord word = true) : '.' ∉ word := by
  cases word with
  | nil => simp
  | cons c cs =>
      simp only [isWord, Bool.and_eq_true, List.all_eq_true] at h
      intro hmem
      have hpart : isWordPart '.' = true := by
        rcases List.mem_cons.1 hmem with rfl | hcs
        · exact isWordPart_of_isWordStart h.1
        · exact h.2 _ hcs
      exact absurd hpart (by decide)

theorem isDottedWord_of_isWord {word : Text} (h : isWord word = true) :
    isDottedWord word = true := by
  rw [isDottedWord, segments_eq_singleton (dot_not_mem_of_isWord h)]
  simpa using h

theorem isDottedWord_append_dot (a b : Text) :
    isDottedWord (a ++ '.' :: b) = (isDottedWord a && isDottedWord b) := by
  rw [isDottedWord, segments_append_dot, List.all_append]
  rfl

/-- A dotted word is a word, or a word and a dotted word behind a dot. -/
theorem isDottedWord_cases {text : Text} (h : isDottedWord text = true) :
    isWord text = true ∨
      ∃ word rest, text = word ++ '.' :: rest ∧ isWord word = true ∧ isDottedWord rest = true := by
  by_cases hdot : '.' ∈ text
  · obtain ⟨word, rest, htext, hword⟩ := List.eq_append_cons_of_mem hdot
    rw [htext, isDottedWord_append_dot, Bool.and_eq_true] at h
    refine Or.inr ⟨word, rest, htext, ?_, h.2⟩
    have hfirst := h.1
    rw [isDottedWord, segments_eq_singleton hword] at hfirst
    simpa using hfirst
  · rw [isDottedWord, segments_eq_singleton hdot] at h
    exact Or.inl (by simpa using h)

/-- Induction along the words of a dotted word. -/
theorem dottedInduction {motive : (text : Text) → isDottedWord text = true → Prop}
    (word : ∀ w h, isWord w = true → motive w h)
    (dotted : ∀ w rest h (hrest : isDottedWord rest = true), isWord w = true →
      motive rest hrest → motive (w ++ '.' :: rest) h)
    (text : Text) (h : isDottedWord text = true) : motive text h := by
  induction hlength : text.length using Nat.strong_induction_on generalizing text with
  | _ n ih =>
      rcases isDottedWord_cases h with hword | ⟨w, rest, rfl, hword, hrest⟩
      · exact word text h hword
      · have hshorter : rest.length < n := by
          rw [← hlength, List.length_append, List.length_cons]
          omega
        exact dotted w rest h hrest hword (ih rest.length hshorter rest hrest rfl)

end Text

namespace Token

open Grammar

/-! ## Tokens -/

/-- A token of a lexeme that ends where `after` begins. -/
theorem inText_lexeme {item : Lexeme} (hformed : item.Formed) (after : Text)
    (hstops : item.stopsAt after.head? = true) (offset : Nat) :
    inText offset (item.raw ++ after) =
      ⟨item, offset, offset + Text.byteSize item.raw⟩ ::
        inText (offset + Text.byteSize item.raw) after := by
  have hsplit := Piece.split_append_of_stopsAt (.lexeme hformed) hstops
  rw [inText]
  rw [Piece.raw] at hsplit
  rw [hsplit]
  rfl

theorem inText_word {word : Text} (hword : Text.isWord word = true) (after : Text)
    (hafter : after.head?.any Text.isWordPart = false) (offset : Nat) :
    inText offset (word ++ after) =
      ⟨⟨.identifier, word, word⟩, offset, offset + Text.byteSize word⟩ ::
        inText (offset + Text.byteSize word) after :=
  inText_lexeme (.word hword) after (by simp [Lexeme.stopsAt, hafter]) offset

/-- A word is one token. -/
theorem inText_single {word : Text} (hword : Text.isWord word = true) (offset : Nat) :
    inText offset word = [⟨⟨.identifier, word, word⟩, offset, offset + Text.byteSize word⟩] := by
  have htokens := inText_word hword [] rfl offset
  rw [List.append_nil] at htokens
  exact htokens

theorem inText_dot (after : Text) (offset : Nat) :
    inText offset ('.' :: after) =
      ⟨⟨.dot, ['.'], []⟩, offset, offset + 1⟩ :: inText (offset + 1) after :=
  inText_lexeme .dot after rfl offset

theorem inText_equals (after : Text) (offset : Nat) :
    inText offset ('=' :: after) =
      ⟨⟨.equals, ['='], []⟩, offset, offset + 1⟩ :: inText (offset + 1) after :=
  inText_lexeme .equals after rfl offset

theorem inText_pipe (after : Text) (offset : Nat) :
    inText offset ('|' :: after) =
      ⟨⟨.pipe, ['|'], []⟩, offset, offset + 1⟩ :: inText (offset + 1) after :=
  inText_lexeme .pipe after rfl offset

theorem inText_marked (after : Text) (offset : Nat) :
    inText offset (Strategy.marked after) =
      ⟨⟨.optionMarker, ['-', '-'], []⟩, offset, offset + 2⟩ :: inText (offset + 2) after :=
  inText_lexeme .optionMarker after rfl offset

/-- A dotted word is scanned as identifiers joined by dots. -/
theorem inText_dotted {text : Text} (h : Text.isDottedWord text = true) (after : Text)
    (hafter : after.head?.any Text.isWordPart = false) (offset : Nat) :
    ∃ tokens, inText offset (text ++ after) =
      tokens ++ inText (offset + Text.byteSize text) after ∧ Words tokens text := by
  induction text, h using Text.dottedInduction generalizing offset with
  | word w _ hword =>
      refine ⟨[_], inText_word hword after hafter offset, ?_⟩
      exact @Words.word ⟨⟨.identifier, w, w⟩, _, _⟩ rfl
  | dotted w rest _ _ hword ih =>
      obtain ⟨tokens, htokens, hwords⟩ := ih (offset + Text.byteSize w + 1)
      have hdot : ('.' :: (rest ++ after)).head?.any Text.isWordPart = false := by
        show Text.isWordPart '.' = false
        decide
      have hjoined := Words.append
        (@Words.word ⟨⟨.identifier, w, w⟩, offset, offset + Text.byteSize w⟩ rfl)
        (show (⟨⟨.dot, ['.'], []⟩, offset + Text.byteSize w,
          offset + Text.byteSize w + 1⟩ : Token).kind = .dot from rfl)
        hwords
      refine ⟨_, ?_, hjoined⟩
      rw [List.append_assoc, List.cons_append, inText_word hword _ hdot, inText_dot, htokens,
        Text.byteSize_append]
      simp only [List.cons_append, List.nil_append, Text.byteSize, Nat.add_assoc]
      rfl

/-- A value between quotes is one lexeme, which its closing quote ends. -/
theorem formed_spell {value : Text} (h : Text.isDottedWord value = false) :
    Lexeme.Formed ⟨.stringLiteral, Literal.spell value, value⟩ ∧
      Literal.isOpen (Literal.spell value) = false := by
  have hspell : Literal.spell value = '\'' :: (Literal.spellBody value ++ ['\'']) := by
    simp [Literal.spell, h]
  have hread := Literal.read_spellBody value []
  have hformed : Lexeme.Formed ⟨.stringLiteral, '\'' :: (Literal.spellBody value ++ ['\'']),
      (Literal.read '\'' (Literal.spellBody value ++ ['\''])).value⟩ :=
    .literal (by decide) (by rw [hread])
  have hopen := Literal.isOpen_read '\'' (by decide) (Literal.spellBody value ++ ['\''])
  rw [hread] at hformed hopen
  rw [hspell]
  exact ⟨hformed, hopen⟩

/-- A spelled value is scanned as one value. -/
theorem value_spell (value : Text) (offset : Nat) :
    Value (inText offset (Literal.spell value)) value := by
  cases h : Text.isDottedWord value with
  | true =>
      obtain ⟨tokens, htokens, hwords⟩ := inText_dotted h [] rfl offset
      rw [List.append_nil] at htokens
      rw [Literal.spell, if_pos h, htokens]
      simpa [inText, lay, show Piece.split [] = [] from rfl] using Value.plain hwords
  | false =>
      have htokens := inText_lexeme (formed_spell h).1 [] rfl offset
      rw [List.append_nil] at htokens
      rw [htokens]
      exact @Value.quoted ⟨⟨_, _, value⟩, _, _⟩ rfl

/-- An option with a spelled value is scanned as one option. -/
theorem setting_spell {key : Text} (hkey : Text.isDottedWord key = true) (value : Text)
    (offset : Nat) :
    Setting (inText offset (Strategy.marked (key ++ '=' :: Literal.spell value))) key value := by
  obtain ⟨tokens, htokens, hwords⟩ := inText_dotted hkey
    ('=' :: Literal.spell value) (by simp; decide) (offset + 2)
  rw [inText_marked, htokens, inText_equals]
  exact .assign rfl hwords rfl (value_spell value _)

/-! ## Ends -/

theorem Sealed.dotted_append {text after : Text} (h : Text.isDottedWord text = true)
    (hhead : after.head?.any Text.isWordPart = false) (hafter : Sealed after) :
    Sealed (text ++ after) := by
  induction text, h using Text.dottedInduction with
  | word w _ hword =>
      exact .lexeme_append (.word hword) (by simp) after (by simp [Lexeme.stopsAt, hhead]) hafter
  | dotted w rest _ _ hword ih =>
      rw [List.append_assoc]
      refine .lexeme_append (.word hword) (by simp) _ ?_ (.lexeme_append .dot (by simp) _ rfl ih)
      show (!Text.isWordPart '.') = true
      decide

theorem sealed_spell (value : Text) : Sealed (Literal.spell value) := by
  cases h : Text.isDottedWord value with
  | true =>
      have hsealed := Sealed.dotted_append h rfl sealed_nil
      rw [List.append_nil] at hsealed
      rwa [Literal.spell, if_pos h]
  | false => exact sealed_lexeme (formed_spell h).1 fun _ => (formed_spell h).2

/-- An option with a spelled value ends with its value. -/
theorem sealed_setting {key : Text} (hkey : Text.isDottedWord key = true) (value : Text) :
    Sealed (Strategy.marked (key ++ '=' :: Literal.spell value)) := by
  have hequals : Sealed ('=' :: Literal.spell value) :=
    Sealed.lexeme_append .equals (by simp) _ rfl (sealed_spell value)
  have hassigned := Sealed.dotted_append hkey (by simp; decide) hequals
  exact Sealed.lexeme_append .optionMarker (by simp) _ rfl hassigned

end Token

end PipeAssist

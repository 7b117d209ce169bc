import PipeAssist.Token.Literal

/-!
# Character classes and byte offsets

What scanning needs to know about single characters: blanks, words and punctuation do not overlap.
What slicing needs to know about bytes: sizes add up, and a cut at the size of a leading part gives
that part back (`takeBytes_append`).
-/

set_option autoImplicit false

namespace PipeAssist.Text

/-! ## Classes -/

/-- The blanks outside the basic Latin block are neither letters nor numbers. -/
theorem isLetterOrNumber_wideBlank :
    ∀ n ∈ [0x85, 0xA0, 0x1680, 0x2000, 0x2001, 0x2002, 0x2003, 0x2004, 0x2005, 0x2006, 0x2007,
      0x2008, 0x2009, 0x200A, 0x2028, 0x2029, 0x202F, 0x205F, 0x3000],
      WordTable.isLetterOrNumber n = false := by
  decide +kernel

/-- A blank from U+0080 on is one of finitely many, so the table of letters can be asked. -/
theorem isBlank_eq_false_of_isWordStart {c : Char} (h : isWordStart c = true) :
    isBlank c = false := by
  cases hb : isBlank c with
  | false => rfl
  | true =>
      simp only [isBlank, Bool.or_eq_true, Bool.and_eq_true, decide_eq_true_eq] at hb
      simp only [isWordStart] at h
      by_cases hn : c.toNat < 0x80
      · simp only [hn, if_true, Bool.or_eq_true, Bool.and_eq_true, decide_eq_true_eq] at h
        omega
      · simp only [hn, if_false] at h
        -- from here on words are decided by a table, which is asked at each of the blanks
        have hmem : c.toNat ∈ [0x85, 0xA0, 0x1680, 0x2000, 0x2001, 0x2002, 0x2003, 0x2004, 0x2005,
            0x2006, 0x2007, 0x2008, 0x2009, 0x200A, 0x2028, 0x2029, 0x202F, 0x205F, 0x3000] := by
          simp only [List.mem_cons, List.not_mem_nil, or_false]
          omega
        rw [isLetterOrNumber_wideBlank _ hmem] at h
        cases h

/-- The characters with a use of their own begin no word. -/
theorem isWordStart_punctuation {c : Char} (h : isWordStart c = true) :
    c ≠ '|' ∧ c ≠ '.' ∧ c ≠ '=' ∧ c ≠ '-' ∧ Literal.isQuote c = false := by
  have key : ∀ d ∈ ['|', '.', '=', '-', '\'', '"'], c ≠ d := by
    intro d hd hcd
    subst hcd
    revert hd h
    simp only [List.mem_cons, List.not_mem_nil, or_false]
    rintro h (rfl | rfl | rfl | rfl | rfl | rfl) <;> exact absurd h (by decide)
  refine ⟨key _ (by simp), key _ (by simp), key _ (by simp), key _ (by simp), ?_⟩
  simp [Literal.isQuote, key '\'' (by simp), key '"' (by simp)]

theorem isWordPart_of_isWordStart {c : Char} (h : isWordStart c = true) : isWordPart c = true := by
  simp [isWordPart, h]

theorem isBlank_eq_false_of_isWordPart {c : Char} (h : isWordPart c = true) :
    isBlank c = false := by
  simp only [isWordPart, Bool.or_eq_true, decide_eq_true_eq] at h
  rcases h with h | rfl
  · exact isBlank_eq_false_of_isWordStart h
  · decide

/-! ## Bytes -/

@[simp] theorem byteSize_nil : byteSize [] = 0 := rfl

@[simp] theorem byteSize_append (a b : Text) : byteSize (a ++ b) = byteSize a + byteSize b := by
  induction a with
  | nil => simp
  | cons c cs ih => simp only [List.cons_append, byteSize, ih, Nat.add_assoc]

theorem byteSize_pos {text : Text} (h : text ≠ []) : 0 < byteSize text := by
  cases text with
  | nil => exact absurd rfl h
  | cons c cs =>
      have hc := Char.utf8Size_pos c
      show 0 < c.utf8Size + byteSize cs
      omega

/-- Cutting a text at the size of a leading part gives that part. -/
theorem takeBytes_append (a b : Text) : takeBytes (byteSize a) (a ++ b) = a := by
  induction a with
  | nil =>
      cases b with
      | nil => rfl
      | cons c cs =>
          have hc := Char.utf8Size_pos c
          simp only [List.nil_append, byteSize, takeBytes]
          exact if_neg (by omega)
  | cons c cs ih =>
      have hle : c.utf8Size ≤ c.utf8Size + byteSize cs := Nat.le_add_right _ _
      simp only [List.cons_append, byteSize, takeBytes, if_pos hle]
      rw [Nat.add_sub_cancel_left, ih]

end PipeAssist.Text

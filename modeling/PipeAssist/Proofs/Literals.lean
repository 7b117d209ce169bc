import PipeAssist.Proofs.Characters

/-!
# Reading quoted literals

A literal that is closed does not depend on what follows it (`read_append_of_closed`), and one that
is open takes the whole text (`read_raw_of_open`). The closing quote can be told from the raw text
alone (`isOpen_read`). A spelled value reads back as the value (`read_spellBody`), so spelling loses
nothing (`spell_injective`).
-/

set_option autoImplicit false

namespace PipeAssist.Literal

/-! ## What a literal depends on -/

/-- Induction along a literal: a backslash and the character after it are one step. -/
theorem pairInduction {motive : Text → Prop} (nil : motive []) (dangling : motive ['\\'])
    (pair : ∀ c cs, motive cs → motive ('\\' :: c :: cs))
    (plain : ∀ c cs, c ≠ '\\' → motive cs → motive (c :: cs)) : ∀ text, motive text
  | [] => nil
  | [c] =>
      if h : c = '\\' then h ▸ dangling else plain c [] h nil
  | c :: d :: cs =>
      if h : c = '\\' then h ▸ pair d cs (pairInduction nil dangling pair plain cs)
      else plain c (d :: cs) h (pairInduction nil dangling pair plain (d :: cs))

/-- A character other than the backslash stands for itself or closes the literal. -/
theorem read_cons (quote : Char) {c : Char} (hc : c ≠ '\\') (cs : Text) :
    read quote (c :: cs) =
      if c = quote then ⟨[c], [], true⟩
      else ⟨c :: (read quote cs).raw, c :: (read quote cs).value, (read quote cs).closed⟩ := by
  rw [read]
  · exact fun h _ => hc h
  · exact fun _ _ h _ => hc h

/-- An open literal runs to the end of the text. -/
theorem read_raw_of_open (quote : Char) (text : Text) (h : (read quote text).closed = false) :
    (read quote text).raw = text := by
  induction text using pairInduction with
  | nil => rfl
  | dangling => rfl
  | pair c cs ih =>
      rw [read] at h ⊢
      simp only [ih h]
  | plain c cs hc ih =>
      rw [read_cons quote hc] at h ⊢
      by_cases hquote : c = quote
      · simp [hquote] at h
      · simp only [if_neg hquote] at h ⊢
        rw [ih h]

/-- The raw text of a literal is a leading part of the text. -/
theorem read_raw_append (quote : Char) (text : Text) :
    ∃ after, text = (read quote text).raw ++ after := by
  induction text using pairInduction with
  | nil => exact ⟨[], rfl⟩
  | dangling => exact ⟨[], rfl⟩
  | pair c cs ih =>
      obtain ⟨after, hafter⟩ := ih
      exact ⟨after, congrArg (fun t => '\\' :: c :: t) hafter⟩
  | plain c cs hc ih =>
      rw [read_cons quote hc]
      by_cases hquote : c = quote
      · exact ⟨cs, by simp [hquote]⟩
      · obtain ⟨after, hafter⟩ := ih
        refine ⟨after, ?_⟩
        rw [if_neg hquote]
        exact congrArg (fun t => c :: t) hafter

/-- A closed literal is the same whatever follows its closing quote. -/
theorem read_append_of_closed (quote : Char) (text after : Text)
    (h : (read quote text).closed = true) :
    read quote ((read quote text).raw ++ after) = read quote text := by
  induction text using pairInduction with
  | nil => cases h
  | dangling => cases h
  | pair c cs ih =>
      show read quote ('\\' :: c :: ((read quote cs).raw ++ after)) = _
      rw [read, ih h, read]
  | plain c cs hc ih =>
      rw [read_cons quote hc] at h ⊢
      by_cases hquote : c = quote
      · rw [if_pos hquote]
        show read quote (c :: after) = _
        rw [read_cons quote hc, if_pos hquote]
      · simp only [if_neg hquote] at h ⊢
        show read quote (c :: ((read quote cs).raw ++ after)) = _
        rw [read_cons quote hc, if_neg hquote, ih h]

/-! ## Open literals -/

/-- One more character ends a text in an escape when it is a backslash that is not escaped. -/
theorem endsInEscape_concat (text : Text) (c : Char) :
    endsInEscape (text ++ [c]) = (decide (c = '\\') && !endsInEscape text) := by
  unfold endsInEscape Text.trailingRun
  rw [List.reverse_append, List.reverse_singleton, List.singleton_append, List.takeWhile_cons]
  by_cases hc : c = '\\'
  · simp only [hc, decide_true, if_true, List.length_cons, Bool.true_and]
    rw [← decide_not]
    exact decide_eq_decide.2 (by omega)
  · simp [hc]

/-- A backslash pair leaves the parity of a trailing run of backslashes as it is. -/
theorem endsInEscape_pair (text : Text) (c : Char) (h : endsInEscape text = false) :
    endsInEscape (text ++ ['\\', c]) = false := by
  have hpair : text ++ ['\\', c] = (text ++ ['\\']) ++ [c] := by simp
  rw [hpair, endsInEscape_concat, endsInEscape_concat, h]
  simp

/-- What `isOpen` looks at, behind a part `before` of the body that ends in no escape. -/
theorem read_lastQuote (quote : Char) (hq : quote ≠ '\\') (text before : Text)
    (hbefore : endsInEscape before = false) :
    ((read quote text).closed = true →
      ∃ body, (read quote text).raw = body ++ [quote] ∧ endsInEscape (before ++ body) = false) ∧
    ((read quote text).closed = false → text ≠ [] →
      text.getLast? ≠ some quote ∨ endsInEscape (before ++ text.dropLast) = true) := by
  -- `before` grows along the literal, so the parity of its last run is what the induction carries
  induction text using pairInduction generalizing before with
  | nil => exact ⟨fun h => Bool.noConfusion h, fun _ h => absurd rfl h⟩
  | dangling =>
      refine ⟨fun h => Bool.noConfusion h, fun _ _ => Or.inl ?_⟩
      simpa using fun h => hq h.symm
  | pair c cs ih =>
      obtain ⟨hclosed, hopen⟩ := ih (before ++ ['\\', c]) (endsInEscape_pair before c hbefore)
      rw [read]
      refine ⟨fun h => ?_, fun h _ => ?_⟩
      · obtain ⟨body, hraw, hbody⟩ := hclosed h
        exact ⟨'\\' :: c :: body, by simp [hraw], by simpa using hbody⟩
      · cases cs with
        | nil =>
            -- the pair ends the text, and its backslash escapes whatever its second character is
            right
            simp [endsInEscape_concat, hbefore]
        | cons d ds =>
            have hlast := hopen h (by simp)
            simpa using hlast
  | plain c cs hc ih =>
      rw [read_cons quote hc]
      by_cases hquote : c = quote
      · rw [if_pos hquote, hquote]
        exact ⟨fun _ => ⟨[], rfl, by simpa using hbefore⟩, fun h => Bool.noConfusion h⟩
      · obtain ⟨hclosed, hopen⟩ := ih (before ++ [c]) (by simp [endsInEscape_concat, hc])
        rw [if_neg hquote]
        refine ⟨fun h => ?_, fun h _ => ?_⟩
        · obtain ⟨body, hraw, hbody⟩ := hclosed h
          exact ⟨c :: body, by simp [hraw], by simpa using hbody⟩
        · cases cs with
          | nil => exact Or.inl (by simpa using hquote)
          | cons d ds =>
              have hlast := hopen h (by simp)
              simpa using hlast

/-- The raw text alone shows whether the closing quote was there. -/
theorem isOpen_read (quote : Char) (hq : quote ≠ '\\') (text : Text) :
    isOpen (quote :: (read quote text).raw) = !(read quote text).closed := by
  obtain ⟨hclosed, hopen⟩ := read_lastQuote quote hq text [] rfl
  cases h : (read quote text).closed with
  | true =>
      obtain ⟨body, hraw, hbody⟩ := hclosed h
      simp only [isOpen, hraw, List.getLast?_concat, List.dropLast_concat]
      simpa using hbody
  | false =>
      rw [read_raw_of_open quote text h]
      cases text with
      | nil => rfl
      | cons c cs =>
          rcases hopen h (by simp) with hlast | hescape
          · simp [isOpen, hlast]
          · simp only [List.nil_append] at hescape
            simp [isOpen, hescape]

/-! ## Spelled values -/

/-- A value between single quotes reads back, whatever follows. -/
theorem read_spellBody (value after : Text) :
    read '\'' (spellBody value ++ '\'' :: after) = ⟨spellBody value ++ ['\''], value, true⟩ := by
  induction value with
  | nil =>
      show read '\'' ('\'' :: after) = _
      rw [read_cons _ (by decide), if_pos rfl]
      rfl
  | cons c cs ih =>
      by_cases hc : c = '\'' ∨ c = '\\'
      · have hspell : spellBody (c :: cs) = '\\' :: c :: spellBody cs := by
          rcases hc with rfl | rfl <;> simp [spellBody]
        have hunescape : unescape c = [c] := by
          rcases hc with rfl | rfl <;> rfl
        rw [hspell]
        show read '\'' ('\\' :: c :: (spellBody cs ++ '\'' :: after)) = _
        rw [read, ih, hunescape]
        rfl
      · obtain ⟨hquote, hback⟩ := not_or.1 hc
        have hspell : spellBody (c :: cs) = c :: spellBody cs := by
          simp [spellBody, hquote, hback]
        rw [hspell]
        show read '\'' (c :: (spellBody cs ++ '\'' :: after)) = _
        rw [read_cons _ hback, if_neg hquote, ih]
        rfl

/-- A spelled value that is no dotted word begins with a quote, and one that is does not. -/
theorem head_spell (value : Text) :
    (spell value).head? = some '\'' ↔ Text.isDottedWord value = false := by
  unfold spell
  cases h : Text.isDottedWord value with
  | false => simp
  | true =>
      simp only [if_true, reduceCtorEq, iff_false]
      intro hhead
      cases value with
      | nil => cases hhead
      | cons c cs =>
          cases hhead
          -- the first segment would have to begin with the quote
          have hquote : Text.isDottedWord ('\'' :: cs) = false := by
            unfold Text.isDottedWord Text.segments
            rw [if_neg (by decide)]
            cases Text.segments cs with
            | nil => decide +kernel
            | cons first rest =>
                have hstart : Text.isWordStart '\'' = false := by decide
                simp [Text.isWord, hstart]
          rw [hquote] at h
          cases h

/-- Different values are spelled differently. -/
theorem spell_injective {a b : Text} (h : spell a = spell b) : a = b := by
  cases ha : Text.isDottedWord a with
  | true =>
      cases hb : Text.isDottedWord b with
      | true => simpa [spell, ha, hb] using h
      | false =>
          have hhead := (head_spell b).2 hb
          rw [← h, head_spell, ha] at hhead
          cases hhead
  | false =>
      cases hb : Text.isDottedWord b with
      | true =>
          have hhead := (head_spell a).2 ha
          rw [h, head_spell, hb] at hhead
          cases hhead
      | false =>
          -- between quotes the value can be read back, so it cannot have been another one
          simp only [spell, ha, hb, Bool.false_eq_true, if_false, List.cons.injEq, true_and] at h
          have hread := read_spellBody a []
          rw [h, read_spellBody b []] at hread
          exact (congrArg Literal.value hread).symm

end PipeAssist.Literal

import PipeAssist.Proofs.OptionNames

/-!
# Paths to options

Behind two dashes the name of an option is put together by accepting proposals: each one adds a
segment of the id, and the last one the sign (`accepts_option`). A proposal that adds a segment and
a dot is read as a text in which the name is typed up to that dot, with the same text kept and the
same definition committed (`Naming.extend`). There the group of the option is being completed if one
segment is left, and otherwise its id goes on with the next segment, whatever the other options are.
-/

set_option autoImplicit false

namespace PipeAssist

/-! ## Steps of completion -/

/-- A line that comes from another one by accepting proposals, with the number of them. -/
inductive Engine.Accepts (engine : Engine) : Nat → Text → Text → Prop where
  | done (line : Text) : Accepts engine 0 line line
  | accept {steps : Nat} {line last : Text} {proposal : Proposal}
      (mem : proposal ∈ engine.complete line 0) (after : Accepts engine steps proposal.text last) :
      Accepts engine (steps + 1) line last

/-! ## Groups on the way -/

/-- The parent group of an id reaches at least up to any of its dots. -/
theorem parentGroup_append_cases (a b : Text) :
    parentGroup (a ++ '.' :: b) = a ∨ ∃ rest, parentGroup (a ++ '.' :: b) = a ++ '.' :: rest := by
  by_cases hdot : '.' ∈ b
  · obtain ⟨last, hb, hlast⟩ := exists_parentGroup hdot
    refine Or.inr ⟨parentGroup b, ?_⟩
    have hsplit : a ++ '.' :: b = (a ++ '.' :: parentGroup b) ++ '.' :: last := by
      rw [List.append_assoc, List.cons_append, ← hb]
    rw [hsplit, parentGroup_append_dot _ hlast]
  · exact Or.inl (parentGroup_append_dot a hdot)

/-- The parent group of a text is not longer than the text. -/
theorem length_parentGroup_le (id : Text) : (parentGroup id).length ≤ id.length := by
  by_cases hdot : '.' ∈ id
  · obtain ⟨last, hid, -⟩ := exists_parentGroup hdot
    have hlength := congrArg List.length hid
    rw [List.length_append] at hlength
    omega
  · simp [parentGroup_of_not_mem hdot]

namespace Strategy

variable {typed word : Text} {group : OptionGroup}

theorem length_withoutLastDot_le (text : Text) : (withoutLastDot text).length ≤ text.length := by
  unfold withoutLastDot
  split
  · rw [List.length_dropLast]
    omega
  · exact Nat.le_refl _

/-- Groups that are being completed are not longer than the typed text. -/
theorem length_le_of_isCompleting (h : isCompleting typed group = true) :
    group.id.length ≤ typed.length := by
  simp only [isCompleting, Bool.or_eq_true, decide_eq_true_eq] at h
  rcases h with h | h
  · rw [h]
    exact length_parentGroup_le typed
  · rw [h]
    exact length_withoutLastDot_le typed

/-- The next segment of a group whose id goes on with a word is that word. -/
theorem nextSegment_eq (hword : '.' ∉ word)
    (h : group.id = typed ++ word ∨ ∃ rest, group.id = typed ++ word ++ '.' :: rest) :
    nextSegment typed group = typed ++ word := by
  have hall := Text.ne_dot_of_not_mem hword
  rcases h with h | ⟨rest, h⟩
  · rw [nextSegment, h, List.drop_left' rfl, List.takeWhile_eq_self_iff.2 hall]
  · rw [nextSegment, h, List.append_assoc, List.drop_left' rfl, List.takeWhile_append_of_pos hall]
    simp

end Strategy

/-! ## Names on the way -/

/-- What may be typed of a dotted word up to one of its words. -/
def Text.IsFront (typed : Text) : Prop :=
  typed = [] ∨ ∃ key, isDottedWord key = true ∧ typed = key ++ ['.']

theorem Text.IsFront.isDottedWord_append {typed word : Text} (h : IsFront typed)
    (hword : isDottedWord word = true) : isDottedWord (typed ++ word) = true := by
  rcases h with rfl | ⟨key, hkey, rfl⟩
  · exact hword
  · rw [List.append_assoc, List.singleton_append, isDottedWord_append_dot, hkey, hword]
    rfl

/-- The last word of an id is in the group that is typed up to it. -/
theorem Text.IsFront.parentGroup_append {typed word : Text} (h : IsFront typed)
    (hword : '.' ∉ word) : parentGroup (typed ++ word) = Strategy.withoutLastDot typed := by
  rcases h with rfl | ⟨key, -, rfl⟩
  · exact parentGroup_of_not_mem hword
  · rw [List.append_assoc, List.singleton_append, parentGroup_append_dot key hword]
    simp [Strategy.withoutLastDot]

/-- The last token of a proposal that ends with a dot. -/
theorem Token.getLast_separate_dot {kept key : Text} (hkept : Sealed kept)
    (hkey : Text.isDottedWord key = true) (explanation : String) :
    ∃ token, (inText 0 (Proposal.separate kept
      (Strategy.marked (key ++ ['.'])) explanation).text).getLast? = some token ∧
      token.kind = .dot := by
  obtain ⟨offset, htokens, -⟩ :=
    inText_separate hkept (Strategy.marked (key ++ ['.'])) rfl explanation
  obtain ⟨words, hwords, -⟩ := inText_dotted hkey ['.'] (by decide) (offset + 2)
  refine ⟨⟨⟨.dot, ['.'], []⟩, offset + 2 + Text.byteSize key,
    offset + 2 + Text.byteSize key + 1⟩, ?_, rfl⟩
  rw [htokens, inText_marked, hwords, inText_dot, ← List.cons_append, ← List.append_assoc]
  exact List.getLast?_concat

/-- A line in which `typed` is there of the name of an option, behind the text that is kept and the
definition that is committed in it. -/
def Fault.Naming (kept : Text) (definition : Definition) (line typed : Text) : Prop :=
  ∃ fault, Definition.read line = .error fault ∧ fault.NamesOption typed ∧
    fault.safePrefix = kept ∧ fault.definition = definition

/-- Where the name of an option is typed, part of a name and a dot can take its place. -/
theorem Fault.Naming.extend {kept line typed key : Text} {definition : Definition}
    (h : Naming kept definition line typed) (hdefinition : definition ≠ [])
    (hkey : Text.isDottedWord key = true) :
    Naming kept definition (kept ++ " --".toList ++ (key ++ ['.'])) (key ++ ['.']) := by
  obtain ⟨fault, hread, hname, rfl, rfl⟩ := h
  -- the new line is read from the checkpoint on, which it keeps
  have hspell := separate_text hread hdefinition (Strategy.marked (key ++ ['.'])) ""
  rw [Engine.dashes_append] at hspell
  have hnext := read_dot hread hname.lacksName hkey ""
  have hkept := safePrefix_separate hread (Strategy.marked (key ++ ['.'])) rfl ""
    (.unfinishedOptionName (key ++ ['.']))
  obtain ⟨-, -, -, hsealed⟩ := cut hread
  obtain ⟨token, hlast, hdot⟩ := Token.getLast_separate_dot hsealed hkey ""
  simp only [hspell] at hnext hkept hlast
  refine ⟨_, hnext, Or.inl ⟨rfl, token, ?_, Or.inr hdot⟩, hkept, rfl⟩
  rw [lastToken?, Token.lastSignificant?, Token.filter_isSignificant_scan, hlast]

/-! ## Paths -/

section Paths

variable {directory : Directory} {withDeprecated : Bool} {component : Component}
  {use : ComponentUse} {options : List OptionSpec} {option : OptionSpec}
  (hdirectory : directory.optionGroups component = OptionGroup.collect options)
  (hmem : option ∈ options) (hgroup : option.group = parentGroup option.id)
  (havailable : Directory.isAvailable withDeprecated use option = true)

include hdirectory hmem hgroup havailable

namespace Strategy

/-- An option is offered when its id is typed up to the last word. -/
theorem Offered.lastWord {typed word : Text} (htyped : typed.IsFront) (hword : '.' ∉ word)
    (hid : option.id = typed ++ word) :
    Offered directory withDeprecated component use typed (option.id ++ ['=']) := by
  obtain ⟨group, groupMem, hgroupId, hoption⟩ := OptionGroup.exists_mem_collect hmem
  rw [← hdirectory] at groupMem
  refine .option groupMem ?_ hoption havailable ?_
  · simp [isCompleting, hgroupId, hgroup, hid, htyped.parentGroup_append hword]
  · rw [hid]
    exact List.isPrefixOf_iff_prefix.2 (List.prefix_append _ _)

/-- The next word of an id is offered when another one comes behind it. -/
theorem Offered.nextWord {typed word rest : Text} (hword : Text.isWord word = true)
    (hid : option.id = typed ++ word ++ '.' :: rest) :
    Offered directory withDeprecated component use typed (typed ++ word ++ ['.']) := by
  obtain ⟨group, groupMem, hgroupId, hoption⟩ := OptionGroup.exists_mem_collect hmem
  rw [← hdirectory] at groupMem
  rw [hgroup, hid] at hgroupId
  have hcases : group.id = typed ++ word ∨ ∃ more, group.id = typed ++ word ++ '.' :: more := by
    rw [hgroupId]
    exact parentGroup_append_cases (typed ++ word) rest
  have hstarts : typed ++ word <+: group.id := by
    rcases hcases with h | ⟨more, h⟩
    · exact ⟨[], by rw [List.append_nil, h]⟩
    · exact ⟨'.' :: more, h.symm⟩
  have hlonger : typed.length < group.id.length := by
    have hlength := hstarts.length_le
    rw [List.length_append] at hlength
    have hpos : 0 < word.length := List.length_pos_of_ne_nil (by rintro rfl; cases hword)
    omega
  have hother : isCompleting typed group = false := by
    rw [Bool.eq_false_iff]
    intro hcompleting
    have hshort := length_le_of_isCompleting hcompleting
    omega
  have hne : group.id ≠ [] := List.ne_nil_of_length_pos (by omega)
  have hoffered := Offered.segment groupMem hne hother hoption havailable
    (List.isPrefixOf_iff_prefix.2 ((List.prefix_append typed word).trans hstarts))
  rwa [nextSegment_eq (Text.dot_not_mem_of_isWord hword) hcases] at hoffered

end Strategy

namespace Engine

/-- From any line in which the id is typed up to one of its words, one proposal is accepted for
each word that is left. -/
theorem accepts_rest {kept : Text} {definition : Definition}
    (hlast : definition.getLast? = some use)
    (hresolved : directory.resolveLast definition = some component)
    {rest : Text} (hrest : Text.isDottedWord rest = true) {typed line : Text}
    (hnaming : Fault.Naming kept definition line typed) (htyped : typed.IsFront)
    (hid : option.id = typed ++ rest) :
    Accepts (standard directory withDeprecated) (Text.segments rest).length line
      (kept ++ " --".toList ++ (option.id ++ ['='])) := by
  have hdefinition : definition ≠ [] := by
    rintro rfl
    cases hlast
  -- what is offered is proposed in every such line
  have hproposed : ∀ {line typed suffix : Text}, Fault.Naming kept definition line typed →
      Strategy.Offered directory withDeprecated component use typed suffix →
      ∃ proposal ∈ (standard directory withDeprecated).complete line 0,
        proposal.text = kept ++ " --".toList ++ suffix := by
    rintro line typed suffix ⟨fault, hread, hname, rfl, rfl⟩ hoffered
    exact (exists_proposal_iff hread hname hlast hresolved).2 hoffered
  -- by induction on the words left: what is kept and committed is the same in every line
  induction rest, hrest using Text.dottedInduction generalizing typed line with
  | word word _ hword =>
      have hdot := Text.dot_not_mem_of_isWord hword
      obtain ⟨proposal, hproposal, htext⟩ := hproposed hnaming
        (Strategy.Offered.lastWord hdirectory hmem hgroup havailable htyped hdot hid)
      rw [Text.segments_eq_singleton hdot]
      refine .accept hproposal ?_
      rw [htext]
      exact .done _
  | dotted word rest _ _ hword ih =>
      have hdot := Text.dot_not_mem_of_isWord hword
      have hkey := htyped.isDottedWord_append (Text.isDottedWord_of_isWord hword)
      obtain ⟨proposal, hproposal, htext⟩ := hproposed hnaming
        (Strategy.Offered.nextWord hdirectory hmem hgroup havailable hword
          (by rw [hid, List.append_assoc]))
      rw [Text.segments_append_dot, Text.segments_eq_singleton hdot, List.singleton_append,
        List.length_cons]
      refine .accept hproposal ?_
      rw [htext]
      exact ih (hnaming.extend hdefinition hkey) (Or.inr ⟨_, hkey, rfl⟩) (by simp [hid])

end Engine

end Paths

namespace Engine

/-- Every option that can still be supplied is reached behind two dashes by accepting proposals, one
for each word of its id. Nothing is asked of the other options. -/
theorem accepts_option (catalog : Catalog) (rule : Definition → List Category)
    (withDeprecated : Bool) (text : Text) (fault : Fault) (component : Component)
    (use : ComponentUse) (option : OptionSpec) (h : Definition.read text = .error fault)
    (hreason : fault.reason = .trailingOptionMarker)
    (hlast : fault.definition.getLast? = some use)
    (hresolved : (Directory.underRule catalog rule).resolveLast fault.definition = some component)
    (hmem : option ∈ catalog.optionsOf component.name component.category)
    (hid : Text.isDottedWord option.id = true) (hgroup : option.group = parentGroup option.id)
    (havailable : Directory.isAvailable withDeprecated use option = true) :
    Accepts (standard (Directory.underRule catalog rule) withDeprecated)
      (Text.segments option.id).length text
      (fault.safePrefix ++ " --".toList ++ option.id ++ ['=']) := by
  have hdirectory : (Directory.underRule catalog rule).optionGroups component =
      OptionGroup.collect (catalog.optionsOf component.name component.category) := rfl
  have hnaming : Fault.Naming fault.safePrefix fault.definition text [] :=
    ⟨fault, h, Or.inr ⟨hreason, rfl⟩, rfl, rfl⟩
  have haccepts := accepts_rest hdirectory hmem hgroup havailable hlast hresolved hid hnaming
    (Or.inl rfl) rfl
  rwa [← List.append_assoc] at haccepts

/-- Three words: two groups and the option. -/
theorem accepts_option_enabled :
    Accepts (standard (Directory.underRule .builtin StagePolicy.byPosition.categoriesAfter) false)
      3 "http --".toList "http --server.ssl.enabled=".toList :=
  accepts_option .builtin StagePolicy.byPosition.categoriesAfter false "http --".toList _
    ⟨"http".toList, .source, some "builtin:http-source"⟩ ⟨"http".toList, []⟩
    (Catalog.Builtin.spec "server.ssl.enabled" "Serve requests over TLS" (some "false")
      ["true", "false"])
    rfl rfl rfl rfl (by decide) (by decide) rfl (by decide)

end Engine

end PipeAssist

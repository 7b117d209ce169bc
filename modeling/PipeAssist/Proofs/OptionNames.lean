import PipeAssist.Proofs.DetailCap
import PipeAssist.Proofs.Progress

/-!
# Proposals for option names

Where the name of an option is being typed, the proposals are the options of the groups that are
being completed and one more segment of the other groups (`mem_complete_iff`). When every option is
in the group that its id says, this loses nothing and invents nothing (`optionNames_exact`): either
an option that extends the typed text is in a group that is being completed, or its group extends
the typed text too (`parentGroup_cases`), and the next segment of that group leads to it.
-/

set_option autoImplicit false

namespace PipeAssist

/-! ## Parent groups -/

theorem parentGroup_of_not_mem {id : Text} (h : '.' ∉ id) : parentGroup id = [] := if_neg h

theorem Text.ne_dot_of_not_mem {text : Text} (h : '.' ∉ text) :
    ∀ c ∈ text, decide (c ≠ '.') = true := by
  intro c hc
  rw [decide_eq_true_eq]
  rintro rfl
  exact h hc

/-- The parent group ends before the last dot. -/
theorem parentGroup_append_dot (group : Text) {last : Text} (h : '.' ∉ last) :
    parentGroup (group ++ '.' :: last) = group := by
  have hall := Text.ne_dot_of_not_mem (mt List.mem_reverse.1 h)
  rw [parentGroup, if_pos (by simp), List.reverse_append, List.reverse_cons, List.append_assoc,
    List.dropWhile_append_of_pos hall]
  simp

/-- An id with a dot is its parent group, the last dot and what follows. -/
theorem exists_parentGroup {id : Text} (h : '.' ∈ id) :
    ∃ last, id = parentGroup id ++ '.' :: last ∧ '.' ∉ last := by
  obtain ⟨last, group, hsplit, hlast⟩ := List.eq_append_cons_of_mem (List.mem_reverse.2 h)
  have hid : id = group.reverse ++ '.' :: last.reverse := by
    rw [← List.reverse_reverse id, hsplit]
    simp
  have hlast' : '.' ∉ last.reverse := by simpa using hlast
  refine ⟨last.reverse, ?_, hlast'⟩
  rw [hid, parentGroup_append_dot _ hlast']

/-- A text that goes beyond the last dot of an id it is in front of has the same parent group. -/
theorem prefix_or_parentGroup_eq {typed group last : Text} (hlast : '.' ∉ last)
    (h : typed <+: group ++ '.' :: last) : typed <+: group ∨ parentGroup typed = group := by
  rcases List.prefix_or_prefix_of_prefix h (List.prefix_append group _) with hshort | ⟨rest, rfl⟩
  · exact Or.inl hshort
  · rw [List.prefix_append_right_inj] at h
    cases rest with
    | nil => exact Or.inl (by simp)
    | cons c cs =>
        obtain ⟨rfl, hcs⟩ := List.cons_prefix_cons.1 h
        exact Or.inr (parentGroup_append_dot group fun hdot => hlast (hcs.subset hdot))

/-- A text in front of an id has the same parent group, or it is in front of the id's parent group,
which then is not empty. -/
theorem parentGroup_cases {typed id : Text} (h : typed <+: id) :
    parentGroup id = parentGroup typed ∨ (parentGroup id ≠ [] ∧ typed <+: parentGroup id) := by
  by_cases hdot : '.' ∈ id
  · obtain ⟨last, hid, hlast⟩ := exists_parentGroup hdot
    rw [hid] at h
    rcases prefix_or_parentGroup_eq hlast h with hshort | hsame
    · by_cases hempty : parentGroup id = []
      · rw [hempty, List.prefix_nil] at hshort
        exact Or.inl (by rw [hempty, hshort]; rfl)
      · exact Or.inr ⟨hempty, hshort⟩
    · exact Or.inl hsame.symm
  · have htyped : '.' ∉ typed := fun hmem => hdot (h.subset hmem)
    exact Or.inl (by rw [parentGroup_of_not_mem hdot, parentGroup_of_not_mem htyped])

theorem parentGroup_dot_isPrefix {id : Text} (h : parentGroup id ≠ []) :
    parentGroup id ++ ['.'] <+: id := by
  by_cases hdot : '.' ∈ id
  · obtain ⟨last, hid, -⟩ := exists_parentGroup hdot
    exact ⟨last, by rw [List.append_assoc, List.singleton_append, ← hid]⟩
  · exact absurd (parentGroup_of_not_mem hdot) h

/-! ## Groups of a catalog -/

/-- The groups of an option list: an id that some option has as its group, with all such options. -/
theorem OptionGroup.mem_collect {options : List OptionSpec} {group : OptionGroup} :
    group ∈ collect options ↔ (∃ option ∈ options, option.group = group.id) ∧
      group.options = options.filter fun option => option.group = group.id := by
  constructor
  · intro h
    obtain ⟨id, hid, rfl⟩ := List.mem_map.1 h
    rw [mem_distinctBy_self] at hid
    exact ⟨List.mem_map.1 hid, rfl⟩
  · rintro ⟨hid, hoptions⟩
    refine List.mem_map.2 ⟨group.id, mem_distinctBy_self.2 (List.mem_map.2 hid), ?_⟩
    rw [← hoptions]

/-- The group of an option, with all the options in it. -/
theorem OptionGroup.exists_mem_collect {options : List OptionSpec} {option : OptionSpec}
    (h : option ∈ options) :
    ∃ group ∈ collect options, group.id = option.group ∧ option ∈ group.options :=
  ⟨⟨option.group, options.filter fun other => other.group = option.group⟩,
    mem_collect.2 ⟨⟨option, h, rfl⟩, rfl⟩, rfl, by simp [h]⟩

theorem OptionGroup.mem_of_mem_collect {options : List OptionSpec} {group : OptionGroup}
    (hgroup : group ∈ collect options) {option : OptionSpec} (h : option ∈ group.options) :
    option ∈ options ∧ option.group = group.id := by
  rw [(mem_collect.1 hgroup).2] at h
  simpa using h

/-! ## What is proposed -/

/-- What can be put behind two dashes while the name of an option is being typed. -/
inductive Strategy.Offered (directory : Directory) (withDeprecated : Bool) (component : Component)
    (use : ComponentUse) (typed : Text) : Text → Prop where
  /-- An option of a group that is being completed, with its sign. -/
  | option {group : OptionGroup} {option : OptionSpec}
      (groupMem : group ∈ directory.optionGroups component)
      (completing : isCompleting typed group = true) (mem : option ∈ group.options)
      (available : Directory.isAvailable withDeprecated use option = true)
      (starts : Text.startsWith option.id typed = true) :
      Offered directory withDeprecated component use typed (option.id ++ ['='])
  /-- One more segment of another group that has something to offer, with a dot. -/
  | segment {group : OptionGroup} {option : OptionSpec}
      (groupMem : group ∈ directory.optionGroups component) (ne : group.id ≠ [])
      (other : isCompleting typed group = false) (mem : option ∈ group.options)
      (available : Directory.isAvailable withDeprecated use option = true)
      (starts : Text.startsWith group.id typed = true) :
      Offered directory withDeprecated component use typed (nextSegment typed group ++ ['.'])

namespace Strategy

variable {directory : Directory} {withDeprecated : Bool} {fault : Fault} {typed : Text}
  {component : Component} {use : ComponentUse} {options : List OptionSpec}

/-- Both strategies for option names propose what can be put behind the two dashes, and nothing
else. -/
theorem mem_propose_iff (hname : typedName? fault.reason = some typed)
    (hconfigured : fault.configured? directory = some (component, use)) {proposed : Text} :
    proposed ∈ ((optionLeaf withDeprecated).propose fault directory 0 ++
        (optionGroup withDeprecated).propose fault directory 0).map (·.text) ↔
      ∃ suffix, Offered directory withDeprecated component use typed suffix ∧
        proposed = (Proposal.separate fault.safePrefix (marked suffix) "").text := by
  simp only [optionLeaf, optionGroup, hname, hconfigured, capped, if_true, List.map_append,
    List.mem_append, List.map_map]
  -- the explanations differ, but it is the text of a proposal that counts
  constructor
  · rintro (h | h)
    · obtain ⟨option, hoption, rfl⟩ := List.mem_map.1 h
      obtain ⟨hmem, hfilter⟩ := List.mem_filter.1 hoption
      obtain ⟨group, hgroup, hmem⟩ := List.mem_flatMap.1 hmem
      obtain ⟨hgroup, hcompleting⟩ := List.mem_filter.1 hgroup
      rw [Bool.and_eq_true] at hfilter
      exact ⟨_, .option hgroup hcompleting hmem hfilter.1 hfilter.2,
        Proposal.separate_text_congr _ _ _ _⟩
    · obtain ⟨segment, hsegment, rfl⟩ := List.mem_map.1 h
      obtain ⟨group, hgroup, rfl⟩ := List.mem_map.1 (mem_of_mem_distinctBy hsegment)
      obtain ⟨hgroup, hfilter⟩ := List.mem_filter.1 hgroup
      simp only [Bool.and_eq_true, Bool.not_eq_true', decide_eq_true_eq, List.any_eq_true] at hfilter
      obtain ⟨⟨⟨hne, hother⟩, hstarts⟩, option, hmem, havailable⟩ := hfilter
      exact ⟨_, .segment hgroup hne hother hmem havailable hstarts,
        Proposal.separate_text_congr _ _ _ _⟩
  · rintro ⟨suffix, hoffered, rfl⟩
    cases hoffered with
    | @option group option groupMem completing mem available starts =>
        refine Or.inl (List.mem_map.2 ⟨option, List.mem_filter.2 ⟨?_, ?_⟩,
          Proposal.separate_text_congr _ _ _ _⟩)
        · exact List.mem_flatMap.2 ⟨group, List.mem_filter.2 ⟨groupMem, completing⟩, mem⟩
        · rw [available, starts]
          rfl
    | @segment group option groupMem ne other mem available starts =>
        refine Or.inr (List.mem_map.2 ⟨nextSegment typed group, mem_distinctBy_self.2
          (List.mem_map.2 ⟨group, List.mem_filter.2 ⟨groupMem, ?_⟩, rfl⟩),
          Proposal.separate_text_congr _ _ _ _⟩)
        simp only [Bool.and_eq_true, Bool.not_eq_true', decide_eq_true_eq, List.any_eq_true]
        exact ⟨⟨⟨ne, other⟩, starts⟩, option, mem, available⟩

/-- The next segment of the group that an id says leads to the id. -/
theorem nextSegment_leads {group : OptionGroup} {id : Text} (hid : group.id = parentGroup id)
    (hne : group.id ≠ []) (h : Text.startsWith group.id typed = true) :
    nextSegment typed group ++ ['.'] <+: id := by
  have hgroup : group.id ++ ['.'] <+: id := by
    rw [hid] at hne ⊢
    exact parentGroup_dot_isPrefix hne
  apply List.IsPrefix.trans _ hgroup
  rcases nextSegment_cases h with hsame | ⟨rest, hlonger⟩
  · exact ⟨[], by rw [List.append_nil, ← hsame]⟩
  · exact ⟨rest ++ ['.'], by rw [hlonger]; simp⟩

/-- What is offered extends the typed text and leads to an option that can still be supplied. -/
theorem Offered.leads (hdirectory : directory.optionGroups component = OptionGroup.collect options)
    (hgroups : ∀ option ∈ options, option.group = parentGroup option.id) {suffix : Text}
    (h : Offered directory withDeprecated component use typed suffix) :
    typed <+: suffix ∧
      ((∃ option ∈ options.filter (Directory.isAvailable withDeprecated use),
          suffix = option.id ++ ['=']) ∨
        ∃ segment, suffix = segment ++ ['.'] ∧
          ∃ option ∈ options.filter (Directory.isAvailable withDeprecated use),
            segment ++ ['.'] <+: option.id) := by
  cases h with
  | @option group option groupMem completing mem available starts =>
      rw [hdirectory] at groupMem
      have hmem := (OptionGroup.mem_of_mem_collect groupMem mem).1
      exact ⟨(List.isPrefixOf_iff_prefix.1 starts).trans (List.prefix_append _ _),
        Or.inl ⟨option, List.mem_filter.2 ⟨hmem, available⟩, rfl⟩⟩
  | @segment group option groupMem ne other mem available starts =>
      rw [hdirectory] at groupMem
      obtain ⟨hmem, hgroup⟩ := OptionGroup.mem_of_mem_collect groupMem mem
      rw [hgroups option hmem] at hgroup
      refine ⟨?_, Or.inr ⟨_, rfl, option, List.mem_filter.2 ⟨hmem, available⟩, ?_⟩⟩
      · rw [nextSegment, List.append_assoc]
        exact List.prefix_append _ _
      · exact nextSegment_leads hgroup.symm ne starts

/-- An option that can still be supplied and extends the typed text is offered, or a segment that
leads to it. -/
theorem Offered.exists_leading
    (hdirectory : directory.optionGroups component = OptionGroup.collect options)
    {option : OptionSpec} (hmem : option ∈ options) (hgroup : option.group = parentGroup option.id)
    (havailable : Directory.isAvailable withDeprecated use option = true)
    (hstarts : typed <+: option.id) :
    Offered directory withDeprecated component use typed (option.id ++ ['=']) ∨
      ∃ segment, segment ++ ['.'] <+: option.id ∧
        Offered directory withDeprecated component use typed (segment ++ ['.']) := by
  obtain ⟨group, groupMem, hid, hoption⟩ := OptionGroup.exists_mem_collect hmem
  rw [← hdirectory] at groupMem
  rw [hgroup] at hid
  cases hcompleting : isCompleting typed group with
  | true =>
      exact Or.inl (.option groupMem hcompleting hoption havailable
        (List.isPrefixOf_iff_prefix.2 hstarts))
  | false =>
      -- the group is not the typed text's, so it extends the typed text as well
      rcases parentGroup_cases hstarts with hsame | ⟨hne, hshort⟩
      · simp [isCompleting, hid, hsame] at hcompleting
      · rw [← hid] at hne hshort
        have hsegment := List.isPrefixOf_iff_prefix.2 hshort
        exact Or.inr ⟨_, nextSegment_leads hid hne hsegment,
          .segment groupMem hne hcompleting hoption havailable hsegment⟩

end Strategy

/-! ## Faults in which an option name is typed -/

namespace Fault

/-- Faults of texts that end while the name of an option is typed: `typed` is there of the name, up
to an identifier or a dot, or nothing is there behind the two dashes. -/
def NamesOption (fault : Fault) (typed : Text) : Prop :=
  (fault.reason = .unfinishedOptionName typed ∧ ∃ token, fault.lastToken? = some token ∧
    (token.kind = .identifier ∨ token.kind = .dot)) ∨
  (fault.reason = .trailingOptionMarker ∧ typed = [])

theorem NamesOption.typedName {fault : Fault} {typed : Text} (h : fault.NamesOption typed) :
    Strategy.typedName? fault.reason = some typed := by
  rcases h with ⟨hreason, -⟩ | ⟨hreason, rfl⟩
  · rw [hreason]
    rfl
  · rw [hreason]
    rfl

theorem NamesOption.lacksName {fault : Fault} {typed : Text} (h : fault.NamesOption typed) :
    fault.reason.lacksName = false := by
  rcases h with ⟨hreason, -⟩ | ⟨hreason, -⟩
  · rw [hreason]
    rfl
  · rw [hreason]
    rfl

theorem endsWith_lastToken {fault : Fault} {token : Token} (h : fault.lastToken? = some token) :
    fault.endsWith [token.kind] = true := by
  obtain ⟨front, hfront⟩ := List.getLast?_eq_some_iff.1 h
  simp [endsWith, tail, hfront]

/-- The strategies for option names are for these faults. -/
theorem NamesOption.fits {text typed : Text} {fault : Fault} {withDeprecated : Bool}
    (h : Definition.read text = .error fault) (hname : fault.NamesOption typed) :
    (Strategy.optionLeaf withDeprecated).fits fault = true := by
  simp only [Strategy.fits, Strategy.optionLeaf, Strategy.openName, Shape.fits, List.any_cons,
    List.any_nil, Bool.or_false, Bool.or_eq_true, Bool.and_eq_true, decide_eq_true_eq]
  rcases hname with ⟨hreason, token, hlast, hidentifier | hdot⟩ | ⟨hreason, -⟩
  · have hends := endsWith_lastToken hlast
    rw [hidentifier] at hends
    exact Or.inl ⟨by rw [kind, hreason]; rfl, hends⟩
  · have hends := endsWith_lastToken hlast
    rw [hdot] at hends
    exact Or.inr (Or.inl ⟨by rw [kind, hreason]; rfl, hends⟩)
  · -- nothing but the two dashes comes before the end in this fault
    have hkind : fault.kind = .trailingOptionMarker := by rw [kind, hreason]; rfl
    obtain ⟨token, hlast, hmarker⟩ := lastToken_kind h (by rw [hkind]; rfl)
    have hends := endsWith_lastToken hlast
    rw [hmarker] at hends
    exact Or.inr (Or.inr ⟨hkind, hends⟩)

/-- A fault behind a component keeps some text. -/
theorem safePrefix_ne_nil {text : Text} {fault : Fault} (h : Definition.read text = .error fault)
    (hdefinition : fault.definition ≠ []) : fault.safePrefix ≠ [] := by
  intro hnil
  obtain ⟨due, ⟨-, state, hfeed, hsettle⟩, -⟩ := grounded h
  obtain ⟨-, -, htaken, -⟩ := cut h
  rw [← htaken, hnil] at hfeed
  cases hfeed
  simp only [Reading.settle?, Reading.initial, Option.some.injEq, Reading.mk.injEq] at hsettle
  exact hdefinition hsettle.2.2.1.symm

/-- Behind a component a proposal puts one blank. -/
theorem separate_text {text : Text} {fault : Fault} (h : Definition.read text = .error fault)
    (hdefinition : fault.definition ≠ []) (suffix : Text) (explanation : String) :
    (Proposal.separate fault.safePrefix suffix explanation).text =
      fault.safePrefix ++ ' ' :: suffix := by
  obtain ⟨-, -, -, hsealed⟩ := cut h
  exact hsealed.separate_text (safePrefix_ne_nil h hdefinition) suffix explanation

theorem configured_eq {fault : Fault} {directory : Directory} {component : Component}
    {use : ComponentUse} (hlast : fault.definition.getLast? = some use)
    (hresolved : directory.resolveLast fault.definition = some component) :
    fault.configured? directory = some (component, use) := by
  simp only [configured?, hlast, hresolved]

end Fault

namespace Engine

open Strategy

variable {directory : Directory} {withDeprecated : Bool} {text typed : Text} {fault : Fault}
  {component : Component} {use : ComponentUse}

theorem dashes_append (kept suffix : Text) :
    kept ++ ' ' :: marked suffix = kept ++ " --".toList ++ suffix := by
  simp [marked]

/-- The texts that are proposed while the name of an option is typed. -/
theorem mem_complete_iff (h : Definition.read text = .error fault)
    (hname : fault.NamesOption typed) (hlast : fault.definition.getLast? = some use)
    (hresolved : directory.resolveLast fault.definition = some component) {proposed : Text} :
    (∃ proposal ∈ (standard directory withDeprecated).complete text 0, proposal.text = proposed) ↔
      ∃ suffix, Offered directory withDeprecated component use typed suffix ∧
        proposed = fault.safePrefix ++ " --".toList ++ suffix := by
  have hdefinition : fault.definition ≠ [] := by
    intro hnil
    rw [hnil] at hlast
    cases hlast
  have hpropose := @mem_propose_iff directory withDeprecated fault typed component use
    hname.typedName (Fault.configured_eq hlast hresolved) proposed
  simp only [Fault.separate_text h hdefinition, dashes_append] at hpropose
  rw [← hpropose, ← List.mem_map,
    (complete_error directory withDeprecated h (Nat.zero_lt_one)).2,
    fitting_optionLeaf (hname.fits h), Proposal.distinct, mem_map_distinctBy]
  simp

/-- A text is proposed if and only if what comes behind its two dashes is offered. -/
theorem exists_proposal_iff (h : Definition.read text = .error fault)
    (hname : fault.NamesOption typed) (hlast : fault.definition.getLast? = some use)
    (hresolved : directory.resolveLast fault.definition = some component) {suffix : Text} :
    (∃ proposal ∈ (standard directory withDeprecated).complete text 0,
      proposal.text = fault.safePrefix ++ " --".toList ++ suffix) ↔
      Offered directory withDeprecated component use typed suffix := by
  rw [mem_complete_iff h hname hlast hresolved]
  constructor
  · rintro ⟨other, hoffered, hsame⟩
    rwa [List.append_cancel_left hsame]
  · intro hoffered
    exact ⟨suffix, hoffered, rfl⟩

/-- Proposals for option names are exact when every option is in the group that its id says: each
option that can still be supplied and extends the typed text is proposed, or a segment that leads to
it, and nothing is proposed that does not lead to such an option. -/
theorem optionNames_exact (catalog : Catalog) (rule : Definition → List Category)
    (withDeprecated : Bool) (text typed : Text) (fault : Fault) (component : Component)
    (use : ComponentUse) (h : Definition.read text = .error fault)
    (hname : fault.NamesOption typed) (hlast : fault.definition.getLast? = some use)
    (hresolved : (Directory.underRule catalog rule).resolveLast fault.definition = some component)
    (hgroups : ∀ option ∈ catalog.optionsOf component.name component.category,
      option.group = parentGroup option.id) :
    let available := (catalog.optionsOf component.name component.category).filter
      (Directory.isAvailable withDeprecated use)
    let proposals := (standard (Directory.underRule catalog rule) withDeprecated).complete text 0
    (∀ option ∈ available, typed <+: option.id →
      (∃ proposal ∈ proposals,
        proposal.text = fault.safePrefix ++ " --".toList ++ option.id ++ ['=']) ∨
      ∃ segment, segment ++ ['.'] <+: option.id ∧ ∃ proposal ∈ proposals,
        proposal.text = fault.safePrefix ++ " --".toList ++ segment ++ ['.']) ∧
    ∀ proposal ∈ proposals, ∃ added,
      proposal.text = fault.safePrefix ++ " --".toList ++ added ∧ typed <+: added ∧
      ((∃ option ∈ available, added = option.id ++ ['=']) ∨
        ∃ segment, added = segment ++ ['.'] ∧
          ∃ option ∈ available, segment ++ ['.'] <+: option.id) := by
  intro available proposals
  have hdirectory : (Directory.underRule catalog rule).optionGroups component =
      OptionGroup.collect (catalog.optionsOf component.name component.category) := rfl
  constructor
  · intro option hoption hstarts
    obtain ⟨hmem, havailable⟩ := List.mem_filter.1 hoption
    rcases Offered.exists_leading hdirectory hmem (hgroups option hmem) havailable hstarts with
      hoffered | ⟨segment, hleads, hoffered⟩
    · have hproposed := (exists_proposal_iff h hname hlast hresolved).2 hoffered
      rw [← List.append_assoc] at hproposed
      exact Or.inl hproposed
    · have hproposed := (exists_proposal_iff h hname hlast hresolved).2 hoffered
      rw [← List.append_assoc] at hproposed
      exact Or.inr ⟨segment, hleads, hproposed⟩
  · intro proposal hproposal
    obtain ⟨suffix, hoffered, htext⟩ :=
      (mem_complete_iff h hname hlast hresolved).1 ⟨proposal, hproposal, rfl⟩
    exact ⟨suffix, htext, hoffered.leads hdirectory hgroups⟩

/-- The options of a group are two levels below the typed text: the next segment is proposed. -/
theorem optionNames_exact_server :
    ∃ proposal ∈ (standard (Directory.underRule .builtin StagePolicy.byPosition.categoriesAfter)
        false).complete "http --server".toList 0,
      ∃ added, proposal.text = "http".toList ++ " --".toList ++ added ∧
        "server".toList <+: added := by
  have hproposal : ⟨"http --server.".toList, "Options under 'server'"⟩ ∈
      (standard (Directory.underRule .builtin StagePolicy.byPosition.categoriesAfter)
        false).complete "http --server".toList 0 := by
    decide
  obtain ⟨added, htext, hstarts, -⟩ := (optionNames_exact .builtin
    StagePolicy.byPosition.categoriesAfter false "http --server".toList "server".toList _
    ⟨"http".toList, .source, some "builtin:http-source"⟩ ⟨"http".toList, []⟩ rfl
    (Or.inl ⟨rfl, _, rfl, Or.inl rfl⟩) rfl rfl (by decide)).2 _ hproposal
  exact ⟨_, hproposal, added, htext, hstarts⟩

end Engine

end PipeAssist

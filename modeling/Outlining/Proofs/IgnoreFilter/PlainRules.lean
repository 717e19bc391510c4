import Outlining.Proofs.IgnoreFilter

/-!
# Rules without special characters

A text without special characters is a pattern that matches this text and nothing else, with any characters of Unicode and with line breaks, however long it is (`exists_ofText_of_isPlain`). As a rule for the beginning of a path it therefore ignores exactly the paths that it is a prefix of (`exists_ofRules_ignores_iff`): the anchor holds at the start of the path only, not behind a line break in it.
-/

namespace Outlining

namespace Pattern

/-- The characters that can stand for something else than themselves in a pattern. -/
def specialCharacters : List Char :=
  ['\\', '.', '+', '*', '?', '(', ')', '|', '[', ']', '\x7b', '\x7d', '^', '$']

/-- A text has no special characters. -/
def IsPlain (text : String) : Prop :=
  ∀ c ∈ text.toList, c ∉ specialCharacters

instance (text : String) : Decidable (IsPlain text) :=
  List.decidableBAll (· ∉ specialCharacters) text.toList

theorem readToken_of_not_special {c : Char} (hc : c ∉ specialCharacters) (rest : List Char) :
    readToken c rest = .ok (.literal c, 0) := by
  unfold readToken
  split
  iterate 12
    · exact (hc (by decide)).elim
  · rfl

theorem tokens_of_not_special {text : List Char} (htext : ∀ c ∈ text, c ∉ specialCharacters) :
    tokens text = .ok (text.map .literal) := by
  rw [tokens]
  induction text with
  | nil => rfl
  | cons c rest ih =>
    obtain ⟨hc, hrest⟩ := List.forall_mem_cons.1 htext
    rw [tokensFrom_cons, readTokenWithin, if_pos rfl, readToken_of_not_special hc]
    change tokensFrom 0 0 rest >>= _ = _
    rw [ih hrest]
    rfl

theorem ofSet_single (c : Char) : ofSet (.single c) = .literal [c] := by
  rw [ofSet, CharSet.single, CharSet.range]
  simp only [if_true, Char.ofNat_toNat]

/-- The items that characters are when they stand for themselves. -/
def plainItems (text : List Char) : List Item :=
  text.map fun c => { pattern := .literal [c] }

/-- Characters that stand for themselves are added one by one. -/
theorem foldlM_step_literal (text : List Char) {builder : Builder} (hcase : builder.options.ignoreCase = false) :
    (text.map Token.literal).foldlM Builder.step builder =
      .ok { builder with
        alternatives := { builder.alternatives with items := (plainItems text).reverse ++ builder.alternatives.items } } := by
  induction text generalizing builder with
  | nil => rfl
  | cons c rest ih =>
    have hadded : builder.step (.literal c) = .ok (builder.addFlat (.literal [c])) := by
      simp only [Builder.step, Options.apply, hcase, ofSet_single, Bool.false_eq_true, if_false]
    rw [List.map_cons, List.foldlM_cons, hadded]
    change (rest.map Token.literal).foldlM Builder.step (builder.addFlat (.literal [c])) = _
    have hoptions : (builder.addFlat (.literal [c])).options.ignoreCase = false := hcase
    rw [ih hoptions]
    simp only [plainItems, List.map_cons, List.reverse_cons, List.append_assoc, List.singleton_append]
    rfl

theorem together_of_items (items : List Item) :
    ({ items := items } : Alternatives).together =
      { pattern := ofParts (items.reverse.map Item.pattern), depth := depthTogether (items.map Item.depth) } :=
  rfl

theorem matches_ofParts_plain (text : List Char) :
    (ofParts ((plainItems text).map Item.pattern)).Matches = .ofText text := by
  rw [matches_ofParts, plainItems, List.map_map, List.map_map, ← Meaning.prod_map_ofText_singleton]
  rfl

theorem depthTogether_map_zero_le {α : Type} (items : List α) : depthTogether (items.map fun _ => 0) ≤ 1 := by
  match items with
  | [] => exact Nat.zero_le 1
  | [_] => exact Nat.zero_le 1
  | first :: second :: more =>
    change ((first :: second :: more).map fun _ => 0).foldl max 0 + 1 ≤ 1
    rw [List.foldl_map, List.foldl_fixed' fun _ => rfl]

/-- What is built from a text without special characters: a pattern that matches the text only, nested at most once. -/
theorem exists_built_of_isPlain {text : String} (h : IsPlain text) :
    ∃ builder : Builder, tokens text.toList = .ok (text.toList.map .literal) ∧
      (text.toList.map Token.literal).foldlM Builder.step {} = .ok builder ∧ builder.classes = [] ∧ builder.around = [] ∧
        builder.alternatives.together.pattern.Matches = .ofText text.toList ∧ builder.alternatives.together.depth ≤ 1 := by
  refine ⟨_, tokens_of_not_special h, foldlM_step_literal text.toList rfl, rfl, rfl, ?_⟩
  rw [List.append_nil, together_of_items]
  constructor
  · rw [List.reverse_reverse, matches_ofParts_plain]
  · rw [plainItems, ← List.map_reverse, List.map_map]
    exact depthTogether_map_zero_le _

/-- A text without special characters is a pattern, and it matches the beginnings that are this text. -/
theorem exists_ofText_of_isPlain {text : String} (h : IsPlain text) :
    ∃ pattern, ofText {} text = .ok pattern ∧ ∀ path, pattern.MatchesStart path ↔ text.toList <+: path.toList := by
  obtain ⟨builder, hread, hbuilder, hclasses, haround, hmatches, -⟩ := exists_built_of_isPlain h
  refine ⟨_, ofText_eq_of_built hread hbuilder hclasses haround, fun path => ?_⟩
  rw [MatchesStart, hmatches]
  constructor
  · rintro ⟨front, back, hpath, rfl⟩
    exact ⟨back, hpath.symm⟩
  · rintro ⟨back, hpath⟩
    exact ⟨text.toList, back, hpath.symm, rfl⟩

end Pattern

namespace IgnoreFilter

open Pattern

/-- The limits for the patterns of a user, but the one on the size of their automata. -/
def withoutSizeLimit : Limits :=
  { Limits.standard with size := none }

/-- The texts of rules for beginnings have no special characters. -/
def IsPlain (rules : IgnoreRules) : Prop :=
  ∀ beginning ∈ rules.beginWith, Pattern.IsPlain beginning

instance (rules : IgnoreRules) : Decidable (IsPlain rules) :=
  List.decidableBAll Pattern.IsPlain rules.beginWith

variable {limits : Limits} {rules more : IgnoreRules} {filter larger : IgnoreFilter (Pattern.language limits)}
  {path : String}

theorem exists_anchored_of_isPlain {beginning : String} (h : Pattern.IsPlain beginning) :
    ∃ pattern, anchored (Pattern.language withoutSizeLimit) beginning = .ok pattern := by
  obtain ⟨builder, hread, hbuilder, hclasses, haround, -, hdepth⟩ := exists_built_of_isPlain h
  have hnested : ¬ withoutSizeLimit.depth.any (· < builder.alternatives.together.depth + 2) = true := by
    have hlimit : withoutSizeLimit.depth = some 250 := rfl
    rw [hlimit, Option.any_some, decide_eq_true_iff]
    omega
  refine ⟨ofParts [.assertion .textStart, builder.alternatives.together.pattern], anchored_language_eq_ok_iff.2 ?_⟩
  rw [ofText_anchoredText_of_built hread hbuilder hclasses haround, if_neg hnested]
  rfl

theorem exists_ofRules_of_isPlain (h : IsPlain rules) :
    ∃ filter, ofRules (Pattern.language withoutSizeLimit) rules = .ok filter := by
  obtain ⟨patterns, hpatterns⟩ :=
    exists_anchoredAll_eq_ok_iff.2 fun beginning hbeginning => exists_anchored_of_isPlain (h beginning hbeginning)
  exact ⟨⟨patterns, rules.contains⟩, by rw [ofRules, hpatterns]; rfl⟩

/-- Rules without special characters ignore the paths that begin with one of their beginnings or have one of their texts in them, within whatever limits the rules have been read. -/
theorem ignores_iff_begins_or_contains (h : IsPlain rules) (hfilter : ofRules (Pattern.language limits) rules = .ok filter)
    (path : String) :
    filter.ignores path = true ↔
      (∃ beginning ∈ rules.beginWith, beginning.toList <+: path.toList) ∨
        ∃ text ∈ rules.contains, text.toList <:+: path.toList := by
  have hpatterns : ∀ beginning ∈ rules.beginWith, ∃ pattern, ofText {} beginning = .ok pattern := by
    intro beginning hbeginning
    obtain ⟨pattern, hpattern, -⟩ := exists_ofText_of_isPlain (h beginning hbeginning)
    exact ⟨pattern, hpattern⟩
  have hstart : ∀ beginning ∈ rules.beginWith,
      ((∃ pattern, ofText {} beginning = .ok pattern ∧ pattern.MatchesStart path) ↔ beginning.toList <+: path.toList) := by
    intro beginning hbeginning
    obtain ⟨pattern, hpattern, hmatches⟩ := exists_ofText_of_isPlain (h beginning hbeginning)
    simp [hpattern, hmatches]
  rw [ignores_iff hfilter hpatterns]
  exact or_congr_left (exists_congr fun beginning => and_congr_right (hstart beginning))

/-- More rules ignore no fewer paths. -/
theorem ignores_of_subset (h : IsPlain rules) (hmore : IsPlain more) (hbeginWith : rules.beginWith ⊆ more.beginWith)
    (hcontains : rules.contains ⊆ more.contains) (hfilter : ofRules (Pattern.language limits) rules = .ok filter)
    (hlarger : ofRules (Pattern.language limits) more = .ok larger) (hpath : filter.ignores path = true) :
    larger.ignores path = true := by
  obtain ⟨beginning, hbeginning, hstart⟩ | ⟨text, htext, hinfix⟩ := (ignores_iff_begins_or_contains h hfilter path).1 hpath
  · exact (ignores_iff_begins_or_contains hmore hlarger path).2 (.inl ⟨beginning, hbeginWith hbeginning, hstart⟩)
  · exact (ignores_iff_begins_or_contains hmore hlarger path).2 (.inr ⟨text, hcontains htext, hinfix⟩)

/-- Rules without special characters have a filter that ignores the paths with one of the beginnings as a prefix or one of the texts inside. An empty rule ignores all paths, the order of rules does not matter, more rules ignore no fewer paths, and a limit on the size of automata changes nothing as long as there is a filter at all. -/
theorem exists_ofRules_ignores_iff (h : IsPlain rules) :
    ∃ filter, ofRules (Pattern.language withoutSizeLimit) rules = .ok filter ∧
      (∀ path, filter.ignores path = true ↔
        (∃ beginning ∈ rules.beginWith, beginning.toList <+: path.toList) ∨
          ∃ text ∈ rules.contains, text.toList <:+: path.toList) ∧
      ("" ∈ rules.beginWith ∨ "" ∈ rules.contains → ∀ path, filter.ignores path = true) ∧
      (∀ other, other.beginWith.Perm rules.beginWith → other.contains.Perm rules.contains →
        ∃ reordered, ofRules (Pattern.language withoutSizeLimit) other = .ok reordered ∧
          ∀ path, reordered.ignores path = filter.ignores path) ∧
      (∀ more, IsPlain more → rules.beginWith ⊆ more.beginWith → rules.contains ⊆ more.contains →
        ∃ larger, ofRules (Pattern.language withoutSizeLimit) more = .ok larger ∧
          ∀ path, filter.ignores path = true → larger.ignores path = true) ∧
      ∀ limited, ofRules .standard rules = .ok limited → ∀ path, limited.ignores path = filter.ignores path := by
  obtain ⟨filter, hfilter⟩ := exists_ofRules_of_isPlain h
  have hignores := ignores_iff_begins_or_contains h hfilter
  refine ⟨filter, hfilter, hignores, ?_, ?_, ?_, ?_⟩
  · rintro (hbeginning | htext) path
    · exact (hignores path).2 (.inl ⟨"", hbeginning, List.nil_prefix⟩)
    · exact (hignores path).2 (.inr ⟨"", htext, List.nil_infix⟩)
  · intro other hbeginWith hcontains
    have hplain : IsPlain other := fun beginning hbeginning => h beginning (hbeginWith.mem_iff.1 hbeginning)
    obtain ⟨reordered, hreordered⟩ := exists_ofRules_of_isPlain hplain
    refine ⟨reordered, hreordered, fun path => Bool.eq_iff_iff.2 ⟨?_, ?_⟩⟩
    · exact ignores_of_subset hplain h hbeginWith.subset hcontains.subset hreordered hfilter
    · exact ignores_of_subset h hplain hbeginWith.symm.subset hcontains.symm.subset hfilter hreordered
  · intro more hmore hbeginWith hcontains
    obtain ⟨larger, hlarger⟩ := exists_ofRules_of_isPlain hmore
    exact ⟨larger, hlarger, fun path => ignores_of_subset h hmore hbeginWith hcontains hfilter hlarger⟩
  · intro limited hlimited path
    exact Bool.eq_iff_iff.2 ((ignores_iff_begins_or_contains h hlimited path).trans (hignores path).symm)

/-- The start that the rules mean is that of the path, not that of a line in it. -/
theorem ignores_plainRules :
    ∃ filter, ofRules (Pattern.language withoutSizeLimit) ⟨["vendor/\nä", "site"], ["/spec/"]⟩ = .ok filter ∧
      filter.ignores "vendor/\näpfel" = true ∧ filter.ignores "a/spec/b" = true ∧ filter.ignores "a\nsite" = false := by
  have hplain : IsPlain ⟨["vendor/\nä", "site"], ["/spec/"]⟩ := by decide
  obtain ⟨filter, hfilter, hignores, -⟩ := exists_ofRules_ignores_iff hplain
  refine ⟨filter, hfilter, (hignores _).2 (.inl ⟨_, List.mem_cons_self, "pfel".toList, rfl⟩),
    (hignores _).2 (.inr ⟨_, List.mem_singleton_self _, ['a'], ['b'], rfl⟩), ?_⟩
  rw [Bool.eq_false_iff, Ne, hignores]
  simp [List.infix_cons_iff]

end IgnoreFilter

end Outlining

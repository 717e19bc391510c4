import Mathlib.Data.List.Forall2
import Outlining.Proofs.Pattern.Anchoring
import Outlining.Proofs.Pattern.Progress

/-!
# Which paths are ignored

A rule for the beginning of a path ignores exactly the paths that have a match of its pattern at their very start, however the alternatives of the pattern are arranged, as long as the text of the rule is a pattern by itself (`ignores_iff`). A text that is none can still become one inside the group it is put into, and then the anchor need not hold for all of it (`ignores_strayParentheses`).
-/

namespace Outlining

/-- A pattern matches the beginning of a text. -/
def Pattern.MatchesStart (pattern : Pattern) (text : String) : Prop :=
  ∃ front back, text.toList = front ++ back ∧ pattern.Matches none front back.head?

namespace IgnoreFilter

open Pattern

variable {language : PatternLanguage} {limits limits' : Limits} {path : String}

theorem anchored_language_eq_ok_iff {beginning : String} {pattern : Pattern} :
    anchored (Pattern.language limits) beginning = .ok pattern ↔ ofText limits (anchoredText beginning) = .ok pattern :=
  mapError_eq_ok_iff

/-- An anchored pattern occurs where the pattern matches the beginning. -/
theorem occursIn_anchored_iff {beginning : String} {pattern wrapped : Pattern} (h : ofText limits beginning = .ok pattern)
    (hanchored : anchored (Pattern.language limits') beginning = .ok wrapped) :
    wrapped.occursIn path = true ↔ pattern.MatchesStart path := by
  have hmatches : wrapped.Matches = .ofAssertion .textStart * pattern.Matches := by
    rw [eq_of_ofText_anchoredText h (anchored_language_eq_ok_iff.1 hanchored), matches_ofParts, List.map_cons,
      List.map_singleton, List.prod_cons, List.prod_singleton, Matches]
  rw [occursIn_iff, MatchesStart, hmatches]
  constructor
  · rintro ⟨front, middle, back, hpath, start, rest, rfl, ⟨rfl, hstart⟩, hrest⟩
    obtain rfl : front = [] := by simpa [Assertion.holds] using hstart
    exact ⟨rest, back, hpath, hrest⟩
  · rintro ⟨front, back, hpath, hfront⟩
    exact ⟨[], front, back, hpath, [], front, rfl, ⟨rfl, rfl⟩, hfront⟩

theorem anchoredAll_eq_ok_iff {beginnings : List String} {patterns : List language.Compiled} :
    anchoredAll language beginnings = .ok patterns ↔
      List.Forall₂ (fun beginning pattern => anchored language beginning = .ok pattern) beginnings patterns := by
  induction beginnings generalizing patterns with
  | nil =>
    rw [anchoredAll, List.forall₂_nil_left_iff, Except.ok.injEq, eq_comm]
  | cons beginning rest ih =>
    rw [anchoredAll, List.forall₂_cons_left_iff]
    constructor
    · intro h
      obtain ⟨pattern, hpattern, h⟩ := exists_of_bind_eq_ok h
      obtain ⟨more, hmore, h⟩ := exists_of_bind_eq_ok h
      cases h
      exact ⟨pattern, more, mapError_eq_ok_iff.1 hpattern, ih.1 hmore, rfl⟩
    · rintro ⟨pattern, more, hpattern, hmore, rfl⟩
      rw [mapError_eq_ok_iff.2 hpattern, ih.2 hmore]
      rfl

theorem exists_anchoredAll_eq_ok_iff {beginnings : List String} :
    (∃ patterns, anchoredAll language beginnings = .ok patterns) ↔
      ∀ beginning ∈ beginnings, ∃ pattern, anchored language beginning = .ok pattern := by
  simp only [anchoredAll_eq_ok_iff]
  induction beginnings with
  | nil => simp
  | cons beginning rest ih =>
    rw [List.forall_mem_cons, ← ih]
    simp only [List.forall₂_cons_left_iff]
    constructor
    · rintro ⟨_, pattern, more, hpattern, hmore, rfl⟩
      exact ⟨⟨pattern, hpattern⟩, more, hmore⟩
    · rintro ⟨⟨pattern, hpattern⟩, more, hmore⟩
      exact ⟨_, pattern, more, hpattern, hmore, rfl⟩

theorem failure?_anchoredAll (beginnings : List String) :
    failure? (anchoredAll language beginnings) =
      beginnings.findSome? fun beginning => (failure? (anchored language beginning)).map (invalidPattern beginning) := by
  induction beginnings with
  | nil => rfl
  | cons beginning rest ih =>
    rw [anchoredAll, List.findSome?_cons, ← failure?_mapError, ← ih]
    cases (anchored language beginning).mapError (invalidPattern beginning) with
    | error failure => rfl
    | ok pattern => exact failure?_bind_pure _ _

/-- Rules are refused for the first of them that is no pattern once it is anchored. -/
theorem ofRules_eq_error_iff {rules : IgnoreRules} {failure : Diagnostic} :
    ofRules language rules = .error failure ↔
      ∃ before beginning after fault, rules.beginWith = before ++ beginning :: after ∧
        (∀ earlier ∈ before, ∃ pattern, anchored language earlier = .ok pattern) ∧
          anchored language beginning = .error fault ∧ failure = invalidPattern beginning fault := by
  rw [← failure?_eq_some_iff, ofRules, failure?_bind_pure, failure?_anchoredAll,
    List.findSome?_eq_some_iff]
  simp only [Option.map_eq_some_iff, Option.map_eq_none_iff, failure?_eq_some_iff, failure?_eq_none_iff]
  constructor
  · rintro ⟨before, beginning, after, hrules, ⟨fault, hfault, rfl⟩, hbefore⟩
    exact ⟨before, beginning, after, fault, hrules, hbefore, hfault, rfl⟩
  · rintro ⟨before, beginning, after, fault, hrules, hbefore, hfault, rfl⟩
    exact ⟨before, beginning, after, hrules, ⟨fault, hfault, rfl⟩, hbefore⟩

/-- Rules have a filter exactly if each of them is a pattern once it is anchored. -/
theorem exists_ofRules_eq_ok_iff {rules : IgnoreRules} :
    (∃ filter, ofRules language rules = .ok filter) ↔
      ∀ beginning ∈ rules.beginWith, ∃ pattern, anchored language beginning = .ok pattern := by
  rw [← exists_anchoredAll_eq_ok_iff, ofRules]
  cases anchoredAll language rules.beginWith with
  | error diagnostic => exact ⟨nofun, nofun⟩
  | ok patterns => exact ⟨fun _ => ⟨patterns, rfl⟩, fun _ => ⟨_, rfl⟩⟩

/-- Rules are refused exactly if one of them is no pattern once it is anchored. -/
theorem exists_ofRules_eq_error_iff {rules : IgnoreRules} :
    (∃ failure, ofRules language rules = .error failure) ↔
      ∃ beginning ∈ rules.beginWith, ∀ pattern, anchored language beginning ≠ .ok pattern := by
  rw [exists_eq_error_iff, exists_ofRules_eq_ok_iff]
  push Not
  rfl

theorem occursInChars_iff {needle text : List Char} : occursInChars needle text = true ↔ needle <:+: text := by
  induction text with
  | nil => simp [occursInChars]
  | cons c rest ih => rw [occursInChars, Bool.or_eq_true, ih, List.isPrefixOf_iff_prefix, List.infix_cons_iff]

theorem exists_occursIn_iff {beginnings : List String} {patterns : List Pattern}
    (hanchored : List.Forall₂ (fun beginning pattern => anchored (Pattern.language limits) beginning = .ok pattern)
      beginnings patterns)
    (hpatterns : ∀ beginning ∈ beginnings, ∃ pattern, ofText limits' beginning = .ok pattern) :
    (∃ wrapped ∈ patterns, wrapped.occursIn path = true) ↔
      ∃ beginning ∈ beginnings, ∃ pattern, ofText limits' beginning = .ok pattern ∧ pattern.MatchesStart path := by
  induction hanchored with
  | nil => simp
  | @cons beginning wrapped rest more hfirst _ ih =>
    obtain ⟨⟨pattern, hpattern⟩, hrest⟩ := List.forall_mem_cons.1 hpatterns
    have hhere : wrapped.occursIn path = true ↔
        ∃ pattern, ofText limits' beginning = .ok pattern ∧ pattern.MatchesStart path := by
      rw [occursIn_anchored_iff hpattern hfirst]
      simp [hpattern]
    rw [List.exists_mem_cons_iff, List.exists_mem_cons_iff, hhere, ih hrest]

/-- A path is ignored when the pattern of a rule matches its beginning or the text of a rule occurs in it. -/
theorem ignores_iff {rules : IgnoreRules} {filter : IgnoreFilter (Pattern.language limits)}
    (h : ofRules (Pattern.language limits) rules = .ok filter)
    (hpatterns : ∀ beginning ∈ rules.beginWith, ∃ pattern, ofText limits' beginning = .ok pattern) (path : String) :
    filter.ignores path = true ↔
      (∃ beginning ∈ rules.beginWith, ∃ pattern, ofText limits' beginning = .ok pattern ∧ pattern.MatchesStart path) ∨
        ∃ text ∈ rules.contains, text.toList <:+: path.toList := by
  obtain ⟨patterns, hanchored, hfilter⟩ := exists_of_bind_eq_ok h
  cases hfilter
  rw [ignores, Bool.or_eq_true, List.any_eq_true, List.any_eq_true,
    exists_occursIn_iff (anchoredAll_eq_ok_iff.1 hanchored) hpatterns]
  simp only [occursInChars_iff]

/-- A rule whose text is a pattern ignores exactly the paths whose beginning the pattern matches. -/
theorem ignores_iff_matchesStart {beginning : String} {pattern : Pattern} {filter : IgnoreFilter .standard}
    (hpattern : ofText {} beginning = .ok pattern) (hfilter : ofRules .standard ⟨[beginning], []⟩ = .ok filter)
    (path : String) :
    filter.ignores path = true ↔ pattern.MatchesStart path := by
  have hpatterns : ∀ text ∈ [beginning], ∃ pattern, ofText {} text = .ok pattern := by simp [hpattern]
  rw [ignores_iff hfilter hpatterns]
  simp [hpattern]

theorem ignores_alternatives :
    ∃ pattern filter, ofText {} "x|ya" = .ok pattern ∧ ofRules .standard ⟨["x|ya"], []⟩ = .ok filter ∧
      pattern.MatchesStart "yard" ∧ filter.ignores "yard" = true := by
  have hpattern : ofText {} "x|ya" = .ok (.alternatives [.literal ['x'], .literal ['y', 'a']]) := rfl
  have hfilter : ofRules .standard ⟨["x|ya"], []⟩ =
      .ok ⟨[.sequence [.assertion .textStart, .alternatives [.literal ['x'], .literal ['y', 'a']]]], []⟩ := rfl
  have hstart : (Pattern.alternatives [.literal ['x'], .literal ['y', 'a']]).MatchesStart "yard" :=
    ⟨['y', 'a'], ['r', 'd'], rfl, .inr (.inl rfl)⟩
  exact ⟨_, _, hpattern, hfilter, hstart, (ignores_iff_matchesStart hpattern hfilter "yard").2 hstart⟩

/-- A text that closes a group before it opens one is no pattern, but it is taken as a rule, and then it ignores paths with a match that begins behind their start. -/
theorem ignores_strayParentheses :
    ofText {} "a)|(b" = .error .unopenedGroup ∧
      ∃ filter, ofRules .standard ⟨["a)|(b"], []⟩ = .ok filter ∧ filter.ignores "xb" = true := by
  have hfilter : ofRules .standard ⟨["a)|(b"], []⟩ =
      .ok ⟨[.alternatives [.sequence [.assertion .textStart, .literal ['a']], .group 1 (.literal ['b'])]], []⟩ := rfl
  exact ⟨rfl, _, hfilter, rfl⟩

end IgnoreFilter

end Outlining

import Mathlib.Algebra.BigOperators.Group.List.Basic
import Mathlib.Algebra.Group.Defs
import Outlining.Pattern

/-!
# What patterns match

The meaning of a pattern is a relation: which texts it matches, and between which characters they stand. Meanings one after the other are multiplied, so that powers are repetitions and the product of a list is a sequence. A pattern matches by its constructors (`Pattern.Matches`), and putting parts together keeps what they match one after the other (`matches_ofParts`).
-/

namespace Outlining

/-- Texts that are matched, each with the character before it and the character after it, which are missing at the ends of the whole text. -/
def Meaning : Type :=
  Option Char → List Char → Option Char → Prop

namespace Meaning

/-- The empty text, wherever it stands. -/
instance : One Meaning where
  one _ text _ := text = []

/-- A text of the one directly in front of a text of the other. -/
instance : Mul Meaning where
  mul first second before text after :=
    ∃ front back, text = front ++ back ∧ first before front (back.head?.or after) ∧
      second (front.getLast?.or before) back after

variable {first second : Meaning} {before after : Option Char} {text : List Char}

theorem one_iff : (1 : Meaning) before text after ↔ text = [] :=
  Iff.rfl

theorem mul_iff :
    (first * second) before text after ↔
      ∃ front back, text = front ++ back ∧ first before front (back.head?.or after) ∧
        second (front.getLast?.or before) back after :=
  Iff.rfl

@[ext]
theorem ext (h : ∀ before text after, first before text after ↔ second before text after) : first = second :=
  funext fun before => funext fun text => funext fun after => propext (h before text after)

instance : Monoid Meaning where
  one_mul meaning := by
    ext before text after
    simp [mul_iff, one_iff]
  mul_one meaning := by
    ext before text after
    simp [mul_iff, one_iff]
  mul_assoc first second third := by
    ext before text after
    simp only [mul_iff]
    constructor
    · rintro ⟨_, back, rfl, ⟨front, middle, rfl, hfirst, hsecond⟩, hthird⟩
      refine ⟨front, middle ++ back, List.append_assoc .., ?_, middle, back, rfl, hsecond, ?_⟩
      · rwa [List.head?_append, Option.or_assoc]
      · rwa [List.getLast?_append, Option.or_assoc] at hthird
    · rintro ⟨front, _, rfl, hfirst, middle, back, rfl, hsecond, hthird⟩
      refine ⟨front ++ middle, back, (List.append_assoc ..).symm, ⟨front, middle, rfl, ?_, hsecond⟩, ?_⟩
      · rwa [List.head?_append, Option.or_assoc] at hfirst
      · rwa [List.getLast?_append, Option.or_assoc]

/-- One character of a set. -/
def ofSet (set : CharSet) : Meaning :=
  fun _ text _ => ∃ c, text = [c] ∧ set.contains c = true

/-- The empty text where an assertion holds. -/
def ofAssertion (condition : Assertion) : Meaning :=
  fun before text after => text = [] ∧ condition.holds before after = true

/-- One text, wherever it stands. -/
def ofText (text : List Char) : Meaning :=
  fun _ other _ => other = text

/-- What at least one of two meanings has. -/
def either (left right : Meaning) : Meaning :=
  fun before text after => left before text after ∨ right before text after

def never : Meaning :=
  fun _ _ _ => False

/-- Any number of texts one after the other. -/
def star (meaning : Meaning) : Meaning :=
  fun before text after => ∃ count, (meaning ^ count) before text after

theorem ofText_append (front back : List Char) : ofText (front ++ back) = ofText front * ofText back := by
  ext before text after
  simp [mul_iff, ofText]

theorem prod_map_ofText_singleton (text : List Char) : (text.map fun c => ofText [c]).prod = ofText text := by
  induction text with
  | nil => rfl
  | cons c rest ih => rw [List.map_cons, List.prod_cons, ih, ← ofText_append, List.singleton_append]

theorem mul_nil_iff : (first * second) before [] after ↔ first before [] after ∧ second before [] after := by
  simp [mul_iff]

end Meaning

namespace Pattern

mutual

/-- What a pattern matches. What is repeated at least and at most so many times comes so many times and then further times up to the difference. -/
def Matches : Pattern → Meaning
  | .empty => 1
  | .literal text => .ofText text
  | .member set => .ofSet set
  | .assertion condition => .ofAssertion condition
  | .group _ body => body.Matches
  | .repetition body least most _ => fun before text after =>
    ∃ further, (∀ limit, most = some limit → further ≤ limit - least) ∧
      (body.Matches ^ (least + further)) before text after
  | .sequence parts => MatchesAll parts
  | .alternatives branches => MatchesAny branches

/-- What several patterns match one after the other. -/
def MatchesAll : List Pattern → Meaning
  | [] => 1
  | part :: rest => part.Matches * MatchesAll rest

/-- What at least one of several patterns matches. -/
def MatchesAny : List Pattern → Meaning
  | [] => .never
  | branch :: rest => .either branch.Matches (MatchesAny rest)

end

theorem matchesAll_eq_prod (parts : List Pattern) : MatchesAll parts = (parts.map Matches).prod := by
  induction parts with
  | nil => rfl
  | cons part rest ih => rw [MatchesAll, ih, List.map_cons, List.prod_cons]

theorem prod_map_matches_prepend (part : Pattern) (parts : List Pattern) :
    ((prepend part parts).map Matches).prod = part.Matches * (parts.map Matches).prod := by
  cases part with
  | empty => exact (one_mul _).symm
  | literal text =>
    cases parts with
    | nil => rfl
    | cons second rest =>
      cases second with
      | literal more =>
        simp only [prepend, List.map_cons, List.prod_cons, Matches, Meaning.ofText_append, mul_assoc]
      | _ => rfl
  | _ => rfl

theorem prod_map_matches_foldr_prepend (parts : List Pattern) :
    ((parts.foldr prepend []).map Matches).prod = (parts.map Matches).prod := by
  induction parts with
  | nil => rfl
  | cons part rest ih => rw [List.foldr_cons, prod_map_matches_prepend, ih, List.map_cons, List.prod_cons]

theorem prod_map_matches_flatMap {parts : List Pattern} {flatten : Pattern → List Pattern}
    (hflatten : ∀ part, ((flatten part).map Matches).prod = part.Matches) :
    ((parts.flatMap flatten).map Matches).prod = (parts.map Matches).prod := by
  induction parts with
  | nil => rfl
  | cons part rest ih =>
    rw [List.flatMap_cons, List.map_append, List.prod_append, hflatten, ih, List.map_cons, List.prod_cons]

theorem prod_map_matches_of_foldr_eq {parts result : List Pattern} {flatten : Pattern → List Pattern}
    (hflatten : ∀ part, ((flatten part).map Matches).prod = part.Matches)
    (h : (parts.flatMap flatten).foldr prepend [] = result) : (result.map Matches).prod = (parts.map Matches).prod := by
  rw [← h, prod_map_matches_foldr_prepend, prod_map_matches_flatMap hflatten]

/-- Parts that are put together match one after the other. -/
theorem matches_ofParts (parts : List Pattern) : (ofParts parts).Matches = (parts.map Matches).prod := by
  rw [ofParts]
  generalize hresult : List.foldr prepend [] (parts.flatMap _) = result
  have hprod : (result.map Matches).prod = (parts.map Matches).prod := by
    refine prod_map_matches_of_foldr_eq (fun part => ?_) hresult
    cases part with
    | sequence inner => exact (matchesAll_eq_prod inner).symm
    | _ => exact List.prod_singleton
  rw [← hprod]
  cases result with
  | nil => rfl
  | cons part rest =>
    cases rest with
    | nil => exact List.prod_singleton.symm
    | cons second more => exact matchesAll_eq_prod _

end Pattern

end Outlining

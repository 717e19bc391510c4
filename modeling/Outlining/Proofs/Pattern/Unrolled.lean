import Mathlib.Data.Nat.Log
import Outlining.Pattern.Unrolled
import Outlining.Proofs.Pattern.Meaning

/-!
# What unrolled patterns match

Writing out counts keeps what a pattern matches (`Unrolled.matches_ofPattern`): copies are a power and parts a product, in whatever order they are put together.
-/

namespace Outlining

namespace Meaning

theorem star_star (meaning : Meaning) : meaning.star.star = meaning.star := by
  ext before text after
  constructor
  · rintro ⟨count, h⟩
    induction count generalizing before text with
    | zero => exact ⟨0, h⟩
    | succ count ih =>
      rw [pow_succ', mul_iff] at h
      obtain ⟨front, back, rfl, ⟨first, hfirst⟩, hrest⟩ := h
      obtain ⟨second, hsecond⟩ := ih _ _ hrest
      exact ⟨first + second, by rw [pow_add]; exact ⟨front, back, rfl, hfirst, hsecond⟩⟩
  · intro h
    exact ⟨1, by rwa [pow_one]⟩

theorem mul_star_iff {first meaning : Meaning} {before after : Option Char} {text : List Char} :
    (first * meaning.star) before text after ↔ ∃ count, (first * meaning ^ count) before text after := by
  constructor
  · rintro ⟨front, back, rfl, hfront, count, hback⟩
    exact ⟨count, front, back, rfl, hfront, hback⟩
  · rintro ⟨count, front, back, rfl, hfront, hback⟩
    exact ⟨front, back, rfl, hfront, count, hback⟩

/-- Taken or left out so many times is taken at most so many times. -/
theorem either_one_pow_iff {meaning : Meaning} {limit : Nat} {before after : Option Char} {text : List Char} :
    (either 1 meaning ^ limit) before text after ↔ ∃ count ≤ limit, (meaning ^ count) before text after := by
  induction limit generalizing before text with
  | zero => simp
  | succ limit ih =>
    rw [pow_succ', mul_iff]
    constructor
    · rintro ⟨front, back, rfl, hfront | hfront, hback⟩
      · rw [one_iff] at hfront
        subst hfront
        obtain ⟨count, hcount, h⟩ := ih.1 hback
        exact ⟨count, Nat.le_succ_of_le hcount, by simpa using h⟩
      · obtain ⟨count, hcount, h⟩ := ih.1 hback
        exact ⟨count + 1, Nat.succ_le_succ hcount, by rw [pow_succ']; exact ⟨front, back, rfl, hfront, h⟩⟩
    · rintro ⟨count, hcount, h⟩
      cases count with
      | zero => exact ⟨[], text, rfl, .inl rfl, ih.2 ⟨0, Nat.zero_le limit, by simpa using h⟩⟩
      | succ count =>
        rw [pow_succ', mul_iff] at h
        obtain ⟨front, back, rfl, hfront, hback⟩ := h
        exact ⟨front, back, rfl, .inr hfront, ih.2 ⟨count, Nat.le_of_succ_le_succ hcount, hback⟩⟩

theorem mul_either_one_pow_iff {first meaning : Meaning} {limit : Nat} {before after : Option Char} {text : List Char} :
    (first * either 1 meaning ^ limit) before text after ↔ ∃ count ≤ limit, (first * meaning ^ count) before text after := by
  constructor
  · rintro ⟨front, back, rfl, hfront, hback⟩
    obtain ⟨count, hcount, h⟩ := either_one_pow_iff.1 hback
    exact ⟨count, hcount, front, back, rfl, hfront, h⟩
  · rintro ⟨count, hcount, front, back, rfl, hfront, hback⟩
    exact ⟨front, back, rfl, hfront, either_one_pow_iff.2 ⟨count, hcount, hback⟩⟩

end Meaning

namespace Unrolled

/-- What an unrolled pattern matches. -/
def Matches : Unrolled → Meaning
  | .empty => 1
  | .member set => .ofSet set
  | .assertion condition => .ofAssertion condition
  | .sequence first second => first.Matches * second.Matches
  | .either left right => .either left.Matches right.Matches
  | .star body => body.Matches.star

theorem matches_append (first second : Unrolled) : (first.append second).Matches = first.Matches * second.Matches := by
  cases first with
  | empty => exact (one_mul _).symm
  | _ =>
    cases second with
    | empty => exact (mul_one _).symm
    | _ => rfl

theorem matches_repeated (pattern : Unrolled) : (repeated pattern).Matches = pattern.Matches.star := by
  cases pattern with
  | star body => exact (Meaning.star_star _).symm
  | _ => rfl

/-- Halves are put together, so the induction is on the number of binary digits of the count. -/
theorem matches_copiesBelow (pattern : Unrolled) {depth count : Nat} (h : count < 2 ^ depth) :
    (copiesBelow pattern depth count).Matches = pattern.Matches ^ count := by
  induction depth generalizing count with
  | zero =>
    obtain rfl : count = 0 := by simpa using h
    exact (pow_zero _).symm
  | succ depth ih =>
    have hhalf : (copiesBelow pattern depth (count / 2)).Matches = pattern.Matches ^ (count / 2) :=
      ih (by rw [pow_succ] at h; omega)
    rw [copiesBelow]
    split
    · rw [matches_append, hhalf, ← pow_add]
      congr 1
      omega
    · rw [matches_append, matches_append, hhalf, ← pow_add, ← pow_succ']
      congr 1
      omega

theorem matches_copies (pattern : Unrolled) (count : Nat) : (copies pattern count).Matches = pattern.Matches ^ count :=
  matches_copiesBelow pattern Nat.lt_log2_self

theorem prod_matches_inPairs (parts : List Unrolled) :
    ((inPairs parts).map Matches).prod = (parts.map Matches).prod := by
  induction parts using inPairs.induct with
  | case1 first second rest ih =>
    simp only [inPairs, List.map_cons, List.prod_cons, matches_append, ih, mul_assoc]
  | case2 rest h => rw [inPairs]; exact h

theorem matches_inRounds (rounds : Nat) (parts : List Unrolled) : (inRounds rounds parts).Matches = (parts.map Matches).prod := by
  induction rounds generalizing parts with
  | zero =>
    rw [inRounds]
    induction parts with
    | nil => rfl
    | cons part rest ih => rw [List.foldr_cons, matches_append, ih, List.map_cons, List.prod_cons]
  | succ rounds ih => rw [inRounds, ih, prod_matches_inPairs]

theorem matches_inSequence (parts : List Unrolled) : (inSequence parts).Matches = (parts.map Matches).prod :=
  matches_inRounds _ parts

theorem contains_single_iff {c d : Char} : (CharSet.single c).contains d = true ↔ d = c := by
  rw [← Char.toNat_inj]
  simp [CharSet.contains, CharSet.single, CharSet.range, Character.isIn, Nat.le_antisymm_iff, and_comm]

theorem matches_literal (text : List Char) :
    (inSequence (text.map fun c => .member (.single c))).Matches = .ofText text := by
  rw [matches_inSequence, List.map_map, ← Meaning.prod_map_ofText_singleton]
  congr 1
  refine List.map_congr_left fun c _ => ?_
  ext before other after
  simp [Matches, Meaning.ofSet, Meaning.ofText, contains_single_iff]

mutual

/-- Unrolling keeps what a pattern matches. -/
theorem matches_ofPattern (pattern : Pattern) : (ofPattern pattern).Matches = pattern.Matches := by
  cases pattern with
  | empty => rfl
  | literal text => exact matches_literal text
  | member set => rfl
  | assertion condition => rfl
  | group number body => rw [ofPattern, matches_ofPattern body, Pattern.Matches]
  | repetition body least most eager =>
    ext before text after
    cases most with
    | none =>
      rw [ofPattern, matches_append, matches_copies, matches_repeated, matches_ofPattern body, Pattern.Matches,
        Meaning.mul_star_iff]
      simp [pow_add]
    | some limit =>
      rw [ofPattern, matches_append, matches_copies, matches_copies, Matches, Matches, matches_ofPattern body,
        Pattern.Matches, Meaning.mul_either_one_pow_iff]
      simp [pow_add]
  | sequence parts => rw [ofPattern, matches_inSequence, map_matches_ofEach parts, Pattern.Matches, Pattern.matchesAll_eq_prod]
  | alternatives branches => rw [ofPattern, matches_ofBranches branches, Pattern.Matches]

theorem map_matches_ofEach (parts : List Pattern) : (ofEach parts).map Matches = parts.map Pattern.Matches := by
  cases parts with
  | nil => rfl
  | cons part rest => rw [ofEach, List.map_cons, matches_ofPattern part, map_matches_ofEach rest, List.map_cons]

theorem matches_ofBranches (branches : List Pattern) : (ofBranches branches).Matches = Pattern.MatchesAny branches := by
  cases branches with
  | nil =>
    ext before text after
    simp [ofBranches, Matches, Pattern.MatchesAny, Meaning.ofSet, Meaning.never, CharSet.contains, CharSet.empty, Character.isIn]
  | cons branch rest =>
    cases rest with
    | nil =>
      ext before text after
      simp [ofBranches, Pattern.MatchesAny, matches_ofPattern branch, Meaning.either, Meaning.never]
    | cons second more =>
      rw [ofBranches, Matches, matches_ofPattern branch, matches_ofBranches (second :: more)]
      · rfl
      · exact List.cons_ne_nil second more

end

end Unrolled

end Outlining

import Outlining.Pattern.Progress
import Outlining.Proofs.Pattern.Unrolled

/-!
# Matching in one pass

The progress of a match means what is still to be read: the texts that finish a match which has begun (`Progress.Finishes`). Reading one more character takes it off the front of these texts, and adds those of the matches that begin with it (`finishes_advance`). So a pattern occurs in a text exactly if the text has a part that the pattern matches (`occursIn_iff`).
-/

namespace Outlining

namespace Meaning

variable {first second : Meaning} {before after : Option Char} {next : Char} {text : List Char}

/-- What is left to match behind a first character. -/
def behind (meaning : Meaning) (before : Option Char) (next : Char) : Meaning :=
  fun _ text after => meaning before (next :: text) after

theorem getLast?_cons_or (next : Char) (front : List Char) (before : Option Char) :
    (next :: front).getLast?.or before = front.getLast?.or (some next) := by
  rw [List.getLast?_cons]
  cases front.getLast? <;> rfl

/-- Of two meanings in a row, the first takes up a character, or it is skipped and the second does. -/
theorem mul_cons_iff :
    (first * second) before (next :: text) after ↔
      first before [] (some next) ∧ second before (next :: text) after ∨
        (first.behind before next * second) (some next) text after := by
  constructor
  · rintro ⟨front, back, hsplit, hfirst, hsecond⟩
    obtain ⟨rfl, rfl⟩ | ⟨rest, rfl, rfl⟩ := List.cons_eq_append_iff.1 hsplit
    · exact .inl ⟨hfirst, hsecond⟩
    · exact .inr ⟨rest, back, rfl, hfirst, by rwa [getLast?_cons_or] at hsecond⟩
  · rintro (⟨hfirst, hsecond⟩ | ⟨front, back, rfl, hfirst, hsecond⟩)
    · exact ⟨[], next :: text, rfl, hfirst, hsecond⟩
    · exact ⟨next :: front, back, rfl, hfirst, by rwa [getLast?_cons_or]⟩

theorem mul_congr_left {other : Meaning} (h : ∀ text after, first before text after ↔ other before text after) :
    (first * second) before text after ↔ (other * second) before text after := by
  simp only [mul_iff, h]

theorem mul_iff_of_or {other third : Meaning} {fresh : Prop}
    (h : ∀ text after, first before text after ↔ second before text after ∨ fresh ∧ third before text after) :
    (first * other) before text after ↔ (second * other) before text after ∨ fresh ∧ (third * other) before text after := by
  simp only [mul_iff, h]
  constructor
  · rintro ⟨front, back, rfl, hfront | ⟨hfresh, hfront⟩, hback⟩
    · exact .inl ⟨front, back, rfl, hfront, hback⟩
    · exact .inr ⟨hfresh, front, back, rfl, hfront, hback⟩
  · rintro (⟨front, back, rfl, hfront, hback⟩ | ⟨hfresh, front, back, rfl, hfront, hback⟩)
    · exact ⟨front, back, rfl, .inl hfront, hback⟩
    · exact ⟨front, back, rfl, .inr ⟨hfresh, hfront⟩, hback⟩

theorem star_nil (meaning : Meaning) : meaning.star before [] after :=
  ⟨0, rfl⟩

/-- Of the texts that are repeated, the first that is not empty takes up the character. -/
theorem star_cons_iff {meaning : Meaning} :
    meaning.star before (next :: text) after ↔ (meaning.behind before next * meaning.star) (some next) text after := by
  constructor
  · rintro ⟨count, h⟩
    induction count with
    | zero => cases h
    | succ count ih =>
      rw [pow_succ', mul_cons_iff] at h
      obtain ⟨-, h⟩ | ⟨front, back, rfl, hfront, hback⟩ := h
      · exact ih h
      · exact ⟨front, back, rfl, hfront, count, hback⟩
  · rintro ⟨front, back, rfl, hfront, count, hback⟩
    exact ⟨count + 1, by rw [pow_succ', mul_cons_iff]; exact .inr ⟨front, back, rfl, hfront, hback⟩⟩

end Meaning

namespace Unrolled

theorem skippable_iff {before after : Option Char} {pattern : Unrolled} :
    pattern.skippable before after = true ↔ pattern.Matches before [] after := by
  induction pattern with
  | empty => simp [skippable, Matches, Meaning.one_iff]
  | member set => simp [skippable, Matches, Meaning.ofSet]
  | assertion condition => simp [skippable, Matches, Meaning.ofAssertion]
  | sequence first second ihFirst ihSecond => simp [skippable, Matches, Meaning.mul_nil_iff, ihFirst, ihSecond]
  | either left right ihLeft ihRight => simp [skippable, Matches, Meaning.either, ihLeft, ihRight]
  | star body ih => simp [skippable, Matches, Meaning.star_nil]

end Unrolled

namespace Progress

/-- The pattern whose matches are in progress. -/
def pattern : Progress → Unrolled
  | .idle pattern => pattern
  | .read set => .member set
  | .sequence first second => .sequence first.pattern second.pattern
  | .either left right => .either left.pattern right.pattern
  | .star body => .star body.pattern

/-- What finishes a match that has begun. -/
def Finishes : Progress → Meaning
  | .idle _ => .never
  | .read _ => 1
  | .sequence first second => .either second.Finishes (first.Finishes * second.pattern.Matches)
  | .either left right => .either left.Finishes right.Finishes
  | .star body => body.Finishes * body.pattern.Matches.star

variable {before after : Option Char} {next : Char} {text : List Char}

theorem never_mul (meaning : Meaning) : Meaning.never * meaning = .never := by
  ext before text after
  simp [Meaning.mul_iff, Meaning.never]

theorem never_either (meaning : Meaning) : Meaning.never.either meaning = meaning := by
  ext before text after
  simp [Meaning.either, Meaning.never]

theorem pattern_inSequence (first second : Progress) :
    (inSequence first second).pattern = .sequence first.pattern second.pattern := by
  cases first <;> cases second <;> rfl

theorem finishes_inSequence (first second : Progress) :
    (inSequence first second).Finishes = .either second.Finishes (first.Finishes * second.pattern.Matches) := by
  unfold inSequence
  split
  · simp only [Finishes, never_mul, never_either]
  · rfl

theorem pattern_inEither (left right : Progress) : (inEither left right).pattern = .either left.pattern right.pattern := by
  cases left <;> cases right <;> rfl

theorem finishes_inEither (left right : Progress) :
    (inEither left right).Finishes = .either left.Finishes right.Finishes := by
  unfold inEither
  split
  · simp only [Finishes, never_either]
  · rfl

theorem pattern_inStar (body : Progress) : (inStar body).pattern = .star body.pattern := by
  cases body <;> rfl

theorem finishes_inStar (body : Progress) : (inStar body).Finishes = body.Finishes * body.pattern.Matches.star := by
  unfold inStar
  split
  · simp only [Finishes, never_mul]
  · rfl

theorem skippable_iff {progress : Progress} :
    progress.skippable before after = true ↔ progress.pattern.Matches before [] after := by
  induction progress with
  | idle pattern => exact Unrolled.skippable_iff
  | read set => simp [skippable, pattern, Unrolled.Matches, Meaning.ofSet]
  | sequence first second ihFirst ihSecond =>
    simp [skippable, pattern, Unrolled.Matches, Meaning.mul_nil_iff, ihFirst, ihSecond]
  | either left right ihLeft ihRight => simp [skippable, pattern, Unrolled.Matches, Meaning.either, ihLeft, ihRight]
  | star body ih => simp [skippable, pattern, Unrolled.Matches, Meaning.star_nil]

theorem canEnd_iff {progress : Progress} : progress.canEnd before after = true ↔ progress.Finishes before [] after := by
  induction progress with
  | idle pattern => simp [canEnd, Finishes, Meaning.never]
  | read set => simp [canEnd, Finishes, Meaning.one_iff]
  | sequence first second ihFirst ihSecond =>
    simp [canEnd, Finishes, Meaning.either, Meaning.mul_nil_iff, ihFirst, ihSecond, skippable_iff]
  | either left right ihLeft ihRight => simp [canEnd, Finishes, Meaning.either, ihLeft, ihRight]
  | star body ih => simp [canEnd, Finishes, Meaning.mul_nil_iff, Meaning.star_nil, ih]

theorem pattern_begin (before : Option Char) (next : Char) (unrolled : Unrolled) :
    (begin before next unrolled).pattern = unrolled := by
  induction unrolled with
  | empty => rfl
  | member set => rw [begin]; split <;> rfl
  | assertion condition => rfl
  | sequence first second ihFirst ihSecond =>
    rw [begin, pattern_inSequence, ihFirst]
    split
    · rw [ihSecond]
    · rfl
  | either left right ihLeft ihRight => rw [begin, pattern_inEither, ihLeft, ihRight]
  | star body ih => rw [begin, pattern_inStar, ih]

theorem pattern_advance (before : Option Char) (next : Char) (fresh : Bool) (progress : Progress) :
    (progress.advance before next fresh).pattern = progress.pattern := by
  induction progress generalizing fresh with
  | idle pattern =>
    rw [advance]
    split
    · exact pattern_begin before next pattern
    · rfl
  | read set => rw [advance]; split <;> rfl
  | sequence first second ihFirst ihSecond => rw [advance, pattern_inSequence, ihFirst, ihSecond, pattern]
  | either left right ihLeft ihRight => rw [advance, pattern_inEither, ihLeft, ihRight, pattern]
  | star body ih => rw [advance, pattern_inStar, ih, pattern]

/-- What finishes a match that begins with a character is what the pattern matches behind it. -/
theorem finishes_begin {unrolled : Unrolled} :
    (begin before next unrolled).Finishes (some next) text after ↔ unrolled.Matches before (next :: text) after := by
  induction unrolled generalizing text after with
  | empty => simp [begin, Finishes, Meaning.never, Unrolled.Matches, Meaning.one_iff]
  | member set =>
    rw [begin]
    split
    · simp_all [Finishes, Unrolled.Matches, Meaning.ofSet, Meaning.one_iff]
    · simp_all [Finishes, Unrolled.Matches, Meaning.ofSet, Meaning.never]
  | assertion condition => simp [begin, Finishes, Meaning.never, Unrolled.Matches, Meaning.ofAssertion]
  | sequence first second ihFirst ihSecond =>
    have hfirst : ((begin before next first).Finishes * second.Matches) (some next) text after ↔
        (first.Matches.behind before next * second.Matches) (some next) text after :=
      Meaning.mul_congr_left fun _ _ => ihFirst
    rw [begin, finishes_inSequence, Meaning.either, Unrolled.Matches, Meaning.mul_cons_iff, ← Unrolled.skippable_iff]
    split
    · rename_i hskip
      simp only [pattern_begin, ihSecond, hfirst, hskip, true_and]
    · rename_i hskip
      simp only [pattern, Finishes, Meaning.never, hfirst, hskip, Bool.false_eq_true, false_and]
  | either left right ihLeft ihRight =>
    rw [begin, finishes_inEither, Meaning.either, ihLeft, ihRight]
    rfl
  | star body ih =>
    rw [begin, finishes_inStar, pattern_begin, Unrolled.Matches, Meaning.star_cons_iff]
    exact Meaning.mul_congr_left fun _ _ => ih

/-- One step of reading: a match in progress goes on with the character, and where matches may begin, those that begin with it are in progress from now on. -/
theorem finishes_advance {fresh : Bool} {progress : Progress} :
    (progress.advance before next fresh).Finishes (some next) text after ↔
      progress.Finishes before (next :: text) after ∨
        fresh = true ∧ progress.pattern.Matches before (next :: text) after := by
  induction progress generalizing fresh text after with
  | idle pattern =>
    rw [advance]
    cases fresh
    · simp [Finishes, Meaning.never]
    · simp [Finishes, Meaning.never, finishes_begin, Progress.pattern]
  | read set =>
    rw [advance]
    cases fresh
    · simp [Finishes, Meaning.never, Meaning.one_iff]
    · by_cases hset : set.contains next
      · simp_all [Finishes, pattern, Unrolled.Matches, Meaning.ofSet, Meaning.one_iff]
      · simp_all [Finishes, pattern, Unrolled.Matches, Meaning.ofSet, Meaning.one_iff, Meaning.never]
  | sequence first second ihFirst ihSecond =>
    have hfirst : ((first.advance before next fresh).Finishes * second.pattern.Matches) (some next) text after ↔
        (first.Finishes.behind before next * second.pattern.Matches) (some next) text after ∨
          fresh = true ∧ (first.pattern.Matches.behind before next * second.pattern.Matches) (some next) text after :=
      Meaning.mul_iff_of_or fun _ _ => ihFirst
    rw [advance, finishes_inSequence, pattern_advance, Meaning.either, ihSecond, hfirst, Finishes, Meaning.either,
      Meaning.mul_cons_iff, pattern, Unrolled.Matches, Meaning.mul_cons_iff, Bool.or_eq_true, Bool.and_eq_true,
      canEnd_iff, skippable_iff]
    grind
  | either left right ihLeft ihRight =>
    rw [advance, finishes_inEither, Meaning.either, ihLeft, ihRight, Finishes, pattern, Unrolled.Matches]
    simp only [Meaning.either]
    grind
  | star body ih =>
    -- What has been read may be a whole match of the body, so that the next one begins with the character.
    have hbody : ((body.advance before next (fresh || body.canEnd before (some next))).Finishes *
        body.pattern.Matches.star) (some next) text after ↔
          (body.Finishes.behind before next * body.pattern.Matches.star) (some next) text after ∨
            (fresh || body.canEnd before (some next)) = true ∧
              (body.pattern.Matches.behind before next * body.pattern.Matches.star) (some next) text after :=
      Meaning.mul_iff_of_or fun _ _ => ih
    rw [advance, finishes_inStar, pattern_advance, hbody, Bool.or_eq_true, canEnd_iff, Finishes, Meaning.mul_cons_iff,
      pattern, Unrolled.Matches, Meaning.star_cons_iff]
    grind

/-- A match ends here or later if one in progress does or one begins here or later. -/
theorem endsIn_iff {progress : Progress} {text : List Char} :
    endsIn before progress text = true ↔
      (∃ middle back, text = middle ++ back ∧ progress.Finishes before middle back.head?) ∨
        ∃ front middle back, text = front ++ middle ++ back ∧
          progress.pattern.Matches (front.getLast?.or before) middle back.head? := by
  induction text generalizing before progress with
  | nil => simp [endsIn, canEnd_iff, skippable_iff]
  | cons next rest ih =>
    rw [endsIn, Bool.or_eq_true, Bool.or_eq_true, canEnd_iff, skippable_iff, ih]
    simp only [finishes_advance, pattern_advance, true_and]
    constructor
    · rintro ((hend | hskip) | ⟨middle, back, rfl, hgo | hbegin⟩ | ⟨front, middle, back, rfl, hlater⟩)
      · exact .inl ⟨[], next :: rest, rfl, hend⟩
      · exact .inr ⟨[], [], next :: rest, rfl, hskip⟩
      · exact .inl ⟨next :: middle, back, rfl, hgo⟩
      · exact .inr ⟨[], next :: middle, back, rfl, hbegin⟩
      · exact .inr ⟨next :: front, middle, back, rfl, by rwa [Meaning.getLast?_cons_or]⟩
    · rintro (⟨middle, back, hsplit, hgo⟩ | ⟨front, middle, back, hsplit, hbegin⟩)
      · obtain ⟨rfl, rfl⟩ | ⟨more, rfl, rfl⟩ := List.cons_eq_append_iff.1 hsplit
        · exact .inl (.inl hgo)
        · exact .inr (.inl ⟨more, back, rfl, .inl hgo⟩)
      · rw [List.append_assoc] at hsplit
        obtain ⟨rfl, hrest⟩ | ⟨more, rfl, rfl⟩ := List.cons_eq_append_iff.1 hsplit
        · obtain ⟨rfl, rfl⟩ | ⟨more, rfl, rfl⟩ := List.append_eq_cons_iff.1 hrest
          · exact .inl (.inr hbegin)
          · exact .inr (.inl ⟨more, back, rfl, .inr hbegin⟩)
        · exact .inr (.inr ⟨more, middle, back, (List.append_assoc ..).symm, by rwa [Meaning.getLast?_cons_or] at hbegin⟩)

end Progress

/-- A pattern occurs in a text if a part of the text is matched between its neighbours. -/
theorem Pattern.occursIn_iff {pattern : Pattern} {text : String} :
    pattern.occursIn text = true ↔
      ∃ front middle back, text.toList = front ++ middle ++ back ∧
        pattern.Matches front.getLast? middle back.head? := by
  rw [occursIn, Progress.endsIn_iff]
  simp [Progress.Finishes, Meaning.never, Progress.pattern, Unrolled.matches_ofPattern]

end Outlining

import Mathlib.Data.List.TakeWhile
import Outlining.Pattern.Token
import Outlining.Proofs.Failure

/-!
# Tokens in front of a closing parenthesis

A text whose tokens close all of its character classes has the same tokens when a closing parenthesis follows, which is then a token of its own (`tokensFrom_append_closing`). No token reaches into what follows: each one that can be read at the end of the text has been read whole (`IsSteady`).
-/

namespace Outlining.Pattern

/-- What is read from a text stays the same in front of a closing parenthesis, and does not take up more than the text. -/
def IsSteady {α : Type} (read : List Char → Except Fault (α × Nat)) : Prop :=
  ∀ rest result taken, read rest = .ok (result, taken) →
    taken ≤ rest.length ∧ read (rest ++ [')']) = .ok (result, taken)

theorem takeWhile_append_of_stops {p : Char → Bool} {text : List Char} (h : (text.takeWhile p).length ≠ text.length)
    (more : List Char) : (text ++ more).takeWhile p = text.takeWhile p := by
  rw [List.takeWhile_append, if_neg h]

theorem length_takeWhile_lt {p : Char → Bool} {text : List Char} (h : (text.takeWhile p).length ≠ text.length) :
    (text.takeWhile p).length < text.length :=
  Nat.lt_of_le_of_ne (List.takeWhile_prefix p).length_le h

/-- Reading on behind a character that is known. -/
theorem IsSteady.cons {α β : Type} {read : List Char → Except Fault (α × Nat)} (hread : IsSteady read) {f : α → β}
    {front : Nat} {rest : List Char} {result : β} {taken : Nat}
    (h : (read rest).map (fun item => (f item.1, item.2 + front)) = .ok (result, taken)) :
    taken ≤ rest.length + front ∧ (read (rest ++ [')'])).map (fun item => (f item.1, item.2 + front)) = .ok (result, taken) := by
  obtain ⟨⟨item, count⟩, hitem, heq⟩ := exists_of_map_eq_ok h
  obtain ⟨hcount, hsteady⟩ := hread rest item count hitem
  cases heq
  exact ⟨Nat.add_le_add_right hcount front, by rw [hsteady]; rfl⟩

/-! ### Escapes -/

theorem isSteady_readCodePoint (count : Nat) : IsSteady (readCodePoint count) := by
  intro rest result taken h
  unfold readCodePoint at h
  split at h
  · rename_i inner
    dsimp only at h
    split at h
    · cases h
    · rename_i hopen
      have hlt := length_takeWhile_lt hopen
      obtain ⟨c, hc, heq⟩ := exists_of_bind_eq_ok h
      cases heq
      refine ⟨by simp; omega, ?_⟩
      simp only [List.cons_append, readCodePoint, takeWhile_append_of_stops hopen, hc]
      rw [if_neg (by simp; omega)]
      rfl
  · rename_i hbrace
    dsimp only at h
    split at h
    · cases h
    · rename_i hshort
      obtain ⟨c, hc, heq⟩ := exists_of_bind_eq_ok h
      cases heq
      have hlength : count ≤ rest.length := by
        rw [List.length_take] at hshort
        omega
      have htake : (rest ++ [')']).take count = rest.take count := List.take_append_of_le_length hlength
      refine ⟨hlength, ?_⟩
      rw [readCodePoint]
      · simp only [htake, hc, if_neg hshort]
        rfl
      · intro inner hinner
        cases rest with
        | nil => cases hinner
        | cons first more =>
          cases hinner
          exact hbrace more rfl

theorem isSteady_readBoundary : IsSteady readBoundary := by
  intro rest result taken h
  unfold readBoundary at h
  split at h
  · rename_i c inner
    split at h
    · rename_i hname
      dsimp only at h
      split at h
      · cases h
      · rename_i hopen
        have hlt := length_takeWhile_lt hopen
        simp only [List.cons_append, readBoundary, if_pos hname]
        rw [← List.cons_append, takeWhile_append_of_stops hopen, if_neg (by simp at hlt ⊢; omega)]
        have htaken : taken = ((c :: inner).takeWhile (· != '\x7d')).length + 2 := by
          generalize (c :: inner).takeWhile (· != '\x7d') = name at h
          iterate 4
            split at h
            · cases h
              rfl
          cases h
        refine ⟨?_, h⟩
        simp only [List.length_cons] at hlt ⊢
        omega
    · rename_i hname
      cases h
      exact ⟨Nat.zero_le _, by simp only [List.cons_append, readBoundary, if_neg hname]⟩
  · rename_i hbrace
    cases h
    refine ⟨Nat.zero_le _, ?_⟩
    match rest, hbrace with
    | [], _ => rfl
    | [first], _ =>
      by_cases hfirst : first = '\x7b'
      · subst hfirst
        rfl
      · rw [readBoundary]
        rintro c inner ⟨⟩
        exact hfirst rfl
    | first :: second :: more, hbrace =>
      rw [readBoundary]
      rintro c inner ⟨⟩
      exact hbrace second more rfl

/-- What stands behind most letters does not matter for an escape. -/
theorem readEscape_cons_of_ne {c : Char} (hx : c ≠ 'x') (hu : c ≠ 'u') (hlong : c ≠ 'U') (hb : c ≠ 'b')
    (rest other : List Char) : readEscape (c :: rest) = readEscape (c :: other) := by
  unfold readEscape
  dsimp only
  split
  · exact absurd rfl hx
  · exact absurd rfl hu
  · exact absurd rfl hlong
  · exact absurd rfl hb
  all_goals rfl

theorem taken_of_readEscape_cons {c : Char} (hx : c ≠ 'x') (hu : c ≠ 'u') (hlong : c ≠ 'U') (hb : c ≠ 'b')
    {rest : List Char} {escape : Escape} {taken : Nat} (h : readEscape (c :: rest) = .ok (escape, taken)) : taken = 1 := by
  unfold readEscape at h
  dsimp only at h
  split at h
  · exact absurd rfl hx
  · exact absurd rfl hu
  · exact absurd rfl hlong
  · exact absurd rfl hb
  -- The letters for sets, control characters and assertions, then the two for properties.
  iterate 17
    · cases h
      rfl
  iterate 2
    · cases h
  split at h
  · cases h
  · split at h
    · cases h
      rfl
    · cases h

theorem isSteady_readEscape : IsSteady readEscape := by
  intro rest result taken h
  cases rest with
  | nil => cases h
  | cons c rest =>
    rw [List.cons_append]
    by_cases hx : c = 'x'
    · subst hx
      exact (isSteady_readCodePoint 2).cons (f := id) h
    by_cases hu : c = 'u'
    · subst hu
      exact (isSteady_readCodePoint 4).cons (f := id) h
    by_cases hlong : c = 'U'
    · subst hlong
      exact (isSteady_readCodePoint 8).cons (f := id) h
    by_cases hb : c = 'b'
    · subst hb
      exact isSteady_readBoundary.cons (f := id) h
    · refine ⟨?_, (readEscape_cons_of_ne hx hu hlong hb _ _).trans h⟩
      rw [taken_of_readEscape_cons hx hu hlong hb h]
      simp

/-! ### Repetitions and groups -/

theorem withEagerness_append (least : Nat) (most : Option Nat) (rest : List Char) :
    (withEagerness least most rest).2 ≤ rest.length ∧
      withEagerness least most (rest ++ [')']) = withEagerness least most rest := by
  cases rest with
  | nil => exact ⟨Nat.le_refl 0, rfl⟩
  | cons c rest =>
    by_cases hmark : c = '?'
    · subst hmark
      exact ⟨Nat.succ_le_succ (Nat.zero_le _), rfl⟩
    · have hplain : ∀ more, withEagerness least most (c :: more) = (.repetition least most true, 0) := by
        intro more
        unfold withEagerness
        split
        · rename_i h
          cases h
          exact (hmark rfl).elim
        · rfl
      rw [List.cons_append, hplain, hplain]
      exact ⟨Nat.zero_le _, rfl⟩

theorem isSteady_readRepetition : IsSteady readRepetition := by
  intro rest result taken h
  unfold readRepetition at h
  dsimp only at h
  split at h
  · cases h
  · rename_i hopen
    have hlt := length_takeWhile_lt hopen
    obtain ⟨⟨least, most⟩, hlimits, hcount⟩ := exists_of_bind_eq_ok h
    obtain ⟨htaken, hsame⟩ := withEagerness_append least most (rest.drop ((rest.takeWhile (· != '\x7d')).length + 1))
    cases hcount
    rw [List.length_drop] at htaken
    refine ⟨by dsimp only; omega, ?_⟩
    unfold readRepetition
    dsimp only
    rw [takeWhile_append_of_stops hopen, if_neg (by simp; omega), List.drop_append_of_le_length (by omega), hlimits]
    change Except.ok _ = Except.ok _
    rw [hsame]

theorem isSteady_readGroupName : IsSteady readGroupName := by
  intro rest result taken h
  unfold readGroupName at h
  dsimp only at h
  split at h
  · rename_i hname
    rw [Bool.and_eq_true, decide_eq_true_iff] at hname
    cases h
    refine ⟨hname.1, ?_⟩
    unfold readGroupName
    dsimp only
    rw [takeWhile_append_of_stops (Nat.ne_of_lt hname.1), if_pos]
    simp [hname.2]
    omega
  · cases h


theorem isSteady_readOptionGroup : IsSteady readOptionGroup := by
  intro rest result taken h
  unfold readOptionGroup at h
  obtain ⟨changes, hchanges, h⟩ := exists_of_bind_eq_ok h
  -- The letters end before the colon or the parenthesis, which the text itself must have.
  have hstops : (rest.takeWhile fun c => c != ':' && c != ')').length ≠ rest.length := by
    intro hall
    rw [hall, List.drop_length] at h
    cases h
  have hlt := length_takeWhile_lt hstops
  have hdrop : (rest ++ [')']).drop (rest.takeWhile fun c => c != ':' && c != ')').length =
      rest.drop (rest.takeWhile fun c => c != ':' && c != ')').length ++ [')'] :=
    List.drop_append_of_le_length hlt.le
  have htaken : taken = (rest.takeWhile fun c => c != ':' && c != ')').length + 1 := by
    split at h
    · cases h
      rfl
    · split at h
      · cases h
      · cases h
        rfl
    · cases h
  refine ⟨by omega, ?_⟩
  unfold readOptionGroup
  dsimp only
  rw [takeWhile_append_of_stops hstops, hchanges, hdrop, ← h]
  split at h
  · rename_i more hbehind
    rw [hbehind]
    rfl
  · rename_i more hbehind
    rw [hbehind]
    rfl
  · cases h

theorem readGroup_of_ne {c : Char} (hc : c ≠ '?') (rest : List Char) : readGroup (c :: rest) = .ok (.openGroup .numbered, 0) := by
  unfold readGroup
  split <;> simp_all

theorem head?_append_closing_ne {c : Char} (hc : c ≠ ')') {rest : List Char} (h : rest.head? ≠ some c) :
    (rest ++ [')']).head? ≠ some c := by
  cases rest with
  | nil => simpa using hc.symm
  | cons first more => exact h

/-- A name stands behind the angle bracket unless that begins a look-behind. -/
theorem readGroup_named {rest : List Char} (hahead : rest.head? ≠ some '=') (hnot : rest.head? ≠ some '!') :
    readGroup ('?' :: '<' :: rest) = (readGroupName rest).map fun item => (item.1, item.2 + 2) := by
  unfold readGroup
  split <;> grind

/-- Options stand behind the question mark unless it begins something else. -/
theorem readGroup_options {c : Char} {rest : List Char} (hahead : c ≠ '=') (hnot : c ≠ '!') (hname : c ≠ '<')
    (hlong : c = 'P' → rest.head? ≠ some '<') :
    readGroup ('?' :: c :: rest) = (readOptionGroup (c :: rest)).map fun item => (item.1, item.2 + 1) := by
  unfold readGroup
  split
  all_goals simp_all

theorem isSteady_readGroup : IsSteady readGroup := by
  intro rest result taken h
  cases rest with
  | nil =>
    cases h
    exact ⟨Nat.zero_le _, rfl⟩
  | cons c rest =>
    by_cases hc : c = '?'
    · subst hc
      cases rest with
      | nil => cases h
      | cons second rest =>
        by_cases hahead : second = '='
        · subst hahead
          cases h
        by_cases hnot : second = '!'
        · subst hnot
          cases h
        by_cases hname : second = '<'
        · subst hname
          by_cases hbehind : rest.head? = some '=' ∨ rest.head? = some '!'
          · obtain ⟨first, more, rfl⟩ : ∃ first more, rest = first :: more := by
              cases rest with
              | nil => simp at hbehind
              | cons first more => exact ⟨first, more, rfl⟩
            obtain h' | h' := hbehind <;> cases h' <;> cases h
          · rw [not_or] at hbehind
            rw [readGroup_named hbehind.1 hbehind.2] at h
            rw [List.cons_append, List.cons_append, readGroup_named (head?_append_closing_ne (by decide) hbehind.1)
              (head?_append_closing_ne (by decide) hbehind.2)]
            exact isSteady_readGroupName.cons (f := id) h
        by_cases hlong : second = 'P' ∧ rest.head? = some '<'
        · obtain ⟨rfl, hhead⟩ := hlong
          obtain ⟨more, rfl⟩ : ∃ more, rest = '<' :: more := by
            cases rest with
            | nil => cases hhead
            | cons first more => exact ⟨more, by rw [Option.some.inj hhead]⟩
          exact isSteady_readGroupName.cons (f := id) h
        · rw [not_and] at hlong
          rw [readGroup_options hahead hnot hname hlong] at h
          rw [List.cons_append, List.cons_append, readGroup_options hahead hnot hname fun hsecond =>
            head?_append_closing_ne (by decide) (hlong hsecond)]
          exact isSteady_readOptionGroup.cons (f := id) h
    · rw [List.cons_append]
      rw [readGroup_of_ne hc] at h ⊢
      cases h
      exact ⟨Nat.zero_le _, rfl⟩

/-! ### Character classes -/

theorem takeWhile_append_closing {p : Char → Bool} (hp : p ')' = false) (text : List Char) :
    (text ++ [')']).takeWhile p = text.takeWhile p := by
  rw [List.takeWhile_append]
  split
  · rename_i hall
    rw [List.takeWhile_cons_of_neg (by simp [hp]), List.append_nil]
    exact ((List.takeWhile_prefix p).eq_of_length hall).symm
  · rfl

/-- What a class has behind a circumflex, if it begins with one, in front of a closing parenthesis. -/
theorem behindCircumflex_append (rest : List Char) :
    ((rest ++ [')']).head? = some '^' ↔ rest.head? = some '^') ∧
      (if rest.head? = some '^' then (rest ++ [')']).drop 1 else rest ++ [')']) =
        (if rest.head? = some '^' then rest.drop 1 else rest) ++ [')'] := by
  cases rest with
  | nil => simp
  | cons c more => by_cases hc : c = '^' <;> simp [hc]

theorem length_behindCircumflex (rest : List Char) :
    (if rest.head? = some '^' then rest.drop 1 else rest).length + (if rest.head? = some '^' then 1 else 0) = rest.length := by
  cases rest with
  | nil => rfl
  | cons c more => by_cases hc : c = '^' <;> simp [hc]

theorem readOpenClass_append (rest : List Char) :
    (readOpenClass rest).2 ≤ rest.length ∧ readOpenClass (rest ++ [')']) = readOpenClass rest := by
  obtain ⟨hnegated, hinside⟩ := behindCircumflex_append rest
  have hlength := length_behindCircumflex rest
  constructor
  · simp only [readOpenClass]
    generalize (if rest.head? = some '^' then rest.drop 1 else rest) = inside at hlength ⊢
    rw [← hlength]
    refine Nat.add_le_add_right ?_ _
    split
    · exact ((List.take_prefix 1 _).trans (List.takeWhile_prefix _)).length_le
    · exact (List.takeWhile_prefix _).length_le
  · simp only [readOpenClass, hinside, takeWhile_append_closing (p := (· == '-')) rfl,
      takeWhile_append_closing (p := (· == ']')) rfl, hnegated]

theorem readNamedSet?_append (rest : List Char) :
    (∀ named, readNamedSet? rest = some named → named.2 ≤ rest.length) ∧ readNamedSet? (rest ++ [')']) = readNamedSet? rest := by
  cases rest with
  | nil => exact ⟨nofun, rfl⟩
  | cons c rest =>
    by_cases hc : c = ':'
    · subst hc
      obtain ⟨hnegated, hinside⟩ := behindCircumflex_append rest
      have hlength := length_behindCircumflex rest
      simp only [List.cons_append, readNamedSet?, hnegated, hinside]
      generalize (if rest.head? = some '^' then rest.drop 1 else rest) = inside at hlength ⊢
      refine ⟨?_, ?_⟩
      · intro named h
        split at h
        · rename_i more set hdrop hset
          have hinner := congrArg List.length hdrop
          rw [List.length_drop, List.length_cons, List.length_cons] at hinner
          cases h
          rw [List.length_cons]
          dsimp only
          omega
        · cases h
      · by_cases hall : (inside.takeWhile (· != ':')).length = inside.length
        · have hdrop : (inside ++ [')']).drop ((inside ++ [')']).takeWhile (· != ':')).length = [] := by
            rw [List.takeWhile_append, if_pos hall]
            exact List.drop_length
          rw [hdrop, hall, List.drop_length]
        · rw [takeWhile_append_of_stops hall, List.drop_append_of_le_length (length_takeWhile_lt hall).le]
          generalize inside.drop _ = behind
          generalize namedSet? _ = set?
          match behind with
          | [] => rfl
          | [first] => split <;> simp_all
          | first :: second :: more => split <;> split <;> simp_all
    · have hplain : ∀ more, readNamedSet? (c :: more) = none := by
        intro more
        unfold readNamedSet?
        split
        · rename_i h
          cases h
          exact (hc rfl).elim
        · rfl
      rw [List.cons_append, hplain, hplain]
      exact ⟨nofun, rfl⟩

theorem isSteady_readMemberEnd (c : Char) : IsSteady (readMemberEnd c) := by
  intro rest result taken h
  unfold readMemberEnd at h ⊢
  by_cases hc : c = '\\'
  · rw [if_pos hc] at h ⊢
    exact isSteady_readEscape rest result taken h
  · rw [if_neg hc] at h ⊢
    cases h
    exact ⟨Nat.zero_le _, rfl⟩

/-- What a member of a class is when its first end has been read, by what stands behind that. -/
def memberBehind (first : Escape) (taken : Nat) : List Char → Except Fault (Token × Nat)
  | '-' :: last :: more =>
    if last = ']' ∨ last = '-' then return (.members (← memberSet first), taken)
    else do
      let (last, lastTaken) ← readMemberEnd last more
      return (.members (← memberRange first last), taken + 2 + lastTaken)
  | _ => return (.members (← memberSet first), taken)

theorem readMember_eq (c : Char) (rest : List Char) :
    readMember c rest = (do
      let (first, taken) ← readMemberEnd c rest
      memberBehind first taken (rest.drop taken)) := by
  rfl

theorem memberBehind_of_ne {c : Char} (hc : c ≠ '-') (first : Escape) (taken : Nat) (rest : List Char) :
    memberBehind first taken (c :: rest) = return (.members (← memberSet first), taken) := by
  unfold memberBehind
  split
  · rename_i h
    cases h
    exact (hc rfl).elim
  · rfl

theorem memberBehind_append {first : Escape} {start : Nat} {behind : List Char} {token : Token} {taken : Nat}
    (h : memberBehind first start behind = .ok (token, taken)) :
    taken ≤ start + behind.length ∧
      (memberBehind first start (behind ++ [')']) = .ok (token, taken) ∨
        (∃ set, token = .members set) ∧ taken = start ∧ behind = ['-']) := by
  match behind with
  | [] =>
    obtain ⟨set, hset, heq⟩ := exists_of_bind_eq_ok h
    cases heq
    exact ⟨Nat.le_refl _, .inl h⟩
  | c :: more =>
    by_cases hc : c = '-'
    · subst hc
      match more with
      | [] =>
        obtain ⟨set, hset, heq⟩ := exists_of_bind_eq_ok h
        cases heq
        exact ⟨Nat.le_add_right _ _, .inr ⟨⟨set, rfl⟩, rfl, rfl⟩⟩
      | last :: more =>
        by_cases hlast : last = ']' ∨ last = '-'
        · simp only [List.cons_append, memberBehind, if_pos hlast] at h ⊢
          refine ⟨?_, .inl h⟩
          obtain ⟨set, hset, heq⟩ := exists_of_bind_eq_ok h
          cases heq
          exact Nat.le_add_right _ _
        · simp only [List.cons_append, memberBehind, if_neg hlast] at h ⊢
          obtain ⟨⟨escape, count⟩, hescape, h⟩ := exists_of_bind_eq_ok h
          obtain ⟨hcount, hsteady⟩ := isSteady_readMemberEnd last more escape count hescape
          rw [hsteady]
          refine ⟨?_, .inl h⟩
          obtain ⟨set, hset, heq⟩ := exists_of_bind_eq_ok h
          cases heq
          simp only [List.length_cons]
          omega
    · rw [memberBehind_of_ne hc] at h
      rw [List.cons_append, memberBehind_of_ne hc]
      refine ⟨?_, .inl h⟩
      obtain ⟨set, hset, heq⟩ := exists_of_bind_eq_ok h
      cases heq
      exact Nat.le_add_right _ _

/-- A member of a class is read whole, unless a hyphen at the end of the text could still make it a range. -/
theorem readMember_append {c : Char} {rest : List Char} {token : Token} {taken : Nat}
    (h : readMember c rest = .ok (token, taken)) :
    taken ≤ rest.length ∧
      (readMember c (rest ++ [')']) = .ok (token, taken) ∨ (∃ set, token = .members set) ∧ rest.drop taken = ['-']) := by
  rw [readMember_eq] at h
  obtain ⟨⟨first, count⟩, hfirst, h⟩ := exists_of_bind_eq_ok h
  obtain ⟨hcount, hsteady⟩ := isSteady_readMemberEnd c rest first count hfirst
  obtain ⟨htaken, hbehind⟩ := memberBehind_append h
  rw [List.length_drop] at htaken
  refine ⟨by omega, ?_⟩
  obtain hbehind | ⟨hset, rfl, hhyphen⟩ := hbehind
  · left
    rw [readMember_eq, hsteady]
    change memberBehind first count ((rest ++ [')']).drop count) = _
    rwa [List.drop_append_of_le_length hcount]
  · exact .inr ⟨hset, hhyphen⟩

/-! ### Texts -/

theorem isSteady_withEagerness (least : Nat) (most : Option Nat) :
    IsSteady fun rest => .ok (withEagerness least most rest) := by
  intro rest result taken h
  obtain ⟨htaken, hsame⟩ := withEagerness_append least most rest
  rw [Except.ok.inj h] at htaken hsame
  exact ⟨htaken, congrArg Except.ok hsame⟩

theorem isSteady_readOpenClass : IsSteady fun rest => .ok (readOpenClass rest) := by
  intro rest result taken h
  obtain ⟨htaken, hsame⟩ := readOpenClass_append rest
  rw [Except.ok.inj h] at htaken hsame
  exact ⟨htaken, congrArg Except.ok hsame⟩

/-- The token that an escape is outside of classes. -/
def escapeToken : Escape → Token
  | .literal c => .literal c
  | .set set => .set set
  | .assertion condition => .assertion condition

theorem readToken_backslash (rest : List Char) :
    readToken '\\' rest = (readEscape rest).map fun item => (escapeToken item.1, item.2 + 0) := by
  change (readEscape rest).map _ = _
  congr
  funext ⟨escape, taken⟩
  cases escape <;> rfl

theorem isSteady_readToken (c : Char) : IsSteady (readToken c) := by
  intro rest result taken h
  have hsingle : ∀ token, (.ok (token, 0) : Except Fault (Token × Nat)) = .ok (result, taken) →
      taken ≤ rest.length ∧ (.ok (token, 0) : Except Fault (Token × Nat)) = .ok (result, taken) := by
    intro token h
    cases h
    exact ⟨Nat.zero_le _, rfl⟩
  unfold readToken at h
  split at h
  · exact isSteady_readGroup rest result taken h
  · exact hsingle _ h
  · exact hsingle _ h
  · exact isSteady_readOpenClass rest result taken h
  · exact isSteady_withEagerness 0 (some 1) rest result taken h
  · exact isSteady_withEagerness 0 none rest result taken h
  · exact isSteady_withEagerness 1 none rest result taken h
  · exact isSteady_readRepetition rest result taken h
  · exact hsingle _ h
  · exact hsingle _ h
  · exact hsingle _ h
  · rw [readToken_backslash]
    exact isSteady_readEscape.cons ((readToken_backslash rest).symm.trans h)
  · unfold readToken
    split
    iterate 12
      · contradiction
    · exact hsingle _ h

theorem readClassToken_append {c : Char} {rest : List Char} {token : Token} {taken : Nat}
    (h : readClassToken c rest = .ok (token, taken)) :
    taken ≤ rest.length ∧
      (readClassToken c (rest ++ [')']) = .ok (token, taken) ∨ (∃ set, token = .members set) ∧ rest.drop taken = ['-']) := by
  unfold readClassToken at h
  split at h
  · obtain ⟨hnamed, hnamedSame⟩ := readNamedSet?_append rest
    obtain ⟨hopen, hopenSame⟩ := readOpenClass_append rest
    have htaken : taken = ((readNamedSet? rest).getD (readOpenClass rest)).2 := by rw [Except.ok.inj h]
    refine ⟨?_, .inl ?_⟩
    · rw [htaken]
      cases hset : readNamedSet? rest with
      | none => exact hopen
      | some named => exact hnamed named hset
    · change Except.ok ((readNamedSet? (rest ++ [')'])).getD (readOpenClass (rest ++ [')']))) = _
      rw [hnamedSame, hopenSame, h]
  · cases h
    exact ⟨Nat.zero_le _, .inl rfl⟩
  · cases h
    exact ⟨by simp, .inl rfl⟩
  · cases h
    exact ⟨by simp, .inl rfl⟩
  · cases h
    exact ⟨by simp, .inl rfl⟩
  · rename_i hopen hclose hand hhyphen htilde
    have hfirst : ∀ d tail, d ≠ ')' → rest ++ [')'] = d :: tail → ∃ more, rest = d :: more := by
      intro d tail hd hrest
      obtain ⟨-, hsingle⟩ | ⟨more, hmore, -⟩ := List.append_eq_cons_iff.1 hrest
      · cases hsingle
        exact (hd rfl).elim
      · exact ⟨more, hmore⟩
    have hmember : readClassToken c (rest ++ [')']) = readMember c (rest ++ [')']) := by
      unfold readClassToken
      split
      · exact (hopen rfl).elim
      · exact (hclose rfl).elim
      · rename_i tail hrest
        obtain ⟨more, hmore⟩ := hfirst '&' tail (by decide) hrest
        exact (hand more rfl hmore).elim
      · rename_i tail hrest
        obtain ⟨more, hmore⟩ := hfirst '-' tail (by decide) hrest
        exact (hhyphen more rfl hmore).elim
      · rename_i tail hrest
        obtain ⟨more, hmore⟩ := hfirst '~' tail (by decide) hrest
        exact (htilde more rfl hmore).elim
      · rfl
    rw [hmember]
    exact readMember_append h

/-- The token that begins with a character inside so many classes. -/
def readTokenWithin (depth : Nat) (c : Char) (rest : List Char) : Except Fault (Token × Nat) :=
  if depth = 0 then readToken c rest else readClassToken c rest

theorem tokensFrom_cons (depth : Nat) (c : Char) (rest : List Char) :
    tokensFrom depth 0 (c :: rest) =
      readTokenWithin depth c rest >>= fun item =>
        tokensFrom (item.1.classDepth depth) item.2 rest >>= fun more => .ok (item.1 :: more) := by
  rw [tokensFrom, readTokenWithin]
  split <;> rfl

theorem tokensFrom_skip (depth : Nat) {skip : Nat} {text : List Char} (h : skip ≤ text.length) :
    tokensFrom depth skip text = tokensFrom depth 0 (text.drop skip) := by
  induction skip generalizing text with
  | zero => rfl
  | succ skip ih =>
    cases text with
    | nil => cases h
    | cons c rest => exact ih (Nat.le_of_succ_le_succ h)

/-- How many classes are open behind several tokens. -/
def classDepthAfter (depth : Nat) (read : List Token) : Nat :=
  read.foldl (fun depth token => token.classDepth depth) depth

/-- A class is still open at the end of a text when a hyphen inside it ends the text. -/
theorem classDepthAfter_hyphen {depth : Nat} (hdepth : depth ≠ 0) {read : List Token}
    (h : tokensFrom depth 0 ['-'] = .ok read) : classDepthAfter depth read = depth := by
  have hhyphen : readTokenWithin depth '-' [] = .ok (.members (.single '-'), 0) := by
    rw [readTokenWithin, if_neg hdepth]
    rfl
  rw [tokensFrom_cons, hhyphen] at h
  cases h
  rfl

/-- A closing parenthesis behind a text whose classes are all closed is one more token. -/
theorem tokensFrom_append_closing {depth skip : Nat} {text : List Char} {read : List Token}
    (h : tokensFrom depth skip text = .ok read) (hskip : skip ≤ text.length) (hclosed : classDepthAfter depth read = 0) :
    tokensFrom depth skip (text ++ [')']) = .ok (read ++ [.closeGroup]) := by
  induction text generalizing depth skip read with
  | nil =>
    obtain rfl : skip = 0 := by simpa using hskip
    cases h
    obtain rfl : depth = 0 := hclosed
    rfl
  | cons c rest ih =>
    cases skip with
    | succ skip => exact ih h (Nat.le_of_succ_le_succ hskip) hclosed
    | zero =>
      rw [tokensFrom_cons] at h
      obtain ⟨⟨token, taken⟩, htoken, h⟩ := exists_of_bind_eq_ok h
      obtain ⟨more, hmore, h⟩ := exists_of_bind_eq_ok h
      cases h
      have hsteady : taken ≤ rest.length ∧ readTokenWithin depth c (rest ++ [')']) = .ok (token, taken) := by
        by_cases hdepth : depth = 0
        · rw [readTokenWithin, if_pos hdepth] at htoken ⊢
          exact isSteady_readToken c rest token taken htoken
        · rw [readTokenWithin, if_neg hdepth] at htoken ⊢
          obtain ⟨htaken, hsame | ⟨⟨set, rfl⟩, hhyphen⟩⟩ := readClassToken_append htoken
          · exact ⟨htaken, hsame⟩
          · -- Only a hyphen at the end could be read on, and then the class would still be open.
            rw [tokensFrom_skip _ htaken, hhyphen] at hmore
            exact (hdepth ((classDepthAfter_hyphen hdepth hmore).symm.trans hclosed)).elim
      rw [List.cons_append, tokensFrom_cons, hsteady.2]
      change tokensFrom (token.classDepth depth) taken (rest ++ [')']) >>= _ = _
      rw [ih hmore hsteady.1 hclosed]
      rfl

end Outlining.Pattern

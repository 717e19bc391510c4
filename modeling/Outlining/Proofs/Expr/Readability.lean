import Mathlib.Logic.Basic
import Outlining.Proofs.Expr.Spine

/-!
# Texts of expressions are read in one way

Plain expressions, whose words, names and strings keep clear of the characters that structure a text, have different written texts when they differ, and different texts as conditions (`eq_of_written_eq`). A written text ends before any text that can follow a value, so two expressions and what follows them can be told apart at once (`Plain.readable`); the first character says which kind of expression there is. A condition is read from its first operand on, operation by operation.
-/

namespace Outlining.Expr

/-! ### Plain expressions -/

/-- Whether a character structures the texts of expressions. -/
def isMark (c : Char) : Bool :=
  [' ', ',', '(', ')', '[', ']', '\'', '"'].contains c

/-- A text that reads as one word. -/
structure IsBare (text : String) : Prop where
  ne_empty : text.toList ≠ []
  unmarked : ∀ c ∈ text.toList, isMark c = false
  noDollar : '$' ∉ text.toList

/-- Words are bare and none of them reads as the undefined value, names of variables have no marks in them, a string stands between two quote marks of a kind that does not occur in it, and no operator has a space in it, at any depth. -/
inductive Plain : Expr → Prop
  | word {text : String} (hbare : IsBare text) (hundefined : text ≠ "undef") : Plain (.word text)
  | variable {name : String} (hname : ∀ c ∈ name.toList, isMark c = false) : Plain (.variable name)
  | quoted {mark : Char} {content : List Char} (hmark : mark = '\'' ∨ mark = '"') (hcontent : mark ∉ content) :
    Plain (.quoted (String.ofList (mark :: content ++ [mark])))
  | undefined : Plain .undefined
  | list {items : List Expr} (hitems : ∀ item ∈ items, Plain item) : Plain (.list items)
  | reference {type : String} {titles : List Expr} (hbare : IsBare type) (htitles : ∀ title ∈ titles, Plain title) :
    Plain (.reference type titles)
  | operation {left right : Expr} {operator : String} (hleft : Plain left) (hright : Plain right)
    (hoperator : ' ' ∉ operator.toList) : Plain (.operation left operator right)

theorem isBare_undef : IsBare "undef" :=
  ⟨by decide, by simp [isMark], by decide⟩

/-! ### Where a part of a text ends -/

/-- What can follow a value: the end of the text, or a character that goes on with what the value is part of. -/
def EndsValue (rest : List Char) : Prop :=
  ∀ c ∈ rest.head?, c = ' ' ∨ c = ',' ∨ c = ')' ∨ c = ']'

theorem endsValue_nil : EndsValue [] :=
  nofun

theorem endsValue_cons {c : Char} (h : c = ' ' ∨ c = ',' ∨ c = ')' ∨ c = ']') (rest : List Char) :
    EndsValue (c :: rest) := by
  intro first hfirst
  cases hfirst
  exact h

theorem EndsValue.isMark {rest : List Char} (h : EndsValue rest) : ∀ c ∈ rest.head?, Expr.isMark c = true := by
  intro c hc
  obtain rfl | rfl | rfl | rfl := h c hc <;> rfl

/-- Two texts agree up to the first character that belongs to neither front. -/
theorem eq_of_append_eq_of_stops (stops : Char → Bool) {left right rest more : List Char}
    (hleft : ∀ c ∈ left, stops c = false) (hright : ∀ c ∈ right, stops c = false)
    (hrest : ∀ c ∈ rest.head?, stops c = true) (hmore : ∀ c ∈ more.head?, stops c = true)
    (h : left ++ rest = right ++ more) : left = right ∧ rest = more := by
  have hfront : ∀ {front behind : List Char}, (∀ c ∈ front, stops c = false) → (∀ c ∈ behind.head?, stops c = true) →
      (front ++ behind).takeWhile (fun c => !stops c) = front := by
    intro front behind hall hstop
    rw [List.takeWhile_append_of_pos (by simpa using hall)]
    cases behind with
    | nil => simp
    | cons c behind => simp [hstop c rfl]
  have heq : left = right := by rw [← hfront hleft hrest, h, hfront hright hmore]
  subst heq
  exact ⟨rfl, List.append_cancel_left h⟩

theorem ne_of_not_mem {mark : Char} {text : List Char} (h : mark ∉ text) : ∀ c ∈ text, (c == mark) = false := by
  intro c hc
  rw [beq_eq_false_iff_ne]
  rintro rfl
  exact h hc

/-- What stands between two spaces in front of something is found again when there is no space in it. -/
theorem eq_of_operator_append_eq {operator other : String} {rest more : List Char} (hoperator : ' ' ∉ operator.toList)
    (hother : ' ' ∉ other.toList)
    (h : ' ' :: operator.toList ++ ' ' :: rest = ' ' :: other.toList ++ ' ' :: more) : operator = other ∧ rest = more := by
  obtain ⟨htext, hbehind⟩ := eq_of_append_eq_of_stops (· == ' ') (ne_of_not_mem hoperator)
    (ne_of_not_mem hother) (by simp) (by simp) (List.cons.inj h).2
  exact ⟨String.toList_inj.1 htext, (List.cons.inj hbehind).2⟩

/-! ### Written texts -/

/-- What items behind the first add to the text of a list. -/
def furtherItems (items : List Expr) : List Char :=
  items.flatMap fun item => ',' :: ' ' :: item.written.toList

/-- Items between brackets. -/
def bracketed : List Expr → List Char
  | [] => ['[', ']']
  | item :: more => '[' :: item.written.toList ++ furtherItems more ++ [']']

theorem writtenAll_eq_map (items : List Expr) : writtenAll items = items.map written := by
  induction items with
  | nil => rfl
  | cons item more ih => rw [writtenAll, ih, List.map_cons]

theorem intercalate_cons {α : Type} (separator first : List α) (more : List (List α)) :
    separator.intercalate (first :: more) = first ++ more.flatMap (separator ++ ·) := by
  induction more generalizing first with
  | nil => simp [List.intercalate]
  | cons second more ih => rw [List.intercalate_cons_cons, ih, List.flatMap_cons, List.append_assoc, List.append_assoc]

theorem toList_brackets (items : List Expr) :
    ("[" ++ ", ".intercalate (writtenAll items) ++ "]").toList = bracketed items := by
  rw [writtenAll_eq_map]
  cases items with
  | nil => rfl
  | cons item more =>
    simp only [String.toList_append, String.toList_intercalate, List.map_cons, intercalate_cons, List.map_map,
      List.flatMap_map]
    simp [bracketed, furtherItems]

theorem toList_written_list (items : List Expr) : (list items).written.toList = bracketed items :=
  toList_brackets items

theorem toList_written_reference (type : String) (titles : List Expr) :
    (reference type titles).written.toList = type.toList ++ bracketed titles := by
  rw [← toList_brackets, written, String.append_assoc, String.append_assoc, String.toList_append, String.append_assoc]

theorem toList_written_variable (name : String) : (Expr.variable name).written.toList = '$' :: name.toList := by
  simp [written]

theorem toList_written_operation (left right : Expr) (operator : String) :
    (operation left operator right).written.toList =
      '(' :: left.written.toList ++ ' ' :: operator.toList ++ ' ' :: right.written.toList ++ [')'] := by
  simp [written]

/-! ### The first character -/

/-- The kinds of texts that the first character tells apart. -/
inductive Shape where
  | named
  | variable
  | quoted
  | list
  | operation

def shape : Expr → Shape
  | .variable _ => .variable
  | .quoted _ => .quoted
  | .list _ => .list
  | .operation _ _ _ => .operation
  | _ => .named

def shapeBehind : Char → Shape
  | '$' => .variable
  | '\'' => .quoted
  | '"' => .quoted
  | '[' => .list
  | '(' => .operation
  | _ => .named

theorem exists_cons_bracketed (items : List Expr) : ∃ text, bracketed items = '[' :: text := by
  cases items <;> exact ⟨_, rfl⟩

theorem IsBare.exists_cons {text : String} (h : IsBare text) :
    ∃ c more, text.toList = c :: more ∧ shapeBehind c = .named ∧ c ≠ ']' := by
  obtain ⟨c, more, hmore⟩ := List.exists_cons_of_ne_nil h.ne_empty
  have hmem : c ∈ text.toList := hmore ▸ List.mem_cons_self
  have hmark : ∀ mark, isMark mark = true → c ≠ mark := by
    rintro mark hmark rfl
    exact absurd hmark (by simp [h.unmarked c hmem])
  have hdollar : c ≠ '$' := by
    rintro rfl
    exact h.noDollar hmem
  refine ⟨c, more, hmore, ?_, hmark ']' rfl⟩
  rw [shapeBehind]
  · exact hdollar
  all_goals exact hmark _ rfl

/-- The first character of a text tells what kind of expression it is, and no text begins with the end of a list. -/
theorem Plain.exists_cons {value : Expr} (h : value.Plain) :
    ∃ c more, value.written.toList = c :: more ∧ shapeBehind c = value.shape ∧ c ≠ ']' := by
  cases h with
  | word hbare _ => exact hbare.exists_cons
  | «variable» _ => exact ⟨'$', _, toList_written_variable _, rfl, by decide⟩
  | quoted hmark _ =>
    refine ⟨_, _, String.toList_ofList, ?_, ?_⟩ <;> obtain rfl | rfl := hmark <;> first | rfl | decide
  | undefined => exact isBare_undef.exists_cons
  | list _ =>
    obtain ⟨text, htext⟩ := exists_cons_bracketed _
    exact ⟨'[', text, (toList_written_list _).trans htext, rfl, by decide⟩
  | reference hbare _ =>
    obtain ⟨c, more, hmore, hshape, hclose⟩ := hbare.exists_cons
    exact ⟨c, _, by rw [toList_written_reference, hmore, List.cons_append], hshape, hclose⟩
  | operation _ _ _ => exact ⟨'(', _, toList_written_operation _ _ _, rfl, by decide⟩

theorem shape_eq_of_append_eq {left right : Expr} (hleft : left.Plain) (hright : right.Plain) {rest more : List Char}
    (h : left.written.toList ++ rest = right.written.toList ++ more) : left.shape = right.shape := by
  obtain ⟨c, text, htext, hshape, -⟩ := hleft.exists_cons
  obtain ⟨other, next, hnext, hother, -⟩ := hright.exists_cons
  rw [htext, hnext] at h
  rw [← hshape, ← hother, (List.cons.inj h).1]

/-! ### One way to read a text -/

/-- Whether an expression and what follows it can be told from any other. -/
def Readable (value : Expr) : Prop :=
  ∀ ⦃other : Expr⦄, other.Plain → ∀ ⦃rest more : List Char⦄, EndsValue rest → EndsValue more →
    value.written.toList ++ rest = other.written.toList ++ more → value = other ∧ rest = more

theorem endsValue_furtherItems (items : List Expr) (rest : List Char) :
    EndsValue (furtherItems items ++ ']' :: rest) := by
  cases items with
  | nil => exact endsValue_cons (by decide) rest
  | cons item more => exact endsValue_cons (by decide) _

theorem eq_of_furtherItems_eq {items others : List Expr} (hitems : ∀ item ∈ items, Readable item)
    (hothers : ∀ other ∈ others, other.Plain) {rest more : List Char}
    (h : furtherItems items ++ ']' :: rest = furtherItems others ++ ']' :: more) : items = others ∧ rest = more := by
  induction items generalizing others with
  | nil =>
    cases others with
    | nil => exact ⟨rfl, (List.cons.inj h).2⟩
    | cons other others => exact absurd (List.cons.inj h).1 (by decide)
  | cons item items ih =>
    cases others with
    | nil => exact absurd (List.cons.inj h).1 (by decide)
    | cons other others =>
      simp only [furtherItems, List.flatMap_cons, List.cons_append, List.append_assoc, List.cons.injEq, true_and] at h
      obtain ⟨rfl, hbehind⟩ := hitems item List.mem_cons_self (hothers other List.mem_cons_self)
        (endsValue_furtherItems items rest) (endsValue_furtherItems others more) h
      obtain ⟨rfl, hrest⟩ := ih (fun next hnext => hitems next (List.mem_cons_of_mem item hnext))
        (fun next hnext => hothers next (List.mem_cons_of_mem item hnext)) hbehind
      exact ⟨rfl, hrest⟩

theorem eq_of_bracketed_eq {items others : List Expr} (hitems : ∀ item ∈ items, item.Plain ∧ Readable item)
    (hothers : ∀ other ∈ others, other.Plain) {rest more : List Char}
    (h : bracketed items ++ rest = bracketed others ++ more) : items = others ∧ rest = more := by
  have hclose : ∀ {value : Expr} {behind further : List Char}, value.Plain →
      value.written.toList ++ behind ≠ ']' :: further := by
    intro value behind further hvalue heq
    obtain ⟨c, text, htext, -, hc⟩ := hvalue.exists_cons
    rw [htext] at heq
    exact hc (List.cons.inj heq).1
  cases items with
  | nil =>
    cases others with
    | nil => exact ⟨rfl, by simpa [bracketed] using h⟩
    | cons other others =>
      simp only [bracketed, List.cons_append, List.nil_append, List.append_assoc, List.cons.injEq, true_and] at h
      exact absurd h.symm (hclose (hothers other List.mem_cons_self))
  | cons item items =>
    cases others with
    | nil =>
      simp only [bracketed, List.cons_append, List.nil_append, List.append_assoc, List.cons.injEq, true_and] at h
      exact absurd h (hclose (hitems item List.mem_cons_self).1)
    | cons other others =>
      simp only [bracketed, List.cons_append, List.nil_append, List.append_assoc, List.cons.injEq, true_and] at h
      obtain ⟨rfl, hbehind⟩ := (hitems item List.mem_cons_self).2 (hothers other List.mem_cons_self)
        (endsValue_furtherItems items rest) (endsValue_furtherItems others more) h
      obtain ⟨rfl, hrest⟩ := eq_of_furtherItems_eq (fun next hnext => (hitems next (List.mem_cons_of_mem item hnext)).2)
        (fun next hnext => hothers next (List.mem_cons_of_mem item hnext)) hbehind
      exact ⟨rfl, hrest⟩

/-- A word and what follows it can be told from another word, also where a list of titles follows. -/
theorem IsBare.eq_of_append_eq {text other : String} (htext : IsBare text) (hother : IsBare other)
    {rest more : List Char} (hrest : ∀ c ∈ rest.head?, isMark c = true) (hmore : ∀ c ∈ more.head?, isMark c = true)
    (h : text.toList ++ rest = other.toList ++ more) : text = other ∧ rest = more := by
  obtain ⟨hfront, hbehind⟩ := eq_of_append_eq_of_stops Expr.isMark htext.unmarked hother.unmarked hrest hmore h
  exact ⟨String.toList_inj.1 hfront, hbehind⟩

theorem isMark_bracketed (items : List Expr) (rest : List Char) :
    ∀ c ∈ (bracketed items ++ rest).head?, isMark c = true := by
  obtain ⟨text, htext⟩ := exists_cons_bracketed items
  rw [htext]
  intro c hc
  cases hc
  rfl

theorem not_endsValue_bracketed (items : List Expr) (rest : List Char) : ¬EndsValue (bracketed items ++ rest) := by
  obtain ⟨text, htext⟩ := exists_cons_bracketed items
  rw [htext]
  intro h
  exact absurd (h '[' rfl) (by decide)

/-- A plain expression and what follows it are told from any other by their text. -/
theorem Plain.readable {value : Expr} (h : value.Plain) : Readable value := by
  induction h with
  | word hbare hundefined =>
    intro other hother rest more hrest hmore heq
    have hshape := shape_eq_of_append_eq (.word hbare hundefined) hother heq
    cases hother with
    | word hother _ =>
      obtain ⟨rfl, hbehind⟩ := hbare.eq_of_append_eq hother hrest.isMark hmore.isMark heq
      exact ⟨rfl, hbehind⟩
    | undefined =>
      obtain ⟨rfl, -⟩ := hbare.eq_of_append_eq isBare_undef hrest.isMark hmore.isMark heq
      exact absurd rfl hundefined
    | reference hother _ =>
      rw [toList_written_reference, List.append_assoc] at heq
      obtain ⟨-, rfl⟩ := hbare.eq_of_append_eq hother hrest.isMark (isMark_bracketed _ _) heq
      exact absurd hrest (not_endsValue_bracketed _ _)
    | _ => cases hshape
  | «variable» hname =>
    intro other hother rest more hrest hmore heq
    have hshape := shape_eq_of_append_eq (.variable hname) hother heq
    cases hother with
    | «variable» hother =>
      rw [toList_written_variable, toList_written_variable] at heq
      obtain ⟨hnames, hbehind⟩ := eq_of_append_eq_of_stops isMark hname hother hrest.isMark hmore.isMark (List.cons.inj heq).2
      exact ⟨congrArg Expr.variable (String.toList_inj.1 hnames), hbehind⟩
    | _ => cases hshape
  | @quoted mark content hmark hcontent =>
    intro other hother rest more hrest hmore heq
    have hshape := shape_eq_of_append_eq (.quoted hmark hcontent) hother heq
    cases hother with
    | @quoted next others _ hothers =>
      simp only [written, String.toList_ofList, List.cons_append, List.append_assoc, List.cons.injEq] at heq
      obtain ⟨rfl, heq⟩ := heq
      obtain ⟨rfl, hbehind⟩ := eq_of_append_eq_of_stops (· == mark) (ne_of_not_mem hcontent)
        (ne_of_not_mem hothers) (by simp) (by simp) heq
      exact ⟨rfl, (List.cons.inj hbehind).2⟩
    | _ => cases hshape
  | undefined =>
    intro other hother rest more hrest hmore heq
    have hshape := shape_eq_of_append_eq .undefined hother heq
    cases hother with
    | word hother hundefined =>
      obtain ⟨rfl, -⟩ := isBare_undef.eq_of_append_eq hother hrest.isMark hmore.isMark heq
      exact absurd rfl hundefined
    | undefined => exact ⟨rfl, List.append_cancel_left heq⟩
    | reference hother _ =>
      rw [toList_written_reference, List.append_assoc] at heq
      obtain ⟨-, rfl⟩ := isBare_undef.eq_of_append_eq hother hrest.isMark (isMark_bracketed _ _) heq
      exact absurd hrest (not_endsValue_bracketed _ _)
    | _ => cases hshape
  | list hitems ih =>
    intro other hother rest more hrest hmore heq
    have hshape := shape_eq_of_append_eq (.list hitems) hother heq
    cases hother with
    | list hothers =>
      rw [toList_written_list, toList_written_list] at heq
      obtain ⟨rfl, hbehind⟩ := eq_of_bracketed_eq (fun item hitem => ⟨hitems item hitem, ih item hitem⟩) hothers heq
      exact ⟨rfl, hbehind⟩
    | _ => cases hshape
  | reference hbare htitles ih =>
    intro other hother rest more hrest hmore heq
    have hshape := shape_eq_of_append_eq (.reference hbare htitles) hother heq
    rw [toList_written_reference, List.append_assoc] at heq
    cases hother with
    | word hother _ =>
      obtain ⟨-, rfl⟩ := hbare.eq_of_append_eq hother (isMark_bracketed _ _) hmore.isMark heq
      exact absurd hmore (not_endsValue_bracketed _ _)
    | undefined =>
      obtain ⟨-, rfl⟩ := hbare.eq_of_append_eq isBare_undef (isMark_bracketed _ _) hmore.isMark heq
      exact absurd hmore (not_endsValue_bracketed _ _)
    | reference hother hothers =>
      rw [toList_written_reference, List.append_assoc] at heq
      obtain ⟨rfl, hlist⟩ := hbare.eq_of_append_eq hother (isMark_bracketed _ _) (isMark_bracketed _ _) heq
      obtain ⟨rfl, hbehind⟩ := eq_of_bracketed_eq (fun title htitle => ⟨htitles title htitle, ih title htitle⟩) hothers hlist
      exact ⟨rfl, hbehind⟩
    | _ => cases hshape
  | operation hleft hright hoperator ihleft ihright =>
    intro other hother rest more hrest hmore heq
    have hshape := shape_eq_of_append_eq (.operation hleft hright hoperator) hother heq
    cases hother with
    | operation hotherLeft hotherRight hotherOperator =>
      simp only [toList_written_operation, List.cons_append, List.append_assoc, List.cons.injEq, true_and] at heq
      obtain ⟨rfl, hoperators⟩ := ihleft hotherLeft (endsValue_cons (.inl rfl) _) (endsValue_cons (.inl rfl) _) heq
      obtain ⟨rfl, hrights⟩ := eq_of_operator_append_eq hoperator hotherOperator hoperators
      obtain ⟨rfl, hclose⟩ := ihright hotherRight (endsValue_cons (by decide) _) (endsValue_cons (by decide) _) hrights
      exact ⟨rfl, (List.cons.inj hclose).2⟩
    | _ => cases hshape

/-! ### Conditions -/

theorem Plain.leftmost {value : Expr} (h : value.Plain) : value.leftmost.Plain := by
  induction h with
  | operation hleft _ _ ih _ => exact ih
  | word hbare hundefined => exact .word hbare hundefined
  | «variable» hname => exact .variable hname
  | quoted hmark hcontent => exact .quoted hmark hcontent
  | undefined => exact .undefined
  | list hitems _ => exact .list hitems
  | reference hbare htitles _ => exact .reference hbare htitles

/-- Every step along the left operands of a plain expression has an operator without a space and a plain right operand. -/
theorem Plain.steps {value : Expr} (h : value.Plain) :
    ∀ step ∈ value.steps, ' ' ∉ step.1.toList ∧ step.2.Plain := by
  induction h with
  | operation _ hright hoperator ih _ =>
    intro step hstep
    rw [Expr.steps, List.mem_append, List.mem_singleton] at hstep
    obtain hstep | rfl := hstep
    · exact ih step hstep
    · exact ⟨hoperator, hright⟩
  | _ => simp [Expr.steps]

theorem endsValue_steps (steps : List (String × Expr)) : EndsValue (steps.flatMap stepText) := by
  cases steps with
  | nil => exact endsValue_nil
  | cons step steps => exact endsValue_cons (.inl rfl) _

theorem steps_eq_of_flatMap_eq {steps others : List (String × Expr)}
    (hsteps : ∀ step ∈ steps, ' ' ∉ step.1.toList ∧ step.2.Plain)
    (hothers : ∀ step ∈ others, ' ' ∉ step.1.toList ∧ step.2.Plain)
    (h : steps.flatMap stepText = others.flatMap stepText) : steps = others := by
  induction steps generalizing others with
  | nil =>
    cases others with
    | nil => rfl
    | cons other others => cases h
  | cons step steps ih =>
    cases others with
    | nil => cases h
    | cons other others =>
      rw [List.forall_mem_cons] at hsteps hothers
      simp only [List.flatMap_cons, stepText, List.append_assoc, List.cons_append] at h
      obtain ⟨hoperator, h⟩ := eq_of_operator_append_eq hsteps.1.1 hothers.1.1 h
      obtain ⟨hright, h⟩ := hsteps.1.2.readable hothers.1.2 (endsValue_steps steps) (endsValue_steps others) h
      rw [Prod.ext hoperator hright, ih hsteps.2 hothers.2 h]

/-- Plain expressions are determined by their written texts, and by their texts as conditions. -/
theorem eq_of_written_eq {left right : Expr} (hleft : left.Plain) (hright : right.Plain) :
    (left.written = right.written → left = right) ∧ (left.asCondition = right.asCondition → left = right) := by
  constructor
  · intro h
    exact (hleft.readable hright endsValue_nil endsValue_nil (by rw [h])).1
  · intro h
    rw [← String.toList_inj, toList_asCondition, toList_asCondition] at h
    obtain ⟨hfirst, hbehind⟩ := hleft.leftmost.readable hright.leftmost (endsValue_steps _) (endsValue_steps _) h
    have hsteps := steps_eq_of_flatMap_eq hleft.steps hright.steps hbehind
    rw [← applySteps_leftmost_steps left, ← applySteps_leftmost_steps right, hfirst, hsteps]

/-- A chain of two operations on a list with a comma in a string, an unnamed variable and a reference to a type called undef. -/
def chainedLeft : Expr :=
  .operation (.operation (.list [.quoted "'a, b'", .undefined]) "in" (.variable "")) "or" (.reference "undef" [.word "x"])

/-- The same operands with the second operation as right operand of the first. -/
def chainedRight : Expr :=
  .operation (.list [.quoted "'a, b'", .undefined]) "in" (.operation (.variable "") "or" (.reference "undef" [.word "x"]))

theorem written_chainedLeft_ne : chainedLeft.Plain ∧ chainedRight.Plain ∧
    chainedLeft.written ≠ chainedRight.written ∧ chainedLeft.asCondition ≠ chainedRight.asCondition := by
  have hquoted : Plain (.quoted "'a, b'") := @Plain.quoted '\'' "a, b".toList (.inl rfl) (by decide)
  have hlist : Plain (.list [.quoted "'a, b'", .undefined]) :=
    .list (by simpa using ⟨hquoted, Plain.undefined⟩)
  have hvariable : Plain (.variable "") := .variable (by simp)
  have hword : Plain (.word "x") := .word ⟨by decide, by simp [isMark], by decide⟩ (by decide)
  have hreference : Plain (.reference "undef" [.word "x"]) := .reference isBare_undef (by simpa using hword)
  have hleft : chainedLeft.Plain := .operation (.operation hlist hvariable (by decide)) hreference (by decide)
  have hright : chainedRight.Plain := .operation hlist (.operation hvariable hreference (by decide)) (by decide)
  obtain ⟨hwritten, hcondition⟩ := eq_of_written_eq hleft hright
  have hne : chainedLeft ≠ chainedRight := by simp [chainedLeft, chainedRight]
  exact ⟨hleft, hright, mt hwritten hne, mt hcondition hne⟩

end Outlining.Expr

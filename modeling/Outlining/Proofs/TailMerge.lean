import Mathlib.Data.List.SplitBy

/-!
# Lists that merge at the end

A list is built item by item, and an item that comes may become one with the item before it. Blocks of an outline are put together this way, and so are the sets of resources inside one block; what holds of both is proved here once, for any partial merge of two items. When merging is associative, several items may be put together first and then put behind others (`pushAll_push`), lists whose neighbours stay apart meet in at most one place (`pushAll_eq_meet`), and what is built from single items is one item for each maximal run of those that join (`pushAll_singles`).
-/

namespace Outlining.TailMerge

theorem isChain_concat_iff {ε : Type} {related : ε → ε → Prop} {items : List ε} {next : ε} :
    (items ++ [next]).IsChain related ↔ items.IsChain related ∧ ∀ last ∈ items.getLast?, related last next := by
  rw [List.isChain_append]
  simp

theorem key_eq_of_isChain {ε κ : Type} {key : ε → κ} {first last : ε} {rest : List ε}
    (h : (first :: rest).IsChain fun left right => key left = key right) (hlast : last ∈ (first :: rest).getLast?) :
    key first = key last := by
  induction rest generalizing first with
  | nil =>
    cases hlast
    rfl
  | cons second rest ih =>
    obtain ⟨hfirst, hrest⟩ := List.isChain_cons_cons.1 h
    rw [List.getLast?_cons_cons] at hlast
    exact hfirst.trans (ih hrest hlast)

variable {α : Type} (merge? : α → α → Option α)

/-- Puts an item behind a list: it becomes one with the last item if the two merge. -/
def push : List α → α → List α
  | [], next => [next]
  | [last], next =>
    match merge? last next with
    | some merged => [merged]
    | none => [last, next]
  | first :: second :: rest, next => first :: push (second :: rest) next

/-- Puts several items behind a list, one after the other. -/
def pushAll (items more : List α) : List α :=
  more.foldl (push merge?) items

/-- One list behind another, where only the two items that meet may become one. -/
def meet (first second : List α) : List α :=
  match first.getLast?, second with
  | some last, next :: rest =>
    match merge? last next with
    | some merged => first.dropLast ++ merged :: rest
    | none => first ++ second
  | _, _ => first ++ second

/-- No two neighbours of a list merge. -/
def Apart (items : List α) : Prop :=
  items.IsChain fun first second => merge? first second = none

/-- Of three items in a row it does not matter which two are merged first, and what an item merges with does not change when it has merged on its other side. -/
structure Associative : Prop where
  merge_both {first second third left right : α} :
    merge? first second = some left → merge? second third = some right →
      ∃ merged, merge? left third = some merged ∧ merge? first right = some merged
  none_left {first second third left : α} :
    merge? first second = some left → merge? second third = none → merge? left third = none
  none_right {first second third right : α} :
    merge? second third = some right → merge? first second = none → merge? first right = none

variable {merge?}

@[simp] theorem push_nil (next : α) : push merge? [] next = [next] := rfl

theorem push_concat (items : List α) (last next : α) :
    push merge? (items ++ [last]) next = items ++ (merge? last next).elim [last, next] ([·]) := by
  induction items with
  | nil =>
    simp only [List.nil_append, push]
    cases merge? last next <;> rfl
  | cons first rest ih =>
    cases rest with
    | nil => exact congrArg (first :: ·) ih
    | cons second rest => exact congrArg (first :: ·) ih

theorem push_of_some {items : List α} {last next merged : α} (h : merge? last next = some merged) :
    push merge? (items ++ [last]) next = items ++ [merged] := by
  rw [push_concat, h]
  rfl

theorem push_of_none {items : List α} {last next : α} (h : merge? last next = none) :
    push merge? (items ++ [last]) next = items ++ [last] ++ [next] := by
  rw [push_concat, h]
  simp

theorem push_eq_append {next : α} (h : ∀ last, merge? last next = none) (items : List α) :
    push merge? items next = items ++ [next] := by
  rcases items.eq_nil_or_concat' with rfl | ⟨items, last, rfl⟩
  · rfl
  · exact push_of_none (h last)

/-- The last item after a push is the item that came or what it merged into. -/
theorem exists_last_push (items : List α) (next : α) :
    ∃ before last, push merge? items next = before ++ [last] ∧
      (last = next ∨ ∃ previous, merge? previous next = some last) := by
  rcases items.eq_nil_or_concat' with rfl | ⟨items, previous, rfl⟩
  · exact ⟨[], next, rfl, .inl rfl⟩
  · cases hmerge : merge? previous next with
    | none => exact ⟨items ++ [previous], next, push_of_none hmerge, .inl rfl⟩
    | some merged => exact ⟨items, merged, push_of_some hmerge, .inr ⟨previous, hmerge⟩⟩

theorem push_congr {other? : α → α → Option α} {next : α} (h : ∀ last, merge? last next = other? last next)
    (items : List α) : push merge? items next = push other? items next := by
  rcases items.eq_nil_or_concat' with rfl | ⟨items, last, rfl⟩
  · rfl
  · rw [push_concat, push_concat, h]

@[simp] theorem pushAll_nil (items : List α) : pushAll merge? items [] = items := rfl

@[simp] theorem pushAll_cons (items : List α) (next : α) (more : List α) :
    pushAll merge? items (next :: more) = pushAll merge? (push merge? items next) more := rfl

theorem pushAll_append (items more others : List α) :
    pushAll merge? items (more ++ others) = pushAll merge? (pushAll merge? items more) others :=
  List.foldl_append

/-! ### What merging keeps -/

theorem forall_mem_push {holds : α → Prop}
    (hmerge : ∀ {first second merged}, merge? first second = some merged → holds first → holds second → holds merged)
    {items : List α} {next : α} (hitems : ∀ item ∈ items, holds item) (hnext : holds next) :
    ∀ item ∈ push merge? items next, holds item := by
  rcases items.eq_nil_or_concat' with rfl | ⟨items, last, rfl⟩
  · simpa using hnext
  · rw [List.forall_mem_append, List.forall_mem_singleton] at hitems
    cases hlast : merge? last next with
    | none =>
      rw [push_of_none hlast]
      simpa only [List.forall_mem_append, List.forall_mem_singleton] using ⟨hitems, hnext⟩
    | some merged =>
      rw [push_of_some hlast, List.forall_mem_append, List.forall_mem_singleton]
      exact ⟨hitems.1, hmerge hlast hitems.2 hnext⟩

theorem forall_mem_pushAll {holds : α → Prop}
    (hmerge : ∀ {first second merged}, merge? first second = some merged → holds first → holds second → holds merged)
    {items more : List α} (hitems : ∀ item ∈ items, holds item) (hmore : ∀ item ∈ more, holds item) :
    ∀ item ∈ pushAll merge? items more, holds item := by
  induction more generalizing items with
  | nil => exact hitems
  | cons next more ih =>
    obtain ⟨hnext, hmore⟩ := List.forall_mem_cons.1 hmore
    exact ih (forall_mem_push hmerge hitems hnext) hmore

theorem push_ne_nil (items : List α) (next : α) : push merge? items next ≠ [] := by
  rcases items.eq_nil_or_concat' with rfl | ⟨items, last, rfl⟩
  · simp
  · rw [push_concat]
    cases merge? last next <;> simp

theorem pushAll_ne_nil {items : List α} (h : items ≠ []) (more : List α) : pushAll merge? items more ≠ [] := by
  induction more generalizing items with
  | nil => exact h
  | cons next more ih => exact ih (push_ne_nil items next)

/-- What the items of a list hold between them does not change when items merge, if a merged item holds what its two parts hold. -/
theorem flatMap_pushAll {β : Type} {held : α → List β}
    (hmerge : ∀ {first second merged}, merge? first second = some merged → held merged = held first ++ held second)
    (items more : List α) : (pushAll merge? items more).flatMap held = items.flatMap held ++ more.flatMap held := by
  induction more generalizing items with
  | nil => simp
  | cons next more ih =>
    have hpush : (push merge? items next).flatMap held = items.flatMap held ++ held next := by
      rcases items.eq_nil_or_concat' with rfl | ⟨items, last, rfl⟩
      · simp
      · cases hlast : merge? last next with
        | none => simp [push_of_none hlast]
        | some merged => simp [push_of_some hlast, hmerge hlast]
    rw [pushAll_cons, ih, hpush, List.flatMap_cons, List.append_assoc]

/-! ### Associative merging -/

theorem push_push (h : Associative merge?) {last next merged : α} (hmerge : merge? last next = some merged)
    (items : List α) : push merge? (push merge? items last) next = push merge? items merged := by
  rcases items.eq_nil_or_concat' with rfl | ⟨items, before, rfl⟩
  · change push merge? ([] ++ [last]) next = [] ++ [merged]
    exact push_of_some hmerge
  · cases hbefore : merge? before last with
    | none =>
      rw [push_of_none hbefore, push_of_some hmerge, push_of_none (h.none_right hmerge hbefore)]
    | some left =>
      obtain ⟨whole, hleft, hright⟩ := h.merge_both hbefore hmerge
      rw [push_of_some hbefore, push_of_some hleft, push_of_some hright]

theorem pushAll_push (h : Associative merge?) (items more : List α) (next : α) :
    pushAll merge? items (push merge? more next) = push merge? (pushAll merge? items more) next := by
  rcases more.eq_nil_or_concat' with rfl | ⟨more, last, rfl⟩
  · rfl
  · cases hmerge : merge? last next with
    | none =>
      rw [push_of_none hmerge, pushAll_append]
      rfl
    | some merged =>
      rw [push_of_some hmerge, pushAll_append, pushAll_append]
      exact (push_push h hmerge _).symm

theorem pushAll_assoc (h : Associative merge?) (items more others : List α) :
    pushAll merge? (pushAll merge? items more) others = pushAll merge? items (pushAll merge? more others) := by
  induction others generalizing more with
  | nil => rfl
  | cons next others ih => rw [pushAll_cons, pushAll_cons, ← ih, pushAll_push h]

/-- What a list gives as a whole, if there is something in it. -/
def gathered {ε : Type} (gather : List ε → α) (entries : List ε) : List α :=
  if entries.isEmpty then [] else [gather entries]

/-- A list may be gathered as a whole or in two parts, if the two parts become one. -/
theorem pushAll_gathered_append {ε : Type} (h : Associative merge?) {gather : List ε → α}
    (hgather : ∀ first second, merge? (gather first) (gather second) = some (gather (first ++ second)))
    (items : List α) (first second : List ε) :
    pushAll merge? items (gathered gather first ++ gathered gather second) =
      pushAll merge? items (gathered gather (first ++ second)) := by
  cases first with
  | nil => rfl
  | cons entry rest =>
    cases second with
    | nil => rw [List.append_nil, show gathered gather [] = [] from rfl, List.append_nil]
    | cons other more => exact push_push h (hgather (entry :: rest) (other :: more)) items

/-! ### Neighbours that stay apart -/

theorem apart_push (h : Associative merge?) {items : List α} (hitems : Apart merge? items) (next : α) :
    Apart merge? (push merge? items next) := by
  rcases items.eq_nil_or_concat' with rfl | ⟨items, last, rfl⟩
  · exact List.isChain_singleton next
  · cases hmerge : merge? last next with
    | none =>
      rw [push_of_none hmerge]
      refine isChain_concat_iff.2 ⟨hitems, ?_⟩
      intro before hbefore
      rw [List.getLast?_concat] at hbefore
      cases hbefore
      exact hmerge
    | some merged =>
      obtain ⟨hbefore, hseam⟩ := isChain_concat_iff.1 hitems
      rw [push_of_some hmerge]
      exact isChain_concat_iff.2 ⟨hbefore, fun before hlast => h.none_right hmerge (hseam before hlast)⟩

theorem apart_pushAll (h : Associative merge?) {items : List α} (hitems : Apart merge? items) (more : List α) :
    Apart merge? (pushAll merge? items more) := by
  induction more generalizing items with
  | nil => exact hitems
  | cons next more ih => exact ih (apart_push h hitems next)

theorem pushAll_of_apart {last : α} {more : List α} (hmore : Apart merge? (last :: more)) (items : List α) :
    pushAll merge? (items ++ [last]) more = items ++ last :: more := by
  induction more generalizing items last with
  | nil => rfl
  | cons next more ih =>
    obtain ⟨hseam, hmore⟩ := List.isChain_cons_cons.1 hmore
    rw [pushAll_cons, push_of_none hseam, ih hmore]
    simp

/-- An item that does not merge with anything behind it stays in front. -/
theorem pushAll_singleton (h : Associative merge?) {first : α} {more : List α}
    (hfirst : ∀ next ∈ pushAll merge? [] more, merge? first next = none) :
    pushAll merge? [first] more = first :: pushAll merge? [] more := by
  have hassoc : pushAll merge? [first] more = pushAll merge? [first] (pushAll merge? [] more) :=
    pushAll_assoc h [first] [] more
  have hapart : Apart merge? (first :: pushAll merge? [] more) := by
    refine List.isChain_cons.2 ⟨?_, apart_pushAll h List.isChain_nil more⟩
    exact fun next hnext => hfirst next (List.mem_of_mem_head? hnext)
  rw [hassoc]
  exact pushAll_of_apart hapart []

theorem meet_concat_cons (items : List α) (last next : α) (more : List α) :
    meet merge? (items ++ [last]) (next :: more) =
      (merge? last next).elim (items ++ last :: next :: more) (items ++ · :: more) := by
  simp only [meet, List.getLast?_concat, List.dropLast_concat]
  cases merge? last next <;> simp

/-- Putting the items of a list whose neighbours stay apart behind another list changes nothing but what meets in the middle. -/
theorem pushAll_eq_meet (h : Associative merge?) (items : List α) {more : List α} (hmore : Apart merge? more) :
    pushAll merge? items more = meet merge? items more := by
  cases more with
  | nil => cases hlast : items.getLast? <;> simp [meet, hlast]
  | cons next more =>
    rcases items.eq_nil_or_concat' with rfl | ⟨items, last, rfl⟩
    · exact pushAll_of_apart hmore []
    · rw [pushAll_cons, meet_concat_cons]
      cases hmerge : merge? last next with
      | none =>
        rw [push_of_none hmerge, pushAll_of_apart hmore]
        simp
      | some merged =>
        have hmerged : Apart merge? (merged :: more) := by
          refine List.isChain_cons.2 ⟨?_, hmore.tail⟩
          intro second hsecond
          exact h.none_left hmerge ((List.isChain_cons.1 hmore).1 second hsecond)
        rw [push_of_some hmerge, pushAll_of_apart hmerged]
        rfl

theorem meet_congr {other? : α → α → Option α} {second : List α}
    (h : ∀ last next, next ∈ second.head? → merge? last next = other? last next) (first : List α) :
    meet merge? first second = meet other? first second := by
  rcases first.eq_nil_or_concat' with rfl | ⟨items, last, rfl⟩
  · cases second <;> rfl
  · cases second with
    | nil => simp [meet]
    | cons next rest => rw [meet_concat_cons, meet_concat_cons, h last next rfl]

theorem exists_seam (first second : List α) :
    ∃ seam, meet merge? first second = first.dropLast ++ seam ++ second.tail := by
  rcases first.eq_nil_or_concat' with rfl | ⟨items, last, rfl⟩
  · exact ⟨second.head?.toList, by cases second <;> simp [meet]⟩
  · cases second with
    | nil => exact ⟨[last], by simp [meet]⟩
    | cons next rest =>
      cases hmerge : merge? last next with
      | none => exact ⟨[last, next], by simp [meet_concat_cons, hmerge]⟩
      | some merged => exact ⟨[merged], by simp [meet_concat_cons, hmerge]⟩

/-! ### Runs -/

section Runs

variable {ε : Type} (joins : ε → ε → Bool) (gather : ε → List ε → α)

/-- What a run of items gives as a whole. -/
def ofRun : List ε → Option α
  | [] => none
  | first :: rest => some (gather first rest)

/-- Cuts a list into maximal runs of items that join and gives one result for each run. -/
def ofRuns (items : List ε) : List α :=
  (items.splitBy joins).filterMap (ofRun gather)

variable {joins gather}

theorem exists_last_run (joins : ε → ε → Bool) (items : List ε) (next : ε) :
    ∃ before first rest, items ++ [next] = before ++ first :: rest ∧
      (first :: rest).IsChain (fun left right => joins left right) ∧
      ∀ last ∈ before.getLast?, joins last first = false := by
  induction items using List.reverseRecOn generalizing next with
  | nil => exact ⟨[], next, [], rfl, List.isChain_singleton next, by simp⟩
  | append_singleton items last ih =>
    cases hjoins : joins last next with
    | false => exact ⟨items ++ [last], next, [], rfl, List.isChain_singleton next, by simpa using hjoins⟩
    | true =>
      obtain ⟨before, first, rest, hsplit, hchain, hbefore⟩ := ih last
      refine ⟨before, first, rest ++ [next], by rw [hsplit]; simp, ?_, hbefore⟩
      have hlast : (first :: rest).getLast? = some last := by
        have hends := congrArg List.getLast? hsplit
        rw [List.getLast?_concat, List.getLast?_append_cons] at hends
        exact hends.symm
      refine isChain_concat_iff.2 ⟨hchain, ?_⟩
      intro left hleft
      rw [hlast] at hleft
      cases hleft
      exact hjoins

theorem ofRuns_append_run {before rest : List ε} {first : ε}
    (hchain : (first :: rest).IsChain (fun left right => joins left right))
    (hbefore : ∀ last ∈ before.getLast?, joins last first = false) :
    ofRuns joins gather (before ++ first :: rest) = ofRuns joins gather before ++ [gather first rest] := by
  rw [ofRuns, ofRuns, List.splitBy_append_cons rest hbefore,
    List.splitBy_of_isChain (List.cons_ne_nil first rest) hchain, List.filterMap_append]
  rfl

/-- What single items give, put together one after the other, is what their maximal runs give. -/
theorem pushAll_singles
    (hmerge : ∀ first rest last next, (first :: rest).IsChain (fun left right => joins left right) →
      last ∈ (first :: rest).getLast? →
      merge? (gather first rest) (gather next []) =
        if joins last next then some (gather first (rest ++ [next])) else none)
    (items : List ε) : pushAll merge? [] (items.map (gather · [])) = ofRuns joins gather items := by
  induction items using List.reverseRecOn with
  | nil => rfl
  | append_singleton items next ih =>
    rw [List.map_append, pushAll_append, ih, List.map_singleton, pushAll_cons, pushAll_nil]
    rcases items.eq_nil_or_concat' with rfl | ⟨items, last, rfl⟩
    · rfl
    · obtain ⟨before, first, rest, hsplit, hchain, hbefore⟩ := exists_last_run joins items last
      obtain ⟨last, hlast⟩ : ∃ last, last ∈ (first :: rest).getLast? :=
        ⟨_, List.getLast?_eq_getLast_of_ne_nil (List.cons_ne_nil first rest)⟩
      rw [hsplit, ofRuns_append_run hchain hbefore]
      have hstep := hmerge first rest last next hchain hlast
      cases hjoins : joins last next with
      | false =>
        have hnext : ∀ left ∈ (before ++ first :: rest).getLast?, joins left next = false := by
          intro left hleft
          rw [List.getLast?_append_cons, hlast] at hleft
          cases hleft
          exact hjoins
        rw [hjoins, if_neg Bool.false_ne_true] at hstep
        rw [push_of_none hstep, ofRuns_append_run (List.isChain_singleton next) hnext, ofRuns_append_run hchain hbefore]
      | true =>
        have hlonger : (first :: (rest ++ [next])).IsChain (fun left right => joins left right) := by
          refine isChain_concat_iff.2 ⟨hchain, ?_⟩
          intro left hleft
          rw [hlast] at hleft
          cases hleft
          exact hjoins
        rw [hjoins, if_pos rfl] at hstep
        rw [push_of_some hstep, List.append_assoc, List.cons_append, ofRuns_append_run hlonger hbefore]

end Runs

end Outlining.TailMerge

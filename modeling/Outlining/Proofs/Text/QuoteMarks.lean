import Mathlib.Data.List.Induction
import Outlining.Text.QuoteMarks

/-!
# What stripping quote marks leaves

A text is marks, then what stripping leaves, then marks again, and what is left neither begins nor ends with a mark. A text can be cut like that in one way only, unless a backslash stands in front of a double quote where the marks behind begin: that is half of a mark, or the end of what is left. Stripping takes it for half of a mark (`strip_eq_iff_cut`).
-/

namespace Outlining.QuoteMarks

/-- The marks that may surround a text. -/
def marks : List (List Char) :=
  [['"'], ['\''], ['\\', '"']]

/-- A text is marks put one behind the other. -/
def OnlyMarks (text : List Char) : Prop :=
  ∃ pieces : List (List Char), (∀ piece ∈ pieces, piece ∈ marks) ∧ text = pieces.flatten

/-- A text neither begins nor ends with a mark. -/
def Unmarked (text : List Char) : Prop :=
  ∀ mark ∈ marks, ¬mark <+: text ∧ ¬mark <:+ text

/-- A text ends with a backslash, and the marks behind it begin with a double quote. -/
def CutsMark (text back : List Char) : Prop :=
  text.getLast? = some '\\' ∧ back.head? = some '"'

theorem mem_marks_iff {mark : List Char} : mark ∈ marks ↔ mark = ['"'] ∨ mark = ['\''] ∨ mark = ['\\', '"'] := by
  simp [marks]

theorem double_mem_marks : ['"'] ∈ marks := by simp [marks]

theorem single_mem_marks : ['\''] ∈ marks := by simp [marks]

theorem escaped_mem_marks : ['\\', '"'] ∈ marks := by simp [marks]

theorem onlyMarks_nil : OnlyMarks [] :=
  ⟨[], nofun, rfl⟩

theorem OnlyMarks.mark_append {mark text : List Char} (hmark : mark ∈ marks) (h : OnlyMarks text) :
    OnlyMarks (mark ++ text) := by
  obtain ⟨pieces, hpieces, rfl⟩ := h
  exact ⟨mark :: pieces, List.forall_mem_cons.2 ⟨hmark, hpieces⟩, rfl⟩

theorem OnlyMarks.append_mark {mark text : List Char} (h : OnlyMarks text) (hmark : mark ∈ marks) :
    OnlyMarks (text ++ mark) := by
  obtain ⟨pieces, hpieces, rfl⟩ := h
  refine ⟨pieces ++ [mark], ?_, by simp⟩
  intro piece hpiece
  rcases List.mem_append.1 hpiece with h | h
  · exact hpieces piece h
  · exact List.mem_singleton.1 h ▸ hmark

/-- Every mark ends with a quote. -/
theorem getLast?_append_mark_ne {mark : List Char} (hmark : mark ∈ marks) (text : List Char) :
    (text ++ mark).getLast? ≠ some '\\' := by
  obtain rfl | rfl | rfl := mem_marks_iff.1 hmark <;> simp

/-! ### The front -/

theorem exists_mark_append_eq {mark text rest : List Char} (hmark : mark ∈ marks)
    (h : ∃ front, OnlyMarks front ∧ text = front ++ rest) :
    ∃ front, OnlyMarks front ∧ mark ++ text = front ++ rest := by
  obtain ⟨front, hfront, rfl⟩ := h
  exact ⟨mark ++ front, hfront.mark_append hmark, (List.append_assoc _ _ _).symm⟩

theorem exists_eq_append_dropLeading (text : List Char) : ∃ front, OnlyMarks front ∧ text = front ++ dropLeading text := by
  fun_induction dropLeading text with
  | case1 rest ih => exact exists_mark_append_eq escaped_mem_marks ih
  | case2 rest ih => exact exists_mark_append_eq double_mem_marks ih
  | case3 rest ih => exact exists_mark_append_eq single_mem_marks ih
  | case4 rest => exact ⟨[], onlyMarks_nil, rfl⟩

theorem not_isPrefix_dropLeading {mark : List Char} (hmark : mark ∈ marks) (text : List Char) :
    ¬mark <+: dropLeading text := by
  fun_induction dropLeading text with
  | case1 rest ih => exact ih
  | case2 rest ih => exact ih
  | case3 rest ih => exact ih
  | case4 rest hescaped hdouble hsingle =>
    rintro ⟨more, rfl⟩
    obtain rfl | rfl | rfl := mem_marks_iff.1 hmark
    · exact hdouble more rfl
    · exact hsingle more rfl
    · exact hescaped more rfl

theorem dropLeading_of_not_isPrefix {text : List Char} (h : ∀ mark ∈ marks, ¬mark <+: text) : dropLeading text = text := by
  rw [dropLeading]
  · rintro rest rfl
    exact h _ escaped_mem_marks ⟨rest, rfl⟩
  · rintro rest rfl
    exact h _ double_mem_marks ⟨rest, rfl⟩
  · rintro rest rfl
    exact h _ single_mem_marks ⟨rest, rfl⟩

theorem dropLeading_mark_append {mark : List Char} (hmark : mark ∈ marks) (text : List Char) :
    dropLeading (mark ++ text) = dropLeading text := by
  obtain rfl | rfl | rfl := mem_marks_iff.1 hmark <;> rfl

theorem dropLeading_append {front : List Char} (hfront : OnlyMarks front) (text : List Char) :
    dropLeading (front ++ text) = dropLeading text := by
  obtain ⟨pieces, hpieces, rfl⟩ := hfront
  induction pieces with
  | nil => rfl
  | cons piece more ih =>
    rw [List.forall_mem_cons] at hpieces
    rw [List.flatten_cons, List.append_assoc, dropLeading_mark_append hpieces.1, ih hpieces.2]

/-! ### The end -/

/-- A text is cut in front of marks at its end, and no mark is cut. -/
def CutsBehind (text inner back : List Char) : Prop :=
  OnlyMarks back ∧ text = inner ++ back ∧ ¬CutsMark inner back

theorem CutsBehind.append_mark {text inner back mark : List Char} (h : CutsBehind text inner back) (hmark : mark ∈ marks)
    (hcut : ¬CutsMark text mark) : CutsBehind (text ++ mark) inner (back ++ mark) := by
  obtain ⟨hback, rfl, hinner⟩ := h
  refine ⟨hback.append_mark hmark, List.append_assoc _ _ _, ?_⟩
  rintro ⟨hlast, hhead⟩
  cases back with
  | nil =>
    rw [List.append_nil] at hcut
    exact hcut ⟨hlast, hhead⟩
  | cons c rest => exact hinner ⟨hlast, hhead⟩

theorem exists_cutsBehind_dropTrailingReversed (reversed : List Char) :
    ∃ back, CutsBehind reversed.reverse (dropTrailingReversed reversed).reverse back := by
  fun_induction dropTrailingReversed reversed with
  | case1 rest ih =>
    obtain ⟨back, hback⟩ := ih
    have hstep := hback.append_mark escaped_mem_marks (by simp [CutsMark])
    exact ⟨_, by simpa using hstep⟩
  | case2 rest hescaped ih =>
    obtain ⟨back, hback⟩ := ih
    have hcut : ¬CutsMark rest.reverse ['"'] := by
      rintro ⟨hlast, -⟩
      obtain ⟨more, hmore⟩ := List.head?_eq_some_iff.1 (by simpa using hlast)
      exact hescaped more hmore
    have hstep := hback.append_mark double_mem_marks hcut
    exact ⟨_, by simpa using hstep⟩
  | case3 rest ih =>
    obtain ⟨back, hback⟩ := ih
    have hstep := hback.append_mark single_mem_marks (by simp [CutsMark])
    exact ⟨_, by simpa using hstep⟩
  | case4 rest => exact ⟨[], onlyMarks_nil, by simp, by simp [CutsMark]⟩

theorem exists_cutsBehind_dropTrailing (text : List Char) : ∃ back, CutsBehind text (dropTrailing text) back := by
  obtain ⟨back, hback⟩ := exists_cutsBehind_dropTrailingReversed text.reverse
  exact ⟨back, by rwa [List.reverse_reverse] at hback⟩

theorem not_isSuffix_dropTrailing {mark : List Char} (hmark : mark ∈ marks) (text : List Char) :
    ¬mark <:+ dropTrailing text := by
  rw [dropTrailing, ← List.reverse_prefix, List.reverse_reverse]
  generalize text.reverse = reversed
  fun_induction dropTrailingReversed reversed with
  | case1 rest ih => exact ih
  | case2 rest hescaped ih => exact ih
  | case3 rest ih => exact ih
  | case4 rest hescaped hdouble hsingle =>
    rintro ⟨more, rfl⟩
    obtain rfl | rfl | rfl := mem_marks_iff.1 hmark
    · exact hdouble more rfl
    · exact hsingle more rfl
    · exact hescaped more rfl

theorem dropTrailing_of_not_isSuffix {text : List Char} (h : ∀ mark ∈ marks, ¬mark <:+ text) :
    dropTrailing text = text := by
  obtain ⟨back, ⟨pieces, hpieces, rfl⟩, htext, -⟩ := exists_cutsBehind_dropTrailing text
  cases pieces using List.reverseRecOn with
  | nil => simpa using htext.symm
  | append_singleton front last =>
    rw [List.flatten_append, List.flatten_singleton, ← List.append_assoc] at htext
    exact absurd ⟨_, htext.symm⟩ (h last (hpieces last (by simp)))

theorem dropTrailing_append_mark {text mark : List Char} (hmark : mark ∈ marks) (hcut : ¬CutsMark text mark) :
    dropTrailing (text ++ mark) = dropTrailing text := by
  obtain rfl | rfl | rfl := mem_marks_iff.1 hmark
  · rw [dropTrailing, dropTrailing, List.reverse_append, List.reverse_singleton, List.singleton_append,
      dropTrailingReversed]
    intro rest hrest
    refine hcut ⟨?_, rfl⟩
    rw [List.getLast?_eq_head?_reverse, hrest]
    rfl
  · simp [dropTrailing, dropTrailingReversed]
  · simp [dropTrailing, dropTrailingReversed]

theorem dropTrailing_append {text back : List Char} (hback : OnlyMarks back) (hcut : ¬CutsMark text back) :
    dropTrailing (text ++ back) = dropTrailing text := by
  obtain ⟨pieces, hpieces, rfl⟩ := hback
  induction pieces using List.reverseRecOn with
  | nil => rw [List.flatten_nil, List.append_nil]
  | append_singleton front last ih =>
    have hlast : last ∈ marks := hpieces last (by simp)
    have hfront : ∀ piece ∈ front, piece ∈ marks := fun piece hpiece => hpieces piece (List.mem_append_left _ hpiece)
    rw [List.flatten_append, List.flatten_singleton] at hcut ⊢
    rw [← List.append_assoc, dropTrailing_append_mark hlast, ih hfront]
    · rintro ⟨hend, hhead⟩
      exact hcut ⟨hend, by simp [List.head?_append, hhead]⟩
    · -- In front of the last mark stands the text itself or another mark, and no mark ends with a backslash.
      rintro ⟨hend, hhead⟩
      cases front using List.reverseRecOn with
      | nil => exact hcut ⟨by simpa using hend, hhead⟩
      | append_singleton earlier before =>
        rw [List.flatten_append, List.flatten_singleton, ← List.append_assoc] at hend
        exact getLast?_append_mark_ne (hfront before (by simp)) _ hend

/-! ### Both ends -/

theorem unmarked_strip (text : List Char) : Unmarked (dropTrailing (dropLeading text)) := by
  intro mark hmark
  obtain ⟨back, -, hback, -⟩ := exists_cutsBehind_dropTrailing (dropLeading text)
  refine ⟨fun hfront => ?_, not_isSuffix_dropTrailing hmark _⟩
  refine not_isPrefix_dropLeading hmark text ?_
  rw [hback]
  exact hfront.trans (List.prefix_append _ _)

/-- Marks behind a text do not make it begin with a mark, unless they complete one. -/
theorem dropLeading_append_of_unmarked {text back : List Char} (htext : Unmarked text) (hne : text ≠ [])
    (hcut : ¬CutsMark text back) : dropLeading (text ++ back) = text ++ back := by
  obtain ⟨c, rest, rfl⟩ := List.exists_cons_of_ne_nil hne
  refine dropLeading_of_not_isPrefix fun mark hmark hfront => (htext mark hmark).1 ?_
  obtain rfl | rfl | rfl := mem_marks_iff.1 hmark
  · simpa using hfront
  · simpa using hfront
  · cases rest with
    | nil =>
      obtain ⟨rfl, more, rfl⟩ := by simpa [List.cons_prefix_cons] using hfront
      exact absurd ⟨rfl, rfl⟩ hcut
    | cons next rest => simpa [List.cons_prefix_cons] using hfront

theorem dropTrailing_dropLeading_append {front text back : List Char} (hfront : OnlyMarks front) (htext : Unmarked text)
    (hback : OnlyMarks back) (hcut : ¬CutsMark text back) :
    dropTrailing (dropLeading (front ++ (text ++ back))) = text := by
  rw [dropLeading_append hfront]
  by_cases hne : text = []
  · have hnothing : dropLeading back = [] := by
      rw [← List.append_nil back, dropLeading_append hback, dropLeading]
      all_goals exact nofun
    rw [hne, List.nil_append, hnothing]
    rfl
  · rw [dropLeading_append_of_unmarked htext hne hcut, dropTrailing_append hback hcut]
    exact dropTrailing_of_not_isSuffix fun mark hmark => (htext mark hmark).2

theorem toList_strip (text : String) : (strip text).toList = dropTrailing (dropLeading text.toList) :=
  String.toList_ofList

theorem strip_append {front text back : String} (hfront : OnlyMarks front.toList) (htext : Unmarked text.toList)
    (hback : OnlyMarks back.toList) (hcut : ¬CutsMark text.toList back.toList) : strip (front ++ text ++ back) = text := by
  rw [← String.toList_inj, toList_strip, String.toList_append, String.toList_append, List.append_assoc]
  exact dropTrailing_dropLeading_append hfront htext hback hcut

theorem exists_eq_append_strip (text : String) :
    ∃ front back : String, OnlyMarks front.toList ∧ OnlyMarks back.toList ∧ text = front ++ strip text ++ back ∧
      ¬CutsMark (strip text).toList back.toList := by
  obtain ⟨front, hfront, htext⟩ := exists_eq_append_dropLeading text.toList
  obtain ⟨back, hback, hleft, hcut⟩ := exists_cutsBehind_dropTrailing (dropLeading text.toList)
  refine ⟨String.ofList front, String.ofList back, ?_, ?_, ?_, ?_⟩
  · rwa [String.toList_ofList]
  · rwa [String.toList_ofList]
  · rw [← String.toList_inj, String.toList_append, String.toList_append, toList_strip, String.toList_ofList,
      String.toList_ofList, List.append_assoc, ← hleft, ← htext]
  · rwa [toList_strip, String.toList_ofList]

theorem strip_of_unmarked {text : String} (h : Unmarked text.toList) : strip text = text := by
  have hcut : ¬CutsMark text.toList "".toList := by simp [CutsMark]
  simpa using @strip_append "" text "" onlyMarks_nil h onlyMarks_nil hcut

theorem strip_strip (text : String) : strip (strip text) = strip text :=
  strip_of_unmarked (by rw [toList_strip]; exact unmarked_strip text.toList)

/-- What stripping leaves is the text between marks that neither begins nor ends with a mark; of two ways to cut a backslash and a double quote where the marks behind begin, stripping takes the one that keeps them together. So a second stripping finds nothing left to take off. -/
theorem strip_eq_iff_cut :
    (∀ text inner : String, strip text = inner ↔
      Unmarked inner.toList ∧ ∃ front back : String, OnlyMarks front.toList ∧ OnlyMarks back.toList ∧
        text = front ++ inner ++ back ∧ ¬(inner.toList.getLast? = some '\\' ∧ back.toList.head? = some '"')) ∧
    ∀ text : String, strip (strip text) = strip text := by
  refine ⟨fun text inner => ⟨?_, ?_⟩, strip_strip⟩
  · rintro rfl
    exact ⟨by rw [toList_strip]; exact unmarked_strip text.toList, exists_eq_append_strip text⟩
  · rintro ⟨hinner, front, back, hfront, hback, rfl, hcut⟩
    exact strip_append hfront hinner hback hcut

end Outlining.QuoteMarks

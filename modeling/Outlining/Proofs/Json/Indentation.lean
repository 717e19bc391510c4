import Outlining.Proofs.Json.Reading

/-!
# The pretty layout inside containers

The pretty layout of a value that stands in containers is the layout it has by itself, moved to the right: the same spaces come behind every line break, and nothing else changes (`WellFormed.writeOnto_eq_indented`). It holds because every line break of a written value is one of the layout; strings have none, since they are escaped, and neither have numbers. So the text of an object is made of the texts of its members (`writeOnto_object`).
-/

namespace Outlining.Json

/-- A text with spaces put behind every line break. -/
def indented (width : Nat) (text : List Char) : List Char :=
  text.flatMap fun c => if c = '\n' then '\n' :: List.replicate width ' ' else [c]

theorem indented_append (width : Nat) (first second : List Char) :
    indented width (first ++ second) = indented width first ++ indented width second :=
  List.flatMap_append

theorem indented_cons_of_ne {c : Char} (h : c ≠ '\n') (width : Nat) (text : List Char) :
    indented width (c :: text) = c :: indented width text := by
  rw [indented, List.flatMap_cons, if_neg h]
  rfl

theorem indented_of_not_mem {text : List Char} (h : '\n' ∉ text) (width : Nat) : indented width text = text := by
  induction text with
  | nil => rfl
  | cons c rest ih =>
    rw [List.mem_cons, not_or] at h
    rw [indented_cons_of_ne (Ne.symm h.1), ih h.2]

theorem indented_line (extra depth : Nat) :
    indented (2 * extra) (Layout.pretty.line depth) = Layout.pretty.line (depth + extra) := by
  have hspaces : '\n' ∉ List.replicate (2 * depth) ' ' := by
    intro hmem
    exact absurd (List.eq_of_mem_replicate hmem) (by decide)
  have hwidth : 2 * (depth + extra) = 2 * extra + 2 * depth := by omega
  change '\n' :: List.replicate (2 * extra) ' ' ++ indented (2 * extra) (List.replicate (2 * depth) ' ') =
    newline (depth + extra)
  rw [indented_of_not_mem hspaces, newline, hwidth, ← List.replicate_append_replicate]
  rfl

/-! ### Line breaks of written values -/

theorem newline_not_mem_escaped (c : Char) : '\n' ∉ escaped c := by
  have hdigit : ∀ digit < 16, '\n' ≠ hexDigit digit := by decide
  unfold escaped
  split_ifs with hquote hbackslash hbackspace hformfeed hline hreturn htab hcontrol
  any_goals decide
  · have hhigh : c.toNat / 16 < 16 := by omega
    have hlow : c.toNat % 16 < 16 := by omega
    simp [hdigit _ hhigh, hdigit _ hlow]
  · rw [List.mem_singleton]
    exact Ne.symm hline

theorem newline_not_mem_quoted (text : String) : '\n' ∉ quoted text := by
  have htext : '\n' ∉ text.toList.flatMap escaped := by
    intro hmem
    obtain ⟨c, -, hc⟩ := List.mem_flatMap.1 hmem
    exact newline_not_mem_escaped c hc
  simp [quoted, htext]

theorem newline_not_mem_of_letters {text : List Char} (h : text.all Scanner.isLetter = true) : '\n' ∉ text := by
  intro hmem
  exact absurd (List.all_eq_true.1 h _ hmem) (by decide)

/-! ### Values in more containers -/

/-- Whether the text of a value keeps its shape when it stands in more containers, whatever follows it. -/
def Indents (value : Json String) : Prop :=
  ∀ (extra depth : Nat) (rest : List Char),
    indented (2 * extra) (Layout.pretty.writeOnto depth value rest) =
      Layout.pretty.writeOnto (depth + extra) value (indented (2 * extra) rest)

theorem indents_leaf {value : Json String} (text : List Char) (hline : '\n' ∉ text)
    (hwrite : ∀ depth rest, Layout.pretty.writeOnto depth value rest = text ++ rest) : Indents value := by
  intro extra depth rest
  rw [hwrite, hwrite, indented_append, indented_of_not_mem hline]

theorem indented_writeItemsOnto {items : List (Json String)} (h : ∀ item ∈ items, Indents item) (extra depth : Nat)
    (rest : List Char) :
    indented (2 * extra) (Layout.pretty.writeItemsOnto depth items rest) =
      Layout.pretty.writeItemsOnto (depth + extra) items (indented (2 * extra) rest) := by
  induction items with
  | nil => rfl
  | cons item more ih =>
    have hmore := ih fun other hother => h other (List.mem_cons_of_mem item hother)
    rw [Layout.writeItemsOnto, Layout.writeItemsOnto, List.cons_append, indented_cons_of_ne (by decide), indented_append,
      indented_line, h item List.mem_cons_self, hmore]
    rfl

theorem indented_member {value : Json String} (h : Indents value) (name : String) (extra depth : Nat) (rest : List Char) :
    indented (2 * extra) (Layout.pretty.line depth ++ quoted name ++ ':' :: Layout.pretty.space ++
        Layout.pretty.writeOnto depth value rest) =
      Layout.pretty.line (depth + extra) ++ quoted name ++ ':' :: Layout.pretty.space ++
        Layout.pretty.writeOnto (depth + extra) value (indented (2 * extra) rest) := by
  have hcolon : '\n' ∉ ':' :: Layout.pretty.space := by decide
  rw [indented_append, indented_append, indented_append, indented_line, indented_of_not_mem (newline_not_mem_quoted name),
    indented_of_not_mem hcolon, h]

theorem indented_writeMembersOnto {members : List (String × Json String)} (h : ∀ member ∈ members, Indents member.2)
    (extra depth : Nat) (rest : List Char) :
    indented (2 * extra) (Layout.pretty.writeMembersOnto depth members rest) =
      Layout.pretty.writeMembersOnto (depth + extra) members (indented (2 * extra) rest) := by
  induction members with
  | nil => rfl
  | cons member more ih =>
    obtain ⟨name, value⟩ := member
    have hvalue : Indents value := h (name, value) List.mem_cons_self
    have hmore := ih fun other hother => h other (List.mem_cons_of_mem _ hother)
    rw [Layout.writeMembersOnto, Layout.writeMembersOnto, List.cons_append, List.cons_append, List.cons_append,
      indented_cons_of_ne (by decide), indented_member hvalue, hmore]
    rfl

theorem WellFormed.indents {value : Json String} (h : value.WellFormed) : Indents value := by
  induction h with
  | null => exact indents_leaf "null".toList (by decide) fun _ _ => rfl
  | bool value =>
    cases value
    · exact indents_leaf "false".toList (by decide) fun _ _ => rfl
    · exact indents_leaf "true".toList (by decide) fun _ _ => rfl
  | @number literal h =>
    exact indents_leaf _ (newline_not_mem_of_letters (Scanner.letters_of_isNumber h)) fun _ _ => rfl
  | string text => exact indents_leaf _ (newline_not_mem_quoted text) fun _ _ => rfl
  | @array items hitems ih =>
    cases items with
    | nil => exact indents_leaf "[]".toList (by decide) fun _ _ => rfl
    | cons item more =>
      intro extra depth rest
      have hmore := indented_writeItemsOnto (fun other hother => ih other (List.mem_cons_of_mem item hother)) extra (depth + 1)
      rw [Layout.writeOnto, Layout.writeOnto, List.cons_append, indented_cons_of_ne (by decide), indented_append,
        indented_line, ih item List.mem_cons_self, hmore, indented_append, indented_line,
        indented_cons_of_ne (by decide), Nat.add_right_comm]
      rfl
  | @object members hnames hmembers ih =>
    cases members with
    | nil => exact indents_leaf "\x7b\x7d".toList (by decide) fun _ _ => rfl
    | cons member more =>
      intro extra depth rest
      obtain ⟨name, value⟩ := member
      have hvalue : Indents value := ih (name, value) List.mem_cons_self
      have hmore := indented_writeMembersOnto (fun other hother => ih other (List.mem_cons_of_mem _ hother)) extra (depth + 1)
      rw [Layout.writeOnto, Layout.writeOnto, List.cons_append, List.cons_append, List.cons_append,
        indented_cons_of_ne (by decide), indented_member hvalue, hmore, indented_append, indented_line,
        indented_cons_of_ne (by decide), Nat.add_right_comm]
      rfl

/-- The pretty text of a value in more containers is its own text with spaces behind every line break. -/
theorem WellFormed.writeOnto_eq_indented {value : Json String} (h : value.WellFormed) (depth : Nat) :
    Layout.pretty.writeOnto depth value [] = indented (2 * depth) value.pretty.toList := by
  rw [toList_pretty, h.indents, Nat.zero_add]
  rfl

/-! ### Texts of objects -/

/-- A member on its own line inside `depth` containers, from its name and the text of its value. -/
def memberLine (depth : Nat) (member : String × List Char) : List Char :=
  newline depth ++ quoted member.1 ++ ':' :: ' ' :: member.2

/-- The text of an object inside `depth` containers: every member on a line of its own, behind a comma unless it is the first. -/
def objectText (depth : Nat) : List (String × List Char) → List Char
  | [] => ['\x7b', '\x7d']
  | first :: more =>
    '\x7b' :: memberLine (depth + 1) first ++ more.flatMap (fun member => ',' :: memberLine (depth + 1) member) ++
      newline depth ++ ['\x7d']

theorem writeMembersOnto_eq_flatMap (members : List (String × Json String)) (depth : Nat) (rest : List Char) :
    Layout.pretty.writeMembersOnto depth members rest =
      members.flatMap (fun member => ',' :: memberLine depth (member.1, Layout.pretty.writeOnto depth member.2 [])) ++
        rest := by
  induction members with
  | nil => rfl
  | cons member more ih =>
    obtain ⟨name, value⟩ := member
    rw [Layout.writeMembersOnto, ih, Layout.writeOnto_eq_append]
    simp [memberLine, Layout.pretty]

/-- The text of an object is made of the texts of its members, each as it stands in one container more. -/
theorem writeOnto_object (members : List (String × Json String)) (depth : Nat) :
    Layout.pretty.writeOnto depth (.object members) [] =
      objectText depth (members.map fun member => (member.1, Layout.pretty.writeOnto (depth + 1) member.2 [])) := by
  cases members with
  | nil => rfl
  | cons member more =>
    obtain ⟨name, value⟩ := member
    rw [Layout.writeOnto, writeMembersOnto_eq_flatMap, Layout.writeOnto_eq_append]
    simp [objectText, memberLine, Layout.pretty, List.flatMap_map]

example : objectText 0 [("a", ['1']), ("b", indented 2 "[\n  2\n]".toList)] =
    "\x7b\n  \"a\": 1,\n  \"b\": [\n    2\n  ]\n\x7d".toList := by
  decide

end Outlining.Json

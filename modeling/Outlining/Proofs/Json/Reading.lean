import Outlining.Proofs.Json.Grammar

/-!
# Reading written values

A value whose numbers are spelled as numbers is read back from its text, whichever layout it was written in (`read?_pretty`, `read?_compact`). Between text and value stand the tokens: scanning the text finds exactly the tokens of the value (`run_writeOnto`), which are those that the value is read from (`tokens_map_some`). So no two values have the same text.
-/

namespace Outlining.Json

/-- Numbers are spelled as numbers, and no object repeats a member name, at any depth. -/
inductive WellFormed : Json String → Prop
  | null : WellFormed .null
  | bool (value : Bool) : WellFormed (.bool value)
  | number {literal : String} (h : isNumber literal.toList = true) : WellFormed (.number literal)
  | string (text : String) : WellFormed (.string text)
  | array {items : List (Json String)} (hitems : ∀ item ∈ items, WellFormed item) : WellFormed (.array items)
  | object {members : List (String × Json String)} (hnames : (members.map Prod.fst).Nodup)
      (hmembers : ∀ member ∈ members, WellFormed member.2) : WellFormed (.object members)

theorem wellFormed_ofTexts (texts : List String) : (ofTexts texts).WellFormed := by
  refine .array ?_
  intro item hitem
  obtain ⟨text, -, rfl⟩ := List.mem_map.1 hitem
  exact .string text

/-! ### The tokens of a value -/

mutual

def tokens : Json String → List Token
  | .null => [.null]
  | .bool value => [.bool value]
  | .number literal => [.number literal]
  | .string text => [.string (some text)]
  | .array [] => [.beginArray, .endArray]
  | .array (item :: more) => .beginArray :: item.tokens ++ itemTokens more ++ [.endArray]
  | .object [] => [.beginObject, .endObject]
  | .object ((name, value) :: more) =>
    .beginObject :: .string (some name) :: .colon :: value.tokens ++ memberTokens more ++ [.endObject]

/-- The tokens of the items behind the first. -/
def itemTokens : List (Json String) → List Token
  | [] => []
  | item :: more => .comma :: item.tokens ++ itemTokens more

/-- The tokens of the members behind the first. -/
def memberTokens : List (String × Json String) → List Token
  | [] => []
  | (name, value) :: more => .comma :: .string (some name) :: .colon :: value.tokens ++ memberTokens more

end

/-! ### From text to tokens -/

section Scanning

open Scanner

variable {found : List Token} {layout : Layout} {depth : Nat}

theorem endsWord_writeItemsOnto (items : List (Json String)) {rest : List Char} (hrest : EndsWord rest) :
    EndsWord (layout.writeItemsOnto depth items rest) := by
  cases items with
  | nil => exact hrest
  | cons item more => exact endsWord_punctuation rfl _

theorem endsWord_writeMembersOnto (members : List (String × Json String)) {rest : List Char} (hrest : EndsWord rest) :
    EndsWord (layout.writeMembersOnto depth members rest) := by
  cases members with
  | nil => exact hrest
  | cons member more => exact endsWord_punctuation rfl _

/-- Whether a scanner finds the tokens of a value in its text, wherever the text stands. -/
def Scans (layout : Layout) (value : Json String) : Prop :=
  ∀ (depth : Nat) (found : List Token) (rest : List Char), EndsWord rest →
    run ⟨found, .nothing⟩ (layout.writeOnto depth value rest) = run ⟨value.tokens.reverse ++ found, .nothing⟩ rest

theorem run_writeItemsOnto {items : List (Json String)} (h : ∀ item ∈ items, Scans layout item) {rest : List Char}
    (hrest : EndsWord rest) :
    run ⟨found, .nothing⟩ (layout.writeItemsOnto depth items rest) =
      run ⟨(itemTokens items).reverse ++ found, .nothing⟩ rest := by
  induction items generalizing found with
  | nil => rfl
  | cons item more ih =>
    rw [Layout.writeItemsOnto, List.cons_append, run_punctuation rfl, run_blanks (layout.line_blank depth)]
    rw [h item List.mem_cons_self depth _ _ (endsWord_writeItemsOnto more hrest)]
    rw [ih fun other hother => h other (List.mem_cons_of_mem item hother)]
    simp [itemTokens]

theorem run_member {value : Json String} (h : Scans layout value) (name : String) {rest : List Char}
    (hrest : EndsWord rest) :
    run ⟨found, .nothing⟩ (quoted name ++ ':' :: (layout.space ++ layout.writeOnto depth value rest)) =
      run ⟨value.tokens.reverse ++ .colon :: .string (some name) :: found, .nothing⟩ rest := by
  rw [run_quoted, run_punctuation rfl, run_blanks layout.space_blank]
  exact h depth _ rest hrest

theorem run_writeMembersOnto {members : List (String × Json String)} (h : ∀ member ∈ members, Scans layout member.2)
    {rest : List Char} (hrest : EndsWord rest) :
    run ⟨found, .nothing⟩ (layout.writeMembersOnto depth members rest) =
      run ⟨(memberTokens members).reverse ++ found, .nothing⟩ rest := by
  induction members generalizing found with
  | nil => rfl
  | cons member more ih =>
    obtain ⟨name, value⟩ := member
    have hvalue : Scans layout value := h (name, value) List.mem_cons_self
    simp only [Layout.writeMembersOnto, List.cons_append, List.append_assoc]
    rw [run_punctuation rfl, run_blanks (layout.line_blank depth)]
    rw [run_member hvalue name (endsWord_writeMembersOnto more hrest)]
    rw [ih fun other hother => h other (List.mem_cons_of_mem _ hother)]
    simp [memberTokens]

theorem endsWord_close {c : Char} {token : Token} (h : punctuation? c = some token) (rest : List Char) :
    EndsWord (layout.line depth ++ c :: rest) :=
  endsWord_of_blanks (layout.line_blank depth) (endsWord_punctuation h rest)

theorem run_close {c : Char} {token : Token} (h : punctuation? c = some token) (rest : List Char) :
    run ⟨found, .nothing⟩ (layout.line depth ++ c :: rest) = run ⟨token :: found, .nothing⟩ rest := by
  rw [run_blanks (layout.line_blank depth), run_punctuation h]

/-- Scanning a written value finds its tokens, in front of anything that ends a word. -/
theorem run_writeOnto {value : Json String} (h : value.WellFormed) : Scans layout value := by
  induction h with
  | null => exact fun _ _ _ hrest => run_literal (by decide) (by decide) hrest
  | bool value =>
    cases value
    · exact fun _ _ _ hrest => run_literal (by decide) (by decide) hrest
    · exact fun _ _ _ hrest => run_literal (by decide) (by decide) hrest
  | @number literal h =>
    intro _ _ _ hrest
    have hword := word?_of_isNumber h
    rw [String.ofList_toList] at hword
    exact run_literal (letters_of_isNumber h) hword hrest
  | string text => exact fun _ _ rest _ => run_quoted text rest
  | @array items hitems ih =>
    intro depth found rest hrest
    cases items with
    | nil => rfl
    | cons item more =>
      have hitem : Scans layout item := ih item List.mem_cons_self
      have hmore : ∀ other ∈ more, Scans layout other := fun other hother => ih other (List.mem_cons_of_mem item hother)
      have hclose : EndsWord (layout.line depth ++ ']' :: rest) := endsWord_close rfl rest
      rw [Layout.writeOnto, List.cons_append, run_punctuation rfl, run_blanks (layout.line_blank _)]
      rw [hitem _ _ _ (endsWord_writeItemsOnto more hclose), run_writeItemsOnto hmore hclose, run_close rfl]
      simp [tokens]
  | @object members hnames hmembers ih =>
    intro depth found rest hrest
    cases members with
    | nil => rfl
    | cons member more =>
      obtain ⟨name, value⟩ := member
      have hvalue : Scans layout value := ih (name, value) List.mem_cons_self
      have hmore : ∀ other ∈ more, Scans layout other.2 :=
        fun other hother => ih other (List.mem_cons_of_mem _ hother)
      have hclose : EndsWord (layout.line depth ++ '\x7d' :: rest) := endsWord_close rfl rest
      simp only [Layout.writeOnto, List.cons_append, List.append_assoc]
      rw [run_punctuation rfl, run_blanks (layout.line_blank _)]
      rw [run_member hvalue name (endsWord_writeMembersOnto more hclose), run_writeMembersOnto hmore hclose,
        run_close rfl]
      simp [tokens]

end Scanning

/-! ### From tokens to value -/

mutual

/-- A value with a function applied to its strings and member names. -/
def map {α β : Type} (f : α → β) : Json α → Json β
  | .null => .null
  | .bool value => .bool value
  | .number literal => .number literal
  | .string text => .string (f text)
  | .array items => .array (mapItems f items)
  | .object members => .object (mapMembers f members)

def mapItems {α β : Type} (f : α → β) : List (Json α) → List (Json β)
  | [] => []
  | item :: more => item.map f :: mapItems f more

def mapMembers {α β : Type} (f : α → β) : List (α × Json α) → List (β × Json β)
  | [] => []
  | (name, value) :: more => (f name, value.map f) :: mapMembers f more

end

mutual

/-- A written value has the tokens of the value that it is read as. -/
theorem tokens_map_some (value : Json String) : Read.tokens (value.map some) = value.tokens := by
  cases value with
  | array items =>
    cases items with
    | nil => rfl
    | cons item more =>
      rw [map, mapItems, Read.tokens, Read.itemTokens, intercalate_cons, tokens_map_some item, itemTokens_map_some more]
      simp [tokens]
  | object members =>
    cases members with
    | nil => rfl
    | cons member more =>
      obtain ⟨name, value⟩ := member
      rw [map, mapMembers, Read.tokens, Read.memberTokens, intercalate_cons, tokens_map_some value,
        memberTokens_map_some more]
      simp [tokens]
  | _ => rfl
termination_by sizeOf value

theorem itemTokens_map_some (items : List (Json String)) :
    (Read.itemTokens (mapItems some items)).flatMap (.comma :: ·) = itemTokens items := by
  cases items with
  | nil => rfl
  | cons item more =>
    rw [mapItems, Read.itemTokens, List.flatMap_cons, tokens_map_some item, itemTokens_map_some more]
    simp [itemTokens]
termination_by sizeOf items

theorem memberTokens_map_some (members : List (String × Json String)) :
    (Read.memberTokens (mapMembers some members)).flatMap (.comma :: ·) = memberTokens members := by
  cases members with
  | nil => rfl
  | cons member more =>
    obtain ⟨name, value⟩ := member
    rw [mapMembers, Read.memberTokens, List.flatMap_cons, tokens_map_some value, memberTokens_map_some more]
    simp [memberTokens]
termination_by sizeOf members

end

/-! ### Reading back -/

theorem read?_of_toList {value : Json String} (h : value.WellFormed) (layout : Layout) {text : String}
    (htext : text.toList = layout.writeOnto 0 value []) : read? text = some (value.map some) := by
  have hend : Scanner.EndsWord [] := fun _ hfirst => absurd hfirst (by simp)
  have hscan : tokens? text.toList = some value.tokens := by
    rw [htext]
    refine (run_writeOnto h 0 [] [] hend).trans ?_
    simp [Scanner.run, Scanner.finish]
  rw [read?, hscan]
  have hread := Read.readValue_tokens (value.map some) [] []
  rw [tokens_map_some, List.append_nil] at hread
  exact hread

theorem read?_pretty {value : Json String} (h : value.WellFormed) : read? value.pretty = some (value.map some) :=
  read?_of_toList h .pretty (toList_pretty value)

theorem read?_compact {value : Json String} (h : value.WellFormed) : read? value.compact = some (value.map some) :=
  read?_of_toList h .compact (toList_compact value)

mutual

theorem getD_map_some (value : Json String) : (value.map some).map (·.getD "") = value := by
  cases value with
  | array items => simp only [map, getD_mapItems_some items]
  | object members => simp only [map, getD_mapMembers_some members]
  | _ => rfl
termination_by sizeOf value

theorem getD_mapItems_some (items : List (Json String)) : mapItems (·.getD "") (mapItems some items) = items := by
  cases items with
  | nil => rfl
  | cons item more => simp only [mapItems, getD_map_some item, getD_mapItems_some more]
termination_by sizeOf items

theorem getD_mapMembers_some (members : List (String × Json String)) :
    mapMembers (·.getD "") (mapMembers some members) = members := by
  cases members with
  | nil => rfl
  | cons member more =>
    obtain ⟨name, value⟩ := member
    simp only [mapMembers, getD_map_some value, getD_mapMembers_some more, Option.getD_some]
termination_by sizeOf members

end

theorem map_some_injective : Function.Injective (map some : Json String → Read) := by
  intro first second h
  rw [← getD_map_some first, ← getD_map_some second, h]

/-- No two values have the same text. -/
theorem eq_of_pretty_eq {first second : Json String} (hfirst : first.WellFormed) (hsecond : second.WellFormed)
    (h : first.pretty = second.pretty) : first = second := by
  have hread := read?_pretty hfirst
  rw [h, read?_pretty hsecond] at hread
  exact (map_some_injective (Option.some.inj hread)).symm

theorem eq_of_compact_eq {first second : Json String} (hfirst : first.WellFormed) (hsecond : second.WellFormed)
    (h : first.compact = second.compact) : first = second := by
  have hread := read?_compact hfirst
  rw [h, read?_compact hsecond] at hread
  exact (map_some_injective (Option.some.inj hread)).symm

end Outlining.Json

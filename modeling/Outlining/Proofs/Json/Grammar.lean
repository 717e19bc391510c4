import Outlining.Json.Reader
import Outlining.Proofs.Json.Spelling

/-!
# The grammar of values

The tokens of a value, whatever layout it is written in: brackets around items and members, and commas between them. Reading gives a value from its tokens (`Read.readValue_tokens`) and from no others (`Read.tokens_of_readValue`), so a text reads as a value exactly when it spells the tokens of that value (`Read.read?_eq_some_iff`).
-/

namespace Outlining.Json

/-- What holds of an array if it holds of its items, and of an object if it holds of the values of its members, holds of every value. -/
@[elab_as_elim]
theorem induction {Text : Type} {motive : Json Text → Prop} (null : motive .null) (bool : ∀ value, motive (.bool value))
    (number : ∀ literal, motive (.number literal)) (string : ∀ text, motive (.string text))
    (array : ∀ items, (∀ item ∈ items, motive item) → motive (.array items))
    (object : ∀ members, (∀ member ∈ members, motive member.2) → motive (.object members)) (value : Json Text) :
    motive value := by
  refine @Json.rec Text motive (fun items => ∀ item ∈ items, motive item)
    (fun members => ∀ member ∈ members, motive member.2) (fun member => motive member.2)
    null bool number string array object (by simp) ?_ (by simp) ?_ (fun _ _ h => h) value
  · exact fun item items hitem hitems => List.forall_mem_cons.2 ⟨hitem, hitems⟩
  · exact fun member members hmember hmembers => List.forall_mem_cons.2 ⟨hmember, hmembers⟩

/-! ### Commas between the parts -/

theorem intercalate_cons {mark : Token} {first : List Token} {more : List (List Token)} :
    [mark].intercalate (first :: more) = first ++ more.flatMap (mark :: ·) := by
  induction more generalizing first with
  | nil => simp
  | cons next more ih =>
    rw [List.intercalate_cons_cons, ih, List.flatMap_cons]
    simp

theorem intercalate_concat {mark : Token} {last : List Token} {front : List (List Token)} :
    [mark].intercalate (front ++ [last]) = front.flatMap (· ++ [mark]) ++ last := by
  induction front with
  | nil => simp
  | cons first front ih =>
    rw [List.flatMap_cons, List.append_assoc, ← ih]
    cases front <;> simp

/-! ### The tokens of a value -/

namespace Read

mutual

def tokens : Read → List Token
  | .null => [.null]
  | .bool value => [.bool value]
  | .number literal => [.number literal]
  | .string text => [.string text]
  | .array items => .beginArray :: ([.comma].intercalate (itemTokens items) ++ [.endArray])
  | .object members => .beginObject :: ([.comma].intercalate (memberTokens members) ++ [.endObject])

def itemTokens : List Read → List (List Token)
  | [] => []
  | item :: more => tokens item :: itemTokens more

def memberTokens : List (Option String × Read) → List (List Token)
  | [] => []
  | (name, value) :: more => (.string name :: .colon :: tokens value) :: memberTokens more

end

theorem itemTokens_eq_map (items : List Read) : itemTokens items = items.map tokens := by
  induction items with
  | nil => rfl
  | cons item more ih => rw [itemTokens, ih, List.map_cons]

/-- The tokens of one member. -/
def ofMember (member : Option String × Read) : List Token :=
  .string member.1 :: .colon :: tokens member.2

theorem memberTokens_eq_map (members : List (Option String × Read)) : memberTokens members = members.map ofMember := by
  induction members with
  | nil => rfl
  | cons member more ih => rw [memberTokens, ih, List.map_cons, ofMember]

theorem tokens_array (items : List Read) :
    tokens (.array items) = .beginArray :: ([.comma].intercalate (items.map tokens) ++ [.endArray]) := by
  rw [tokens, itemTokens_eq_map]

theorem tokens_object (members : List (Option String × Read)) :
    tokens (.object members) = .beginObject :: ([.comma].intercalate (members.map ofMember) ++ [.endObject]) := by
  rw [tokens, memberTokens_eq_map]

theorem exists_tokens_eq_cons (value : Read) : ∃ first more, tokens value = first :: more ∧ first ≠ .endArray := by
  unfold tokens
  split <;> exact ⟨_, _, rfl, nofun⟩

end Read

/-! ### The words of a value are apart -/

theorem apart_cons {token : Token} {rest : List Token} (htoken : ¬token.IsWord) (hrest : Apart rest) :
    Apart (token :: rest) :=
  List.isChain_cons.2 ⟨fun _ _ hword => absurd hword htoken, hrest⟩

theorem Apart.append {front back : List Token} (hfront : Apart front) (hback : Apart back)
    (hmark : ∀ next ∈ back.head?, next.IsMark) : Apart (front ++ back) :=
  List.IsChain.append hfront hback fun _ _ next hnext _ => hmark next hnext

theorem apart_intercalate {parts : List (List Token)} (h : ∀ part ∈ parts, Apart part) :
    Apart ([.comma].intercalate parts) := by
  induction parts with
  | nil => exact .nil
  | cons first more ih =>
    obtain ⟨hfirst, hmore⟩ := List.forall_mem_cons.1 h
    cases more with
    | nil => rwa [List.intercalate_singleton]
    | cons next more =>
      rw [List.intercalate_cons_cons, List.append_assoc]
      exact hfirst.append (apart_cons id (ih hmore)) (by rintro _ ⟨⟩; trivial)

theorem Read.apart_tokens (value : Read) : Apart (tokens value) := by
  induction value using Json.induction with
  | array items ih =>
    rw [tokens_array]
    refine apart_cons id (Apart.append (apart_intercalate ?_) (.singleton _) (by rintro _ ⟨⟩; trivial))
    exact List.forall_mem_map.2 ih
  | object members ih =>
    rw [tokens_object]
    refine apart_cons id (Apart.append (apart_intercalate ?_) (.singleton _) (by rintro _ ⟨⟩; trivial))
    exact List.forall_mem_map.2 fun member hmember => apart_cons id (apart_cons id (ih member hmember))
  | _ => rw [tokens]; exact .singleton _

/-! ### Tokens are read as their value -/

section Reading

variable {around : List Container} {rest : List Token}

/-- What cannot be the rest of an array that goes on. -/
def BeginsMember (rest : List Token) : Prop :=
  ∃ name more, rest = .string name :: .colon :: more

theorem readValue_beginArray (h : rest.head? ≠ some .endArray) :
    readValue around (.beginArray :: rest) = readValue (.array [] :: around) rest := by
  rw [readValue]
  rintro more rfl
  exact h rfl

theorem readAfter_comma {items : List Read} {value : Read} (h : ¬BeginsMember rest) :
    readAfter (.array items :: around) value (.comma :: rest) =
      readValue (.array (value :: items) :: around) rest := by
  rw [readAfter]
  rintro name more rfl
  exact h ⟨name, more, rfl⟩

namespace Read

theorem head?_tokens (value : Read) (rest : List Token) : (tokens value ++ rest).head? ≠ some .endArray := by
  obtain ⟨first, more, htokens, hfirst⟩ := exists_tokens_eq_cons value
  rw [htokens]
  simpa using hfirst

theorem not_beginsMember (value : Read) (h : rest.head? ≠ some .colon) : ¬BeginsMember (tokens value ++ rest) := by
  rintro ⟨name, after, heq⟩
  unfold tokens at heq
  split at heq <;> simp at heq
  exact h (by simp [heq.2])

/-- Whether the tokens of a value are read as that value, wherever they stand. -/
def Reads (value : Read) : Prop :=
  ∀ (around : List Container) (rest : List Token), readValue around (tokens value ++ rest) = readAfter around value rest

theorem readAfter_items {more : List Read} (h : ∀ item ∈ more, Reads item) (items : List Read) (last : Read) :
    readAfter (.array items :: around) last ((more.map tokens).flatMap (.comma :: ·) ++ .endArray :: rest) =
      readAfter around (.array (items.reverse ++ last :: more)) rest := by
  induction more generalizing items last with
  | nil => simp [readAfter]
  | cons item more ih =>
    obtain ⟨hitem, hmore⟩ := List.forall_mem_cons.1 h
    simp only [List.map_cons, List.flatMap_cons, List.append_assoc, List.cons_append]
    rw [readAfter_comma (not_beginsMember item ?_), hitem, ih hmore]
    · simp
    · cases more <;> simp

theorem readAfter_members {more : List (Option String × Read)} (h : ∀ member ∈ more, Reads member.2)
    (members : List (Option String × Read)) (name : Option String) (last : Read) :
    readAfter (.object members name :: around) last ((more.map ofMember).flatMap (.comma :: ·) ++ .endObject :: rest) =
      readAfter around (.object (members.reverse ++ (name, last) :: more)) rest := by
  induction more generalizing members name last with
  | nil => simp [readAfter]
  | cons member more ih =>
    obtain ⟨hmember, hmore⟩ := List.forall_mem_cons.1 h
    simp only [List.map_cons, List.flatMap_cons, List.append_assoc, List.cons_append, ofMember]
    rw [readAfter, hmember, ih hmore]
    simp

/-- Reading the tokens of a value goes on with that value and all of what follows. -/
theorem readValue_tokens (value : Read) : Reads value := by
  intro around rest
  induction value using Json.induction generalizing around rest with
  | array items ih =>
    rw [tokens_array]
    cases items with
    | nil => rfl
    | cons item more =>
      obtain ⟨hitem, hmore⟩ := List.forall_mem_cons.1 ih
      rw [List.map_cons, intercalate_cons, List.cons_append, List.append_assoc, List.append_assoc]
      rw [readValue_beginArray (head?_tokens item _), hitem]
      exact readAfter_items hmore [] item
  | object members ih =>
    rw [tokens_object]
    cases members with
    | nil => rfl
    | cons member more =>
      obtain ⟨hmember, hmore⟩ := List.forall_mem_cons.1 ih
      rw [List.map_cons, intercalate_cons, List.cons_append, List.append_assoc, List.append_assoc]
      rw [ofMember, List.cons_append, List.cons_append, readValue, hmember]
      exact readAfter_members hmore [] member.1 member.2
  | _ => rfl

end Read

end Reading

/-! ### Nothing else is read -/

/-- The tokens of the containers that are open around a value, up to that value, innermost container first in the list. -/
def Container.opened : List Container → List Token
  | [] => []
  | .array items :: outer => opened outer ++ .beginArray :: items.reverse.flatMap (Read.tokens · ++ [.comma])
  | .object members name :: outer =>
    opened outer ++ .beginObject :: (members.reverse.flatMap (Read.ofMember · ++ [.comma]) ++ [.string name, .colon])

namespace Read

open Container (opened)

theorem opened_array_comma (items : List Read) (value : Read) (outer : List Container) :
    opened (.array (value :: items) :: outer) = opened (.array items :: outer) ++ (tokens value ++ [.comma]) := by
  simp [opened]

theorem opened_object_comma (members : List (Option String × Read)) (current name : Option String) (value : Read)
    (outer : List Container) : opened (.object ((current, value) :: members) name :: outer) =
      opened (.object members current :: outer) ++ (tokens value ++ [.comma, .string name, .colon]) := by
  simp [opened, ofMember]

theorem opened_array_end (items : List Read) (value : Read) (outer : List Container) :
    opened (.array items :: outer) ++ (tokens value ++ [.endArray]) =
      opened outer ++ tokens (.array (value :: items).reverse) := by
  rw [tokens_array, List.reverse_cons, List.map_append, List.map_singleton, intercalate_concat, List.flatMap_map]
  simp [opened]

theorem opened_object_end (members : List (Option String × Read)) (current : Option String) (value : Read)
    (outer : List Container) : opened (.object members current :: outer) ++ (tokens value ++ [.endObject]) =
      opened outer ++ tokens (.object ((current, value) :: members).reverse) := by
  rw [tokens_object, List.reverse_cons, List.map_append, List.map_singleton, intercalate_concat, List.flatMap_map]
  simp [opened, ofMember]

mutual

theorem tokens_of_readValue {around : List Container} {rest : List Token} {value : Read}
    (h : readValue around rest = some value) : tokens value = opened around ++ rest := by
  unfold readValue at h
  split at h
  · simpa [tokens] using tokens_of_readAfter h
  · simpa [tokens] using tokens_of_readAfter h
  · simpa [tokens] using tokens_of_readAfter h
  · simpa [tokens] using tokens_of_readAfter h
  · simpa [tokens_array] using tokens_of_readAfter h
  · simpa [opened] using tokens_of_readValue h
  · simpa [tokens_object] using tokens_of_readAfter h
  · simpa [opened] using tokens_of_readValue h
  · cases h
termination_by rest.length

theorem tokens_of_readAfter {around : List Container} {last value : Read} {rest : List Token}
    (h : readAfter around last rest = some value) : tokens value = opened around ++ (tokens last ++ rest) := by
  unfold readAfter at h
  split at h
  · split_ifs at h with hempty
    cases h
    simp [List.isEmpty_iff.1 hempty, opened]
  · split at h
    · rw [tokens_of_readValue h, opened_object_comma]
      simp
    · cases h
  · split at h
    · rw [tokens_of_readValue h, opened_array_comma]
      simp
    · cases h
  · split at h
    · rw [tokens_of_readAfter h, ← List.append_assoc, ← opened_array_end]
      simp
    · cases h
  · split at h
    · rw [tokens_of_readAfter h, ← List.append_assoc, ← opened_object_end]
      simp
    · cases h
  · cases h
termination_by rest.length

end

/-- A text reads as a value exactly when it spells the tokens of that value. -/
theorem read?_eq_some_iff {text : String} {value : Read} : read? text = some value ↔ SpellsAll text.toList (tokens value) := by
  constructor
  · intro h
    obtain ⟨found, hfound, hread⟩ := Option.bind_eq_some_iff.1 h
    have htokens : tokens value = found := tokens_of_readValue hread
    exact htokens ▸ spellsAll_of_tokens? hfound
  · intro h
    have hread := readValue_tokens value [] []
    rw [List.append_nil] at hread
    rw [read?, tokens?_of_spellsAll h (apart_tokens value), Option.bind_some, hread]
    rfl

end Read

end Outlining.Json

import Mathlib.Data.List.Perm.Basic
import Mathlib.Tactic.Push
import Outlining.Settings.Json

/-!
# Fields of records

What the members of an object say about one field of a record, when names may stand twice and in any order: the field has the value of the only member of its name, or its default if there is none (`Json.Read.field?_eq_some_iff`). Members of other names and the order of the members make no difference (`Json.Read.Edit.field?_eq`).
-/

namespace Outlining.Json.Read

variable {α : Type} {read : Read → Option α} {denotes : Read → α → Prop} {default setting : α} {name : String}
  {members others : List (Option String × Read)}

/-! ### One field -/

/-- The field that the members of an object give to a record. -/
def field? (read : Read → Option α) (default : α) (name : String) (members : List (Option String × Read)) : Option α :=
  (member? name members).bind (orDefault read default)

/-- The members of an object set a field: by the only member of its name, or to its default if there is none. -/
inductive Sets (denotes : Read → α → Prop) (default : α) (name : String) : List (Option String × Read) → α → Prop
  | given {front back : List (Option String × Read)} {value : Read} {setting : α}
    (hothers : ∀ member ∈ front ++ back, member.1 ≠ some name) (hvalue : denotes value setting) :
    Sets denotes default name (front ++ (some name, value) :: back) setting
  | missing {members : List (Option String × Read)} (h : ∀ member ∈ members, member.1 ≠ some name) :
    Sets denotes default name members default

theorem filter_eq_nil_iff : members.filter (·.1 == some name) = [] ↔ ∀ member ∈ members, member.1 ≠ some name := by
  simp

theorem field?_of_absent (h : ∀ member ∈ members, member.1 ≠ some name) :
    field? read default name members = some default := by
  rw [field?, member?, filter_eq_nil_iff.2 h, Option.bind_some, orDefault]

theorem field?_of_twice (h : 1 < (members.filter (·.1 == some name)).length) : field? read default name members = none := by
  unfold field? member?
  split
  · rename_i hnil
    simp [hnil] at h
  · rename_i member hmember
    simp [hmember] at h
  · rfl

/-- A name stands at least twice among members. -/
def Repeats (name : String) (members : List (Option String × Read)) : Prop :=
  1 < (members.map Prod.fst).count (some name)

instance : Decidable (Repeats name members) :=
  inferInstanceAs (Decidable (_ < _))

theorem field?_of_repeats (h : Repeats name members) : field? read default name members = none := by
  refine field?_of_twice ?_
  rwa [Repeats, List.count, List.countP_map, List.countP_eq_length_filter] at h

section Insertion

variable {front back : List (Option String × Read)} {value : Read}

theorem filter_insert : (front ++ (some name, value) :: back).filter (·.1 == some name) =
    front.filter (·.1 == some name) ++ (some name, value) :: back.filter (·.1 == some name) := by
  simp

theorem field?_insert_of_absent (h : ∀ member ∈ front ++ back, member.1 ≠ some name) :
    field? read default name (front ++ (some name, value) :: back) = read value := by
  obtain ⟨hfront, hback⟩ := List.forall_mem_append.1 h
  rw [field?, member?, filter_insert, filter_eq_nil_iff.2 hfront, filter_eq_nil_iff.2 hback, List.nil_append,
    Option.bind_some, orDefault]

theorem field?_insert_of_present (h : ¬∀ member ∈ front ++ back, member.1 ≠ some name) :
    field? read default name (front ++ (some name, value) :: back) = none := by
  have hpresent : (front ++ back).filter (·.1 == some name) ≠ [] := fun hnil => h (filter_eq_nil_iff.1 hnil)
  rw [List.filter_append, ← List.length_pos_iff, List.length_append] at hpresent
  refine field?_of_twice ?_
  rw [filter_insert, List.length_append, List.length_cons]
  omega

end Insertion

theorem field?_eq_some_iff (hread : ∀ value setting, read value = some setting ↔ denotes value setting) :
    field? read default name members = some setting ↔ Sets denotes default name members setting := by
  constructor
  · intro h
    by_cases habsent : ∀ member ∈ members, member.1 ≠ some name
    · rw [field?_of_absent habsent] at h
      cases h
      exact .missing habsent
    · push Not at habsent
      obtain ⟨⟨_, value⟩, hmember, rfl⟩ := habsent
      obtain ⟨front, back, rfl⟩ := List.append_of_mem hmember
      by_cases hothers : ∀ member ∈ front ++ back, member.1 ≠ some name
      · rw [field?_insert_of_absent hothers] at h
        exact .given hothers ((hread value setting).1 h)
      · rw [field?_insert_of_present hothers] at h
        cases h
  · rintro (⟨hothers, hvalue⟩ | habsent)
    · rw [field?_insert_of_absent hothers]
      exact (hread _ setting).2 hvalue
    · exact field?_of_absent habsent

/-- A field with a value that cannot be read is refused, whatever else stands in the object. -/
theorem field?_eq_none_of_mem {value : Read} (hmember : (some name, value) ∈ members) (hvalue : read value = none) :
    field? read default name members = none := by
  obtain ⟨front, back, rfl⟩ := List.append_of_mem hmember
  by_cases hothers : ∀ member ∈ front ++ back, member.1 ≠ some name
  · rw [field?_insert_of_absent hothers, hvalue]
  · exact field?_insert_of_present hothers

/-! ### Edits that leave a record as it is -/

/-- One edit of the members of an object that has fields with `known` names: the members are put in another order, a member of another name is added, or the value of a member is edited inside. -/
inductive Edit (known : List String) (inside : String → Read → Read → Prop) :
    List (Option String × Read) → List (Option String × Read) → Prop
  | reorder {members others : List (Option String × Read)} (h : members.Perm others) : Edit known inside members others
  | add {name : String} (hname : name ∉ known) (front back : List (Option String × Read)) (value : Read) :
    Edit known inside (front ++ back) (front ++ (some name, value) :: back)
  | change {name : String} {value other : Read} (h : inside name value other) (front back : List (Option String × Read)) :
    Edit known inside (front ++ (some name, value) :: back) (front ++ (some name, other) :: back)

variable {known : List String} {inside : String → Read → Read → Prop}

theorem Edit.all_isSome_eq (h : Edit known inside members others) :
    members.all (·.1.isSome) = others.all (·.1.isSome) := by
  cases h with
  | reorder h => exact h.all_eq
  | add hname front back value => simp
  | change h front back => simp

theorem field?_eq_of_perm (h : members.Perm others) : field? read default name members = field? read default name others := by
  have hfilter := h.filter (·.1 == some name)
  unfold field?
  congr 1
  unfold member?
  split
  · rename_i hmembers
    rw [hmembers] at hfilter
    rw [hfilter.symm.eq_nil]
  · rename_i member hmembers
    rw [hmembers] at hfilter
    rw [hfilter.symm.eq_singleton]
  · rename_i hnil hsingleton
    split
    · rename_i hothers
      exact absurd (hothers ▸ hfilter).eq_nil hnil
    · rename_i member hothers
      exact absurd (hothers ▸ hfilter).eq_singleton (hsingleton member)
    · rfl

/-- A field is the same after an edit, if what is edited inside values is read as the same. -/
theorem Edit.field?_eq (h : Edit known inside members others) (hname : name ∈ known)
    (hinside : ∀ value other, inside name value other → read value = read other) :
    field? read default name members = field? read default name others := by
  cases h with
  | reorder h => exact field?_eq_of_perm h
  | @add added hadded front back value =>
    have hne : added ≠ name := fun heq => hadded (heq ▸ hname)
    have hfilter : (front ++ (some added, value) :: back).filter (·.1 == some name) =
        (front ++ back).filter (·.1 == some name) := by simp [hne]
    rw [field?, field?, member?, member?, hfilter]
  | @change changed value other h front back =>
    by_cases hchanged : changed = name
    · subst hchanged
      by_cases hothers : ∀ member ∈ front ++ back, member.1 ≠ some changed
      · rw [field?_insert_of_absent hothers, field?_insert_of_absent hothers, hinside value other h]
      · rw [field?_insert_of_present hothers, field?_insert_of_present hothers]
    · simp [field?, member?, hchanged]

end Outlining.Json.Read

import Mathlib.Data.List.Induction
import Mathlib.Data.List.Nodup
import Outlining.OrderedMap

/-!
# Names and values of ordered maps

Everything the proofs know about ordered maps: the names that an operation leaves, in which order, and the value of each. A map is determined by these two, so the laws of merging follow without a look at the list of entries. A map built from pairs has each name at its first place with its last value (`ofList_eq_settled`), and merging overwrites in place and puts new names at the end (`merge_eq_overlaid`).
-/

namespace Outlining

/-! ### First occurrences -/

theorem eraseDups_concat (names : List String) (name : String) :
    (names ++ [name]).eraseDups = if name ∈ names then names.eraseDups else names.eraseDups ++ [name] := by
  rw [List.eraseDups_append]
  by_cases hmem : name ∈ names
  · simp [List.removeAll, hmem]
  · simp [List.removeAll, hmem, List.eraseDups_cons]

theorem eraseDups_eq_self {names : List String} (h : names.Nodup) : names.eraseDups = names := by
  induction names using List.reverseRecOn with
  | nil => rfl
  | append_singleton names name ih =>
    obtain ⟨hnames, -, hdisjoint⟩ := List.nodup_append.1 h
    have hmem : name ∉ names := fun hmem => hdisjoint name hmem name (List.mem_singleton_self name) rfl
    rw [eraseDups_concat, if_neg hmem, ih hnames]

theorem eraseDups_ne_nil {names : List String} (h : names ≠ []) : names.eraseDups ≠ [] := by
  obtain ⟨name, names, rfl⟩ := List.exists_cons_of_ne_nil h
  rw [List.eraseDups_cons]
  exact List.cons_ne_nil _ _

namespace OrderedMap

variable {α : Type}

/-! ### Entries -/

theorem lookup_cons_entry (entry : String × α) (rest : List (String × α)) (name : String) :
    (entry :: rest).lookup name = if name = entry.1 then some entry.2 else rest.lookup name := by
  obtain ⟨key, value⟩ := entry
  by_cases hname : name = key
  · simp [hname]
  · have hbeq : (name == key) = false := by simpa using hname
    rw [List.lookup_cons, hbeq, if_neg hname]

theorem lookup_insertEntry (key : String) (value : α) (entries : List (String × α)) (name : String) :
    (insertEntry key value entries).lookup name = if name = key then some value else entries.lookup name := by
  induction entries with
  | nil => exact lookup_cons_entry (key, value) [] name
  | cons entry rest ih =>
    by_cases hkey : entry.1 = key
    · rw [insertEntry, if_pos hkey, lookup_cons_entry, lookup_cons_entry, hkey]
      split <;> rfl
    · rw [insertEntry, if_neg hkey, lookup_cons_entry, lookup_cons_entry, ih]
      by_cases hname : name = entry.1
      · have hne : name ≠ key := fun h => hkey (hname ▸ h)
        rw [if_pos hname, if_pos hname, if_neg hne]
      · rw [if_neg hname, if_neg hname]

theorem lookup_reverse {entries : List (String × α)} (h : (entries.map Prod.fst).Nodup) (name : String) :
    entries.reverse.lookup name = entries.lookup name := by
  induction entries with
  | nil => rfl
  | cons entry rest ih =>
    rw [List.map_cons, List.nodup_cons] at h
    rw [List.reverse_cons, List.lookup_append, ih h.2, lookup_cons_entry, lookup_cons_entry]
    by_cases hname : name = entry.1
    · have hnone : rest.lookup name = none := by
        rw [List.lookup_eq_none_iff]
        intro other hother
        have hne : name ≠ other.1 := fun heq => h.1 (hname ▸ heq ▸ List.mem_map_of_mem hother)
        simpa using hne
      rw [hnone, Option.none_or]
      rfl
    · simp [hname]

theorem lookup_filter_name (kept : String → Bool) (entries : List (String × α)) (name : String) :
    (entries.filter (fun entry => kept entry.1)).lookup name = if kept name then entries.lookup name else none := by
  induction entries with
  | nil => simp
  | cons entry rest ih =>
    by_cases hname : name = entry.1
    · subst hname
      cases hkept : kept entry.1
      · rw [List.filter_cons_of_neg (by simp [hkept]), ih, hkept]
        rfl
      · rw [List.filter_cons_of_pos (by simp [hkept]), lookup_cons_entry, lookup_cons_entry]
        simp
    · rw [lookup_cons_entry, if_neg hname, ← ih]
      cases hkept : kept entry.1
      · rw [List.filter_cons_of_neg (by simp [hkept])]
      · rw [List.filter_cons_of_pos (by simp [hkept]), lookup_cons_entry, if_neg hname]

theorem lookup_map_value {β : Type} (f : String → α → β) (entries : List (String × α)) (name : String) :
    (entries.map (fun entry => (entry.1, f entry.1 entry.2))).lookup name = (entries.lookup name).map (f name) := by
  induction entries with
  | nil => rfl
  | cons entry rest ih =>
    rw [List.map_cons, lookup_cons_entry, lookup_cons_entry, ih]
    by_cases hname : name = entry.1
    · rw [if_pos hname, if_pos hname, hname]
      rfl
    · rw [if_neg hname, if_neg hname]

/-- Pairs without a repeated name are recovered from the names by looking each of them up. -/
theorem entries_eq_filterMap {entries : List (String × α)} (h : (entries.map Prod.fst).Nodup) :
    entries = (entries.map Prod.fst).filterMap fun name => (entries.lookup name).map (name, ·) := by
  induction entries with
  | nil => rfl
  | cons entry rest ih =>
    rw [List.map_cons, List.nodup_cons] at h
    have hrest : (rest.map Prod.fst).filterMap (fun name => ((entry :: rest).lookup name).map (name, ·)) = rest := by
      conv_rhs => rw [ih h.2]
      apply List.filterMap_congr
      intro name hname
      have hne : name ≠ entry.1 := fun heq => h.1 (heq ▸ hname)
      rw [lookup_cons_entry, if_neg hne]
    have hfirst : ((entry :: rest).lookup entry.1).map (entry.1, ·) = some entry := by
      rw [lookup_cons_entry, if_pos rfl]
      rfl
    rw [List.map_cons, List.filterMap_cons, hfirst, hrest]

/-! ### A map is its names and their values -/

theorem nodup_keys (map : OrderedMap α) : map.keys.Nodup :=
  map.keys_nodup

theorem eq_of_entries {first second : OrderedMap α} (h : first.entries = second.entries) : first = second := by
  cases first
  cases second
  cases h
  rfl

/-- A map is determined by its names, in their order, and the value of each. -/
theorem eq_of_keys_of_get? {first second : OrderedMap α} (hkeys : first.keys = second.keys)
    (hvalues : ∀ name, first.get? name = second.get? name) : first = second := by
  apply eq_of_entries
  rw [entries_eq_filterMap first.keys_nodup, entries_eq_filterMap second.keys_nodup]
  have hfst : first.entries.map Prod.fst = second.entries.map Prod.fst := hkeys
  rw [hfst]
  apply List.filterMap_congr
  intro name _
  rw [show first.entries.lookup name = second.entries.lookup name from hvalues name]

theorem get?_eq_none_iff {map : OrderedMap α} {name : String} : map.get? name = none ↔ name ∉ map.keys := by
  rw [get?, List.lookup_eq_none_iff, keys, List.mem_map]
  constructor
  · rintro h ⟨entry, hentry, rfl⟩
    simpa using h entry hentry
  · intro h entry hentry
    have hne : name ≠ entry.1 := fun heq => h ⟨entry, hentry, heq.symm⟩
    simpa using hne

theorem get?_of_mem {map : OrderedMap α} {entry : String × α} (h : entry ∈ map.entries) :
    map.get? entry.1 = some entry.2 := by
  rw [entries_eq_filterMap map.keys_nodup] at h
  obtain ⟨name, -, hname⟩ := List.mem_filterMap.1 h
  obtain ⟨value, hvalue, rfl⟩ := Option.map_eq_some_iff.1 hname
  exact hvalue

@[simp] theorem keys_empty : (empty : OrderedMap α).keys = [] := rfl

@[simp] theorem get?_empty (name : String) : (empty : OrderedMap α).get? name = none := rfl

theorem keys_insert (map : OrderedMap α) (key : String) (value : α) :
    (map.insert key value).keys = if key ∈ map.keys then map.keys else map.keys ++ [key] :=
  keys_insertEntry key value map.entries

theorem get?_insert (map : OrderedMap α) (key : String) (value : α) (name : String) :
    (map.insert key value).get? name = if name = key then some value else map.get? name :=
  lookup_insertEntry key value map.entries name

theorem mem_keys_insert {map : OrderedMap α} {key name : String} {value : α} :
    name ∈ (map.insert key value).keys ↔ name = key ∨ name ∈ map.keys := by
  rw [keys_insert]
  split_ifs with hkey
  · exact ⟨.inr, fun h => h.elim (fun heq => heq ▸ hkey) id⟩
  · rw [List.mem_append, List.mem_singleton, or_comm]

theorem forall_get?_insert {holds : α → Prop} {map : OrderedMap α} {key : String} {value : α} (hvalue : holds value)
    (hmap : ∀ name other, map.get? name = some other → holds other) :
    ∀ name other, (map.insert key value).get? name = some other → holds other := by
  intro name other h
  rw [get?_insert] at h
  split_ifs at h with hname
  · cases h
    exact hvalue
  · exact hmap name other h

theorem keys_erase (map : OrderedMap α) (key : String) : (map.erase key).keys = map.keys.filter (· != key) := by
  simp only [erase, keys, List.filter_map]
  rfl

theorem get?_erase (map : OrderedMap α) (key name : String) :
    (map.erase key).get? name = if name = key then none else map.get? name := by
  refine (lookup_filter_name (· != key) map.entries name).trans ?_
  by_cases hname : name = key <;> simp [get?, hname]

/-! ### Several insertions -/

theorem insertMany_append (map : OrderedMap α) (first second : List (String × α)) :
    map.insertMany (first ++ second) = (map.insertMany first).insertMany second :=
  List.foldl_append

theorem keys_insertMany (map : OrderedMap α) (pairs : List (String × α)) :
    (map.insertMany pairs).keys = (map.keys ++ pairs.map Prod.fst).eraseDups := by
  induction pairs using List.reverseRecOn with
  | nil =>
    rw [List.map_nil, List.append_nil]
    exact (eraseDups_eq_self map.keys_nodup).symm
  | append_singleton pairs pair ih =>
    rw [insertMany_append, List.map_append, ← List.append_assoc, List.map_singleton, eraseDups_concat, ← ih]
    change ((map.insertMany pairs).insert pair.1 pair.2).keys = _
    rw [keys_insert, ih]
    simp only [List.mem_eraseDups]

theorem get?_insertMany (map : OrderedMap α) (pairs : List (String × α)) (name : String) :
    (map.insertMany pairs).get? name = (pairs.reverse.lookup name).or (map.get? name) := by
  induction pairs using List.reverseRecOn with
  | nil => simp [insertMany]
  | append_singleton pairs pair ih =>
    rw [insertMany_append, List.reverse_concat, lookup_cons_entry]
    change ((map.insertMany pairs).insert pair.1 pair.2).get? name = _
    rw [get?_insert, ih]
    split <;> rfl

theorem keys_ofList (pairs : List (String × α)) : (ofList pairs).keys = (pairs.map Prod.fst).eraseDups := by
  rw [ofList, keys_insertMany, keys_empty, List.nil_append]

theorem get?_ofList (pairs : List (String × α)) (name : String) :
    (ofList pairs).get? name = pairs.reverse.lookup name := by
  rw [ofList, get?_insertMany, get?_empty, Option.or_none]

theorem keys_merge (first second : OrderedMap α) :
    (first.merge second).keys = (first.keys ++ second.keys).eraseDups :=
  keys_insertMany first second.entries

theorem get?_merge (first second : OrderedMap α) (name : String) :
    (first.merge second).get? name = (second.get? name).or (first.get? name) := by
  rw [merge, get?_insertMany, lookup_reverse second.keys_nodup]
  rfl

theorem keys_merge_ne_nil {first : OrderedMap α} (h : first.keys ≠ []) (second : OrderedMap α) :
    (first.merge second).keys ≠ [] := by
  rw [keys_merge]
  exact eraseDups_ne_nil (List.append_ne_nil_of_left_ne_nil h _)

theorem get?_ofList_of_last {front back : List (String × α)} {key : String} (value : α)
    (h : ∀ later ∈ back, later.1 ≠ key) : (ofList (front ++ (key, value) :: back)).get? key = some value := by
  have hback : back.reverse.lookup key = none := by
    rw [List.lookup_eq_none_iff]
    intro later hlater
    simpa using (h later (List.mem_reverse.1 hlater)).symm
  rw [get?_ofList, List.reverse_append, List.reverse_cons, List.lookup_append, List.lookup_append, hback,
    lookup_cons_entry, if_pos rfl]
  rfl

/-! ### What holds of all entries -/

section Entries

variable {holds : String × α → Prop} {map : OrderedMap α}

theorem mem_insertEntry {key : String} {value : α} {entries : List (String × α)} {entry : String × α}
    (h : entry ∈ insertEntry key value entries) : entry = (key, value) ∨ entry ∈ entries := by
  induction entries with
  | nil => exact .inl (List.mem_singleton.1 h)
  | cons first rest ih =>
    rw [insertEntry] at h
    split_ifs at h with hkey
    · exact (List.mem_cons.1 h).imp_right (List.mem_cons_of_mem _)
    · obtain rfl | hrest := List.mem_cons.1 h
      · exact .inr List.mem_cons_self
      · exact (ih hrest).imp_right (List.mem_cons_of_mem _)

theorem forall_mem_insertMany {pairs : List (String × α)} (hmap : ∀ entry ∈ map.entries, holds entry)
    (hpairs : ∀ pair ∈ pairs, holds pair) : ∀ entry ∈ (map.insertMany pairs).entries, holds entry := by
  induction pairs generalizing map with
  | nil => exact hmap
  | cons pair rest ih =>
    obtain ⟨hpair, hrest⟩ := List.forall_mem_cons.1 hpairs
    refine @ih (map.insert pair.1 pair.2) ?_ hrest
    intro entry hentry
    obtain rfl | hold := mem_insertEntry hentry
    · exact hpair
    · exact hmap entry hold

theorem forall_mem_ofList {pairs : List (String × α)} (h : ∀ pair ∈ pairs, holds pair) :
    ∀ entry ∈ (ofList pairs).entries, holds entry :=
  forall_mem_insertMany nofun h

theorem forall_mem_singleton {key : String} {value : α} (h : holds (key, value)) :
    ∀ entry ∈ (singleton key value).entries, holds entry :=
  forall_mem_ofList (List.forall_mem_singleton.2 h)

theorem forall_mem_merge {other : OrderedMap α} (hmap : ∀ entry ∈ map.entries, holds entry)
    (hother : ∀ entry ∈ other.entries, holds entry) : ∀ entry ∈ (map.merge other).entries, holds entry :=
  forall_mem_insertMany hmap hother

end Entries

/-! ### The laws of merging -/

theorem merge_insert (first second : OrderedMap α) (key : String) (value : α) :
    first.merge (second.insert key value) = (first.merge second).insert key value := by
  apply eq_of_keys_of_get?
  · rw [keys_insert, keys_merge, keys_merge, keys_insert]
    by_cases hmem : key ∈ second.keys
    · simp [hmem]
    · rw [if_neg hmem, ← List.append_assoc, eraseDups_concat]
      simp only [List.mem_eraseDups]
  · intro name
    rw [get?_insert, get?_merge, get?_merge, get?_insert]
    split <;> rfl

/-- Names set in the second map are set in the merged map. -/
theorem merge_insertMany (first second : OrderedMap α) (pairs : List (String × α)) :
    first.merge (second.insertMany pairs) = (first.merge second).insertMany pairs := by
  induction pairs generalizing second with
  | nil => rfl
  | cons pair pairs ih =>
    have hstep := ih (second.insert pair.1 pair.2)
    rw [merge_insert] at hstep
    exact hstep

theorem merge_assoc (first second third : OrderedMap α) :
    (first.merge second).merge third = first.merge (second.merge third) :=
  (merge_insertMany first second third.entries).symm

theorem ofList_append (first second : List (String × α)) :
    ofList (first ++ second) = (ofList first).merge (ofList second) := by
  rw [ofList, ofList, ofList, merge_insertMany, insertMany_append]
  rfl

/-! ### Maps described as a whole -/

/-- Each name of the pairs at the place of its first pair, with the value of its last. -/
def settledEntries (pairs : List (String × α)) : List (String × α) :=
  (pairs.map Prod.fst).eraseDups.filterMap fun name => (pairs.reverse.lookup name).map (name, ·)

theorem settledEntries_eq (pairs : List (String × α)) : settledEntries pairs = (ofList pairs).entries := by
  rw [entries_eq_filterMap (ofList pairs).keys_nodup, settledEntries]
  rw [show (ofList pairs).entries.map Prod.fst = (pairs.map Prod.fst).eraseDups from keys_ofList pairs]
  apply List.filterMap_congr
  intro name _
  rw [show (ofList pairs).entries.lookup name = pairs.reverse.lookup name from get?_ofList pairs name]

/-- The map of the pairs, each name at the place of its first pair with the value of its last. -/
def settled (pairs : List (String × α)) : OrderedMap α :=
  ⟨settledEntries pairs, settledEntries_eq pairs ▸ (ofList pairs).keys_nodup⟩

theorem ofList_eq_settled (pairs : List (String × α)) : ofList pairs = settled pairs :=
  eq_of_entries (settledEntries_eq pairs).symm

theorem keys_settled_ne_nil {pairs : List (String × α)} (h : pairs ≠ []) : (settled pairs).keys ≠ [] := by
  rw [← ofList_eq_settled, keys_ofList]
  exact eraseDups_ne_nil (mt List.map_eq_nil_iff.1 h)

theorem settled_append (first second : List (String × α)) :
    settled (first ++ second) = (settled first).merge (settled second) := by
  simp only [← ofList_eq_settled, ofList_append]

theorem singleton_eq_settled (key : String) (value : α) : singleton key value = settled [(key, value)] :=
  ofList_eq_settled [(key, value)]

/-- The names of the first map in their places, with the second map's value where it has one; then the names that only the second map has. -/
def overlaidEntries (first second : OrderedMap α) : List (String × α) :=
  first.entries.map (fun entry => (entry.1, (second.get? entry.1).getD entry.2)) ++
    second.entries.filter (fun entry => !first.keys.contains entry.1)

theorem keys_overlaidEntries (first second : OrderedMap α) :
    (overlaidEntries first second).map Prod.fst = first.keys ++ second.keys.filter (!first.keys.contains ·) := by
  simp only [overlaidEntries, keys, List.map_append, List.map_map, List.filter_map]
  rfl

/-- The first map with the values of the second written over its own, and the names that only the second map has behind it. -/
def overlaid (first second : OrderedMap α) : OrderedMap α where
  entries := overlaidEntries first second
  keys_nodup := by
    rw [keys_overlaidEntries]
    refine List.nodup_append.2 ⟨first.keys_nodup, second.keys_nodup.filter _, ?_⟩
    intro name hname other hother heq
    simp only [List.mem_filter, Bool.not_eq_true', List.contains_eq_mem, decide_eq_false_iff_not] at hother
    exact hother.2 (heq ▸ hname)

theorem get?_overlaid (first second : OrderedMap α) (name : String) :
    (first.overlaid second).get? name = (second.get? name).or (first.get? name) := by
  have hfirst := lookup_map_value (fun key value => (second.get? key).getD value) first.entries name
  have hsecond := lookup_filter_name (!first.keys.contains ·) second.entries name
  change (overlaidEntries first second).lookup name = _
  rw [overlaidEntries, List.lookup_append, hfirst, hsecond]
  change ((first.get? name).map _).or (if _ then second.get? name else none) = _
  cases hget : first.get? name with
  | none =>
    have hmem : name ∉ first.keys := get?_eq_none_iff.1 hget
    simp [hmem]
  | some value => cases second.get? name <;> rfl

theorem merge_eq_overlaid (first second : OrderedMap α) : first.merge second = first.overlaid second := by
  apply eq_of_keys_of_get?
  · rw [keys_merge, List.eraseDups_append, eraseDups_eq_self first.nodup_keys, List.removeAll]
    rw [eraseDups_eq_self (second.nodup_keys.filter _)]
    exact (keys_overlaidEntries first second).symm
  · intro name
    rw [get?_merge, get?_overlaid]

end OrderedMap

end Outlining

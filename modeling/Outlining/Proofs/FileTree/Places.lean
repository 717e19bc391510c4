import Mathlib.Data.List.Basic
import Outlining.FileTree
import Outlining.Proofs.Failure

/-!
# Places in file trees

A place in a tree is reached by names through directories, and never through a link (`Leads`). In a tree with names that a file system can give, the path of a directory with such names joined to it leads to the place that the names lead to from the directory (`resolve_below`), as long as the paths are not too long; and what a path leads to is always a place of the tree that is no link (`exists_leads_of_resolve`).
-/

namespace Outlining

/-! ### Joined paths -/

namespace Path

theorem splitAtSlashes_ne_nil (text : List Char) : splitAtSlashes text ≠ [] := by
  cases text with
  | nil => simp [splitAtSlashes]
  | cons c rest =>
    rw [splitAtSlashes]
    split
    · simp
    · split <;> simp

theorem splitAtSlashes_append (front behind : List Char) :
    splitAtSlashes (front ++ '/' :: behind) = splitAtSlashes front ++ splitAtSlashes behind := by
  induction front with
  | nil => rfl
  | cons c rest ih =>
    obtain ⟨first, more, hrest⟩ := List.exists_cons_of_ne_nil (splitAtSlashes_ne_nil rest)
    rw [List.cons_append, splitAtSlashes, splitAtSlashes, ih, hrest]
    split <;> rfl

theorem splitAtSlashes_of_not_mem {text : List Char} (h : '/' ∉ text) : splitAtSlashes text = [text] := by
  induction text with
  | nil => rfl
  | cons c rest ih =>
    rw [List.mem_cons, not_or] at h
    rw [splitAtSlashes, if_neg (Ne.symm h.1), ih h.2]

theorem components_ne_nil (path : String) : components path ≠ [] := by
  simpa [components] using splitAtSlashes_ne_nil path.toList

/-- The components that stay in front when a name is joined to a path: an empty one at its end does not. -/
def joinable (path : String) : List String :=
  if path.toList.getLast? = some '/' then (components path).dropLast else components path

theorem components_eq_joinable (path : String) :
    components path = joinable path ∨ components path = joinable path ++ [""] := by
  rw [joinable]
  split
  · rename_i h
    obtain ⟨front, hfront⟩ := List.getLast?_eq_some_iff.1 h
    rw [components, hfront, splitAtSlashes_append]
    right
    simp [splitAtSlashes]
  · exact .inl rfl

theorem components_join {path name : String} (h : '/' ∉ name.toList) :
    components (join path name) = joinable path ++ [name] := by
  rw [join, joinable]
  split
  · rename_i hlast
    obtain ⟨front, hfront⟩ := List.getLast?_eq_some_iff.1 hlast
    rw [components, components, String.toList_append, hfront, List.append_assoc, List.singleton_append,
      splitAtSlashes_append, splitAtSlashes_append, splitAtSlashes_of_not_mem h]
    simp [splitAtSlashes]
  · have htext : (path ++ "/" ++ name).toList = path.toList ++ '/' :: name.toList := by simp
    rw [components, htext, splitAtSlashes_append, splitAtSlashes_of_not_mem h, components]
    simp

theorem getLast?_join_ne {path name : String} (hslash : '/' ∉ name.toList) (hname : name ≠ "") :
    (join path name).toList.getLast? ≠ some '/' := by
  have hne : name.toList ≠ [] := by simpa using hname
  rw [join, apply_ite String.toList, String.toList_append, String.toList_append]
  intro hlast
  split at hlast <;> rw [List.getLast?_append_of_ne_nil _ hne] at hlast <;>
    exact hslash (List.mem_of_getLast? hlast)

theorem joinable_join {path name : String} (hslash : '/' ∉ name.toList) (hname : name ≠ "") :
    joinable (join path name) = joinable path ++ [name] := by
  rw [joinable, if_neg (getLast?_join_ne hslash hname), components_join hslash]

/-- The path below another along names. -/
def below (path : String) (names : List String) : String :=
  names.foldl join path

end Path

namespace FileTree

/-! ### Places and their names -/

/-- Names that lead from one place of a tree to another, through directories and never through a link. -/
inductive Leads : FileTree → List String → FileTree → Prop
  | here (tree : FileTree) : Leads tree [] tree
  | into {entries : List (String × FileTree)} {name : String} {entry target : FileTree} {names : List String}
    (hentry : (name, entry) ∈ entries) (hbelow : Leads entry names target) :
    Leads (.directory entries) (name :: names) target

theorem Leads.trans {tree middle target : FileTree} {names more : List String} (h : tree.Leads names middle)
    (hmore : middle.Leads more target) : tree.Leads (names ++ more) target := by
  induction h with
  | here tree => exact hmore
  | into hentry _ ih => exact .into hentry (ih hmore)

@[simp]
theorem leads_file_iff {content : ByteArray} {names : List String} {target : FileTree} :
    (FileTree.file content).Leads names target ↔ names = [] ∧ target = .file content := by
  constructor
  · rintro ⟨⟩
    exact ⟨rfl, rfl⟩
  · rintro ⟨rfl, rfl⟩
    exact .here _

@[simp]
theorem leads_link_iff {text : String} {names : List String} {target : FileTree} :
    (FileTree.link text).Leads names target ↔ names = [] ∧ target = .link text := by
  constructor
  · rintro ⟨⟩
    exact ⟨rfl, rfl⟩
  · rintro ⟨rfl, rfl⟩
    exact .here _

theorem leads_directory_iff {entries : List (String × FileTree)} {names : List String} {target : FileTree} :
    (FileTree.directory entries).Leads names target ↔
      names = [] ∧ target = .directory entries ∨
        ∃ entry ∈ entries, ∃ rest, names = entry.1 :: rest ∧ entry.2.Leads rest target := by
  constructor
  · intro h
    cases h with
    | here => exact .inl ⟨rfl, rfl⟩
    | into hentry hbelow => exact .inr ⟨_, hentry, _, rfl, hbelow⟩
  · rintro (⟨rfl, rfl⟩ | ⟨entry, hentry, rest, rfl, hbelow⟩)
    · exact .here _
    · exact .into hentry hbelow

theorem Leads.exists_directory {tree : FileTree} {entries : List (String × FileTree)} {front behind : List String}
    (h : tree.Leads (front ++ behind) (.directory entries)) : ∃ inner, tree.Leads front (.directory inner) := by
  induction front generalizing tree with
  | nil =>
    cases behind with
    | nil => exact ⟨entries, h⟩
    | cons name rest =>
      cases h with
      | into hentry hbelow => exact ⟨_, .here _⟩
  | cons name rest ih =>
    cases h with
    | into hentry hbelow =>
      obtain ⟨inner, hinner⟩ := ih hbelow
      exact ⟨inner, .into hentry hinner⟩

/-- What a file system can call an entry of a directory. -/
structure IsEntryName (name : String) : Prop where
  ne_empty : name ≠ ""
  ne_dot : name ≠ "."
  ne_dots : name ≠ ".."
  noSlash : '/' ∉ name.toList
  noNul : '\x00' ∉ name.toList
  fits : name.utf8ByteSize ≤ nameLimit

instance (name : String) : Decidable (IsEntryName name) :=
  decidable_of_iff (name ≠ "" ∧ name ≠ "." ∧ name ≠ ".." ∧ '/' ∉ name.toList ∧ '\x00' ∉ name.toList ∧
      name.utf8ByteSize ≤ nameLimit)
    ⟨fun ⟨hempty, hdot, hdots, hslash, hnul, hfits⟩ => ⟨hempty, hdot, hdots, hslash, hnul, hfits⟩,
      fun h => ⟨h.ne_empty, h.ne_dot, h.ne_dots, h.noSlash, h.noNul, h.fits⟩⟩

/-- Every directory has entries with different names, all of which a file system can give. -/
def WellFormed (tree : FileTree) : Prop :=
  ∀ names entries, tree.Leads names (.directory entries) →
    (entries.map Prod.fst).Nodup ∧ ∀ entry ∈ entries, IsEntryName entry.1

theorem WellFormed.of_leads {tree inner : FileTree} {names : List String} (h : tree.WellFormed)
    (hleads : tree.Leads names inner) : inner.WellFormed :=
  fun _ entries hdirectory => h _ entries (hleads.trans hdirectory)

@[simp]
theorem wellFormed_file (content : ByteArray) : (FileTree.file content).WellFormed :=
  fun names entries h => by simp at h

@[simp]
theorem wellFormed_link (text : String) : (FileTree.link text).WellFormed :=
  fun names entries h => by simp at h

theorem wellFormed_directory_iff {entries : List (String × FileTree)} :
    (FileTree.directory entries).WellFormed ↔
      (entries.map Prod.fst).Nodup ∧ ∀ entry ∈ entries, IsEntryName entry.1 ∧ entry.2.WellFormed := by
  constructor
  · intro h
    obtain ⟨hnames, hentries⟩ := h [] entries (.here _)
    exact ⟨hnames, fun entry hentry => ⟨hentries entry hentry, h.of_leads (.into hentry (.here _))⟩⟩
  · rintro ⟨hnames, hentries⟩ names inner hinner
    obtain ⟨-, heq⟩ | ⟨entry, hentry, rest, -, hbelow⟩ := leads_directory_iff.1 hinner
    · cases heq
      exact ⟨hnames, fun entry hentry => (hentries entry hentry).1⟩
    · exact (hentries entry hentry).2 rest inner hbelow

theorem WellFormed.isEntryName {tree target : FileTree} {names : List String} (h : tree.WellFormed)
    (hleads : tree.Leads names target) : ∀ name ∈ names, IsEntryName name := by
  induction hleads with
  | here tree => exact nofun
  | into hentry hbelow ih =>
    rw [List.forall_mem_cons]
    exact ⟨(h [] _ (.here _)).2 _ hentry, ih (h.of_leads (.into hentry (.here _)))⟩

theorem lookup_eq_some_of_mem {entries : List (String × FileTree)} (hnames : (entries.map Prod.fst).Nodup)
    {name : String} {entry : FileTree} (h : (name, entry) ∈ entries) : entries.lookup name = some entry := by
  induction entries with
  | nil => cases h
  | cons first rest ih =>
    rw [List.map_cons, List.nodup_cons] at hnames
    rw [List.lookup_cons]
    obtain rfl | hrest := List.mem_cons.1 h
    · simp
    · have hne : name ≠ first.1 := by
        rintro rfl
        exact hnames.1 (List.mem_map.2 ⟨_, hrest, rfl⟩)
      rw [beq_false_of_ne hne]
      exact ih hnames.2 hrest

/-- Whether a node is no link. -/
def IsSolid : FileTree → Prop
  | .link _ => False
  | _ => True

theorem joinable_below {path : String} {names : List String} (hnames : ∀ name ∈ names, IsEntryName name) :
    Path.joinable (Path.below path names) = Path.joinable path ++ names := by
  induction names generalizing path with
  | nil => simp [Path.below]
  | cons name rest ih =>
    obtain ⟨hname, hrest⟩ := List.forall_mem_cons.1 hnames
    have hstep : Path.joinable (Path.below path (name :: rest)) = Path.joinable (Path.join path name) ++ rest := ih hrest
    rw [hstep, Path.joinable_join hname.noSlash hname.ne_empty, List.append_assoc, List.singleton_append]

/-- Names of entries can be told from the path along them. -/
theorem below_injective {path : String} {names others : List String} (hnames : ∀ name ∈ names, IsEntryName name)
    (hothers : ∀ name ∈ others, IsEntryName name) (h : Path.below path names = Path.below path others) :
    names = others := by
  have hjoinable : Path.joinable (Path.below path names) = Path.joinable path ++ names := joinable_below hnames
  rw [h, joinable_below hothers] at hjoinable
  exact (List.append_cancel_left hjoinable).symm

/-! ### Following components -/

variable {root : FileTree}

/-- A trail goes from the root through directories to an entry of the last of them, and no entry on it is a link. -/
def Trail.Stands (root : FileTree) : Trail → Prop
  | [] => True
  | (name, entry) :: before =>
    Trail.Stands root before ∧ entry.IsSolid ∧
      ∃ entries, Trail.target root before = .directory entries ∧ (name, entry) ∈ entries

theorem Trail.stands_nil : Trail.Stands root [] :=
  trivial

theorem Trail.Stands.exists_leads {trail : Trail} (h : Trail.Stands root trail) :
    ∃ names, root.Leads names (Trail.target root trail) := by
  induction trail with
  | nil => exact ⟨[], .here root⟩
  | cons last before ih =>
    obtain ⟨hbefore, -, entries, hentries, hmem⟩ := h
    obtain ⟨names, hnames⟩ := ih hbefore
    rw [hentries] at hnames
    exact ⟨names ++ [last.1], hnames.trans (.into hmem (.here last.2))⟩

theorem Trail.Stands.tail {trail : Trail} (h : Trail.Stands root trail) : Trail.Stands root (List.tail trail) := by
  cases trail with
  | nil => exact h
  | cons last before => exact h.1

theorem mem_of_lookup_eq_some {entries : List (String × FileTree)} {name : String} {entry : FileTree}
    (h : entries.lookup name = some entry) : (name, entry) ∈ entries := by
  induction entries with
  | nil => cases h
  | cons first rest ih =>
    rw [List.lookup_cons] at h
    split at h
    · rename_i hname
      cases h
      rw [eq_of_beq hname]
      exact List.mem_cons_self
    · exact List.mem_cons_of_mem first (ih h)

/-- What one component does on the way of a path: nothing more can be followed, or the way goes on from a trail with components of its own in front, with one link less if it was a link. -/
theorem followWith_cons (followLink : Trail → List String → Except ReadFault Trail) (trail : Trail) (component : String)
    (hstands : Trail.Stands root trail) :
    (∃ fault, ∀ rest, followWith root followLink trail (component :: rest) = .error fault) ∨
      (∃ next, Trail.Stands root next ∧
        ∀ rest, followWith root followLink trail (component :: rest) = followWith root followLink next rest) ∨
      ∃ next front, Trail.Stands root next ∧
        ∀ rest, followWith root followLink trail (component :: rest) = followLink next (front ++ rest) := by
  simp only [followWith]
  cases htarget : Trail.target root trail with
  | file content => exact .inl ⟨.notDirectory, fun _ => rfl⟩
  | link target => exact .inl ⟨.notDirectory, fun _ => rfl⟩
  | directory entries =>
    by_cases hstay : component = "" ∨ component = "."
    · simp only [if_pos hstay]
      exact .inr (.inl ⟨trail, hstands, fun _ => rfl⟩)
    by_cases hup : component = ".."
    · simp only [if_neg hstay, if_pos hup]
      exact .inr (.inl ⟨_, hstands.tail, fun _ => rfl⟩)
    by_cases hlong : nameLimit < component.utf8ByteSize
    · simp only [if_neg hstay, if_neg hup, if_pos hlong]
      exact .inl ⟨.nameTooLong, fun _ => rfl⟩
    simp only [if_neg hstay, if_neg hup, if_neg hlong]
    cases hlookup : entries.lookup component with
    | none => exact .inl ⟨.notFound, fun _ => rfl⟩
    | some entry =>
      have hmem := mem_of_lookup_eq_some hlookup
      cases entry with
      | file content =>
        exact .inr (.inl ⟨(component, .file content) :: trail, ⟨hstands, trivial, entries, htarget, hmem⟩, fun _ => rfl⟩)
      | directory inner =>
        exact .inr (.inl ⟨(component, .directory inner) :: trail, ⟨hstands, trivial, entries, htarget, hmem⟩, fun _ => rfl⟩)
      | link target =>
        refine .inr (.inr ⟨_, Path.components target, ?_, fun _ => rfl⟩)
        split
        · trivial
        · exact hstands

/-- Whether a way leads along components to a trail of the tree, from which any rest goes on with some number of links, or leads nowhere whatever the rest. -/
def GoesAlong (root : FileTree) (way : List String → Except ReadFault Trail) (components : List String) : Prop :=
  (∃ fault, ∀ rest, way (components ++ rest) = .error fault) ∨
    ∃ reached left, Trail.Stands root reached ∧ ∀ rest, way (components ++ rest) = root.follow left reached rest

theorem GoesAlong.congr {way other : List String → Except ReadFault Trail} {components front : List String}
    (h : GoesAlong root other front) (hway : ∀ rest, way (components ++ rest) = other (front ++ rest)) :
    GoesAlong root way components := by
  obtain ⟨fault, h⟩ | ⟨reached, left, hreached, h⟩ := h
  · exact .inl ⟨fault, fun rest => (hway rest).trans (h rest)⟩
  · exact .inr ⟨reached, left, hreached, fun rest => (hway rest).trans (h rest)⟩

theorem follow_goesAlong_of_followLink {links : Nat} {followLink : Trail → List String → Except ReadFault Trail}
    (hfollow : root.follow links = followWith root followLink)
    (hlink : ∀ next front, Trail.Stands root next → GoesAlong root (followLink next) front) {trail : Trail}
    (hstands : Trail.Stands root trail) (components : List String) :
    GoesAlong root (root.follow links trail) components := by
  induction components generalizing trail with
  | nil => exact .inr ⟨trail, links, hstands, fun _ => rfl⟩
  | cons component more ih =>
    have hstep := followWith_cons followLink trail component hstands
    rw [← hfollow] at hstep
    obtain ⟨fault, h⟩ | ⟨next, hnext, h⟩ | ⟨next, front, hnext, h⟩ := hstep
    · exact .inl ⟨fault, fun rest => h (more ++ rest)⟩
    · exact (ih hnext).congr fun rest => h (more ++ rest)
    · refine (hlink next (front ++ more) hnext).congr fun rest => (h (more ++ rest)).trans ?_
      rw [List.append_assoc]

/-- Components are followed one after the other. -/
theorem follow_goesAlong (links : Nat) {trail : Trail} (hstands : Trail.Stands root trail) (components : List String) :
    GoesAlong root (root.follow links trail) components := by
  induction links generalizing trail components with
  | zero => exact follow_goesAlong_of_followLink rfl (fun _ _ _ => .inl ⟨.tooManyLinks, fun _ => rfl⟩) hstands components
  | succ links ih => exact follow_goesAlong_of_followLink rfl (fun _ front hnext => ih hnext front) hstands components

theorem follow_nil (links : Nat) (trail : Trail) : root.follow links trail [] = .ok trail := by
  cases links <;> rfl

theorem stands_of_follow {links : Nat} {trail reached : Trail} {components : List String}
    (hstands : Trail.Stands root trail) (h : root.follow links trail components = .ok reached) :
    Trail.Stands root reached := by
  have hway := follow_goesAlong links hstands components
  obtain ⟨fault, hfault⟩ | ⟨last, left, hlast, hgo⟩ := hway
  · rw [← List.append_nil components, hfault] at h
    cases h
  · rw [← List.append_nil components, hgo, follow_nil] at h
    cases h
    exact hlast

/-- Behind a trail to a directory, the name of an entry that is no link leads to this entry. -/
theorem follow_entryName (links : Nat) {trail : Trail} {entries : List (String × FileTree)} {name : String} {entry : FileTree}
    (htrail : Trail.target root trail = .directory entries) (hlookup : entries.lookup name = some entry)
    (hsolid : entry.IsSolid) (hname : IsEntryName name) : root.follow links trail [name] = .ok ((name, entry) :: trail) := by
  have hstep : ∀ followLink, followWith root followLink trail [name] = .ok ((name, entry) :: trail) := by
    intro followLink
    rw [followWith, htrail]
    simp only [hname.ne_empty, hname.ne_dot, hname.ne_dots, or_self, if_false, Nat.not_lt.2 hname.fits, hlookup]
    cases entry with
    | link target => exact hsolid.elim
    | _ => rfl
  cases links <;> exact hstep _

/-- An empty component at the end asks for a directory and stays there. -/
theorem follow_empty {links : Nat} {trail reached : Trail} (h : root.follow links trail [""] = .ok reached) :
    reached = trail := by
  have hstep : ∀ followLink, followWith root followLink trail [""] = .ok reached → reached = trail := by
    intro followLink h
    rw [followWith] at h
    split at h
    · exact (Except.ok.inj h).symm
    · cases h
  cases links <;> exact hstep _ h

/-- A name goes on where components lead to, also when an empty component at their end is dropped for it. -/
theorem follow_concat {links : Nat} {trail reached : Trail} (hstands : Trail.Stands root trail)
    {components front : List String} (hfront : components = front ∨ components = front ++ [""])
    (h : root.follow links trail components = .ok reached) {entries : List (String × FileTree)} {name : String}
    {entry : FileTree} (hreached : Trail.target root reached = .directory entries)
    (hlookup : entries.lookup name = some entry) (hsolid : entry.IsSolid) (hname : IsEntryName name) :
    root.follow links trail (front ++ [name]) = .ok ((name, entry) :: reached) := by
  obtain ⟨fault, hfault⟩ | ⟨last, left, -, hgo⟩ := follow_goesAlong links hstands front
  · obtain rfl | rfl := hfront
    · rw [← List.append_nil components, hfault] at h
      cases h
    · rw [hfault] at h
      cases h
  · have hlast : reached = last := by
      obtain rfl | rfl := hfront
      · rw [← List.append_nil components, hgo, follow_nil] at h
        exact (Except.ok.inj h).symm
      · rw [hgo] at h
        exact follow_empty h
    subst hlast
    rw [hgo]
    exact follow_entryName left hreached hlookup hsolid hname

/-- Only a directory can be gone through. -/
theorem exists_directory_of_follow {links : Nat} {trail reached : Trail} {components : List String}
    (hcomponents : components ≠ []) (h : root.follow links trail components = .ok reached) :
    ∃ entries, Trail.target root trail = .directory entries := by
  have hstep : ∀ followLink, followWith root followLink trail components = .ok reached →
      ∃ entries, Trail.target root trail = .directory entries := by
    intro followLink h
    obtain ⟨component, rest, rfl⟩ := List.exists_cons_of_ne_nil hcomponents
    rw [followWith] at h
    split at h
    · exact ⟨_, ‹_›⟩
    · cases h
  cases links <;> exact hstep _ h

end FileTree

/-! ### Paths of places -/

namespace FileSystem

variable {system : FileSystem}

/-- The components of a path from the root on. -/
def route (system : FileSystem) (path : String) : List String :=
  (if Path.isAbsolute path then [] else system.workingDirectory) ++ Path.components path

theorem resolve_eq_ok_iff {path : String} {target : FileTree} :
    system.resolve path = .ok target ↔
      '\x00' ∉ path.toList ∧ path ≠ "" ∧ path.utf8ByteSize ≤ pathLimit ∧
        ∃ trail, system.trailTo (system.route path) = .ok trail ∧ FileTree.Trail.target system.root trail = target := by
  rw [resolve]
  by_cases hnul : path.toList.contains '\x00'
  · rw [if_pos hnul]
    simp only [List.contains_iff_mem] at hnul
    simp [hnul]
  by_cases hempty : path = ""
  · rw [if_neg hnul, if_pos hempty]
    simp [hempty]
  by_cases hlong : pathLimit < path.utf8ByteSize
  · rw [if_neg hnul, if_neg hempty, if_pos hlong]
    simp [Nat.not_le.2 hlong]
  · rw [if_neg hnul, if_neg hempty, if_neg hlong]
    simp only [List.contains_iff_mem] at hnul
    simp only [hnul, hempty, Nat.not_lt.1 hlong, not_false_eq_true, ne_eq, true_and, route]
    cases system.trailTo _ with
    | error fault => simp [Except.map]
    | ok trail => simp [Except.map]

theorem resolve_of_nul {path : String} (h : '\x00' ∈ path.toList) : system.resolve path = .error .nulInPath := by
  rw [resolve, if_pos (List.contains_iff_mem.2 h)]

theorem resolve_of_long {path : String} (hnul : '\x00' ∉ path.toList) (h : pathLimit < path.utf8ByteSize) :
    system.resolve path = .error .nameTooLong := by
  have hne : path ≠ "" := by
    rintro rfl
    simp at h
  rw [resolve, if_neg (mt List.contains_iff_mem.1 hnul), if_neg hne, if_pos h]

theorem pathExists_iff {path : String} : system.pathExists path = true ↔ ∃ place, system.resolve path = .ok place := by
  rw [pathExists]
  cases system.resolve path <;> simp

theorem readText_of_file {path : String} {content : ByteArray} (h : system.resolve path = .ok (.file content)) :
    system.readText path = (String.fromUTF8? content).elim (.error .notUtf8) .ok := by
  rw [readText, h]
  simp only [bind, Except.bind]
  cases String.fromUTF8? content <;> rfl

theorem readText_eq_ok_iff {path text : String} :
    system.readText path = .ok text ↔
      ∃ content, system.resolve path = .ok (.file content) ∧ String.fromUTF8? content = some text := by
  constructor
  · intro h
    obtain ⟨place, hplace, hread⟩ := exists_of_bind_eq_ok h
    cases place with
    | link target => cases hread
    | directory entries => cases hread
    | file content =>
      rw [readText_of_file hplace] at h
      refine ⟨content, hplace, ?_⟩
      cases htext : String.fromUTF8? content with
      | none =>
        rw [htext] at h
        cases h
      | some found =>
        rw [htext] at h
        exact congrArg some (Except.ok.inj h)
  · rintro ⟨content, hplace, htext⟩
    rw [readText_of_file hplace, htext]
    rfl

theorem route_ne_nil (path : String) : system.route path ≠ [] := by
  simp [route, Path.components_ne_nil]

/-- What a path leads to is a place of the tree and no link. -/
theorem exists_leads_of_resolve {path : String} {target : FileTree} (h : system.resolve path = .ok target) :
    target.IsSolid ∧ ∃ names, system.root.Leads names target := by
  obtain ⟨-, -, -, trail, htrail, rfl⟩ := resolve_eq_ok_iff.1 h
  have hstands : FileTree.Trail.Stands system.root trail := FileTree.stands_of_follow FileTree.Trail.stands_nil htrail
  refine ⟨?_, hstands.exists_leads⟩
  cases trail with
  | nil =>
    obtain ⟨entries, hentries⟩ := FileTree.exists_directory_of_follow (route_ne_nil path) htrail
    rw [hentries]
    trivial
  | cons last before => exact hstands.2.1

theorem joinable_route {path name : String} (hpath : path ≠ "") (hname : '/' ∉ name.toList) :
    ∃ front, (system.route path = front ∨ system.route path = front ++ [""]) ∧
      system.route (Path.join path name) = front ++ [name] := by
  have habsolute : Path.isAbsolute (Path.join path name) = Path.isAbsolute path := by
    obtain ⟨first, more, hfirst⟩ := List.exists_cons_of_ne_nil (mt String.toList_eq_nil_iff.1 hpath)
    rw [Path.join]
    split <;> simp [Path.isAbsolute, hfirst]
  refine ⟨(if Path.isAbsolute path then [] else system.workingDirectory) ++ Path.joinable path, ?_, ?_⟩
  · rw [route, List.append_assoc, List.append_right_inj, List.append_right_inj]
    exact Path.components_eq_joinable path
  · rw [route, habsolute, Path.components_join hname, List.append_assoc]

/-- The name of an entry joined to the path of a directory leads to the entry, if it is no link and the path is not too long. -/
theorem resolve_join {path : String} {entries : List (String × FileTree)} (h : system.resolve path = .ok (.directory entries))
    {name : String} {entry : FileTree} (hlookup : entries.lookup name = some entry) (hsolid : entry.IsSolid)
    (hname : FileTree.IsEntryName name) (hlimit : (Path.join path name).utf8ByteSize ≤ pathLimit) :
    system.resolve (Path.join path name) = .ok entry := by
  obtain ⟨hnul, hne, -, trail, htrail, htarget⟩ := resolve_eq_ok_iff.1 h
  obtain ⟨front, hfront, hroute⟩ := @joinable_route system path name hne hname.noSlash
  refine resolve_eq_ok_iff.2 ⟨?_, ?_, hlimit, (name, entry) :: trail, ?_, rfl⟩
  · rw [Path.join]
    split <;> simp [hnul, hname.noNul]
  · rw [Path.join]
    split <;> simp [hne]
  · rw [hroute]
    exact FileTree.follow_concat FileTree.Trail.stands_nil hfront htrail htarget hlookup hsolid hname

/-- The path of a directory with names joined to it leads where the names lead to, if this is no link and no path of a place on the way is too long. -/
theorem resolve_below {path : String} {tree target : FileTree} {names : List String}
    (h : system.resolve path = .ok tree) (htree : tree.WellFormed) (hleads : tree.Leads names target)
    (hsolid : target.IsSolid)
    (hlimit : ∀ front behind, names = front ++ behind → front ≠ [] → (Path.below path front).utf8ByteSize ≤ pathLimit) :
    system.resolve (Path.below path names) = .ok target := by
  induction hleads generalizing path with
  | here tree => exact h
  | @into entries name entry target names hentry hbelow ih =>
    obtain ⟨hnodup, hnames⟩ := htree [] entries (.here _)
    have hentrySolid : entry.IsSolid := by
      cases hbelow with
      | here => exact hsolid
      | into _ _ => trivial
    have hjoin : system.resolve (Path.join path name) = .ok entry :=
      resolve_join h (FileTree.lookup_eq_some_of_mem hnodup hentry) hentrySolid (hnames _ hentry)
        (hlimit [name] names rfl (by simp))
    refine ih hjoin (htree.of_leads (.into hentry (.here entry))) hsolid ?_
    intro front behind hsplit _
    exact hlimit (name :: front) behind (by rw [hsplit, List.cons_append]) (by simp)

end FileSystem

end Outlining

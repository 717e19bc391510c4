import Mathlib.Data.List.Flatten
import Mathlib.Data.List.Sort
import Mathlib.Data.String.Basic
import Outlining.Discovery
import Outlining.Proofs.FileTree.Places

/-!
# What a search lists

A search of a directory lists exactly the manifests below it, each once, and in the order in which trees of names are read: name by name, so what stands in a directory comes where the directory's own name belongs (`manifests_eq_listed`). Sorting happens in one directory at a time; that the whole list is in order comes out of the recursion.
-/

namespace Outlining

namespace Path

/-! ### Extensions of names -/

/-- A name is a stem, which is not empty, with a dot and an extension behind it. -/
def HasExtension (name extension : String) : Prop :=
  '.' ∉ extension.toList ∧ ∃ stem, stem ≠ "" ∧ name = stem ++ "." ++ extension

theorem takeWhile_reverse_of_not_mem {text : List Char} (hdot : '.' ∉ text) (more : List Char) :
    (text.reverse ++ more).takeWhile (· != '.') = text.reverse ++ more.takeWhile (· != '.') := by
  refine List.takeWhile_append_of_pos fun c hc => bne_iff_ne.2 ?_
  rintro rfl
  exact hdot (List.mem_reverse.1 hc)

theorem extension?_of_split {name : String} {stem extension : List Char}
    (hname : name.toList = stem ++ '.' :: extension) (hdot : '.' ∉ extension) (hdots : name ≠ "..") :
    extension? name = if stem = [] then none else some (String.ofList extension) := by
  have hreverse : name.toList.reverse = extension.reverse ++ '.' :: stem.reverse := by simp [hname]
  rw [extension?, hreverse, takeWhile_reverse_of_not_mem hdot]
  simp [hdots]

theorem extension?_of_not_mem {name : String} (hdot : '.' ∉ name.toList) : extension? name = none := by
  have hsuffix := takeWhile_reverse_of_not_mem hdot []
  rw [List.append_nil, List.takeWhile_nil, List.append_nil] at hsuffix
  rw [extension?, hsuffix]
  simp only [List.drop_length]

theorem extension?_eq_some_iff {name extension : String} (hdots : name ≠ "..") :
    extension? name = some extension ↔ HasExtension name extension := by
  constructor
  · intro h
    by_cases hmem : '.' ∈ name.toList
    · obtain ⟨behind, stem, hsplit, hdot⟩ := List.eq_append_cons_of_mem (List.mem_reverse.2 hmem)
      have hname : name.toList = stem.reverse ++ '.' :: behind.reverse := by simpa using congrArg List.reverse hsplit
      rw [extension?_of_split hname (by simpa using hdot) hdots] at h
      split at h
      · cases h
      · rename_i hstem
        cases h
        refine ⟨by simpa using hdot, String.ofList stem.reverse, by simpa using hstem, ?_⟩
        simp [← String.toList_inj, hname]
    · rw [extension?_of_not_mem hmem] at h
      cases h
  · rintro ⟨hdot, stem, hstem, rfl⟩
    have hname : (stem ++ "." ++ extension).toList = stem.toList ++ '.' :: extension.toList := by simp
    rw [extension?_of_split hname hdot hdots, if_neg (by simpa using hstem), String.ofList_toList]

end Path

namespace Discovery

variable {language : PatternLanguage} {system : FileSystem} {extension : String}

/-! ### What is to be listed -/

/-- A node of a tree is a manifest at a path: a file with the extension, or a link to a file whose own name has it. -/
def IsManifest (system : FileSystem) (extension path name : String) : FileTree → Prop
  | .file _ => Path.HasExtension name extension
  | .link _ => Path.HasExtension name extension ∧ ∃ content, system.resolve path = .ok (.file content)
  | .directory _ => False

/-- Names lead to a manifest from a tree at a path, through directories and never through a link. -/
def ManifestBelow (system : FileSystem) (extension path : String) (tree : FileTree) (names : List String) : Prop :=
  ∃ front name node, names = front ++ [name] ∧ tree.Leads names node ∧
    IsManifest system extension (Path.below path names) name node

/-- What a search needs below a directory at a path: every directory can be read there, and every link leads somewhere. -/
structure Searchable (system : FileSystem) (path : String) (tree : FileTree) : Prop where
  wellFormed : tree.WellFormed
  reads : ∀ names entries, tree.Leads names (.directory entries) →
    system.resolve (Path.below path names) = .ok (.directory entries)
  links : ∀ names target, tree.Leads names (.link target) → ∃ place, system.resolve (Path.below path names) = .ok place

/-- A search lists the paths below a path along certain names, in the order of these names. -/
def Lists (path : String) (listed : List String → Prop) (outcome : Except Diagnostic (List String)) : Prop :=
  ∃ found : List (List String), outcome = .ok (found.map (Path.below path)) ∧ (∀ names, names ∈ found ↔ listed names) ∧
    found.Pairwise (· < ·)

theorem Searchable.entry {path name : String} {entries : List (String × FileTree)} {entry : FileTree}
    (h : Searchable system path (.directory entries)) (hentry : (name, entry) ∈ entries) :
    Searchable system (Path.join path name) entry where
  wellFormed := h.wellFormed.of_leads (.into hentry (.here entry))
  reads names inner hinner := h.reads (name :: names) inner (.into hentry hinner)
  links names target htarget := h.links (name :: names) target (.into hentry htarget)

/-- A manifest below a directory is one of its entries or stands below one of them. -/
theorem manifestBelow_directory_iff {path : String} {entries : List (String × FileTree)} {names : List String} :
    ManifestBelow system extension path (.directory entries) names ↔
      ∃ name entry rest, (name, entry) ∈ entries ∧ names = name :: rest ∧
        (rest = [] ∧ IsManifest system extension (Path.join path name) name entry ∨
          ManifestBelow system extension (Path.join path name) entry rest) := by
  constructor
  · rintro ⟨front, last, node, hnames, hleads, hmanifest⟩
    cases hleads with
    | here => simp at hnames
    | @into _ name entry _ rest hentry hbelow =>
      refine ⟨name, entry, rest, hentry, rfl, ?_⟩
      cases front with
      | nil =>
        obtain ⟨rfl, rfl⟩ := List.cons_eq_cons.1 hnames
        cases hbelow
        exact .inl ⟨rfl, hmanifest⟩
      | cons first more =>
        obtain ⟨rfl, rfl⟩ := List.cons_eq_cons.1 hnames
        exact .inr ⟨more, last, node, rfl, hbelow, hmanifest⟩
  · rintro ⟨name, entry, rest, hentry, rfl, ⟨rfl, hmanifest⟩ | ⟨front, last, node, rfl, hleads, hmanifest⟩⟩
    · exact ⟨[], name, entry, rfl, .into hentry (.here entry), hmanifest⟩
    · exact ⟨name :: front, last, node, rfl, .into hentry hleads, hmanifest⟩

theorem manifestBelow_directory_iff_exists {path : String} {entries : List (String × FileTree)} {names : List String} :
    ManifestBelow system extension path (.directory entries) names ↔
      ∃ entry ∈ entries, ManifestBelow system extension path (.directory [entry]) names := by
  constructor
  · intro h
    obtain ⟨name, entry, rest, hentry, h⟩ := manifestBelow_directory_iff.1 h
    exact ⟨(name, entry), hentry, manifestBelow_directory_iff.2 ⟨name, entry, rest, by simp, h⟩⟩
  · rintro ⟨entry, hentry, h⟩
    obtain ⟨name, node, rest, hmem, h⟩ := manifestBelow_directory_iff.1 h
    rw [List.mem_singleton] at hmem
    exact manifestBelow_directory_iff.2 ⟨name, node, rest, hmem ▸ hentry, h⟩

theorem exists_cons_of_manifestBelow {path : String} {entry : String × FileTree} {names : List String}
    (h : ManifestBelow system extension path (.directory [entry]) names) : ∃ rest, names = entry.1 :: rest := by
  obtain ⟨name, node, rest, hmem, rfl, -⟩ := manifestBelow_directory_iff.1 h
  rw [List.mem_singleton] at hmem
  exact ⟨rest, by rw [← hmem]⟩

/-! ### Entries in the order of their names -/

theorem belowEntries_eq_map (path : String) (entries : List (String × FileTree)) :
    belowEntries system extension path entries =
      entries.map fun entry => (entry.1, belowEntry system extension (Path.join path entry.1) entry.1 entry.2) := by
  induction entries with
  | nil => rfl
  | cons entry rest ih => rw [belowEntries, ih, List.map_cons]

/-- Entries in the order of their names. -/
def sorted (entries : List (String × FileTree)) : List (String × FileTree) :=
  entries.mergeSort fun left right => decide (left.1 ≤ right.1)

theorem inNameOrder_map {ε α : Type} (search : String × FileTree → Except ε (List α)) (entries : List (String × FileTree)) :
    inNameOrder (entries.map fun entry => (entry.1, search entry)) = inTurn ((sorted entries).map search) := by
  have hmap := List.map_mergeSort (f := fun entry => (entry.1, search entry)) (l := entries)
    (r := fun left right => decide (left.1 ≤ right.1)) (s := fun left right => decide (left.1 ≤ right.1))
    fun _ _ _ _ => rfl
  rw [inNameOrder, ← hmap, List.map_map]
  rfl

theorem inNameOrder_singleton {ε α : Type} (name : String) (found : Except ε (List α)) :
    inNameOrder [(name, found)] = found := by
  rw [inNameOrder, List.mergeSort_singleton, List.map_singleton, inTurn, inTurn]
  exact bind_pure_append_nil found

theorem mem_sorted {entries : List (String × FileTree)} {entry : String × FileTree} :
    entry ∈ sorted entries ↔ entry ∈ entries :=
  (List.mergeSort_perm entries _).mem_iff

theorem pairwise_lt_sorted {entries : List (String × FileTree)} (hnames : (entries.map Prod.fst).Nodup) :
    (sorted entries).Pairwise fun left right => left.1 < right.1 := by
  have hperm := List.mergeSort_perm entries fun left right => decide (left.1 ≤ right.1)
  have hle : (sorted entries).Pairwise fun left right => left.1 ≤ right.1 := by
    simpa [sorted] using @List.pairwise_mergeSort _ (fun left right : String × FileTree => decide (left.1 ≤ right.1))
      (by simpa using fun a _ b _ c _ => le_trans) (by simpa using fun a _ b _ => le_total a b) entries
  have hne : (sorted entries).Pairwise fun left right => left.1 ≠ right.1 :=
    List.pairwise_map.1 ((hperm.map Prod.fst).nodup_iff.2 hnames)
  exact (hle.and hne).imp fun h => lt_of_le_of_ne h.1 h.2

/-- What each entry lists comes one after the other, and what a name leads to stands before what later names lead to. -/
theorem inTurn_lists {path : String} {entries : List (String × FileTree)}
    (hnames : entries.Pairwise fun left right => left.1 < right.1)
    {search : String × FileTree → Except Diagnostic (List String)}
    (h : ∀ entry ∈ entries, Lists path (ManifestBelow system extension path (.directory [entry])) (search entry)) :
    Lists path (ManifestBelow system extension path (.directory entries)) (inTurn (entries.map search)) := by
  induction entries with
  | nil =>
    refine ⟨[], rfl, ?_, .nil⟩
    simp [@manifestBelow_directory_iff_exists system extension path []]
  | cons entry rest ih =>
    obtain ⟨hfirst, hrest⟩ := List.pairwise_cons.1 hnames
    obtain ⟨here, hhere, hmemHere, horderHere⟩ := h entry List.mem_cons_self
    obtain ⟨later, hlater, hmemLater, horderLater⟩ := ih hrest fun other hother => h other (List.mem_cons_of_mem entry hother)
    refine ⟨here ++ later, ?_, ?_, ?_⟩
    · rw [List.map_cons, inTurn, hhere, hlater, List.map_append]
      rfl
    · intro names
      rw [List.mem_append, hmemHere, hmemLater, @manifestBelow_directory_iff_exists _ _ _ (entry :: rest),
        List.exists_mem_cons_iff, ← manifestBelow_directory_iff_exists]
    · -- Everything here begins with the name of the entry, and everything later with a later name.
      refine List.pairwise_append.2 ⟨horderHere, horderLater, fun names hnamesHere others hothers => ?_⟩
      obtain ⟨more, rfl⟩ := exists_cons_of_manifestBelow ((hmemHere names).1 hnamesHere)
      obtain ⟨other, hother, hbelow⟩ := manifestBelow_directory_iff_exists.1 ((hmemLater others).1 hothers)
      obtain ⟨rest', rfl⟩ := exists_cons_of_manifestBelow hbelow
      exact List.cons_lt_cons_iff.2 (.inl (hfirst other hother))

theorem inNameOrder_lists {path : String} {entries : List (String × FileTree)} (hnames : (entries.map Prod.fst).Nodup)
    (h : ∀ entry ∈ entries, Lists path (ManifestBelow system extension path (.directory [entry]))
      (belowEntry system extension (Path.join path entry.1) entry.1 entry.2)) :
    Lists path (ManifestBelow system extension path (.directory entries))
      (inNameOrder (belowEntries system extension path entries)) := by
  rw [belowEntries_eq_map, inNameOrder_map]
  obtain ⟨found, hfound, hmem, horder⟩ := inTurn_lists (pairwise_lt_sorted hnames) fun entry hentry => h entry (mem_sorted.1 hentry)
  refine ⟨found, hfound, fun names => ?_, horder⟩
  rw [hmem, manifestBelow_directory_iff_exists, manifestBelow_directory_iff_exists]
  simp only [mem_sorted]

/-! ### The search -/

/-- What a directory lists is listed from the directory above with the directory's name in front. -/
theorem Lists.into {path name : String} {entries : List (String × FileTree)} {outcome : Except Diagnostic (List String)}
    (h : Lists (Path.join path name) (ManifestBelow system extension (Path.join path name) (.directory entries)) outcome) :
    Lists path (ManifestBelow system extension path (.directory [(name, .directory entries)])) outcome := by
  obtain ⟨found, hfound, hmem, horder⟩ := h
  refine ⟨found.map (List.cons name), ?_, ?_, ?_⟩
  · rw [hfound, List.map_map]
    rfl
  · intro names
    simp [@manifestBelow_directory_iff _ _ _ [(name, FileTree.directory entries)], hmem, IsManifest, eq_comm, and_comm]
  · exact List.pairwise_map.2 (horder.imp fun hlt => List.cons_lt_cons_iff.2 (.inr ⟨rfl, hlt⟩))

/-- An entry that is no directory is listed or not. -/
theorem lists_single {path name : String} {entry : FileTree} {listed : Prop} [Decidable listed]
    (h : ∀ names, ManifestBelow system extension path (.directory [(name, entry)]) names ↔ listed ∧ names = [name]) :
    Lists path (ManifestBelow system extension path (.directory [(name, entry)]))
      (if listed then .ok [Path.join path name] else .ok []) := by
  by_cases hlisted : listed
  · rw [if_pos hlisted]
    exact ⟨[[name]], rfl, fun names => by simp [h, hlisted], List.pairwise_singleton _ _⟩
  · rw [if_neg hlisted]
    exact ⟨[], rfl, fun names => by simp [h, hlisted], .nil⟩

theorem manifestBelow_single_iff {path name : String} {entry : FileTree} (hentry : ∀ entries, entry ≠ .directory entries)
    {names : List String} :
    ManifestBelow system extension path (.directory [(name, entry)]) names ↔
      IsManifest system extension (Path.join path name) name entry ∧ names = [name] := by
  rw [manifestBelow_directory_iff]
  constructor
  · rintro ⟨_, _, rest, hmem, rfl, h⟩
    cases List.mem_singleton.1 hmem
    obtain ⟨rfl, hmanifest⟩ | ⟨front, last, node, rfl, hleads, -⟩ := h
    · exact ⟨hmanifest, rfl⟩
    · generalize hmore : front ++ [last] = more at hleads
      cases hleads with
      | here => simp at hmore
      | into _ _ => exact (hentry _ rfl).elim
  · rintro ⟨hmanifest, rfl⟩
    exact ⟨name, entry, [], by simp, rfl, .inl ⟨rfl, hmanifest⟩⟩

mutual

theorem belowEntry_lists {path name : String} (hname : name ≠ "..") (entry : FileTree)
    (h : Searchable system (Path.join path name) entry) :
    Lists path (ManifestBelow system extension path (.directory [(name, entry)]))
      (belowEntry system extension (Path.join path name) name entry) := by
  cases entry with
  | file content =>
    refine lists_single fun names => ?_
    rw [manifestBelow_single_iff (by simp), IsManifest, Path.extension?_eq_some_iff hname]
  | link target =>
    -- A link that leads to a directory lists nothing, whatever its name.
    obtain ⟨place, hplace⟩ := h.links [] target (.here _)
    rw [Path.below, List.foldl_nil] at hplace
    have hsingle := @manifestBelow_single_iff system extension path name (.link target) (by simp)
    rw [belowEntry, FileSystem.isDirectory, hplace]
    cases place with
    | file content =>
      refine lists_single fun names => ?_
      simp [hsingle, IsManifest, Path.extension?_eq_some_iff hname, hplace]
    | directory entries => exact ⟨[], rfl, fun names => by simp [hsingle, IsManifest, hplace], .nil⟩
    | link inner => exact ((FileSystem.exists_leads_of_resolve hplace).1).elim
  | directory entries =>
    have hread : system.readDirectory (Path.join path name) = .ok entries := by
      have hresolve : system.resolve (Path.join path name) = .ok (.directory entries) := h.reads [] entries (.here _)
      rw [FileSystem.readDirectory, hresolve]
      rfl
    obtain ⟨hnames, hentries⟩ := h.wellFormed [] entries (.here _)
    rw [belowEntry, hread]
    exact (inNameOrder_lists hnames (belowEntries_lists entries fun entry hentry =>
      ⟨(hentries entry hentry).ne_dots, h.entry hentry⟩)).into

theorem belowEntries_lists {path : String} (entries : List (String × FileTree))
    (h : ∀ entry ∈ entries, entry.1 ≠ ".." ∧ Searchable system (Path.join path entry.1) entry.2) :
    ∀ entry ∈ entries, Lists path (ManifestBelow system extension path (.directory [entry]))
      (belowEntry system extension (Path.join path entry.1) entry.1 entry.2) := by
  cases entries with
  | nil => exact nofun
  | cons first rest =>
    rw [List.forall_mem_cons] at h ⊢
    exact ⟨belowEntry_lists h.1.1 first.2 h.1.2, belowEntries_lists rest h.2⟩

end

/-! ### Listed paths -/

theorem searchable_of_resolve {path : String} {entries : List (String × FileTree)} (hroot : system.root.WellFormed)
    (h : system.resolve path = .ok (.directory entries))
    (hlinks : ∀ names target, (FileTree.directory entries).Leads names (.link target) →
      ∃ place, system.resolve (Path.below path names) = .ok place)
    (hlimit : ∀ names inner, (FileTree.directory entries).Leads names (.directory inner) → names ≠ [] →
      (Path.below path names).utf8ByteSize ≤ FileSystem.pathLimit) :
    Searchable system path (.directory entries) := by
  obtain ⟨-, place, hplace⟩ := FileSystem.exists_leads_of_resolve h
  have hwellFormed := hroot.of_leads hplace
  refine ⟨hwellFormed, fun names inner hinner => ?_, hlinks⟩
  refine FileSystem.resolve_below h hwellFormed hinner trivial ?_
  rintro front behind rfl hfront
  obtain ⟨middle, hmiddle⟩ := hinner.exists_directory
  exact hlimit front middle hmiddle hfront

theorem manifests_of_no_rules {settings : Settings} (hrules : settings.ignorePaths = ⟨[], []⟩) (arguments : List String) :
    manifests language system settings arguments = inTurn (arguments.map (ofArgument system settings.extension)) := by
  have hfilter : IgnoreFilter.ofRules language settings.ignorePaths = .ok ⟨[], []⟩ := by rw [hrules]; rfl
  rw [manifests, hfilter]
  cases inTurn (arguments.map (ofArgument system settings.extension)) with
  | error diagnostic => rfl
  | ok found =>
    refine congrArg Except.ok (List.filter_eq_self.2 fun path _ => ?_)
    rfl

/-- A directory is listed name by name: the search gives the paths below it along the names of the manifests, in the order of these names, and no path twice. Every directory below can be read because its path is not too long. -/
theorem manifests_eq_listed (language : PatternLanguage) (system : FileSystem) (settings : Settings) (argument : String)
    (entries : List (String × FileTree)) (hrules : settings.ignorePaths = ⟨[], []⟩) (hroot : system.root.WellFormed)
    (hargument : system.resolve (Path.withoutTrailingSeparators argument) = .ok (.directory entries))
    (hlinks : ∀ names target, (FileTree.directory entries).Leads names (.link target) →
      ∃ place, system.resolve (Path.below (Path.withoutTrailingSeparators argument) names) = .ok place)
    (hlimit : ∀ names inner, (FileTree.directory entries).Leads names (.directory inner) → names ≠ [] →
      (Path.below (Path.withoutTrailingSeparators argument) names).utf8ByteSize ≤ FileSystem.pathLimit) :
    ∃ found : List (List String),
      manifests language system settings [argument] = .ok (found.map (Path.below (Path.withoutTrailingSeparators argument))) ∧
      (∀ names, names ∈ found ↔ ManifestBelow system settings.extension (Path.withoutTrailingSeparators argument)
        (.directory entries) names) ∧
      found.Pairwise (· < ·) ∧ (found.map (Path.below (Path.withoutTrailingSeparators argument))).Nodup := by
  have hsearchable := searchable_of_resolve hroot hargument hlinks hlimit
  obtain ⟨hnames, hentries⟩ := hsearchable.wellFormed [] entries (.here _)
  obtain ⟨found, hfound, hmem, horder⟩ := @inNameOrder_lists system settings.extension _ entries hnames
    (belowEntries_lists entries fun entry hentry => ⟨(hentries entry hentry).ne_dots, hsearchable.entry hentry⟩)
  refine ⟨found, ?_, hmem, horder, ?_⟩
  · have hlisted : ofArgument system settings.extension argument =
        .ok (found.map (Path.below (Path.withoutTrailingSeparators argument))) := by
      rw [ofArgument, hargument]
      exact hfound
    rw [manifests_of_no_rules hrules, List.map_singleton, hlisted, inTurn, inTurn]
    exact congrArg Except.ok (List.append_nil _)
  · refine List.Nodup.map_on (fun names hnames others hothers heq => ?_) (horder.imp ne_of_lt)
    obtain ⟨front, last, node, rfl, hleads, -⟩ := (hmem names).1 hnames
    obtain ⟨front', last', node', rfl, hleads', -⟩ := (hmem others).1 hothers
    exact FileTree.below_injective (hsearchable.wellFormed.isEntryName hleads)
      (hsearchable.wellFormed.isEntryName hleads') heq

/-- A directory with a link to a file in a directory below, which has a link back up. -/
def linkedEntries : List (String × FileTree) :=
  [("web", .directory [("init.pp", .file .empty), ("up", .link "..")]), ("site.pp", .link "web/init.pp")]

def linkedSite : FileSystem where
  root := .directory [("manifests", .directory linkedEntries)]

theorem manifests_linkedSite :
    linkedSite.root.WellFormed ∧ linkedSite.resolve "manifests" = .ok (.directory linkedEntries) ∧
      (∀ names target, (FileTree.directory linkedEntries).Leads names (.link target) →
        ∃ place, linkedSite.resolve (Path.below "manifests" names) = .ok place) ∧
      (∀ names inner, (FileTree.directory linkedEntries).Leads names (.directory inner) → names ≠ [] →
        (Path.below "manifests" names).utf8ByteSize ≤ FileSystem.pathLimit) ∧
      ∃ found : List (List String),
        manifests .standard linkedSite {} ["manifests/"] = .ok (found.map (Path.below "manifests")) ∧
          (∀ names, names ∈ found ↔ ManifestBelow linkedSite "pp" "manifests" (.directory linkedEntries) names) ∧
          found.Pairwise (· < ·) ∧ (found.map (Path.below "manifests")).Nodup := by
  have hroot : linkedSite.root.WellFormed := by
    have hnames : ∀ name ∈ ["manifests", "web", "init.pp", "up", "site.pp"], FileTree.IsEntryName name := by decide
    simp only [List.forall_mem_cons] at hnames
    simp [linkedSite, linkedEntries, FileTree.wellFormed_directory_iff, hnames]
  have hlinks : ∀ names target, (FileTree.directory linkedEntries).Leads names (.link target) →
      ∃ place, linkedSite.resolve (Path.below "manifests" names) = .ok place := by
    intro names target h
    refine FileSystem.pathExists_iff.1 ?_
    obtain ⟨rfl, -⟩ | ⟨rfl, -⟩ : names = ["web", "up"] ∧ target = ".." ∨ names = ["site.pp"] ∧ target = "web/init.pp" := by
      simpa [linkedEntries, FileTree.leads_directory_iff] using h
    · decide +kernel
    · decide +kernel
  have hlimit : ∀ names inner, (FileTree.directory linkedEntries).Leads names (.directory inner) → names ≠ [] →
      (Path.below "manifests" names).utf8ByteSize ≤ FileSystem.pathLimit := by
    intro names inner h hne
    obtain ⟨rfl, -⟩ : names = ["web"] ∧ inner = [("init.pp", .file .empty), ("up", .link "..")] := by
      simpa [linkedEntries, FileTree.leads_directory_iff, hne] using h
    decide
  exact ⟨hroot, rfl, hlinks, hlimit,
    manifests_eq_listed .standard linkedSite {} "manifests/" linkedEntries rfl hroot rfl hlinks hlimit⟩

/-! ### Directories that are not listed -/

/-- The path of `d` in the working directory with many slashes in it. -/
def slashed (count : Nat) : String :=
  "." ++ String.ofList (List.replicate count '/') ++ "d"

theorem toList_slashed (count : Nat) : (slashed count).toList = '.' :: List.replicate count '/' ++ ['d'] := by
  simp [slashed]

theorem utf8ByteSize_slashed (count : Nat) : (slashed count).utf8ByteSize = count + 2 := by
  have hslashes : (String.ofList (List.replicate count '/')).utf8ByteSize = count := by
    rw [String.utf8ByteSize_ofList]
    induction count with
    | zero => rfl
    | succ n ih => rw [List.replicate_succ, String.utf8Len_cons, ih]; rfl
  rw [slashed, String.utf8ByteSize_append, String.utf8ByteSize_append, hslashes]
  have hdot : ".".utf8ByteSize = 1 := by decide
  have hname : "d".utf8ByteSize = 1 := by decide
  omega

theorem components_slashed (count : Nat) :
    Path.components (slashed (count + 1)) = "." :: (List.replicate count "" ++ ["d"]) := by
  have hslashes : ∀ n, Path.splitAtSlashes (List.replicate n '/' ++ ['d']) = List.replicate n [] ++ [['d']] := by
    intro n
    induction n with
    | zero => rfl
    | succ n ih => simp [List.replicate_succ, Path.splitAtSlashes, ih]
  have htext : (slashed (count + 1)).toList = ['.'] ++ '/' :: (List.replicate count '/' ++ ['d']) := by
    simp [toList_slashed, List.replicate_succ]
  rw [Path.components, htext, Path.splitAtSlashes_append, hslashes]
  simp [Path.splitAtSlashes]

theorem withoutTrailingSeparators_slashed (count : Nat) : Path.withoutTrailingSeparators (slashed count) = slashed count := by
  have hreverse : (slashed count).toList.reverse = 'd' :: (List.replicate count '/' ++ ['.']) := by simp [toList_slashed]
  have hseparator : Path.isSeparator 'd' = false := by decide
  rw [Path.withoutTrailingSeparators, hreverse, List.dropWhile_cons_of_neg (by simp [hseparator]), ← hreverse,
    List.reverse_reverse, String.ofList_toList, ite_self]

theorem follow_slashed {root : FileTree} {entries : List (String × FileTree)} (hroot : root = .directory entries)
    (links count : Nat) (rest : List String) :
    root.follow links [] ("." :: (List.replicate count "" ++ rest)) = root.follow links [] rest := by
  have hskip : ∀ followLink, FileTree.followWith root followLink [] ("." :: (List.replicate count "" ++ rest)) =
      FileTree.followWith root followLink [] rest := by
    intro followLink
    have hstay : ∀ component more, component = "" ∨ component = "." →
        FileTree.followWith root followLink [] (component :: more) = FileTree.followWith root followLink [] more := by
      intro component more hcomponent
      rw [FileTree.followWith, hroot]
      simp only [FileTree.Trail.target, List.head?_nil, Option.map_none, Option.getD_none, if_pos hcomponent]
    rw [hstay "." _ (.inr rfl)]
    induction count with
    | zero => rfl
    | succ n ih => rw [List.replicate_succ, List.cons_append, hstay "" _ (.inl rfl), ih]
  cases links <;> exact hskip _

theorem resolve_slashed (entries : List (String × FileTree)) {count : Nat} (hcount : count + 3 ≤ FileSystem.pathLimit) :
    (FileSystem.mk (.directory [("d", .directory entries)]) []).resolve (slashed (count + 1)) = .ok (.directory entries) := by
  refine FileSystem.resolve_eq_ok_iff.2 ⟨?_, ?_, ?_, [("d", .directory entries)], ?_, rfl⟩
  · simp [toList_slashed]
  · simp [← String.toList_inj, toList_slashed]
  · rwa [utf8ByteSize_slashed]
  · have habsolute : Path.isAbsolute (slashed (count + 1)) = false := by simp [Path.isAbsolute, toList_slashed]
    rw [FileSystem.route, habsolute, components_slashed, FileSystem.trailTo]
    exact (follow_slashed rfl _ _ _).trans (FileTree.follow_entryName _ rfl rfl trivial (by decide))

theorem manifests_slashed {entries : List (String × FileTree)} {count : Nat} (hcount : count + 3 ≤ FileSystem.pathLimit)
    (hlong : FileSystem.pathLimit < count + 5) :
    manifests language ⟨.directory [("d", .directory [("s", .directory entries)])], []⟩ {} [slashed (count + 1)] =
      .error (unreadableDirectory (slashed (count + 1) ++ "/s") .nameTooLong) := by
  have hjoin : Path.join (slashed (count + 1)) "s" = slashed (count + 1) ++ "/s" := by
    rw [Path.join, if_neg (by rw [toList_slashed, List.getLast?_concat]; simp), String.append_assoc]
    rfl
  have hread : (FileSystem.mk (.directory [("d", .directory [("s", .directory entries)])]) []).readDirectory
      (slashed (count + 1) ++ "/s") = .error .nameTooLong := by
    have hsize : (slashed (count + 1) ++ "/s").utf8ByteSize = count + 5 := by
      rw [String.utf8ByteSize_append, utf8ByteSize_slashed]
      rfl
    rw [FileSystem.readDirectory, FileSystem.resolve, if_neg (by simp [toList_slashed]),
      if_neg (by simp [← String.toList_inj, toList_slashed]), if_pos (by rwa [hsize])]
    rfl
  rw [manifests_of_no_rules rfl, List.map_singleton, ofArgument, withoutTrailingSeparators_slashed, resolve_slashed _ hcount]
  simp only [belowEntries, hjoin, belowEntry, hread, inNameOrder_singleton]
  rfl

/-- A directory whose name ends with what separates components elsewhere. -/
def backslashSite : FileSystem where
  root := .directory [("d\\", .directory [("x.pp", .file .empty)])]

/-- A directory in a directory. -/
def nestedSite : FileSystem where
  root := .directory [("d", .directory [("s", .directory [("x.pp", .file .empty)])])]

/-- In trees without links, a directory is not found under its own path when a backslash ends it, and a search fails below a directory whose path is nearly as long as paths may be. -/
theorem manifests_backslashSite_nestedSite :
    (backslashSite.root.WellFormed ∧ (∀ names target, ¬backslashSite.root.Leads names (.link target)) ∧
      backslashSite.resolve "d\\" = .ok (.directory [("x.pp", .file .empty)]) ∧
      ManifestBelow backslashSite "pp" "d\\" (.directory [("x.pp", .file .empty)]) ["x.pp"] ∧
      manifests .standard backslashSite {} ["d\\"] = .ok []) ∧
    nestedSite.root.WellFormed ∧ (∀ names target, ¬nestedSite.root.Leads names (.link target)) ∧
      nestedSite.resolve (slashed 4092) = .ok (.directory [("s", .directory [("x.pp", .file .empty)])]) ∧
      ManifestBelow nestedSite "pp" (slashed 4092) (.directory [("s", .directory [("x.pp", .file .empty)])]) ["s", "x.pp"] ∧
      manifests .standard nestedSite {} [slashed 4092] = .error (unreadableDirectory (slashed 4092 ++ "/s") .nameTooLong) := by
  have hnames : ∀ name ∈ ["d\\", "d", "s", "x.pp"], FileTree.IsEntryName name := by decide
  simp only [List.forall_mem_cons] at hnames
  have hextension : Path.HasExtension "x.pp" "pp" := (Path.extension?_eq_some_iff (by decide)).1 (by decide)
  refine ⟨⟨?_, ?_, ?_, ?_, ?_⟩, ?_, ?_, ?_, ?_, ?_⟩
  · simp [backslashSite, FileTree.wellFormed_directory_iff, hnames]
  · simp [backslashSite, FileTree.leads_directory_iff]
  · rfl
  · exact ⟨[], "x.pp", .file .empty, rfl, .into List.mem_cons_self (.here _), hextension⟩
  · rfl
  · simp [nestedSite, FileTree.wellFormed_directory_iff, hnames]
  · simp [nestedSite, FileTree.leads_directory_iff]
  · exact resolve_slashed _ (by decide)
  · exact ⟨["s"], "x.pp", .file .empty, rfl, .into List.mem_cons_self (.into List.mem_cons_self (.here _)), hextension⟩
  · exact manifests_slashed (by decide) (by decide)

end Discovery

end Outlining

import Outlining.Proofs.Discovery.Listing
import Outlining.Proofs.Synopsis.Manifests

/-!
# Whether what is found is there

A path given as an argument is taken only if it leads somewhere, and a file in a searched directory is there as long as its path is not too long to be followed. A link in a searched directory is taken by its name alone, unless it leads to a directory: so a found path leads to a file, or it is a link that leads nowhere, or it is too long (`manifests_present`). Links that lead nowhere are handed over too (`manifests_danglingSite_plainSite`).
-/

namespace Outlining.Discovery

variable {language : PatternLanguage} {system : FileSystem} {extension : String}

/-- A path is an entry of a directory, this entry is a link, and following it leads nowhere. -/
def Dangles (system : FileSystem) (path : String) : Prop :=
  ∃ directory name entries target, path = Path.join directory name ∧
    system.resolve directory = .ok (.directory entries) ∧ (name, .link target) ∈ entries ∧
      ∀ place, system.resolve path ≠ .ok place

/-- A path leads to a file, unless it is a link that leads nowhere or has more bytes than a path may have. -/
def Present (system : FileSystem) (path : String) : Prop :=
  (∃ content, system.resolve path = .ok (.file content)) ∨ Dangles system path ∨
    FileSystem.pathLimit < path.utf8ByteSize

/-! ### The search of a directory -/

theorem exists_of_mem_inTurn {ε α : Type} {results : List (Except ε (List α))} {found : List α}
    (h : inTurn results = .ok found) {item : α} (hitem : item ∈ found) :
    ∃ part, .ok part ∈ results ∧ item ∈ part := by
  induction results generalizing found with
  | nil =>
    cases h
    cases hitem
  | cons first rest ih =>
    obtain ⟨here, hhere, h⟩ := exists_of_bind_eq_ok h
    obtain ⟨later, hlater, h⟩ := exists_of_bind_eq_ok h
    cases h
    rcases List.mem_append.1 hitem with hitem | hitem
    · exact ⟨here, by simp [hhere], hitem⟩
    · obtain ⟨part, hpart, hmem⟩ := ih hlater hitem
      exact ⟨part, List.mem_cons_of_mem first hpart, hmem⟩

/-- What is found below the entries of a directory is found below one of them. -/
theorem exists_of_mem_inNameOrder {path : String} {entries : List (String × FileTree)} {found : List String}
    (h : inNameOrder (belowEntries system extension path entries) = .ok found) {item : String} (hitem : item ∈ found) :
    ∃ entry ∈ entries, ∃ part,
      belowEntry system extension (Path.join path entry.1) entry.1 entry.2 = .ok part ∧ item ∈ part := by
  rw [belowEntries_eq_map, inNameOrder_map] at h
  obtain ⟨part, hpart, hmem⟩ := exists_of_mem_inTurn h hitem
  obtain ⟨entry, hentry, hbelow⟩ := List.mem_map.1 hpart
  exact ⟨entry, mem_sorted.1 hentry, part, hbelow, hmem⟩

/-- A place in a directory at a path is reached along its name, if the path along it is not too long. -/
theorem resolve_entry {path name : String} {entries : List (String × FileTree)} {entry : FileTree}
    (h : system.resolve path = .ok (.directory entries)) (hentries : (FileTree.directory entries).WellFormed)
    (hentry : (name, entry) ∈ entries) (hsolid : entry.IsSolid)
    (hlimit : (Path.join path name).utf8ByteSize ≤ FileSystem.pathLimit) :
    system.resolve (Path.join path name) = .ok entry := by
  obtain ⟨hnodup, hnames⟩ := hentries [] entries (.here _)
  exact FileSystem.resolve_join h (FileTree.lookup_eq_some_of_mem hnodup hentry) hsolid (hnames _ hentry) hlimit

theorem present_file {path name : String} {entries : List (String × FileTree)} {content : ByteArray}
    (h : system.resolve path = .ok (.directory entries)) (hentries : (FileTree.directory entries).WellFormed)
    (hentry : (name, .file content) ∈ entries) : Present system (Path.join path name) := by
  by_cases hlimit : (Path.join path name).utf8ByteSize ≤ FileSystem.pathLimit
  · exact .inl ⟨content, resolve_entry h hentries hentry trivial hlimit⟩
  · exact .inr (.inr (Nat.lt_of_not_le hlimit))

theorem present_link {path name target : String} {entries : List (String × FileTree)}
    (h : system.resolve path = .ok (.directory entries)) (hentry : (name, .link target) ∈ entries)
    (hdirectory : system.isDirectory (Path.join path name) = false) : Present system (Path.join path name) := by
  cases hplace : system.resolve (Path.join path name) with
  | error fault => exact .inr (.inl ⟨path, name, entries, target, rfl, h, hentry, by simp [hplace]⟩)
  | ok place =>
    cases place with
    | file content => exact .inl ⟨content, hplace⟩
    | link inner => exact ((FileSystem.exists_leads_of_resolve hplace).1).elim
    | directory inner => simp [FileSystem.isDirectory, hplace] at hdirectory

mutual

theorem belowEntry_present {path name : String} {entries : List (String × FileTree)}
    (h : system.resolve path = .ok (.directory entries)) (hentries : (FileTree.directory entries).WellFormed)
    (entry : FileTree) (hentry : (name, entry) ∈ entries) {found : List String}
    (hfound : belowEntry system extension (Path.join path name) name entry = .ok found) :
    ∀ item ∈ found, Present system item := by
  intro item hitem
  cases entry with
  | file content =>
    rw [belowEntry] at hfound
    split at hfound <;> cases hfound
    · exact List.mem_singleton.1 hitem ▸ present_file h hentries hentry
    · cases hitem
  | link target =>
    rw [belowEntry] at hfound
    split at hfound
    · cases hfound
      cases hitem
    · rename_i hdirectory
      split at hfound <;> cases hfound
      · exact List.mem_singleton.1 hitem ▸ present_link h hentry (by simpa using hdirectory)
      · cases hitem
  | directory inner =>
    rw [belowEntry] at hfound
    split at hfound
    · -- The directory was read along its path, so this path is not too long.
      rename_i hread
      obtain ⟨place, hplace, -⟩ := exists_of_bind_eq_ok hread
      obtain ⟨-, -, hlimit, -⟩ := FileSystem.resolve_eq_ok_iff.1 hplace
      have hinner := resolve_entry h hentries hentry trivial hlimit
      obtain ⟨below, hbelow, part, hpart, hmem⟩ := exists_of_mem_inNameOrder hfound hitem
      exact belowEntries_present hinner (hentries.of_leads (.into hentry (.here _))) inner (fun _ => id) below hbelow
        hpart item hmem
    · cases hfound

theorem belowEntries_present {path : String} {entries : List (String × FileTree)}
    (h : system.resolve path = .ok (.directory entries)) (hentries : (FileTree.directory entries).WellFormed)
    (some : List (String × FileTree)) (hsome : ∀ entry ∈ some, entry ∈ entries) :
    ∀ entry ∈ some, ∀ {found : List String},
      belowEntry system extension (Path.join path entry.1) entry.1 entry.2 = .ok found →
        ∀ item ∈ found, Present system item := by
  cases some with
  | nil => exact nofun
  | cons first rest =>
    rw [List.forall_mem_cons] at hsome ⊢
    exact ⟨fun hfound => belowEntry_present h hentries first.2 hsome.1 hfound,
      belowEntries_present h hentries rest hsome.2⟩

end

/-! ### Arguments -/

theorem present_of_mem_ofArgument (hroot : system.root.WellFormed) {argument : String} {found : List String}
    (h : ofArgument system extension argument = .ok found) {path : String} (hpath : path ∈ found) :
    Present system path := by
  rw [ofArgument] at h
  split at h
  · rename_i entries hplace
    obtain ⟨-, names, hleads⟩ := FileSystem.exists_leads_of_resolve hplace
    obtain ⟨entry, hentry, part, hpart, hmem⟩ := exists_of_mem_inNameOrder h hpath
    exact belowEntries_present hplace (hroot.of_leads hleads) entries (fun _ => id) entry hentry hpart path hmem
  · rename_i place hdirectory hplace
    cases h
    rw [List.mem_singleton.1 hpath]
    cases place with
    | file content => exact .inl ⟨content, hplace⟩
    | link target => exact ((FileSystem.exists_leads_of_resolve hplace).1).elim
    | directory entries => exact (hdirectory entries rfl).elim
  · cases h
    cases hpath

theorem present_of_mem_manifests (hroot : system.root.WellFormed) {settings : Settings} {arguments paths : List String}
    (h : manifests language system settings arguments = .ok paths) : ∀ path ∈ paths, Present system path := by
  intro path hpath
  obtain ⟨filter, -, h⟩ := exists_of_bind_eq_ok h
  obtain ⟨found, hfound, h⟩ := exists_of_bind_eq_ok h
  cases h
  obtain ⟨part, hpart, hmem⟩ := exists_of_mem_inTurn hfound (List.mem_of_mem_filter hpath)
  obtain ⟨argument, -, hargument⟩ := List.mem_map.1 hpart
  exact present_of_mem_ofArgument hroot hargument hmem

/-! ### Reading what is found -/

/-- Of the paths that are found, only a link that leads nowhere is not there when it is read. -/
theorem dangles_of_readText_eq_notFound {path : String} (h : Present system path)
    (hread : system.readText path = .error .notFound) : Dangles system path := by
  obtain ⟨content, hcontent⟩ | hdangles | hlimit := h
  · rw [FileSystem.readText_of_file hcontent] at hread
    cases htext : String.fromUTF8? content <;> simp [htext] at hread
  · exact hdangles
  · -- A path that is too long is not followed at all.
    exfalso
    by_cases hnul : '\x00' ∈ path.toList
    · rw [FileSystem.readText, FileSystem.resolve_of_nul hnul] at hread
      cases hread
    · rw [FileSystem.readText, FileSystem.resolve_of_long hnul hlimit] at hread
      cases hread

theorem eq_notFound_of_message_eq {fault : ReadFault}
    (h : "Failed to read file: " ++ fault.message = "Failed to read file: " ++ ReadFault.notFound.message) :
    fault = .notFound := by
  have hmessage : fault.message = ReadFault.notFound.message := by simpa using h
  cases fault <;> simp [ReadFault.message] at hmessage ⊢

/-- A run reports a manifest as not there only if it is, or if the parser says so about another one. -/
theorem exists_of_ofManifests_eq_notFound {reader : DefinitionReader} {settings : Settings} {arguments paths : List String}
    (hpaths : manifests language system settings arguments = .ok paths) {path : String}
    (h : Synopsis.ofManifests language system reader settings arguments =
      .error (Synopsis.unreadableManifest path .notFound)) :
    (path ∈ paths ∧ system.readText path = .error .notFound) ∨
      ∃ earlier ∈ paths, ∃ text, system.readText earlier = .ok text ∧
        reader text earlier = .error (Synopsis.unreadableManifest path .notFound) := by
  have hrun : Synopsis.addManifests system reader settings {} paths =
      .error (Synopsis.unreadableManifest path .notFound) := by
    rw [← h, Synopsis.ofManifests, hpaths]
    rfl
  obtain ⟨before, read, after, rfl, -, htrouble⟩ := Synopsis.addManifests_eq_error_iff.1 hrun
  generalize hreport : Synopsis.unreadableManifest path .notFound = report at htrouble ⊢
  cases htrouble with
  | @unreadable fault hread =>
    simp only [Synopsis.unreadableManifest, Diagnostic.mk.injEq, Origin.file.injEq] at hreport
    obtain ⟨rfl, hmessage, -⟩ := hreport
    cases eq_notFound_of_message_eq hmessage.symm
    exact .inl ⟨by simp, hread⟩
  | rejected hread hreader horigin => cases hreport
  | rejectedElsewhere hread hreader horigin => exact .inr ⟨read, by simp, _, hread, hreader⟩
  | @incomplete _ _ definition _ hdefines hbefore houtline =>
    obtain ⟨violation, rfl⟩ := Definition.exists_violation_of_outline_eq_error houtline
    cases hreport

/-- Every path that is found leads to a file, unless it is a link that leads nowhere or longer than paths may be. So of the manifests found in a file system that stays as it is, only such a link is reported as not there, unless the parser itself reports that. -/
theorem manifests_present (language : PatternLanguage) (system : FileSystem) (settings : Settings)
    (arguments paths : List String) (hroot : system.root.WellFormed)
    (hpaths : manifests language system settings arguments = .ok paths) :
    (∀ path ∈ paths, (∃ content, system.resolve path = .ok (.file content)) ∨ Dangles system path ∨
      FileSystem.pathLimit < path.utf8ByteSize) ∧
    ∀ (reader : DefinitionReader) (path : String),
      Synopsis.ofManifests language system reader settings arguments = .error (Synopsis.unreadableManifest path .notFound) →
        (path ∈ paths ∧ Dangles system path) ∨
          ∃ earlier ∈ paths, ∃ text, system.readText earlier = .ok text ∧
            reader text earlier = .error (Synopsis.unreadableManifest path .notFound) := by
  have hpresent := present_of_mem_manifests hroot hpaths
  refine ⟨hpresent, fun reader path hrun => ?_⟩
  obtain ⟨hpath, hread⟩ | hreader := exists_of_ofManifests_eq_notFound hpaths hrun
  · exact .inl ⟨hpath, dangles_of_readText_eq_notFound (hpresent path hpath) hread⟩
  · exact .inr hreader

/-- In a directory with one entry is found what is found at this entry. -/
theorem manifests_of_single_entry {argument name : String} {entry : FileTree} {found : List String}
    (hargument : system.resolve (Path.withoutTrailingSeparators argument) = .ok (.directory [(name, entry)]))
    (hfound : belowEntry system "pp" (Path.join (Path.withoutTrailingSeparators argument) name) name entry = .ok found) :
    manifests language system {} [argument] = .ok found := by
  have hlisted : ofArgument system "pp" argument = .ok found := by
    rw [ofArgument, hargument, ← hfound]
    exact inNameOrder_singleton name _
  rw [manifests_of_no_rules rfl, List.map_singleton, hlisted]
  exact congrArg Except.ok (List.append_nil found)

/-- A directory with a link that leads nowhere. -/
def danglingSite : FileSystem where
  root := .directory [("d", .directory [("x.pp", .link "gone")])]

theorem manifests_danglingSite : manifests .standard danglingSite {} ["d"] = .ok ["d/x.pp"] :=
  manifests_of_single_entry rfl rfl

theorem ofManifests_danglingSite :
    Synopsis.ofManifests .standard danglingSite nodeReader {} ["d"] =
      .error (Synopsis.unreadableManifest "d/x.pp" .notFound) := by
  rw [Synopsis.ofManifests, manifests_danglingSite]
  rfl

theorem manifests_present_danglingSite :
    danglingSite.root.WellFormed ∧ manifests .standard danglingSite {} ["d"] = .ok ["d/x.pp"] ∧
      Dangles danglingSite "d/x.pp" ∧
      Synopsis.ofManifests .standard danglingSite nodeReader {} ["d"] =
        .error (Synopsis.unreadableManifest "d/x.pp" .notFound) := by
  have hroot : danglingSite.root.WellFormed := by
    have hnames : ∀ name ∈ ["d", "x.pp"], FileTree.IsEntryName name := by decide
    simp only [List.forall_mem_cons] at hnames
    simp [danglingSite, FileTree.wellFormed_directory_iff, hnames]
  refine ⟨hroot, manifests_danglingSite, ?_, ofManifests_danglingSite⟩
  obtain ⟨-, hdangles⟩ | ⟨earlier, hearlier, text, hread, -⟩ :=
    (manifests_present .standard danglingSite {} ["d"] _ hroot manifests_danglingSite).2 nodeReader "d/x.pp"
      ofManifests_danglingSite
  · exact hdangles
  · rw [List.mem_singleton.1 hearlier] at hread
    cases hread

/-- A directory with a manifest. -/
def plainSite : FileSystem where
  root := .directory [("d", .directory [("x.pp", .file .empty)])]

theorem manifests_plainSite {count : Nat} (hcount : count + 3 ≤ FileSystem.pathLimit) :
    manifests .standard plainSite {} [slashed (count + 1)] = .ok [slashed (count + 1) ++ "/x.pp"] := by
  have hjoin : Path.join (slashed (count + 1)) "x.pp" = slashed (count + 1) ++ "/x.pp" := by
    rw [Path.join, if_neg (by rw [toList_slashed, List.getLast?_concat]; simp), String.append_assoc]
    rfl
  refine @manifests_of_single_entry .standard plainSite _ "x.pp" (.file .empty) _ ?_ ?_
  · rw [withoutTrailingSeparators_slashed]
    exact resolve_slashed _ hcount
  · rw [withoutTrailingSeparators_slashed, hjoin]
    rfl

/-- A link that leads nowhere is found and then cannot be read, although paths that lead nowhere are passed over when they are arguments; and a file is found in a directory whose path is nearly as long as paths may be, although its own path is too long to be followed. -/
theorem manifests_danglingSite_plainSite :
    (manifests .standard danglingSite {} ["d"] = .ok ["d/x.pp"] ∧ manifests .standard danglingSite {} ["d/x.pp"] = .ok [] ∧
      danglingSite.resolve "d/x.pp" = .error .notFound ∧
      Synopsis.ofManifests .standard danglingSite nodeReader {} ["d"] =
        .error ⟨.file "d/x.pp", "Failed to read file: No such file or directory (os error 2)", none, some 303⟩) ∧
    manifests .standard plainSite {} [slashed 4092] = .ok [slashed 4092 ++ "/x.pp"] ∧
      plainSite.resolve (slashed 4092 ++ "/x.pp") = .error .nameTooLong := by
  have hnul : ∀ count, '\x00' ∉ (slashed count ++ "/x.pp").toList := fun count => by simp [toList_slashed]
  have hlong : FileSystem.pathLimit < (slashed 4092 ++ "/x.pp").utf8ByteSize := by
    rw [String.utf8ByteSize_append, utf8ByteSize_slashed]
    decide
  refine ⟨⟨manifests_danglingSite, rfl, rfl, ofManifests_danglingSite⟩, manifests_plainSite (by decide), ?_⟩
  exact FileSystem.resolve_of_long (hnul 4092) hlong

end Outlining.Discovery

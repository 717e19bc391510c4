import Outlining.Proofs.Discovery.Presence
import Outlining.Proofs.IgnoreFilter

/-!
# Arguments of a search

The arguments of a search are looked up one after the other, each without the separators at its end, and the ignore rules are applied to all that has been found. So the outcome for several arguments is put together from their outcomes, and rules only remove paths from it (`manifests_argumentwise`). Paths that are found below a directory are the argument with the names of entries behind it. What counts is what the argument leads to without its separators, which can be another thing than it leads to as it is written (`manifests_trailingSite_plainSite`).
-/

namespace Outlining

namespace Path

/-- A path is not made of separators only. -/
def HasName (path : String) : Prop :=
  ∃ c ∈ path.toList, isSeparator c = false

/-- A text is made of separators only. -/
def AreSeparators (text : String) : Prop :=
  ∀ c ∈ text.toList, isSeparator c = true

instance (path : String) : Decidable (HasName path) :=
  List.decidableBEx (isSeparator · = false) path.toList

instance (text : String) : Decidable (AreSeparators text) :=
  List.decidableBAll (isSeparator · = true) text.toList

theorem HasName.exists_split {path : String} (h : HasName path) :
    ∃ stem last tail, path.toList = stem ++ last :: tail ∧ isSeparator last = false ∧ ∀ c ∈ tail, isSeparator c = true := by
  have hsplit := List.takeWhile_append_dropWhile (p := isSeparator) (l := path.toList.reverse)
  cases hkept : path.toList.reverse.dropWhile isSeparator with
  | nil =>
    obtain ⟨c, hc, hother⟩ := h
    rw [hkept, List.append_nil] at hsplit
    rw [← List.mem_reverse, ← hsplit] at hc
    exact (Bool.false_ne_true (hother.symm.trans (List.mem_takeWhile_imp hc))).elim
  | cons last rest =>
    rw [hkept] at hsplit
    refine ⟨rest.reverse, last, (path.toList.reverse.takeWhile isSeparator).reverse, ?_, ?_, ?_⟩
    · simpa using (congrArg List.reverse hsplit).symm
    · have hlast := List.head?_dropWhile_not isSeparator path.toList.reverse
      rwa [hkept] at hlast
    · exact fun c hc => List.mem_takeWhile_imp (List.mem_reverse.1 hc)

theorem withoutTrailingSeparators_of_split {path : String} {stem tail : List Char} {last : Char}
    (hpath : path.toList = stem ++ last :: tail) (hlast : isSeparator last = false)
    (htail : ∀ c ∈ tail, isSeparator c = true) :
    withoutTrailingSeparators path = String.ofList (stem ++ [last]) := by
  have hkept : path.toList.reverse.dropWhile isSeparator = last :: stem.reverse := by
    rw [hpath, List.reverse_append, List.reverse_cons, List.append_assoc,
      List.dropWhile_append_of_pos fun c hc => htail c (List.mem_reverse.1 hc)]
    exact List.dropWhile_cons_of_neg (by simp [hlast])
  simp [withoutTrailingSeparators, hkept]

/-- More separators at the end of a path are left out as well. -/
theorem withoutTrailingSeparators_append {path separators : String} (hpath : HasName path)
    (hseparators : AreSeparators separators) :
    withoutTrailingSeparators (path ++ separators) = withoutTrailingSeparators path := by
  obtain ⟨stem, last, tail, hsplit, hlast, htail⟩ := hpath.exists_split
  have hmore : (path ++ separators).toList = stem ++ last :: (tail ++ separators.toList) := by
    rw [String.toList_append, hsplit, List.append_assoc, List.cons_append]
  rw [withoutTrailingSeparators_of_split hsplit hlast htail]
  exact withoutTrailingSeparators_of_split hmore hlast fun c hc => (List.mem_append.1 hc).elim (htail c) (hseparators c)

theorem areSeparators_of_not_hasName {path : String} (h : ¬HasName path) : AreSeparators path := by
  intro c hc
  by_contra hother
  exact h ⟨c, hc, Bool.eq_false_iff.2 hother⟩

theorem withoutTrailingSeparators_of_areSeparators {path : String} (h : AreSeparators path) :
    withoutTrailingSeparators path = path := by
  have hkept : path.toList.reverse.dropWhile isSeparator = [] :=
    List.dropWhile_eq_nil_iff.2 fun c hc => h c (List.mem_reverse.1 hc)
  simp [withoutTrailingSeparators, hkept]

/-- Only a path of separators alone can still end with a slash. -/
theorem getLast?_withoutTrailingSeparators_ne {path : String} (h : HasName path ∨ path.toList.getLast? ≠ some '/') :
    (withoutTrailingSeparators path).toList.getLast? ≠ some '/' := by
  by_cases hname : HasName path
  · obtain ⟨stem, last, tail, hsplit, hlast, htail⟩ := hname.exists_split
    rw [withoutTrailingSeparators_of_split hsplit hlast htail, String.toList_ofList, List.getLast?_concat]
    rintro ⟨rfl⟩
    cases hlast
  · rw [withoutTrailingSeparators_of_areSeparators (areSeparators_of_not_hasName hname)]
    exact h.resolve_left hname

/-- Names behind a path that does not end with a slash have a slash in front each. -/
theorem below_eq_append {path : String} {names : List String} (hpath : path.toList.getLast? ≠ some '/')
    (hnames : ∀ name ∈ names, FileTree.IsEntryName name) : below path names = path ++ String.join (names.map ("/" ++ ·)) := by
  induction names generalizing path with
  | nil => exact String.append_empty.symm
  | cons name rest ih =>
    obtain ⟨hname, hrest⟩ := List.forall_mem_cons.1 hnames
    have hjoin : join path name = path ++ ("/" ++ name) := by rw [join, if_neg hpath, String.append_assoc]
    rw [List.map_cons, String.join_cons, ← String.append_assoc, ← hjoin]
    exact ih (getLast?_join_ne hname.noSlash hname.ne_empty) hrest

/-- Names behind a path that ends with a slash have a slash in front each, and this slash is the first of these. -/
theorem below_append_slash {stem : String} {names : List String} (hne : names ≠ [])
    (hnames : ∀ name ∈ names, FileTree.IsEntryName name) :
    below (stem ++ "/") names = stem ++ String.join (names.map ("/" ++ ·)) := by
  obtain ⟨name, rest, rfl⟩ := List.exists_cons_of_ne_nil hne
  obtain ⟨hname, hrest⟩ := List.forall_mem_cons.1 hnames
  have hjoin : join (stem ++ "/") name = stem ++ ("/" ++ name) := by
    rw [join, if_pos (by simp), String.append_assoc]
  rw [List.map_cons, String.join_cons, ← String.append_assoc, ← hjoin]
  exact below_eq_append (getLast?_join_ne hname.noSlash hname.ne_empty) hrest

end Path

/-- Settings without ignore rules. -/
def Settings.withoutRules (settings : Settings) : Settings :=
  { settings with ignorePaths := ⟨[], []⟩ }

namespace Discovery

variable {language : PatternLanguage} {system : FileSystem} {extension : String} {settings : Settings}
  {filter : IgnoreFilter language}

theorem inTurn_append {ε α : Type} (front back : List (Except ε (List α))) :
    inTurn (front ++ back) = do return (← inTurn front) ++ (← inTurn back) := by
  induction front with
  | nil => exact (bind_pure (inTurn back)).symm
  | cons first rest ih =>
    rw [List.cons_append, inTurn, inTurn, ih]
    exact bind_append_assoc first id (inTurn rest) (inTurn back)

/-! ### Rules and arguments -/

/-- Rules are applied to what is found without them. -/
theorem manifests_eq_map (hfilter : IgnoreFilter.ofRules language settings.ignorePaths = .ok filter)
    (arguments : List String) :
    manifests language system settings arguments =
      (manifests language system settings.withoutRules arguments).map (List.filter fun path => !filter.ignores path) := by
  have hfound : manifests language system settings.withoutRules arguments =
      inTurn (arguments.map (ofArgument system settings.extension)) := manifests_of_no_rules rfl arguments
  rw [hfound, manifests, hfilter]
  change inTurn (arguments.map (ofArgument system settings.extension)) >>= _ = _
  cases inTurn (arguments.map (ofArgument system settings.extension)) <;> rfl

theorem manifests_append (hfilter : IgnoreFilter.ofRules language settings.ignorePaths = .ok filter)
    (front back : List String) :
    manifests language system settings (front ++ back) =
      do return (← manifests language system settings front) ++ (← manifests language system settings back) := by
  have hfound : ∀ arguments, manifests language system settings.withoutRules arguments =
      inTurn (arguments.map (ofArgument system settings.extension)) := manifests_of_no_rules rfl
  simp only [manifests_eq_map hfilter, hfound, List.map_append, inTurn_append]
  cases inTurn (front.map (ofArgument system settings.extension)) with
  | error failure => rfl
  | ok here =>
    cases inTurn (back.map (ofArgument system settings.extension)) with
    | error failure => rfl
    | ok later => exact congrArg Except.ok (List.filter_append here later)

/-- An argument counts for what it is without the separators at its end. -/
theorem ofArgument_congr {argument other : String}
    (h : Path.withoutTrailingSeparators argument = Path.withoutTrailingSeparators other) :
    ofArgument system extension argument = ofArgument system extension other := by
  rw [ofArgument, ofArgument, h]

theorem manifests_congr {arguments others : List String}
    (h : arguments.map (ofArgument system settings.extension) = others.map (ofArgument system settings.extension)) :
    manifests language system settings arguments = manifests language system settings others := by
  rw [manifests, manifests, h]

theorem manifests_singleton (argument : String) :
    manifests language system settings.withoutRules [argument] = ofArgument system settings.extension argument := by
  rw [manifests_of_no_rules rfl, List.map_singleton]
  exact bind_pure_append_nil (ofArgument system settings.extension argument)

/-! ### Below a directory -/

theorem eq_of_mem_single {listed : Prop} [Decidable listed] {path : String} {found : List String}
    (h : (if listed then .ok [path] else .ok [] : Except Diagnostic (List String)) = .ok found) :
    ∀ item ∈ found, item = path := by
  intro item hitem
  split at h <;> cases h
  · exact List.mem_singleton.1 hitem
  · cases hitem

mutual

/-- What is found at or below an entry is found along names that lead there. -/
theorem belowEntry_leads {path name : String} (entry : FileTree) {found : List String}
    (h : belowEntry system extension path name entry = .ok found) :
    ∀ item ∈ found, ∃ names node, entry.Leads names node ∧ item = Path.below path names := by
  intro item hitem
  cases entry with
  | file content => exact ⟨[], _, .here _, eq_of_mem_single h item hitem⟩
  | link target =>
    rw [belowEntry] at h
    split at h
    · cases h
      cases hitem
    · exact ⟨[], _, .here _, eq_of_mem_single h item hitem⟩
  | directory entries =>
    rw [belowEntry] at h
    split at h
    · obtain ⟨below, hbelow, part, hpart, hmem⟩ := exists_of_mem_inNameOrder h hitem
      obtain ⟨names, node, hleads, heq⟩ := belowEntries_leads entries below hbelow hpart item hmem
      exact ⟨below.1 :: names, node, .into hbelow hleads, heq⟩
    · cases h

theorem belowEntries_leads {path : String} (entries : List (String × FileTree)) :
    ∀ entry ∈ entries, ∀ {found : List String},
      belowEntry system extension (Path.join path entry.1) entry.1 entry.2 = .ok found →
        ∀ item ∈ found, ∃ names node, entry.2.Leads names node ∧ item = Path.below (Path.join path entry.1) names := by
  cases entries with
  | nil => exact nofun
  | cons first rest =>
    rw [List.forall_mem_cons]
    exact ⟨fun h => belowEntry_leads first.2 h, belowEntries_leads rest⟩

end

/-- What is found below a directory is found along at least one name. -/
theorem ofArgument_leads {argument : String} {entries : List (String × FileTree)} {found : List String}
    (hdirectory : system.resolve (Path.withoutTrailingSeparators argument) = .ok (.directory entries))
    (h : ofArgument system extension argument = .ok found) :
    ∀ item ∈ found, ∃ names node, names ≠ [] ∧ (FileTree.directory entries).Leads names node ∧
      item = Path.below (Path.withoutTrailingSeparators argument) names := by
  intro item hitem
  rw [ofArgument, hdirectory] at h
  obtain ⟨entry, hentry, part, hpart, hmem⟩ := exists_of_mem_inNameOrder h hitem
  obtain ⟨names, node, hleads, hbelow⟩ := belowEntries_leads entries entry hentry hpart item hmem
  exact ⟨entry.1 :: names, node, List.cons_ne_nil _ _, .into hentry hleads, hbelow⟩

/-! ### What the arguments of a search do -/

/-- How the arguments of a search contribute to what it finds under rules with a filter. Whether an argument leads somewhere is asked without the separators at its end. -/
structure Argumentwise {language : PatternLanguage} (system : FileSystem) (settings : Settings)
    (filter : IgnoreFilter language) : Prop where
  append : ∀ front back, manifests language system settings (front ++ back) =
    do return (← manifests language system settings front) ++ (← manifests language system settings back)
  /-- Rules only remove paths. -/
  filtered : ∀ arguments, manifests language system settings arguments =
    (manifests language system settings.withoutRules arguments).map (List.filter fun path => !filter.ignores path)
  separators : ∀ front argument separators back, Path.HasName argument → Path.AreSeparators separators →
    manifests language system settings (front ++ (argument ++ separators) :: back) =
      manifests language system settings (front ++ argument :: back)
  /-- What is there and no directory is taken as it is written, whatever its extension. -/
  present : ∀ argument, system.pathExists (Path.withoutTrailingSeparators argument) = true →
    system.isDirectory (Path.withoutTrailingSeparators argument) = false →
      manifests language system settings.withoutRules [argument] = .ok [Path.withoutTrailingSeparators argument]
  missing : ∀ argument, system.pathExists (Path.withoutTrailingSeparators argument) = false →
    manifests language system settings.withoutRules [argument] = .ok []
  /-- What is found below a directory is the argument with the names of entries behind it, each with a slash in front; only an argument of separators alone that ends with a slash brings the first of these slashes with it. -/
  below : system.root.WellFormed → ∀ argument entries found,
    system.resolve (Path.withoutTrailingSeparators argument) = .ok (.directory entries) →
    manifests language system settings.withoutRules [argument] = .ok found → ∀ path ∈ found,
      ∃ names node, names ≠ [] ∧ (FileTree.directory entries).Leads names node ∧
        (Path.HasName argument ∨ argument.toList.getLast? ≠ some '/' →
          path = Path.withoutTrailingSeparators argument ++ String.join (names.map ("/" ++ ·))) ∧
        ∀ stem, Path.AreSeparators argument → argument = stem ++ "/" →
          path = stem ++ String.join (names.map ("/" ++ ·))

theorem manifests_of_present {argument : String}
    (hexists : system.pathExists (Path.withoutTrailingSeparators argument) = true)
    (hdirectory : system.isDirectory (Path.withoutTrailingSeparators argument) = false) :
    manifests language system settings.withoutRules [argument] = .ok [Path.withoutTrailingSeparators argument] := by
  obtain ⟨place, hplace⟩ := FileSystem.pathExists_iff.1 hexists
  rw [manifests_singleton, ofArgument, hplace]
  cases place with
  | directory entries => simp [FileSystem.isDirectory, hplace] at hdirectory
  | _ => rfl

theorem manifests_of_missing {argument : String}
    (hmissing : system.pathExists (Path.withoutTrailingSeparators argument) = false) :
    manifests language system settings.withoutRules [argument] = .ok [] := by
  rw [manifests_singleton, ofArgument]
  cases hplace : system.resolve (Path.withoutTrailingSeparators argument) with
  | error fault => rfl
  | ok place => simp [FileSystem.pathExists, hplace] at hmissing

theorem argumentwise_of_ofRules (hfilter : IgnoreFilter.ofRules language settings.ignorePaths = .ok filter) :
    Argumentwise system settings filter where
  append := manifests_append hfilter
  filtered := manifests_eq_map hfilter
  separators front argument separators back hargument hseparators := by
    have hsame := Path.withoutTrailingSeparators_append hargument hseparators
    apply manifests_congr
    rw [List.map_append, List.map_append, List.map_cons, List.map_cons, ofArgument_congr hsame]
  present argument := manifests_of_present
  missing argument := manifests_of_missing
  below hroot argument entries found hdirectory hfound path hpath := by
    rw [manifests_singleton] at hfound
    obtain ⟨names, node, hne, hleads, rfl⟩ := ofArgument_leads hdirectory hfound path hpath
    obtain ⟨-, place, hplace⟩ := FileSystem.exists_leads_of_resolve hdirectory
    have hnames := (hroot.of_leads hplace).isEntryName hleads
    refine ⟨names, node, hne, hleads, fun hargument => ?_, fun stem hseparators hstem => ?_⟩
    · exact Path.below_eq_append (Path.getLast?_withoutTrailingSeparators_ne hargument) hnames
    · rw [Path.withoutTrailingSeparators_of_areSeparators hseparators, hstem]
      exact Path.below_append_slash hne hnames

/-- Arguments contribute to a search one by one, if all patterns of the rules can be read in the anchored form in which they are used; if not, the first that cannot is reported, whatever there is to search. -/
theorem manifests_argumentwise (language : PatternLanguage) (settings : Settings) :
    ((∀ beginning ∈ settings.ignorePaths.beginWith, ∃ pattern, IgnoreFilter.anchored language beginning = .ok pattern) →
      ∃ filter, IgnoreFilter.ofRules language settings.ignorePaths = .ok filter ∧
        ∀ system, Argumentwise system settings filter) ∧
    ((¬∀ beginning ∈ settings.ignorePaths.beginWith, ∃ pattern, IgnoreFilter.anchored language beginning = .ok pattern) →
      ∃ before beginning after fault, settings.ignorePaths.beginWith = before ++ beginning :: after ∧
        (∀ earlier ∈ before, ∃ pattern, IgnoreFilter.anchored language earlier = .ok pattern) ∧
        IgnoreFilter.anchored language beginning = .error fault ∧
        ∀ system arguments, manifests language system settings arguments =
          .error ⟨.settings, "Invalid ignore pattern '" ++ beginning ++ "': " ++ fault,
            some "begin_with entries are regular expressions", some 311⟩) := by
  constructor
  · intro hpatterns
    obtain ⟨filter, hfilter⟩ := IgnoreFilter.exists_ofRules_eq_ok_iff.2 hpatterns
    exact ⟨filter, hfilter, fun system => argumentwise_of_ofRules hfilter⟩
  · intro hpatterns
    rw [← IgnoreFilter.exists_ofRules_eq_ok_iff] at hpatterns
    cases hrules : IgnoreFilter.ofRules language settings.ignorePaths with
    | ok filter => exact (hpatterns ⟨filter, hrules⟩).elim
    | error failure =>
      obtain ⟨before, beginning, after, fault, hbeginWith, hbefore, hfault, rfl⟩ := IgnoreFilter.ofRules_eq_error_iff.1 hrules
      refine ⟨before, beginning, after, fault, hbeginWith, hbefore, hfault, fun system arguments => ?_⟩
      rw [manifests, hrules]
      rfl

/-- A directory with a manifest, and a file that is none. -/
def notedSite : FileSystem where
  root := .directory [("d", .directory [("x.pp", .file .empty)]), ("notes", .file .empty)]

/-- Settings with a rule that leaves out what is in the directory `d`. -/
def ruledSettings : Settings where
  ignorePaths := ⟨["d/"], []⟩

/-- Settings with rules that are no patterns behind one that is. -/
def refusedSettings : Settings where
  ignorePaths := ⟨["d/", "(", "["], []⟩

theorem manifests_argumentwise_notedSite :
    manifests .standard notedSite ruledSettings.withoutRules ["d"] = .ok ["d/x.pp"] ∧
      manifests .standard notedSite ruledSettings.withoutRules ["notes/"] = .ok ["notes"] ∧
      manifests .standard notedSite ruledSettings.withoutRules ["gone"] = .ok [] ∧
      manifests .standard notedSite ruledSettings ["d", "notes"] = .ok ["notes"] ∧
      manifests .standard notedSite ruledSettings ["d", "notes", "notes\\/"] = .ok ["notes", "notes"] ∧
      (∃ names node, (FileTree.directory [("x.pp", .file .empty)]).Leads names node ∧
        "d/x.pp" = "d" ++ String.join (names.map ("/" ++ ·))) ∧
      (∃ names node, plainSite.root.Leads names node ∧ "//d/x.pp" = "/" ++ String.join (names.map ("/" ++ ·))) ∧
      manifests .standard notedSite refusedSettings ["d"] = .error ⟨.settings, "Invalid ignore pattern '(': " ++
        Pattern.Fault.unclosedGroup.message, some "begin_with entries are regular expressions", some 311⟩ := by
  have hfilter : IgnoreFilter.ofRules .standard ruledSettings.ignorePaths =
      .ok ⟨[.sequence [.assertion .textStart, .literal ['d', '/']]], []⟩ := rfl
  have hroot : notedSite.root.WellFormed ∧ plainSite.root.WellFormed := by
    have hnames : ∀ name ∈ ["d", "x.pp", "notes"], FileTree.IsEntryName name := by decide
    simp only [List.forall_mem_cons] at hnames
    simp [notedSite, plainSite, FileTree.wellFormed_directory_iff, hnames]
  obtain ⟨filter, hruled, hlaws⟩ :=
    (manifests_argumentwise .standard ruledSettings).1 (IgnoreFilter.exists_ofRules_eq_ok_iff.1 ⟨_, hfilter⟩)
  cases hfilter.symm.trans hruled
  have laws := hlaws notedSite
  have hbelow : manifests .standard notedSite ruledSettings.withoutRules ["d"] = .ok ["d/x.pp"] :=
    manifests_of_single_entry rfl rfl
  have hslashes : manifests .standard plainSite ruledSettings.withoutRules ["//"] = .ok ["//d/x.pp"] :=
    manifests_of_single_entry rfl (inNameOrder_singleton "x.pp" (.ok ["//d/x.pp"]))
  have hdirectory : manifests .standard notedSite ruledSettings ["d"] = .ok [] := by
    rw [laws.filtered, hbelow]
    rfl
  have hfile : manifests .standard notedSite ruledSettings ["notes"] = .ok ["notes"] := by
    rw [laws.filtered, laws.present "notes" rfl rfl]
    rfl
  have hboth : manifests .standard notedSite ruledSettings ["d", "notes"] = .ok ["notes"] := by
    refine (laws.append ["d"] ["notes"]).trans ?_
    rw [hdirectory, hfile]
    rfl
  refine ⟨hbelow, laws.present "notes/" rfl rfl, laws.missing "gone" rfl, hboth, ?_, ?_, ?_, ?_⟩
  · refine (laws.separators ["d", "notes"] "notes" "\\/" [] (by decide) (by decide)).trans ?_
    refine (laws.append ["d", "notes"] ["notes"]).trans ?_
    rw [hboth, hfile]
    rfl
  · obtain ⟨names, node, -, hleads, hpath, -⟩ := laws.below hroot.1 "d" _ _ rfl hbelow _ (List.mem_singleton_self _)
    exact ⟨names, node, hleads, hpath (.inl (by decide))⟩
  · obtain ⟨names, node, -, hleads, -, hpath⟩ :=
      (hlaws plainSite).below hroot.2 "//" _ _ rfl hslashes _ (List.mem_singleton_self _)
    exact ⟨names, node, hleads, hpath "/" (by decide) rfl⟩
  · have hfault : IgnoreFilter.anchored .standard "(" = .error Pattern.Fault.unclosedGroup.message := rfl
    have hrefused : ¬∀ beginning ∈ refusedSettings.ignorePaths.beginWith,
        ∃ pattern, IgnoreFilter.anchored .standard beginning = .ok pattern := by
      intro hpatterns
      obtain ⟨pattern, hpattern⟩ := hpatterns "(" (by decide)
      cases hfault.symm.trans hpattern
    obtain ⟨_, _, _, _, -, -, -, hreport⟩ := (manifests_argumentwise .standard refusedSettings).2 hrefused
    -- The report is the same whatever there is to search, so it can be read off a search without arguments.
    have hnothing : manifests .standard plainSite refusedSettings [] = .error ⟨.settings, "Invalid ignore pattern '(': " ++
        Pattern.Fault.unclosedGroup.message, some "begin_with entries are regular expressions", some 311⟩ := rfl
    exact (hreport notedSite ["d"]).trans ((hreport plainSite []).symm.trans hnothing)

/-- A file with a name that ends with a backslash. -/
def trailingSite : FileSystem where
  root := .directory [("x\\", .file .empty)]

/-- A file is not found under its own path when a backslash ends it; a path with a slash behind the name of a file leads nowhere and still yields the file; and below an argument of two slashes, no third one comes before the names of entries. -/
theorem manifests_trailingSite_plainSite :
    (trailingSite.root.WellFormed ∧ trailingSite.pathExists "x\\" = true ∧ trailingSite.isDirectory "x\\" = false ∧
      manifests .standard trailingSite {} ["x\\"] = .ok []) ∧
    (plainSite.root.WellFormed ∧ plainSite.pathExists "d/x.pp/" = false ∧
      manifests .standard plainSite {} ["d/x.pp/"] = .ok ["d/x.pp"]) ∧
    plainSite.isDirectory "//" = true ∧ manifests .standard plainSite {} ["//"] = .ok ["//d/x.pp"] ∧
      ∀ names : List String, "//d/x.pp" ≠ "//" ++ String.join (names.map ("/" ++ ·)) := by
  have hnames : ∀ name ∈ ["x\\", "d", "x.pp"], FileTree.IsEntryName name := by decide
  simp only [List.forall_mem_cons] at hnames
  refine ⟨⟨?_, rfl, rfl, rfl⟩, ⟨?_, rfl, rfl⟩, rfl, ?_, ?_⟩
  · simp [trailingSite, FileTree.wellFormed_directory_iff, hnames]
  · simp [plainSite, FileTree.wellFormed_directory_iff, hnames]
  · exact manifests_of_single_entry rfl (inNameOrder_singleton "x.pp" (.ok ["//d/x.pp"]))
  · intro names h
    cases names with
    | nil => simp at h
    | cons name rest => simp [← String.toList_inj] at h

end Discovery

end Outlining

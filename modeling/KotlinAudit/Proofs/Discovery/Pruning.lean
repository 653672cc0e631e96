import KotlinAudit.Proofs.Discovery.Sighted
import KotlinAudit.Proofs.Discovery.Walk
import KotlinAudit.Proofs.FileTree.Elsewhere

/-! A file as a target of its own and in a scan. A target is looked for in its directory alone, so the
directories above it are never asked whether they are entered; a scan asks them all. A glob that ends in two
stars excludes all that stands below what it excludes, so no file is lost that another directory rule would
not have taken away. Trees that show the same files of interest are scanned alike. -/
namespace KotlinAudit.Discovery

namespace Scanner

variable {scanner : Scanner} {tree : FileTree} {dir path : Path} {node : Node} {names : List String}

/-- Whether some source files include the one at a path. -/
def Includes (files : List SourceFile) (path : Path) : Prop := path ∈ files.map (·.path)

/-- Reading a directory comes to an end and gives what is kept of it. -/
theorem scanAt_eq (h : scanner.selection.Readable) {entries : List (String × Node)}
    (hdir : tree.node dir = .ok (.directory entries)) (hplain : (Node.directory entries).Plain) :
    scanner.scanAt tree dir = .ok (.ofSightings (scanner.kept tree dir (.directory entries))) := by
  have hnode : tree.node? dir = .ok (some (.directory entries)) := by
    rw [FileTree.node?, hdir]
  rw [scanAt_of_node? hnode, walk_eq h dir hplain rfl]

/-- The source file at a path, by what a file there holds. -/
def sourceAt (scanner : Scanner) (path : Path) (held : Option (Content × Int)) : SourceFile :=
  let relative := scanner.relative path
  ⟨path, relative, (held.map (·.1.size)).getD 0, millisOf ((held.map Prod.snd).getD 0),
    Layer.detect relative⟩

theorem source?_describe (scanner : Scanner) (tree : FileTree) (path : Path) :
    (scanner.describe tree path).source? =
      (tree.shown path).toOption.join.map (scanner.sourceAt path) := by
  unfold describe FileTree.shown FileTree.node?
  cases tree.node path with
  | error error =>
    dsimp only
    split <;> rfl
  | ok node => cases node <;> rfl

/-- The files that a scan keeps are described by what is shown where they stand. -/
theorem files_kept (scanner : Scanner) (tree : FileTree) (dir : Path) (node : Node) :
    (Found.ofSightings (scanner.kept tree dir node)).files =
      (node.files.filter fun names =>
          scanner.reaches dir names && scanner.takes (dir.under names)).filterMap fun names =>
        (tree.shown (dir.under names)).toOption.join.map (scanner.sourceAt (dir.under names)) := by
  rw [Found.ofSightings, kept, List.filterMap_map]
  refine List.filterMap_congr fun names _ => ?_
  rw [Function.comp_apply, source?_describe]

/-- Directories that show the same files of interest are scanned alike. -/
theorem exists_scanAt_congr (h : scanner.selection.Readable) {other : FileTree}
    {entries others : List (String × Node)} (hdir : tree.node dir = .ok (.directory entries))
    (hplain : (Node.directory entries).Plain) (hdir' : other.node dir = .ok (.directory others))
    (hplain' : (Node.directory others).Plain)
    (hsame : ∀ names, names ≠ [] → scanner.takes (dir.under names) = true →
      ((Node.directory entries).at? names).map Node.held? =
          ((Node.directory others).at? names).map Node.held? ∧
        tree.shown (dir.under names) = other.shown (dir.under names))
    {found : Found} (hfound : scanner.scanAt tree dir = .ok found) :
    ∃ found', scanner.scanAt other dir = .ok found' ∧ found'.files = found.files := by
  rw [scanAt_eq h hdir hplain, Except.ok.injEq] at hfound
  subst hfound
  refine ⟨_, scanAt_eq h hdir' hplain', ?_⟩
  have hfiles := Node.filter_files_congr
    (fun names => scanner.reaches dir names && scanner.takes (dir.under names)) hplain hplain'
    fun names hwanted => ?_
  · rw [files_kept, files_kept, hfiles]
    refine List.filterMap_congr fun names hnames => ?_
    obtain ⟨hmem, hwanted⟩ := List.mem_filter.1 hnames
    rw [(hsame names (Node.ne_nil_of_mem_files hmem) (Bool.and_eq_true_iff.1 hwanted).2).2]
  · rw [Node.exists_file_iff, Node.exists_file_iff]
    by_cases hnil : names = []
    · subst hnil
      exact Iff.rfl
    · rw [(hsame names hnil (Bool.and_eq_true_iff.1 hwanted).2).1]

theorem source?_eq_some_iff {sighting : Sighting} {file : SourceFile} :
    sighting.source? = some file ↔ sighting = .source file := by
  cases sighting with
  | source other => exact ⟨fun h => congrArg _ (Option.some.inj h), fun h => by cases h; rfl⟩
  | skipped place error => exact ⟨nofun, nofun⟩

theorem describe_eq_source (scanner : Scanner) (h : tree.node path = .ok node) :
    ∃ file, scanner.describe tree path = .source file ∧ file.path = path := by
  unfold describe
  rw [h]
  cases node with
  | file content modified => exact ⟨_, rfl, rfl⟩
  | directory entries => exact ⟨_, rfl, rfl⟩
  | link target => exact ⟨_, rfl, rfl⟩

/-- Which of the files that can be asked for are kept. -/
theorem includes_kept_iff (scanner : Scanner) (hplain : node.Plain) {content : Content} {modified : Int}
    (hfile : node.at? names = some (.file content modified)) {found : Node}
    (hfound : tree.node (dir.under names) = .ok found) :
    Includes (Found.ofSightings (scanner.kept tree dir node)).files (dir.under names) ↔
      scanner.reaches dir names = true ∧ scanner.takes (dir.under names) = true := by
  unfold Includes Found.ofSightings kept
  simp only [List.mem_map, List.mem_filterMap, List.mem_filter, Bool.and_eq_true]
  constructor
  · rintro ⟨file, ⟨sighting, ⟨more, ⟨hmore, hkept⟩, rfl⟩, hsource⟩, hpath⟩
    have hsame := (relative_of_describe (source?_eq_some_iff.1 hsource)).1.symm.trans hpath
    rwa [Path.under_injective hsame] at hkept
  · intro hkept
    obtain ⟨file, hdescribe, hpath⟩ := describe_eq_source scanner hfound
    refine ⟨file, ⟨_, ⟨names, ⟨?_, hkept⟩, hdescribe⟩, rfl⟩, hpath⟩
    exact (Node.mem_files hplain).2 ⟨content, modified, hfile⟩

theorem includes_filter {files : List SourceFile} :
    Includes (files.filter (·.path = path)) path ↔ Includes files path := by
  unfold Includes
  simp only [List.mem_map, List.mem_filter, decide_eq_true_eq]
  exact exists_congr fun file => ⟨fun h => ⟨h.1.1, h.2⟩, fun h => ⟨⟨h.1, h.2⟩, h.2⟩⟩

/-- Adding what is new loses no path. -/
theorem includes_addNew {files new : List SourceFile} :
    Includes (addNew files new) path ↔ Includes files path ∨ Includes new path := by
  induction new generalizing files with
  | nil => exact ⟨.inl, fun h => h.elim id fun hnone => absurd hnone List.not_mem_nil⟩
  | cons next rest ih =>
    rw [addNew, List.foldl_cons, ← addNew, ih]
    split
    · next hold =>
      obtain ⟨file, hfile, heq⟩ := List.any_eq_true.1 hold
      have hsame : next.path ∈ files.map (·.path) :=
        List.mem_map.2 ⟨file, hfile, of_decide_eq_true heq⟩
      unfold Includes
      rw [List.map_cons, List.mem_cons]
      constructor
      · rintro (hfiles | hrest)
        · exact .inl hfiles
        · exact .inr (.inr hrest)
      · rintro (hfiles | rfl | hrest)
        · exact .inl hfiles
        · exact .inl hsame
        · exact .inr hrest
    · unfold Includes
      simp only [List.map_append, List.map_cons, List.map_nil, List.mem_append, List.mem_cons,
        List.not_mem_nil, or_false, or_assoc]

/-- The directory in which a file stands. -/
theorem exists_directory_above (hroot : tree.node scanner.root = .ok node) (hplain : node.Plain)
    (habsolute : scanner.root.isAbsolute) {front : List String} {last : String} {content : Content}
    {modified : Int} (hfile : node.at? (front ++ [last]) = some (.file content modified)) {found : Node}
    (hfound : tree.node (scanner.root.under (front ++ [last])) = .ok found) :
    ∃ entries, tree.node (scanner.root.under front) = .ok (.directory entries) ∧
      (Node.directory entries).Plain ∧
      (Node.directory entries).at? [last] = some (.file content modified) := by
  obtain ⟨above, habove, hnode⟩ := FileTree.exists_node_under hroot hplain habsolute hfile hfound
  have hsound := (hplain.at? habove).1
  rw [Node.at?_append, habove, Option.bind_some] at hfile
  cases above with
  | file content modified => cases hfile
  | link target => cases hfile
  | directory entries => exact ⟨entries, hnode, hsound, hfile⟩

theorem slashes_of_resolve {resolved : Path} (h : tree.resolve path = .ok resolved) :
    resolved.slashes = 1 := by
  unfold FileTree.resolve at h
  split at h
  · cases h
  · dsimp only at h
    split at h
    · cases h
    · cases h
      rfl

/-- A target that leads to a file comes to an end, and it includes the file if that is to be
analysed, whatever stands above. -/
theorem exists_target (h : scanner.selection.Readable) (hroot : tree.node scanner.root = .ok node)
    (hplain : node.Plain) (hdirectory : node.isDirectory = true) {content : Content} {modified : Int}
    (hfile : node.at? names = some (.file content modified)) {found : Node}
    (hfound : tree.node (scanner.root.under names) = .ok found) {target : Path}
    (htarget : scanner.resolve tree target = .ok (scanner.root.under names)) :
    ∃ single, (scanner.targets tree [target]).2 = .ok single ∧
      (Includes single (scanner.root.under names) ↔ scanner.takes (scanner.root.under names) = true) := by
  obtain ⟨front, last, rfl⟩ : ∃ front last, names = front ++ [last] := by
    rcases List.eq_nil_or_concat names with rfl | ⟨front, last, rfl⟩
    · obtain rfl := Option.some.inj hfile
      cases hdirectory
    · exact ⟨front, last, List.concat_eq_append⟩
  set path := scanner.root.under (front ++ [last]) with hpath
  have habsolute : scanner.root.isAbsolute := by
    have hslashes : path.slashes = 1 := slashes_of_resolve (resolve_eq_ok htarget)
    rw [Path.isAbsolute, show scanner.root.slashes = 1 from hslashes]
    rfl
  obtain ⟨entries, habove, hsound, hlast⟩ :=
    exists_directory_above hroot hplain habsolute hfile hfound
  have hunder : path = (scanner.root.under front).under [last] := (Path.under_under ..).symm
  have hparent : path.parent = scanner.root.under front := by
    rw [hunder, ← Path.child_eq_under, Path.parent, Path.child, List.dropLast_concat]
  have hnode : tree.node? path = .ok (some (.file content modified)) := by
    rw [FileTree.node?, hfound, FileTree.node_under hroot hplain hfile hfound]
  have hscan := scanAt_eq h habove hsound
  rw [← hparent] at hscan
  have hrun : ∃ notices, scanner.target tree target = .ok ⟨(Found.ofSightings
      (scanner.kept tree path.parent (.directory entries))).files.filter (·.path = path), notices⟩ := by
    refine ⟨_, Outcome.bind_eq_ok.2 ⟨path, htarget, Outcome.bind_eq_ok.2 ⟨false, ?_,
      Outcome.bind_eq_ok.2 ⟨true, ?_, Outcome.bind_eq_ok.2 ⟨_, hscan, rfl⟩⟩⟩⟩⟩
    · rw [FileTree.hasDirectory, hnode]
      rfl
    · rw [FileTree.hasFile, hnode]
      rfl
  obtain ⟨notices, hrun⟩ := hrun
  refine ⟨_, by rw [targets, targetsFrom, hrun]; rfl, ?_⟩
  rw [includes_addNew, includes_filter, hparent, hunder,
    includes_kept_iff scanner hsound hlast (hunder ▸ hfound), reaches_singleton]
  exact ⟨fun hin => hin.elim (fun hnone => absurd hnone List.not_mem_nil) And.right,
    fun htakes => .inr ⟨rfl, htakes⟩⟩

/-- Every directory between the root and what some names lead to is entered. -/
def OpenWay (scanner : Scanner) (names : List String) : Prop :=
  ∀ front rest, front ≠ [] → rest ≠ [] → names = front ++ rest →
    scanner.enters (scanner.root.under front) = true

/-- Below a root without links, a file that is given as a target is found exactly if it is to be
analysed, and a scan finds it exactly if, besides, every directory on the way to it is entered. So the
two agree about a file unless it is to be analysed and stands below a directory that is left out. -/
theorem targets_agree_iff (h : scanner.selection.Readable) {entries : List (String × Node)}
    (hroot : tree.node scanner.root = .ok (.directory entries))
    (hplain : (Node.directory entries).Plain) {content : Content} {modified : Int}
    (hfile : (Node.directory entries).at? names = some (.file content modified)) {found : Node}
    (hfound : tree.node (scanner.root.under names) = .ok found) {target : Path}
    (htarget : scanner.resolve tree target = .ok (scanner.root.under names)) :
    ∃ single every, (scanner.targets tree [target]).2 = .ok single ∧
      scanner.scan tree = .ok every ∧
      (Includes single (scanner.root.under names) ↔
        scanner.takes (scanner.root.under names) = true) ∧
      (Includes every.files (scanner.root.under names) ↔
        scanner.takes (scanner.root.under names) = true ∧ scanner.OpenWay names) ∧
      ((Includes single (scanner.root.under names) ↔ Includes every.files (scanner.root.under names)) ↔
        (scanner.takes (scanner.root.under names) = true → scanner.OpenWay names)) := by
  obtain ⟨single, hsingle, htakes⟩ := exists_target h hroot hplain rfl hfile hfound htarget
  have hscan := includes_kept_iff scanner hplain hfile hfound
  rw [reaches_iff, and_comm] at hscan
  refine ⟨single, _, hsingle, scanAt_eq h hroot hplain, htakes, hscan, ?_⟩
  rw [htakes, hscan]
  exact ⟨fun hsame htaken => (hsame.1 htaken).2, fun hopen => ⟨fun htaken => ⟨htaken, hopen htaken⟩,
    And.left⟩⟩

/-- A project at `/p` that holds the given entries. -/
def projectTree (entries : List (String × Node)) : FileTree where
  root := .directory [("p", .directory entries)]
  here := ⟨1, []⟩

def projectScanner (excludes : List String) : Scanner := ⟨⟨1, ["p"]⟩, ⟨excludes, ["kt"]⟩⟩

/-- A built project, with a source file in a directory that can be left out. -/
def builtEntries : List (String × Node) :=
  [("build", .directory [("A.kt", .file (.text "class A\n") 0)]), ("B.kt", .file (.text "class B\n") 0)]

theorem plain_builtEntries : (Node.directory builtEntries).Plain :=
  ⟨by decide, ⟨⟨by decide, by decide, by decide⟩, by decide⟩, ⟨by decide, ⟨⟨by decide, by decide, by decide⟩,
    by decide⟩, trivial, trivial⟩, ⟨⟨by decide, by decide, by decide⟩, by decide⟩, trivial, trivial⟩

theorem node_project {entries : List (String × Node)} {names : List String} {node : Node}
    (hpath : FileTree.refusal? ⟨1, names⟩ = none) (hnames : FileTree.PlainNames names)
    (hnode : ∀ target, node ≠ .link target)
    (h : (projectTree entries).root.at? names = some node) :
    (projectTree entries).node ⟨1, names⟩ = .ok node :=
  FileTree.node_of_at? hpath hnames hnode h

/-- A glob without slashes at its end hides the directory, but not the file in it. -/
theorem targets_agree_iff_built : ∃ single every,
    ((projectScanner ["**/build"]).targets (projectTree builtEntries)
      [⟨1, ["p", "build", "A.kt"]⟩]).2 = .ok single ∧
    (projectScanner ["**/build"]).scan (projectTree builtEntries) = .ok every ∧
    Includes single ⟨1, ["p", "build", "A.kt"]⟩ ∧ ¬ Includes every.files ⟨1, ["p", "build", "A.kt"]⟩ := by
  have hglobs : (projectScanner ["**/build"]).selection.Readable :=
    Selection.readable_of_ordinary (by decide)
  have hresolve : (projectTree builtEntries).resolve ⟨1, ["p", "build", "A.kt"]⟩ =
      .ok ⟨1, ["p", "build", "A.kt"]⟩ :=
    FileTree.resolve_of_at? (by decide) (by decide) (fun _ h => by cases h) rfl
  have htarget : (projectScanner ["**/build"]).resolve (projectTree builtEntries)
      ⟨1, ["p", "build", "A.kt"]⟩ = .ok ((projectScanner ["**/build"]).root.under ["build", "A.kt"]) := by
    unfold Scanner.resolve
    rw [show (projectScanner ["**/build"]).root.join ⟨1, ["p", "build", "A.kt"]⟩ =
      ⟨1, ["p", "build", "A.kt"]⟩ from rfl, hresolve]
    rfl
  obtain ⟨single, every, hsingle, hscan, htakes, hreached, -⟩ :=
    targets_agree_iff hglobs
      (node_project (by decide) (by decide) (fun _ h => by cases h) rfl)
      plain_builtEntries rfl
      (node_project (by decide) (by decide) (fun _ h => by cases h) rfl) htarget
  refine ⟨single, every, hsingle, hscan, htakes.2 (by decide +kernel), fun hin => ?_⟩
  have hentered := (hreached.1 hin).2 ["build"] ["A.kt"] (List.cons_ne_nil _ _) (List.cons_ne_nil _ _) rfl
  exact absurd hentered (by decide +kernel)

end Scanner

/-! ### Directories that are left out

A scan finds what is left of all files of the tree when those are put to the test one by one. -/

open KotlinAudit.Path (ProperName)

theorem anchored_append {relative : List Char} {c : Char} (hhead : relative.head? = some c)
    (hc : c ≠ '/') (more : List Char) :
    Layer.anchored (relative ++ more) = Layer.anchored relative ++ more := by
  obtain ⟨rest, rfl⟩ := List.head?_eq_some_iff.1 hhead
  have hstays : (c == '/') = false := beq_eq_false_iff_ne.2 hc
  rw [Layer.anchored, Layer.anchored, List.cons_append, List.dropWhile_cons_of_neg (by simp [hstays]),
    List.dropWhile_cons_of_neg (by simp [hstays])]
  rfl

namespace Selection

/-- Globs for whole directories: without signs of patterns but stars and dots, and with two stars at
their ends. -/
def Sweeps (selection : Selection) : Prop :=
  ∀ glob ∈ selection.excludes, Glob.Ordinary glob.toList ∧ ['*', '*'] <:+ glob.toList

variable {selection : Selection}

theorem Sweeps.readable (h : selection.Sweeps) : selection.Readable :=
  readable_of_ordinary fun glob hglob => (h glob hglob).1

/-- What goes on from an excluded path is excluded. -/
theorem Sweeps.hides_append (h : selection.Sweeps) {relative more : List Char} {c : Char}
    (hhead : relative.head? = some c) (hc : c ≠ '/') (hline : '\n' ∉ relative ++ more)
    (hhides : selection.hides relative = true) : selection.hides (relative ++ more) = true := by
  obtain ⟨glob, hglob, hcovers⟩ := List.any_eq_true.1 hhides
  refine List.any_eq_true.2 ⟨glob, hglob, ?_⟩
  rw [anchored_append hhead hc]
  refine Glob.covers_append (h glob hglob).1 (h glob hglob).2 hcovers ?_
  rw [← anchored_append hhead hc]
  intro hmem
  rcases List.mem_cons.1 hmem with heq | hrest
  · exact absurd heq (by decide)
  · exact hline ((List.dropWhile_sublist _).subset hrest)

end Selection

namespace Scanner

variable {scanner : Scanner} {tree : FileTree} {node : Node} {names : List String}

theorem relative_under (h : names ≠ []) : scanner.relative (scanner.root.under names) =
    "/".intercalate names := by
  have hbelow : scanner.root.relativeTo? (scanner.root.under names) = some ⟨0, names⟩ := by
    simp [Path.relativeTo?, Path.under]
  rw [relative, hbelow, Option.getD_some, Path.text_of_names h]

/-- Below the names of a directory go those of what stands in it. -/
theorem relative_append {front rest : List String} (hfront : front ≠ []) (hrest : rest ≠ []) :
    (scanner.relative (scanner.root.under (front ++ rest))).toList =
      (scanner.relative (scanner.root.under front)).toList ++ '/' ::
        (scanner.relative (scanner.root.under rest)).toList := by
  rw [relative_under (List.append_ne_nil_of_left_ne_nil hfront _), relative_under hfront,
    relative_under hrest, String.intercalate_append_of_ne_nil hfront hrest]
  simp

/-- Names that can stand in a directory and on one line. -/
def OneLine (names : List String) : Prop := ∀ name ∈ names, ProperName name ∧ '\n' ∉ name.toList

theorem toList_relative (h : names ≠ []) : (scanner.relative (scanner.root.under names)).toList =
    ['/'].intercalate (names.map String.toList) := by
  rw [relative_under h]
  simp

theorem not_mem_relative (scanner : Scanner) (h : OneLine names) (hnames : names ≠ []) :
    '\n' ∉ (scanner.relative (scanner.root.under names)).toList := by
  rw [toList_relative hnames]
  refine Path.not_mem_intercalate (by decide) fun piece hpiece => ?_
  obtain ⟨name, hname, rfl⟩ := List.mem_map.1 hpiece
  exact (h name hname).2

theorem head?_relative (scanner : Scanner) (h : OneLine names) (hnames : names ≠ []) :
    ∃ c, (scanner.relative (scanner.root.under names)).toList.head? = some c ∧ c ≠ '/' := by
  rw [toList_relative hnames]
  have hslash := Path.head?_intercalate_ne fun name hname => (h name hname).1
  obtain ⟨name, rest, rfl⟩ := List.exists_cons_of_ne_nil hnames
  obtain ⟨c, others, hc⟩ := List.exists_cons_of_ne_nil (h name List.mem_cons_self).1.toList_ne_nil
  have hhead : (['/'].intercalate ((name :: rest).map String.toList)).head? = some c := by
    cases rest <;> simp [hc]
  rw [hhead] at hslash
  exact ⟨c, hhead, fun heq => hslash (by rw [heq])⟩

/-- Whatever stands below a directory that is not entered is hidden. -/
theorem hides_of_not_enters (h : scanner.selection.Sweeps) {front rest : List String}
    (hnames : OneLine (front ++ rest)) (hfront : front ≠ []) (hrest : rest ≠ [])
    (hleft : scanner.enters (scanner.root.under front) = false) :
    scanner.selection.hides (scanner.relative (scanner.root.under (front ++ rest))).toList = true := by
  have hline := not_mem_relative scanner hnames (List.append_ne_nil_of_left_ne_nil hfront _)
  obtain ⟨c, hhead, hc⟩ := head?_relative scanner
    (fun name hname => hnames name (List.mem_append_left _ hname)) hfront
  rw [relative_append hfront hrest] at hline ⊢
  rw [enters, Selection.enters, Bool.not_eq_false', Bool.or_eq_true] at hleft
  rcases hleft with hplain | hslash
  · exact h.hides_append hhead hc hline hplain
  · rw [← List.singleton_append, ← List.append_assoc] at hline ⊢
    refine h.hides_append ?_ hc hline hslash
    rw [List.head?_append, hhead, Option.some_or]

/-- No directory on the way to a file that is to be analysed is left out. -/
theorem reaches_of_takes (h : scanner.selection.Sweeps) (hnames : OneLine names)
    (htakes : scanner.takes (scanner.root.under names) = true) :
    scanner.reaches scanner.root names = true := by
  rw [reaches_iff]
  rintro front rest hfront hrest rfl
  by_contra hleft
  have hhidden := hides_of_not_enters h hnames hfront hrest (Bool.not_eq_true _ ▸ hleft)
  rw [takes, hhidden, Bool.not_true, Bool.and_false] at htakes
  cases htakes

/-! ### All files of a tree -/

/-- Below the root stands a directory without links, and every file in it can be asked for. -/
structure Surveyable (scanner : Scanner) (tree : FileTree) (entries : List (String × Node)) : Prop where
  stands : tree.node scanner.root = .ok (.directory entries)
  plain : (Node.directory entries).Plain
  asked : ∀ names ∈ (Node.directory entries).files,
    ∃ found, tree.node (scanner.root.under names) = .ok found

/-- The descriptions of all files below the root, whatever they are. -/
def survey (scanner : Scanner) (tree : FileTree) (node : Node) : List SourceFile :=
  node.files.filterMap fun names => (scanner.describe tree (scanner.root.under names)).source?

variable {entries others : List (String × Node)} {other : FileTree}

/-- Every file of a tree is described as it stands in the tree. -/
theorem Surveyable.exists_describe (h : scanner.Surveyable tree entries)
    (hnames : names ∈ (Node.directory entries).files) : ∃ content modified,
      (Node.directory entries).at? names = some (.file content modified) ∧
      scanner.describe tree (scanner.root.under names) = .source
        ⟨scanner.root.under names, scanner.relative (scanner.root.under names), content.size,
          millisOf modified, Layer.detect (scanner.relative (scanner.root.under names))⟩ := by
  obtain ⟨content, modified, hfile⟩ := (Node.mem_files h.plain).1 hnames
  obtain ⟨found, hfound⟩ := h.asked names hnames
  obtain rfl := FileTree.node_under h.stands h.plain hfile hfound
  refine ⟨content, modified, hfile, ?_⟩
  unfold describe
  rw [hfound]

/-- Trees that hold the same below the root in any order are surveyed alike. -/
theorem survey_congr (h : scanner.Surveyable tree entries) (hother : scanner.Surveyable other others)
    (hsame : Node.Reordered (.directory entries) (.directory others)) :
    scanner.survey tree (.directory entries) = scanner.survey other (.directory others) := by
  have hfiles := Node.files_congr h.plain hother.plain hsame
  rw [survey, survey, ← hfiles]
  refine List.filterMap_congr fun names hnames => ?_
  obtain ⟨content, modified, hfile, hdescribe⟩ := h.exists_describe hnames
  obtain ⟨content', modified', hfile', hdescribe'⟩ := hother.exists_describe (hfiles ▸ hnames)
  have hheld := hsame names
  rw [hfile, hfile'] at hheld
  obtain ⟨rfl, rfl⟩ := Prod.mk.inj (Option.some.inj (Option.some.inj hheld))
  rw [hdescribe, hdescribe']

theorem paths_survey (h : scanner.Surveyable tree entries) :
    (scanner.survey tree (.directory entries)).map (·.path) =
      (Node.directory entries).files.map scanner.root.under := by
  rw [survey, List.map_filterMap, ← List.filterMap_eq_map]
  refine List.filterMap_congr fun names hnames => ?_
  obtain ⟨content, modified, -, hdescribe⟩ := h.exists_describe hnames
  rw [hdescribe]
  rfl

/-- Whether a description is that of a file to be analysed. -/
def wants (scanner : Scanner) (file : SourceFile) : Bool :=
  scanner.selection.isSource file.extension && !scanner.selection.hides file.relative.toList

theorem filter_eq (h : scanner.selection.Readable) (files : List SourceFile) :
    scanner.filter files = .ok (files.filter scanner.wants) :=
  Outcome.filterM_of_forall fun file _ => h.admits file

/-- A scan finds what is wanted of all files. -/
theorem scan_eq (h : scanner.selection.Sweeps) (hsurvey : scanner.Surveyable tree entries)
    (hlines : ∀ names ∈ (Node.directory entries).files, OneLine names) : scanner.scan tree =
      .ok ⟨(scanner.survey tree (.directory entries)).filter scanner.wants, []⟩ := by
  have hkept : scanner.kept tree scanner.root (.directory entries) =
      ((Node.directory entries).files.filter fun names => scanner.takes (scanner.root.under names)).map
        fun names => scanner.describe tree (scanner.root.under names) := by
    rw [kept]
    refine congrArg (List.map _) (List.filter_congr fun names hnames => ?_)
    cases htakes : scanner.takes (scanner.root.under names) with
    | false => rw [Bool.and_false]
    | true => rw [reaches_of_takes h (hlines names hnames) htakes, Bool.and_true]
  rw [scan, scanAt_eq h.readable hsurvey.stands hsurvey.plain, hkept, Found.ofSightings,
    List.filterMap_map, List.filterMap_map, List.filterMap_filter, List.filterMap_filter]
  congr 2
  · rw [survey, List.filter_filterMap]
    refine List.filterMap_congr fun names hnames => ?_
    obtain ⟨content, modified, -, hdescribe⟩ := hsurvey.exists_describe hnames
    simp only [Function.comp_def, hdescribe, Sighting.source?, Option.filter_some]
    rfl
  · rw [List.filterMap_eq_nil_iff]
    intro names hnames
    obtain ⟨content, modified, -, hdescribe⟩ := hsurvey.exists_describe hnames
    simp only [Function.comp_def, hdescribe, Sighting.notice?, ite_self]

/-- When directories are left out by globs that end in two stars, a scan finds exactly the files that are
left when all files of the tree are put to the test, in the order of their listing. Each file to be
analysed is found once, what was found passes the test again, and the order in which the directories hold
their entries does not matter. -/
theorem scan_eq_filter (h : scanner.selection.Sweeps) (hsurvey : scanner.Surveyable tree entries)
    (hlines : ∀ names ∈ (Node.directory entries).files, ∀ name ∈ names, '\n' ∉ name.toList) :
    ∃ kept, scanner.filter (scanner.survey tree (.directory entries)) = .ok kept ∧
      scanner.scan tree = .ok ⟨kept, []⟩ ∧
      (kept.map (·.path)).Nodup ∧
      (∀ file, file ∈ kept ↔ ∃ names content modified,
        (Node.directory entries).at? names = some (.file content modified) ∧
        scanner.describe tree (scanner.root.under names) = .source file ∧
        scanner.selection.admits file = .ok true) ∧
      scanner.filter kept = .ok kept ∧
      ∀ other others, scanner.Surveyable other others →
        Node.Reordered (.directory entries) (.directory others) →
        scanner.scan other = .ok ⟨kept, []⟩ := by
  have hnames : ∀ names ∈ (Node.directory entries).files, OneLine names := by
    intro names hmem name hname
    obtain ⟨content, modified, hfile⟩ := (Node.mem_files hsurvey.plain).1 hmem
    exact ⟨((hsurvey.plain.at? hfile).2 name hname).1, hlines names hmem name hname⟩
  refine ⟨_, filter_eq h.readable _, scan_eq h hsurvey hnames, ?_, ?_, ?_, ?_⟩
  · refine (List.Sublist.map _ List.filter_sublist).nodup ?_
    rw [paths_survey hsurvey]
    exact (Node.nodup_files hsurvey.plain).map fun _ _ => Path.under_injective
  · intro file
    have hadmits : scanner.selection.admits file = .ok true ↔ scanner.wants file = true := by
      rw [h.readable.admits, Except.ok.injEq]
      rfl
    simp only [List.mem_filter, survey, List.mem_filterMap, source?_eq_some_iff, hadmits,
      Node.mem_files hsurvey.plain]
    constructor
    · rintro ⟨⟨names, ⟨content, modified, hfile⟩, hdescribe⟩, hwants⟩
      exact ⟨names, content, modified, hfile, hdescribe, hwants⟩
    · rintro ⟨names, content, modified, hfile, hdescribe, hwants⟩
      exact ⟨⟨names, ⟨content, modified, hfile⟩, hdescribe⟩, hwants⟩
  · rw [filter_eq h.readable, List.filter_filter]
    simp only [Bool.and_self]
  · intro other others hother hsame
    have hfiles := Node.files_congr hsurvey.plain hother.plain hsame
    rw [survey_congr hsurvey hother hsame]
    exact scan_eq h hother (hfiles ▸ hnames)

theorem forall_files_built {holds : List String → Prop} {entries : List (String × Node)}
    (hperm : entries.Perm builtEntries) (hbuild : holds ["build", "A.kt"]) (hsource : holds ["B.kt"]) :
    ∀ names ∈ (Node.directory entries).files, holds names := by
  rw [Node.forall_mem_files]
  intro entry hentry
  rcases List.mem_pair.1 (hperm.mem_iff.1 hentry) with rfl | rfl
  · refine Node.forall_mem_files.2 fun entry hentry more hmore => ?_
    obtain rfl := List.mem_singleton.1 hentry
    obtain rfl := List.mem_singleton.1 hmore
    exact hbuild
  · intro more hmore
    obtain rfl := List.mem_singleton.1 hmore
    exact hsource

theorem surveyable_built : (projectScanner ["**/build/**"]).Surveyable (projectTree builtEntries)
    builtEntries where
  stands := node_project (by decide) (by decide) (fun _ h => by cases h) rfl
  plain := plain_builtEntries
  asked := forall_files_built (.refl _)
    ⟨_, node_project (by decide) (by decide) (fun _ h => by cases h) rfl⟩
    ⟨_, node_project (by decide) (by decide) (fun _ h => by cases h) rfl⟩

/-- The same project with its entries the other way round. -/
theorem surveyable_reverse : (projectScanner ["**/build/**"]).Surveyable
    (projectTree builtEntries.reverse) builtEntries.reverse where
  stands := node_project (by decide) (by decide) (fun _ h => by cases h) rfl
  plain := plain_builtEntries.perm (List.reverse_perm _).symm
  asked := forall_files_built (List.reverse_perm _)
    ⟨_, node_project (by decide) (by decide) (fun _ h => by cases h) rfl⟩
    ⟨_, node_project (by decide) (by decide) (fun _ h => by cases h) rfl⟩

theorem scan_eq_filter_built : ∃ kept file,
    (projectScanner ["**/build/**"]).scan (projectTree builtEntries) = .ok ⟨kept, []⟩ ∧
    (projectScanner ["**/build/**"]).scan (projectTree builtEntries.reverse) = .ok ⟨kept, []⟩ ∧
    file ∈ kept ∧ file.path = ⟨1, ["p", "B.kt"]⟩ := by
  have hsweeps : (projectScanner ["**/build/**"]).selection.Sweeps := by
    unfold Selection.Sweeps
    decide
  obtain ⟨kept, -, hscan, -, hmem, -, hany⟩ := scan_eq_filter hsweeps surveyable_built
    (forall_files_built (.refl _) (by decide) (by decide))
  have hsame := Node.reordered_of_perm plain_builtEntries (List.reverse_perm builtEntries).symm
  obtain ⟨content, modified, hfile, hdescribe⟩ := surveyable_built.exists_describe
    (Node.mem_files_directory.2 ⟨("B.kt", .file (.text "class B\n") 0), by simp [builtEntries], [],
      List.mem_singleton_self _, rfl⟩)
  refine ⟨kept, _, hscan, hany _ _ surveyable_reverse hsame,
    (hmem _).2 ⟨["B.kt"], content, modified, hfile, hdescribe, ?_⟩, rfl⟩
  have htakes : (projectScanner ["**/build/**"]).takes ⟨1, ["p", "B.kt"]⟩ = true := by decide +kernel
  rw [hsweeps.readable.admits]
  exact congrArg Except.ok htakes

end Scanner
end KotlinAudit.Discovery

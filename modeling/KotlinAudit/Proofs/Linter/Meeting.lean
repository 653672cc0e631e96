import KotlinAudit.Linter.Report
import KotlinAudit.Proofs.Aggregation.Views
import KotlinAudit.Proofs.Audit.Contribution
import KotlinAudit.Proofs.Discovery.Pruning
import KotlinAudit.Proofs.FileTree.Plain
import KotlinAudit.Proofs.Record.Checked
import KotlinAudit.Proofs.Text.Utf8
import Mathlib.Data.List.TakeWhile

/-! The locations of files in the reports of the external linter. A file of the project may be located
by its escaped path below the root or by its whole escaped path; from both its findings get the relative
path that the scanner gives it, and so they meet those of the analyzers where findings are put together. -/
namespace KotlinAudit

namespace Linter

open Text (isAsciiLetter isAsciiDigit)
open KotlinAudit.Path (ProperName)

/-! ### Escaping -/

/-- Characters that are written as they are. -/
def isKept (c : Char) : Bool :=
  isAsciiLetter c || isAsciiDigit c || ['-', '.', '_', '~', '/'].contains c

def hexDigit (value : Nat) : Char := Char.ofNat (if value < 10 then 48 + value else 55 + value)

/-- An octet as it is written. -/
def escapedOctet (octet : Nat) : List Char :=
  if isKept (Char.ofNat octet) then [Char.ofNat octet]
  else ['%', hexDigit (octet / 16), hexDigit (octet % 16)]

/-- A text with all octets escaped but for those of letters, digits, slashes and a few marks. -/
def escaped (text : String) : String :=
  String.ofList ((Text.Utf8.write text.toList).flatMap escapedOctet)

variable {c : Char} {octet : Nat} {text : List Char}

theorem toNat_lt_of_isKept (h : isKept c = true) : c.toNat < 128 := by
  simp only [isKept, isAsciiLetter, isAsciiDigit, Bool.or_eq_true, Bool.and_eq_true,
    decide_eq_true_eq, List.contains_iff_mem] at h
  rcases h with ((⟨-, hz⟩ | ⟨-, hz⟩) | ⟨-, hz⟩) | hmark
  · exact Nat.lt_of_le_of_lt (show c.toNat ≤ 122 from hz) (by decide)
  · exact Nat.lt_of_le_of_lt (show c.toNat ≤ 90 from hz) (by decide)
  · exact Nat.lt_of_le_of_lt (show c.toNat ≤ 57 from hz) (by decide)
  · simp only [List.mem_cons, List.not_mem_nil, or_false] at hmark
    rcases hmark with rfl | rfl | rfl | rfl | rfl <;> decide

theorem isKept_hexDigit : ∀ value < 16, isKept (hexDigit value) = true := by decide

theorem hexValue?_hexDigit : ∀ value < 16, hexValue? (hexDigit value) = some value := by decide

/-- Only percent signs and characters that are kept are written. -/
theorem isKept_of_mem_escapedOctet (hoctet : octet < 256) (h : c ∈ escapedOctet octet) :
    isKept c = true ∨ c = '%' := by
  unfold escapedOctet at h
  split at h
  · next hkept => exact .inl (List.mem_singleton.1 h ▸ hkept)
  · simp only [List.mem_cons, List.not_mem_nil, or_false] at h
    rcases h with rfl | rfl | rfl
    · exact .inr rfl
    · exact .inl (isKept_hexDigit _ (by omega))
    · exact .inl (isKept_hexDigit _ (by omega))

theorem isKept_of_mem_escaped {text : String} (h : c ∈ (escaped text).toList) :
    isKept c = true ∨ c = '%' := by
  rw [escaped, String.toList_ofList] at h
  obtain ⟨octet, hoctet, hc⟩ := List.mem_flatMap.1 h
  exact isKept_of_mem_escapedOctet (Text.Utf8.lt_of_mem_write hoctet) hc

theorem toNat_lt_of_mem_escaped {text : String} (h : c ∈ (escaped text).toList) : c.toNat < 128 := by
  rcases isKept_of_mem_escaped h with hkept | rfl
  · exact toNat_lt_of_isKept hkept
  · decide

/-- No mark with a meaning in locations is written. -/
theorem not_mem_escaped {text : String} (h : c ∈ ['\t', '\n', '\r', '?', '#', ':']) :
    c ∉ (escaped text).toList := by
  have hforeign : isKept c = false ∧ c ≠ '%' := by
    simp only [List.mem_cons, List.not_mem_nil, or_false] at h
    rcases h with rfl | rfl | rfl | rfl | rfl | rfl <;> decide
  obtain ⟨hkept, hpercent⟩ := hforeign
  intro hmem
  rcases isKept_of_mem_escaped hmem with htrue | heq
  · rw [hkept] at htrue
    cases htrue
  · exact hpercent heq

/-! ### Reading what has been escaped -/

theorem octets_kept (h : isKept c = true) (rest : List Char) :
    octets (c :: rest) = c.toNat :: octets rest := by
  rw [octets.eq_def]
  split
  · next heq =>
    rw [(List.cons.inj heq).1] at h
    cases h
  · next heq =>
    obtain ⟨rfl, rfl⟩ := List.cons.inj heq
    rfl
  · next heq => cases heq

/-- An octet is read from what is written for it. -/
theorem octets_escapedOctet (h : octet < 256) (rest : List Char) :
    octets (escapedOctet octet ++ rest) = octet :: octets rest := by
  unfold escapedOctet
  split
  · next hkept =>
    have hsame : (Char.ofNat octet).toNat = octet := by
      rw [Char.ofNat, dif_pos (.inl (by omega))]
      rfl
    rw [List.singleton_append, octets_kept hkept, hsame]
  · rw [List.cons_append, List.cons_append, List.singleton_append, octets,
      hexValue?_hexDigit _ (by omega), hexValue?_hexDigit _ (by omega)]
    dsimp only
    rw [Nat.div_add_mod']

theorem octets_flatMap {values : List Nat} (h : ∀ octet ∈ values, octet < 256) :
    octets (values.flatMap escapedOctet) = values := by
  induction values with
  | nil => simp [octets]
  | cons octet rest ih =>
    obtain ⟨hoctet, hrest⟩ := List.forall_mem_cons.1 h
    rw [List.flatMap_cons, octets_escapedOctet hoctet, ih hrest]

theorem unescapedFrom_eq (stretch : List Char) (h : ∀ c ∈ text, c.toNat < 128) :
    unescapedFrom stretch text = Text.Utf8.read (octets (stretch.reverse ++ text)) := by
  induction text generalizing stretch with
  | nil => rw [unescapedFrom, List.append_nil]
  | cons c rest ih =>
    obtain ⟨hc, hrest⟩ := List.forall_mem_cons.1 h
    rw [unescapedFrom, if_pos hc, ih _ hrest, List.reverse_cons, List.append_assoc,
      List.singleton_append]

/-- What has been escaped is read back. -/
theorem unescaped_escaped (text : String) : unescaped (escaped text).toList = text.toList := by
  rw [unescaped, unescapedFrom_eq [] fun _ => toNat_lt_of_mem_escaped, List.reverse_nil,
    List.nil_append, escaped, String.toList_ofList,
    octets_flatMap fun _ => Text.Utf8.lt_of_mem_write, Text.Utf8.read_write]

/-! ### Paths of locations -/

theorem head?_escaped {text : String} (h : text.toList.head? = some '/') :
    (escaped text).toList.head? = some '/' := by
  obtain ⟨rest, hrest⟩ := List.head?_eq_some_iff.1 h
  rw [escaped, String.toList_ofList, hrest]
  rfl

/-- The whole of a location's part after its host is a path when it has been escaped. -/
theorem filePart?_escaped {text : String} (h : text.toList.head? = some '/') :
    filePart? ('/' :: '/' :: (escaped text).toList) = some (escaped text).toList := by
  obtain ⟨rest, hrest⟩ := List.head?_eq_some_iff.1 (head?_escaped h)
  have hfree : ∀ c ∈ (escaped text).toList,
      c ≠ '\t' ∧ c ≠ '\n' ∧ c ≠ '\r' ∧ c ≠ '?' ∧ c ≠ '#' := by
    intro c hc
    have hmark := mt not_mem_escaped (not_not_intro hc)
    simp only [List.mem_cons, not_or] at hmark
    exact ⟨hmark.1, hmark.2.1, hmark.2.2.1, hmark.2.2.2.1, hmark.2.2.2.2.1⟩
  have hfilter : (escaped text).toList.filter
      (fun c => !(c == '\t' || c == '\n' || c == '\r')) = (escaped text).toList :=
    List.filter_eq_self.2 fun c hc => by simp [hfree c hc]
  have hmarks : (escaped text).toList.takeWhile (fun c => c != '?' && c != '#') =
      (escaped text).toList :=
    List.takeWhile_eq_self_iff.2 fun c hc => by simp [hfree c hc]
  have hhost : (escaped text).toList.takeWhile (fun c => c != '/' && c != '?' && c != '#') = [] := by
    rw [hrest]
    rfl
  unfold filePart?
  rw [List.filter_cons_of_pos (by decide), List.filter_cons_of_pos (by decide), hfilter]
  change (if Host.isValid ((escaped text).toList.takeWhile _) = true then some
    (((escaped text).toList.drop ((escaped text).toList.takeWhile _).length).takeWhile _)
    else none) = _
  rw [hhost, if_pos (by decide), List.length_nil, List.drop_zero, hmarks]

/-- An escaped path that starts with a slash is the path of the location that names a file. -/
theorem pathOf?_file {text : String} (h : text.toList.head? = some '/') :
    pathOf? ("file://" ++ escaped text) = some (Path.ofText text) := by
  have hlocation : ("file://" ++ escaped text).toList =
      "file:".toList ++ '/' :: '/' :: (escaped text).toList := by
    rw [String.toList_append]
    rfl
  have hnamed : "file:".toList.isPrefixOf ("file://" ++ escaped text).toList = true := by
    rw [hlocation, List.isPrefixOf_iff_prefix]
    exact List.prefix_append _ _
  unfold pathOf?
  dsimp only
  rw [if_pos hnamed, hlocation, List.drop_left' (show "file:".toList.length = 5 by decide),
    filePart?_escaped h, Option.map_some, unescaped_escaped, String.ofList_toList]

/-- An escaped text is a location that names no scheme, and so a path itself. -/
theorem pathOf?_escaped (text : String) : pathOf? (escaped text) = some (Path.ofText text) := by
  have hplain : ¬ "file:".toList.isPrefixOf (escaped text).toList = true := by
    rw [List.isPrefixOf_iff_prefix]
    intro hscheme
    have hcolon : ':' ∈ (escaped text).toList := hscheme.subset (by decide)
    exact not_mem_escaped (by decide) hcolon
  unfold pathOf?
  dsimp only
  rw [if_neg hplain, Option.map_some, unescaped_escaped, String.ofList_toList]

/-! ### Files below a root -/

/-- A name that a file below a root can have. -/
structure Segment (name : String) : Prop extends ProperName name where
  notUp : name ≠ ".."
  noNul : '\x00' ∉ name.toList

/-- A whole path that can be asked for, with no link on the way to it or below it. -/
structure CleanRoot (tree : FileTree) (root : Path) : Prop where
  isAbsolute : root.isAbsolute
  slashes_le : root.slashes ≤ 2
  proper : root.Proper
  noNul : ∀ name ∈ root.names, '\x00' ∉ name.toList
  linkless : tree.Linkless root

variable {tree : FileTree} {root : Path} {names : List String}

theorem CleanRoot.resolve (h : CleanRoot tree root) :
    tree.resolve root = .ok ⟨1, FileTree.withoutDots root.names⟩ := by
  rw [FileTree.resolve_of_straight (FileTree.refusal?_ne_nul h.noNul) h.linkless.way,
    FileTree.absolute_of_isAbsolute h.isAbsolute]

/-- A path below a root resolves to a path below what the root resolves to. -/
theorem CleanRoot.resolve_append (h : CleanRoot tree root) (hnames : ∀ name ∈ names, Segment name)
    {slashes : Nat} (hslashes : slashes ≠ 0) :
    tree.resolve ⟨slashes, root.names ++ names⟩ =
      .ok ⟨1, FileTree.withoutDots root.names ++ names⟩ := by
  have habsolute : (⟨slashes, root.names ++ names⟩ : Path).isAbsolute := by
    simpa [Path.isAbsolute] using hslashes
  have hup : ∀ name ∈ names, name ≠ ".." := fun name hname => (hnames name hname).notUp
  have hnul : ∀ name ∈ root.names ++ names, '\x00' ∉ name.toList :=
    List.forall_mem_append.2 ⟨h.noNul, fun name hname => (hnames name hname).noNul⟩
  have hstraight := h.linkless.straight hup
  rw [FileTree.absolute_of_isAbsolute h.isAbsolute] at hstraight
  rw [FileTree.resolve_of_straight (FileTree.refusal?_ne_nul hnul)
      (by rwa [FileTree.absolute_of_isAbsolute habsolute]),
    FileTree.absolute_of_isAbsolute habsolute, FileTree.withoutDots_append _ hup]

/-- The whole path of a file below a root leads to its path below the root. -/
theorem relativePath_file (h : CleanRoot tree root) (hnames : ∀ name ∈ names, Segment name)
    (hne : names ≠ []) :
    relativePath tree.resolve root ("file://" ++ escaped (root.text ++ "/" ++ "/".intercalate names)) =
      .ok ("/".intercalate names) := by
  obtain ⟨slashes, hslashes, htext⟩ := Path.ofText_text_append h.proper h.isAbsolute
    (fun name hname => (hnames name hname).toProperName) hne
  have hhead : (root.text ++ "/" ++ "/".intercalate names).toList.head? = some '/' := by
    have habsolute : root.slashes ≠ 0 := by simpa [Path.isAbsolute] using h.isAbsolute
    obtain ⟨more, hmore⟩ := Nat.exists_eq_succ_of_ne_zero habsolute
    rw [Path.text_of_isAbsolute h.isAbsolute, hmore, List.replicate_succ]
    simp
  unfold relativePath
  rw [pathOf?_file hhead, htext]
  dsimp only
  rw [if_neg (by simp [Path.isAbsolute, hslashes]), h.resolve_append hnames hslashes, h.resolve]
  simp [Path.relativeTo?, Path.text_of_names hne]

/-- The path of a file below a root is taken as it is. -/
theorem relativePath_below (resolve : Path → Except FileError Path) (root : Path)
    (hnames : ∀ name ∈ names, Segment name) (hne : names ≠ []) :
    relativePath resolve root (escaped ("/".intercalate names)) = .ok ("/".intercalate names) := by
  have hread : Path.ofText ("/".intercalate names) = ⟨0, names⟩ := by
    rw [← Path.text_of_names hne,
      Path.ofText_text (fun name hname => (hnames name hname).toProperName) (Nat.zero_le 2)]
  unfold relativePath
  rw [pathOf?_escaped, hread]
  exact congrArg Except.ok (Path.text_of_names hne)

end Linter

/-! ### Findings of the external linter and of the analyzers on the same file -/

namespace Aggregate

variable {first second : Finding}

/-- Two findings on one file. They have one key if they agree in all else that a key is made of. Where
they are put together with any others, what is kept for them is told under their file, and it is a single
finding exactly if they have one key. -/
structure Meet (first second : Finding) : Prop where
  file : first.file = second.file
  key : first.key = second.key ↔
    first.line = second.line ∧ first.category = second.category ∧ first.title = second.title
  kept : ∀ findings aggregate, ofFindings findings = .ok aggregate → first ∈ findings →
    second ∈ findings → ∃ one ∈ aggregate.byFile.under first.file,
      ∃ other ∈ aggregate.byFile.under first.file, one.key = first.key ∧ other.key = second.key ∧
        (one = other ↔ first.key = second.key)

/-- What is kept for a finding is told under its file. -/
theorem exists_kept {findings : List Finding} {aggregate : Aggregate}
    (h : ofFindings findings = .ok aggregate) {finding : Finding} (hmem : finding ∈ findings) :
    ∃ kept ∈ aggregate.byFile.under finding.file,
      kept ∈ aggregate.findings ∧ kept.key = finding.key := by
  have hviews := consistent_of_ofFindings h
  obtain ⟨metrics, -, rfl⟩ := ofFindings_eq_ok.1 h
  have hkey : finding.key ∈ (resolved findings).map Finding.key := by
    rw [map_key_resolved]
    exact mem_keys.2 ⟨finding, hmem, rfl⟩
  obtain ⟨kept, hkept, hsame⟩ := List.mem_map.1 hkey
  have hfile : kept.file = finding.file := congrArg Finding.Key.file hsame
  refine ⟨kept, ?_, hkept, hsame⟩
  rw [hviews.byFile.group]
  exact List.mem_filter.2 ⟨hkept, by simpa using hfile⟩

theorem meet_of_file_eq (h : first.file = second.file) : Meet first second := by
  refine ⟨h, ?_, fun findings aggregate haggregate hfirst hsecond => ?_⟩
  · rw [Finding.key, Finding.key, Finding.Key.mk.injEq]
    exact and_iff_right h
  · obtain ⟨one, hone, honeMem, honeKey⟩ := exists_kept haggregate hfirst
    obtain ⟨other, hother, hotherMem, hotherKey⟩ := exists_kept haggregate hsecond
    refine ⟨one, hone, other, h ▸ hother, honeKey, hotherKey, ?_⟩
    rw [← honeKey, ← hotherKey]
    exact ⟨congrArg _,
      List.inj_on_of_nodup_map (nodup_keys_ofFindings haggregate) honeMem hotherMem⟩

end Aggregate

namespace Linter

open Discovery (Scanner Selection)
open KotlinAudit.Path (ProperName)
open Record (Checked)

variable {tree : FileTree} {root : Path} {names : List String}

/-- The location that a result of a report gives. -/
def Report.uriOf (result : Json) : Except ReportFault Json := do
  let first ← fieldsOf (← firstOf (look (← fieldsOf result) "locations" .null))
  let physical ← fieldsOf (look first "physicalLocation" (.object []))
  let artifact ← fieldsOf (look physical "artifactLocation" (.object []))
  return look artifact "uri" .null

/-- The file of an issue is where its location leads. -/
theorem Report.relativePath_of_issueOf {resolve : Path → Except FileError Path} {result : Json}
    {issue : Issue} {location : String} (h : issueOf resolve root result = .ok (some issue))
    (huri : uriOf result = .ok (.text location)) : relativePath resolve root location = .ok issue.file := by
  unfold issueOf at h
  obtain ⟨fields, hfields, h⟩ := Outcome.bind_eq_ok.1 h
  dsimp only at h
  split at h
  · cases h
  obtain ⟨value, hvalue, h⟩ := Outcome.bind_eq_ok.1 h
  obtain ⟨first, hfirst, h⟩ := Outcome.bind_eq_ok.1 h
  obtain ⟨physical, hphysical, h⟩ := Outcome.bind_eq_ok.1 h
  obtain ⟨artifact, hartifact, h⟩ := Outcome.bind_eq_ok.1 h
  have hlocation : look artifact "uri" .null = .text location := by
    simp only [uriOf, bind, Except.bind, hfields, hvalue, hfirst, hphysical, hartifact] at huri
    exact Except.ok.inj huri
  split at h
  · cases h
  obtain ⟨properties, -, h⟩ := Outcome.bind_eq_ok.1 h
  obtain ⟨message, -, h⟩ := Outcome.bind_eq_ok.1 h
  obtain ⟨region, -, h⟩ := Outcome.bind_eq_ok.1 h
  obtain ⟨snippet, -, h⟩ := Outcome.bind_eq_ok.1 h
  rw [hlocation] at h
  obtain ⟨file, hfile, h⟩ := Outcome.bind_eq_ok.1 h
  obtain ⟨line, -, h⟩ := Outcome.bind_eq_ok.1 h
  obtain ⟨minutes, -, h⟩ := Outcome.bind_eq_ok.1 h
  split at h
  · next found hfound =>
    cases h
    rw [Checked.toExcept_eq_ok, Checked.value?_seq, Checked.value?_seq, Checked.value?_map] at hfound
    simp only [Option.bind_eq_some_iff, Option.map_eq_some_iff] at hfound
    obtain ⟨withColumn, ⟨withMessage, ⟨text, -, rfl⟩, column, -, rfl⟩, signature, -, rfl⟩ := hfound
    exact Outcome.mapError_eq_ok.1 hfile
  · cases h

/-- A location leads to the file that stands under some names below a root. It is read as the names, and
findings of issues there meet what any analyzers find in the file as a scanner describes it. -/
structure Locates (tree : FileTree) (root : Path) (names : List String) (location : String) : Prop where
  path : relativePath tree.resolve root location = .ok ("/".intercalate names)
  meets : ∀ result issue, Report.uriOf result = .ok (.text location) →
    Report.issueOf tree.resolve root result = .ok (some issue) →
    ∀ selection : Selection, ∃ scanner, Scanner.ofRoot tree root selection = .ok scanner ∧
      ∀ file, scanner.describe tree (scanner.root.under names) = .source file →
        issue.finding.file = file.relative ∧
        ∀ (audit : Audit) (analyzers : List Analyzer), analyzers ⊆ bundledAnalyzers →
          ∀ other ∈ Audit.foundIn audit.read analyzers tree file, Aggregate.Meet issue.finding other

theorem CleanRoot.ofRoot (h : CleanRoot tree root) (selection : Selection) :
    Scanner.ofRoot tree root selection =
      .ok ⟨⟨1, FileTree.withoutDots root.names⟩, selection⟩ := by
  unfold Scanner.ofRoot
  rw [h.resolve]
  rfl

theorem locates_of_relativePath (hroot : CleanRoot tree root) (hne : names ≠ []) {location : String}
    (h : relativePath tree.resolve root location = .ok ("/".intercalate names)) :
    Locates tree root names location := by
  refine ⟨h, fun result issue huri hissue selection => ?_⟩
  refine ⟨_, hroot.ofRoot selection, fun file hfile => ?_⟩
  have hrelative : issue.finding.file = file.relative := by
    have hissueFile := Report.relativePath_of_issueOf hissue huri
    rw [h] at hissueFile
    rw [(Scanner.relative_of_describe hfile).2, Scanner.relative_under hne]
    exact (Except.ok.inj hissueFile).symm
  refine ⟨hrelative, fun audit analyzers hsub other hother => Aggregate.meet_of_file_eq ?_⟩
  rw [Audit.foundIn_eq] at hother
  obtain ⟨analyzer, hanalyzer, hfound⟩ := List.mem_flatMap.1 hother
  obtain ⟨draft, rfl⟩ := Audit.of_mem_foundBy (hsub hanalyzer) hfound
  exact hrelative

/-- Below a root without links, a file is located by its whole escaped path as well as by its escaped
path below the root. -/
theorem locates_escaped (hroot : CleanRoot tree root) (hnames : ∀ name ∈ names, Segment name)
    (hne : names ≠ []) :
    Locates tree root names ("file://" ++ escaped (root.text ++ "/" ++ "/".intercalate names)) ∧
    Locates tree root names (escaped ("/".intercalate names)) :=
  ⟨locates_of_relativePath hroot hne (relativePath_file hroot hnames hne),
    locates_of_relativePath hroot hne (relativePath_below _ _ hnames hne)⟩

/-! ### A file with marks in its names -/

/-- Names with marks that have a meaning in locations. -/
def markedNames : List String := ["a b#", "Ü?%:.kt"]

def markedTree : FileTree := Scanner.projectTree [("a b#", .directory
  [("Ü?%:.kt", .file (.text "class A\n") 0)])]

def markedLocation : String := "file:///p/a%20b%23/%C3%9C%3F%25%3A.kt"

def markedResult : Json :=
  .object [("locations", .array [.object [("physicalLocation",
    .object [("artifactLocation", .object [("uri", .text markedLocation)])])]])]

def markedIssue : Issue := ⟨"", "", .warning, "", "a b#/Ü?%:.kt", 1, none, 20, ""⟩

theorem segment_marked : ∀ name ∈ "p" :: markedNames, Segment name := by
  have hchecked : ∀ name ∈ "p" :: markedNames,
      name ≠ "" ∧ '/' ∉ name.toList ∧ name ≠ "." ∧ name ≠ ".." ∧ '\x00' ∉ name.toList := by decide
  intro name hname
  obtain ⟨hempty, hslash, hdot, hup, hnul⟩ := hchecked name hname
  exact ⟨⟨hempty, hslash, hdot⟩, hup, hnul⟩

theorem cleanRoot_marked : CleanRoot markedTree ⟨1, ["p"]⟩ := by
  have hname : ∀ name ∈ "p" :: markedNames, ProperName name ∧ name ≠ ".." := fun name hname =>
    ⟨(segment_marked name hname).toProperName, (segment_marked name hname).notUp⟩
  have hplain : markedTree.root.Plain :=
    ⟨by decide, hname _ (by decide), ⟨by decide, hname _ (by decide), ⟨by decide, hname _ (by decide),
      trivial, trivial⟩, trivial⟩, trivial⟩
  refine ⟨rfl, by decide, fun name hroot => ?_, by decide, FileTree.linkless_of_plain hplain _⟩
  rw [List.mem_singleton.1 hroot]
  exact (hname _ (by decide)).1

theorem issueOf_marked
    (h : relativePath markedTree.resolve ⟨1, ["p"]⟩ markedLocation = .ok "a b#/Ü?%:.kt") :
    Report.issueOf markedTree.resolve ⟨1, ["p"]⟩ markedResult = .ok (some markedIssue) := by
  unfold Report.issueOf markedResult
  change (relativePath markedTree.resolve ⟨1, ["p"]⟩ markedLocation).mapError _ >>= _ = _
  rw [h]
  rfl

theorem exists_describe_marked (selection : Selection) : ∃ file,
    (⟨⟨1, ["p"]⟩, selection⟩ : Scanner).describe markedTree ⟨1, "p" :: markedNames⟩ = .source file := by
  have hnode : markedTree.node ⟨1, "p" :: markedNames⟩ = .ok (.file (.text "class A\n") 0) :=
    Scanner.node_project (by decide) (by decide) (fun _ hlink => by cases hlink) rfl
  unfold Scanner.describe
  rw [hnode]
  exact ⟨_, rfl⟩

/-- Both locations of the file, and an issue at one of them that meets what is found in the file. -/
theorem locates_escaped_marked : CleanRoot markedTree ⟨1, ["p"]⟩ ∧
    (∀ name ∈ markedNames, Segment name) ∧ markedNames ≠ [] ∧
    Locates markedTree ⟨1, ["p"]⟩ markedNames markedLocation ∧
    Locates markedTree ⟨1, ["p"]⟩ markedNames "a%20b%23/%C3%9C%3F%25%3A.kt" ∧
    Report.issueOf markedTree.resolve ⟨1, ["p"]⟩ markedResult = .ok (some markedIssue) ∧
    ∃ scanner file, Scanner.ofRoot markedTree ⟨1, ["p"]⟩ ⟨[], ["kt"]⟩ = .ok scanner ∧
      scanner.describe markedTree (scanner.root.under markedNames) = .source file ∧
      markedIssue.finding.file = file.relative := by
  have hnames := (List.forall_mem_cons.1 segment_marked).2
  have hwhole : "file://" ++ escaped ((⟨1, ["p"]⟩ : Path).text ++ "/" ++ "/".intercalate markedNames) =
      markedLocation := by decide +kernel
  have hbelow : escaped ("/".intercalate markedNames) = "a%20b%23/%C3%9C%3F%25%3A.kt" := by
    decide +kernel
  obtain ⟨hfile, hrelative⟩ := locates_escaped cleanRoot_marked hnames (by decide)
  rw [hwhole] at hfile
  rw [hbelow] at hrelative
  have hissue := issueOf_marked hfile.path
  obtain ⟨scanner, hscanner, hmeets⟩ := hfile.meets markedResult markedIssue rfl hissue ⟨[], ["kt"]⟩
  obtain ⟨file, hdescribe⟩ : ∃ file,
      scanner.describe markedTree (scanner.root.under markedNames) = .source file := by
    cases hscanner.symm.trans (cleanRoot_marked.ofRoot ⟨[], ["kt"]⟩)
    exact exists_describe_marked _
  exact ⟨cleanRoot_marked, hnames, by decide, hfile, hrelative, hissue, scanner, file, hscanner,
    hdescribe, (hmeets file hdescribe).1⟩

end Linter
end KotlinAudit

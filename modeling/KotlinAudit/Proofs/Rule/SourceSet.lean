import KotlinAudit.Proofs.Path
import KotlinAudit.Proofs.Text.Lines
import KotlinAudit.Rule.TestCoverage

/-! Where the test of a component is expected. The written path is searched for the first directory of main
sources. In terms of its names this is the first `src` with a `main` and something more behind it, and the
test is expected in its place below each directory of tests. -/
namespace KotlinAudit

namespace Text

/-- What starts with a character is not found in front of it. -/
theorem find?_append_of_notMem {c : Char} {needle front : List Char} (h : c ∉ front) (rest : List Char) :
    find? (c :: needle) (front ++ rest) = (find? (c :: needle) rest).map (front.length + ·) := by
  induction front with
  | nil => simp
  | cons d front ih =>
    obtain ⟨hd, hfront⟩ := not_or.1 (mt List.mem_cons.2 h)
    have hstart : (c :: needle).isPrefixOf (d :: (front ++ rest)) = false := by
      rw [List.isPrefixOf_cons_cons, beq_eq_false_iff_ne.2 hd, Bool.false_and]
    rw [List.cons_append, find?, if_neg (by rw [hstart]; exact Bool.false_ne_true), ih hfront,
      Option.map_map, List.length_cons]
    refine congrArg (fun shift => (find? (c :: needle) rest).map shift) (funext fun count => ?_)
    change front.length + count + 1 = front.length + 1 + count
    omega

end Text

namespace Path

/-- Every name with a slash in front. -/
def slashed (names : List String) : List Char := names.flatMap fun name => '/' :: name.toList

theorem slashed_cons (name : String) (names : List String) :
    slashed (name :: names) = '/' :: (name.toList ++ slashed names) := rfl

theorem slashed_append (names more : List String) :
    slashed (names ++ more) = slashed names ++ slashed more := List.flatMap_append

theorem cons_intercalate {names : List String} (h : names ≠ []) :
    '/' :: ['/'].intercalate (names.map String.toList) = slashed names := by
  induction names with
  | nil => exact absurd rfl h
  | cons name rest ih =>
    cases rest with
    | nil => simp [slashed]
    | cons next others =>
      rw [List.map_cons, List.map_cons, List.intercalate_cons_cons, slashed_cons,
        ← ih (List.cons_ne_nil next others)]
      simp

theorem replicate_intercalate (count : Nat) {names : List String} (h : names ≠ []) :
    List.replicate (count + 1) '/' ++ ['/'].intercalate (names.map String.toList) =
      List.replicate count '/' ++ slashed names := by
  rw [List.replicate_succ', List.append_assoc, List.singleton_append, cons_intercalate h]

/-- An absolute path is written with a slash before every name, and one more if it starts with two. -/
theorem toList_text {count : Nat} {names : List String} (h : names ≠ []) :
    (text ⟨count + 1, names⟩).toList = List.replicate count '/' ++ slashed names := by
  rw [text_of_isAbsolute rfl, ← replicate_intercalate count h]
  simp

theorem ofText_slashed {count : Nat} {names : List String} (h : ∀ name ∈ names, ProperName name)
    (hne : names ≠ []) (hcount : count ≤ 1) :
    ofText (String.ofList (List.replicate count '/' ++ slashed names)) = ⟨count + 1, names⟩ := by
  rw [← replicate_intercalate count hne]
  have htext : String.ofList (List.replicate (count + 1) '/' ++
      ['/'].intercalate (names.map String.toList)) =
      String.ofList (List.replicate (count + 1) '/') ++ "/".intercalate names := by
    rw [← String.toList_inj]
    simp
  rw [htext, ofText_slashes (count + 1) h]
  congr 1
  split <;> omega

end Path

namespace Rule.TestCoverage

open KotlinAudit.Path (ProperName slashed)

/-- The names in front of the first directory of main sources, and those below it. -/
def splitMain : List String → Option (List String × List String)
  | [] => none
  | name :: rest =>
    if ["src", "main"] <+: name :: rest ∧ 1 < rest.length then some ([], rest.tail)
    else (splitMain rest).map fun (front, back) => (name :: front, back)

theorem append_of_splitMain {names front back : List String} (h : splitMain names = some (front, back)) :
    names = front ++ "src" :: "main" :: back ∧ back ≠ [] := by
  induction names generalizing front with
  | nil => cases h
  | cons name rest ih =>
    rw [splitMain] at h
    split at h
    · next hmain =>
      obtain ⟨⟨others, hothers⟩, hlength⟩ := hmain
      cases h
      obtain ⟨rfl, rfl⟩ := List.cons.inj hothers
      refine ⟨rfl, ?_⟩
      rintro rfl
      simp at hlength
    · obtain ⟨⟨first, last⟩, hrest, heq⟩ := Option.map_eq_some_iff.1 h
      obtain ⟨rfl, rfl⟩ := Prod.mk.inj heq
      obtain ⟨rfl, hne⟩ := ih hrest
      exact ⟨rfl, hne⟩

/-- A word in front of a slash is a whole name. -/
theorem prefix_slashed_iff {word more : List Char} {name : String} {names : List String}
    (hword : Text.Free (· == '/') word) (hname : ProperName name) :
    word ++ '/' :: more <+: name.toList ++ slashed names ↔
      name.toList = word ∧ '/' :: more <+: slashed names := by
  constructor
  · rintro ⟨others, h⟩
    rw [List.append_assoc, List.cons_append] at h
    cases names with
    | nil =>
      have hslash : '/' ∈ name.toList ++ slashed [] :=
        h ▸ List.mem_append_right word List.mem_cons_self
      exact absurd hslash (by simpa [slashed] using hname.noSlash)
    | cons next rest =>
      rw [Path.slashed_cons] at h ⊢
      obtain ⟨rfl, -, hrest⟩ := hword.append_cons_inj hname.free rfl rfl h
      exact ⟨rfl, others, congrArg ('/' :: ·) hrest⟩
  · rintro ⟨rfl, others, h⟩
    exact ⟨others, by rw [List.append_assoc, h]⟩

theorem mainSources_prefix_iff {name : String} {rest : List String}
    (h : ∀ other ∈ name :: rest, ProperName other) :
    mainSources.isPrefixOf (slashed (name :: rest)) = true ↔
      ["src", "main"] <+: name :: rest ∧ 1 < rest.length := by
  have hsplit : mainSources = '/' :: ("src".toList ++ '/' :: ("main".toList ++ '/' :: [])) := rfl
  rw [List.isPrefixOf_iff_prefix, hsplit, Path.slashed_cons, List.cons_prefix_cons,
    prefix_slashed_iff (by decide) (h name List.mem_cons_self), String.toList_inj]
  cases rest with
  | nil => simp [slashed]
  | cons next others =>
    rw [Path.slashed_cons, List.cons_prefix_cons, prefix_slashed_iff (by decide)
      (h next (List.mem_cons_of_mem _ List.mem_cons_self)), String.toList_inj]
    cases others with
    | nil => simp [slashed]
    | cons third others => simp [Path.slashed_cons, List.cons_prefix_cons, eq_comm]

theorem find?_slashed {names : List String} (h : ∀ name ∈ names, ProperName name) :
    Text.find? mainSources (slashed names) =
      (splitMain names).map fun (front, _) => (slashed front).length := by
  induction names with
  | nil => rfl
  | cons name rest ih =>
    have hstart := mainSources_prefix_iff h
    rw [List.forall_mem_cons] at h
    by_cases hmain : ["src", "main"] <+: name :: rest ∧ 1 < rest.length
    · rw [Path.slashed_cons] at hstart ⊢
      rw [Text.find?, if_pos (hstart.2 hmain), splitMain, if_pos hmain]
      rfl
    · rw [Path.slashed_cons] at hstart ⊢
      rw [Text.find?, if_neg (mt hstart.1 hmain), splitMain, if_neg hmain,
        show mainSources = '/' :: mainSources.tail from rfl, Text.find?_append_of_notMem h.1.noSlash,
        show '/' :: mainSources.tail = mainSources from rfl, ih h.2, Option.map_map, Option.map_map,
        Option.map_map]
      refine congrArg (fun shift => (splitMain rest).map shift) (funext fun sides => ?_)
      change name.toList.length + (slashed sides.1).length + 1 = (slashed (name :: sides.1)).length
      rw [Path.slashed_cons, List.length_cons, List.length_append]

/-- More slashes in front make no difference. -/
theorem find?_replicate {names : List String} (hne : names ≠ []) (count : Nat) :
    Text.find? mainSources (List.replicate count '/' ++ slashed names) =
      (Text.find? mainSources (slashed names)).map (count + ·) := by
  induction count with
  | zero => simp
  | succ count ih =>
    obtain ⟨rest, hrest⟩ : ∃ rest, List.replicate count '/' ++ slashed names = '/' :: rest := by
      cases count with
      | zero =>
        obtain ⟨name, others, rfl⟩ := List.exists_cons_of_ne_nil hne
        exact ⟨_, Path.slashed_cons name others⟩
      | succ count => exact ⟨_, rfl⟩
    have hstart : mainSources.isPrefixOf ('/' :: '/' :: rest) = false := rfl
    rw [List.replicate_succ, List.cons_append, Text.find?, hrest,
      if_neg (by rw [hstart]; exact Bool.false_ne_true), ← hrest, ih, Option.map_map]
    refine congrArg (fun shift => (Text.find? mainSources (slashed names)).map shift)
      (funext fun column => ?_)
    change count + column + 1 = count + 1 + column
    omega

/-- The names of the directories of tests. -/
def testSets : List String := ["test", "androidTest"]

theorem properName_of_mem_testSets : ∀ set ∈ testSets, ProperName set ∧ set ≠ ".." := by decide

/-- A written path with another directory of sources and another last name. -/
theorem withName_ofText_slashed {count : Nat} (hcount : count ≤ 1) {front others : List String}
    {set first : String} (h : ∀ name ∈ front ++ "src" :: set :: first :: others, ProperName name)
    (name : String) :
    (Path.ofText (String.ofList (List.replicate count '/' ++ slashed front ++
      ("/src/".toList ++ (set.toList ++ ['/'])) ++ (first.toList ++ slashed others)))).withName name =
      ⟨count + 1, front ++ "src" :: set :: ((first :: others).dropLast ++ [name])⟩ := by
  have htext : List.replicate count '/' ++ slashed front ++
      ("/src/".toList ++ (set.toList ++ ['/'])) ++ (first.toList ++ slashed others) =
      List.replicate count '/' ++ slashed (front ++ "src" :: set :: first :: others) := by
    rw [Path.slashed_append, Path.slashed_cons, Path.slashed_cons, Path.slashed_cons]
    simp
  rw [htext, Path.ofText_slashed h (by simp) hcount, Path.withName, Path.parent, Path.child]
  simp

/-- The test of a component is expected below each directory of tests where the component stands below the
first directory of main sources. -/
theorem expectedTests_eq {file : SourceFile} {count : Nat} (hcount : count ≤ 1)
    (hslashes : file.path.slashes = count + 1) (hproper : file.path.Proper)
    (hne : file.path.names ≠ []) :
    expectedTests file = match splitMain file.path.names with
      | none => []
      | some (front, back) => testSets.map fun set =>
        ⟨count + 1, front ++ "src" :: set :: (back.dropLast ++ [testName file])⟩ := by
  have hsource : file.path.text.toList = List.replicate count '/' ++ slashed file.path.names := by
    rw [← Path.toList_text hne, ← hslashes]
  have hfind : Text.find? mainSources file.path.text.toList =
      (splitMain file.path.names).map fun (front, _) => count + (slashed front).length := by
    rw [hsource, find?_replicate hne, find?_slashed hproper, Option.map_map]
    rfl
  unfold expectedTests
  dsimp only
  rw [hfind]
  cases hsplit : splitMain file.path.names with
  | none => rfl
  | some sides =>
    obtain ⟨front, back⟩ := sides
    obtain ⟨hnames, hback⟩ := append_of_splitMain hsplit
    obtain ⟨first, others, rfl⟩ := List.exists_cons_of_ne_nil hback
    have hcut : file.path.text.toList = List.replicate count '/' ++ slashed front ++
        (mainSources ++ (first.toList ++ slashed others)) := by
      rw [hsource, hnames, Path.slashed_append, List.append_assoc]
      rfl
    have hlength : (List.replicate count '/' ++ slashed front).length =
        count + (slashed front).length := by rw [List.length_append, List.length_replicate]
    have htake : file.path.text.toList.take (count + (slashed front).length) =
        List.replicate count '/' ++ slashed front := by rw [hcut, List.take_left' hlength]
    have hdrop : file.path.text.toList.drop (count + (slashed front).length + mainSources.length) =
        first.toList ++ slashed others := by
      rw [hcut, ← List.append_assoc, List.drop_left' (by rw [List.length_append, hlength])]
    dsimp only [Option.map_some]
    rw [htake, hdrop]
    rw [Path.Proper, hnames] at hproper
    have hall : ∀ set ∈ testSets, ∀ name ∈ front ++ "src" :: set :: first :: others, ProperName name := by
      intro set hset
      simp only [List.forall_mem_append, List.forall_mem_cons] at hproper ⊢
      exact ⟨hproper.1, hproper.2.1, (properName_of_mem_testSets set hset).1, hproper.2.2.2⟩
    have hmoved := fun set hset =>
      withName_ofText_slashed hcount (hall set hset) (testName file)
    exact List.map_congr_left hmoved

end Rule.TestCoverage
end KotlinAudit

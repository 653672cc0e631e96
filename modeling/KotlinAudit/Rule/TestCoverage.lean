import KotlinAudit.Analyzer

/-! Components without a unit test, and tests whose files are not named as tests. -/
namespace KotlinAudit.Rule.TestCoverage

private def testingReference : String :=
  "https://developer.android.com/training/testing/local-tests"

def mainSources : List Char := "/src/main/".toList

def testSources : List (List Char) := ["/src/test/".toList, "/src/androidTest/".toList]

/-- Whether a file belongs to the tests, by its layer or by its directory: the layer of a test can
be that of the directory below the test sources. -/
def isTestSource (file : SourceFile) : Bool :=
  file.isTest || testSources.any fun directory =>
    Text.contains directory (Layer.anchored file.relative.toList)

/-- The kind of component that a file declares and that should have a test. -/
def componentKind? (file : SourceFile) (text : List Char) : Option String :=
  if file.isNamed ["ViewModel.kt"] &&
      (Text.contains "ViewModel()".toList text || Text.contains "@HiltViewModel".toList text) then
    some "ViewModel"
  else if file.isNamed ["UseCase.kt"] && file.layer == some .domain then some "Use Case"
  else if file.isNamed ["RepositoryImpl.kt"] && file.layer == some .data then some "Repository"
  else none

def testName (file : SourceFile) : String := file.stem ++ "Test.kt"

/-- Where the test of a main source may be: in the same place below each directory of tests. -/
def expectedTests (file : SourceFile) : List Path :=
  let source := file.path.text.toList
  match Text.find? mainSources source with
  | none => []
  | some column => testSources.map fun directory =>
      (Path.ofText (String.ofList
        (source.take column ++ directory ++ source.drop (column + mainSources.length)))).withName
        (testName file)

def missingTest (file : SourceFile) (kind : String) : Draft :=
  let stem := file.stem
  let expected := testName file
  { line := 1
    rule := "missing-test"
    title := s!"Missing Test File for {kind}"
    description := s!"{kind} '{stem}' has no unit test. Expected {expected} in the test source set."
    priority := .medium
    recommendation := s!"Create {expected} covering the public behaviour of {stem}."
    after := some (s!"class {stem}Test " ++
      "\x7b\n    @Test\n    fun `loads meals`() \x7b \x7d\n\x7d")
    effort := .medium
    references := [testingReference] }

def testFileNaming (file : SourceFile) : Draft :=
  let name := file.name
  { line := 1
    rule := "test-file-naming"
    title := "Test File Does Not Follow Naming Convention"
    description := s!"'{name}' contains tests but its name does not end with 'Test.kt'."
    priority := .low
    recommendation :=
      "Rename the file so it ends with 'Test.kt', matching the class under test."
    effort := .trivial
    references := [testingReference] }

/-- Whether one of some paths is a file; those behind it are not asked for. -/
def anyFile (isFile : FileTest) : List Path → Except FileError Bool
  | [] => .ok false
  | path :: rest => do if ← isFile path then return true else anyFile isFile rest

def rules (isFile : FileTest) (file : SourceFile) (text : List Char) :
    Except FileError (List Draft) := do
  if isTestSource file then
    if Text.contains "@Test".toList text && !file.isNamed ["Test.kt"] then
      return [testFileNaming file]
    else return []
  else match componentKind? file text with
    | none => return []
    | some kind =>
      let expected := expectedTests file
      if expected.isEmpty then return []
      else if ← anyFile isFile expected then return [] else return [missingTest file kind]

def analyzer : Analyzer where
  id := "test-coverage"
  name := "Test Coverage Analyzer"
  category := .testCoverage
  appliesTo := fun file => .ok (file.extension == "kt")
  analyze := fun isFile file text =>
    match rules isFile file text with
    | .ok drafts =>
      .ok (drafts.map fun draft => draft.finding "test-coverage" .testCoverage file)
    | .error error => .error (.file error)

end KotlinAudit.Rule.TestCoverage

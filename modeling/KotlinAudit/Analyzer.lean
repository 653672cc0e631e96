import KotlinAudit.FileTree.Basic
import KotlinAudit.Finding.Basic
import KotlinAudit.SourceFile
import KotlinAudit.Text.Scan

/-! Analyzers: each one decides which files concern it and reports findings in their text. A finding is made
of what a rule says about one place in a file. Its identifier stays the same from run to run, as it is put
together from the parts that say what was found where. -/
namespace KotlinAudit

namespace Identifier

open Text (isAsciiLetter isAsciiDigit)

/-- Characters that an identifier keeps; all others are folded into hyphens. -/
def keeps (c : Char) : Bool :=
  isAsciiLetter c || isAsciiDigit c || c == '_' || c == '.' || c == '-'

/-- Every stretch of characters that are not kept becomes one hyphen. -/
def fold : List Char → List Char
  | [] => []
  | [c] => if keeps c then [c] else ['-']
  | c :: d :: rest =>
    if keeps c then c :: fold (d :: rest)
    else if keeps d then '-' :: fold (d :: rest)
    else fold (d :: rest)

/-- The identifier made of the parts that are not empty. A slash becomes a hyphen of its own. -/
def ofParts (parts : List (List Char)) : List Char :=
  let joined := Text.join ['-'] (parts.filter (!·.isEmpty))
  Text.trimBy (· == '-') (fold (joined.map fun c => if c == '/' then '-' else c))

end Identifier

/-- A finding without its identity. -/
structure Draft where
  line : Nat
  rule : String
  title : String
  description : String
  priority : Priority
  snippet : String := ""
  recommendation : String
  before : Option String := none
  after : Option String := none
  autoFixable : Bool := false
  effort : Effort := .small
  references : List String := []

def findingId (analyzer rule file : String) (line : Int) : String :=
  String.ofList (Identifier.ofParts
    [analyzer.toList, rule.toList, file.toList, (toString line).toList])

/-- The finding of an analyzer in a file. Equal places get equal identifiers in every run. -/
def Draft.finding (draft : Draft) (analyzer : String) (category : Category) (file : SourceFile) :
    Finding where
  id := findingId analyzer draft.rule file.relative draft.line
  analyzer := analyzer
  category := category
  priority := draft.priority
  title := draft.title
  description := draft.description
  file := file.relative
  line := draft.line
  column := none
  snippet := draft.snippet
  recommendation := draft.recommendation
  before := draft.before
  after := draft.after
  autoFixable := draft.autoFixable
  effort := draft.effort
  references := draft.references

inductive Failure
  | stated (message : String)
  /-- A path could not be asked for. -/
  | file (error : FileError)
deriving DecidableEq, Repr

def Failure.message : Failure → String
  | stated message => message
  | file error => error.message

/-- What an analyzer may ask about the project besides the text of the file: which paths are files. -/
abbrev FileTest := Path → Except FileError Bool

structure Analyzer where
  id : String
  name : String
  category : Category
  appliesTo : SourceFile → Except Failure Bool
  analyze : FileTest → SourceFile → List Char → Except Failure (List Finding)

/-- An analyzer that never fails, given by its rules. -/
def Analyzer.ofRules (id name : String) (category : Category) (appliesTo : SourceFile → Bool)
    (rules : SourceFile → List Char → List Draft) : Analyzer where
  id := id
  name := name
  category := category
  appliesTo := fun file => .ok (appliesTo file)
  analyze := fun _ file text =>
    .ok ((rules file text).map fun draft => draft.finding id category file)

/-- Analyzers look at every file outside the test layer unless they say otherwise. -/
def outsideTests (file : SourceFile) : Bool := !file.isTest

end KotlinAudit

import KotlinAudit.Finding.Basic
import KotlinAudit.Record.Field
import KotlinAudit.Text.CaseMapping
import KotlinAudit.Text.Scan

/-! An issue as the external linter reports it, and the finding made of it. What the linter says about the
issue decides on the category, the priority and the effort of the finding. -/
namespace KotlinAudit.Linter

inductive Severity
  | codeSmell | style | warning | defect | maintainability | security | performance
deriving DecidableEq, Repr, Inhabited

namespace Severity

def all : List Severity :=
  [codeSmell, style, warning, defect, maintainability, security, performance]

def name : Severity → String
  | codeSmell => "CodeSmell"
  | style => "Style"
  | warning => "Warning"
  | defect => "Defect"
  | maintainability => "Maintainability"
  | security => "Security"
  | performance => "Performance"

def ofName? (text : String) : Option Severity := all.find? (·.name == text)

def priority : Severity → Priority
  | codeSmell | style => .low
  | warning | maintainability | performance => .medium
  | defect => .high
  | security => .critical

/-- The severity of a report's level in lower case. -/
def ofLevel? : String → Option Severity
  | "error" => some defect
  | "warning" => some warning
  | "note" | "none" => some codeSmell
  | _ => none

end Severity

/-- Words in the names of rule sets and what they are about. The first word that occurs decides. -/
def topics : List (String × Category) :=
  [("complexity", .codeSmell), ("coroutines", .stateManagement), ("empty-blocks", .codeSmell),
    ("exceptions", .errorHandling), ("naming", .naming), ("performance", .performance),
    ("potential-bugs", .codeSmell), ("style", .naming), ("compose", .compose),
    ("comments", .documentation)]

/-- The category of a rule set; upper and lower case are the same. -/
def categoryOf (ruleSet : String) : Category :=
  let lowered := Text.lower ruleSet.toList
  match topics.find? fun (word, _) => Text.contains word.toList lowered with
  | some (_, category) => category
  | none => .codeSmell

def effortOf (minutes : Int) : Effort :=
  if minutes ≤ 5 then .trivial
  else if minutes ≤ 30 then .small
  else if minutes ≤ 120 then .medium
  else .large

open Record (Checked)

def analyzerId : String := "detekt"

/-- The minutes that an issue costs when its report does not say. -/
def defaultMinutes : Int := 20

structure Issue where
  ruleSet : String
  ruleId : String
  severity : Severity
  message : String
  file : String
  line : Int
  column : Option Int
  minutes : Int
  signature : String
deriving DecidableEq, Repr, Inhabited

namespace Issue

def read (json : Json) : Checked Issue :=
  Record.fields json fun fields =>
    Issue.mk <$> fields.required "rule_set" Record.text
      <*> fields.required "rule_id" Record.text
      <*> fields.required "severity" (Record.choice Severity.ofName?)
      <*> fields.required "message" Record.text
      <*> fields.required "file" Record.text
      <*> fields.required "line" Record.int
      <*> fields.withDefault "column" none (Record.nullable Record.int)
      <*> fields.withDefault "debt_minutes" defaultMinutes Record.int
      <*> fields.withDefault "signature" "" Record.text

def toJson (issue : Issue) : Json :=
  .object [("rule_set", .text issue.ruleSet), ("rule_id", .text issue.ruleId),
    ("severity", .text issue.severity.name), ("message", .text issue.message),
    ("file", .text issue.file), ("line", .int issue.line),
    ("column", .optional .int issue.column), ("debt_minutes", .int issue.minutes),
    ("signature", .text issue.signature)]

private def lowered (text : String) : String := String.ofList (Text.lower text.toList)

def reference (issue : Issue) : String :=
  "https://detekt.dev/docs/rules/" ++ lowered issue.ruleSet ++ "#" ++ lowered issue.ruleId

/-- The path of the file with its slashes made hyphens. -/
def flatFile (issue : Issue) : String :=
  String.ofList (issue.file.toList.map fun c => if c == '/' then '-' else c)

def finding (issue : Issue) : Finding where
  id := analyzerId ++ "-" ++ issue.ruleId ++ "-" ++ issue.flatFile ++ "-" ++ toString issue.line
  analyzer := analyzerId
  category := categoryOf issue.ruleSet
  priority := issue.severity.priority
  title := issue.ruleId ++ " (Detekt)"
  description := issue.message
  file := issue.file
  line := issue.line
  column := issue.column
  snippet := issue.signature
  recommendation := "Detekt rule '" ++ issue.ruleId ++ "' was violated. " ++ issue.message ++
    "\n\nRefactor the code to comply with the rule; the detekt documentation has examples."
  before := none
  after := none
  autoFixable := false
  effort := effortOf issue.minutes
  references := [issue.reference]

end Issue
end KotlinAudit.Linter

import KotlinAudit.Decimal.Numeral
import KotlinAudit.Json.Writer
import KotlinAudit.Linter.Issue
import KotlinAudit.Linter.Location

/-! The issues in a report of the external linter. Reports come from another program, so every value
in them may be of another kind than it should be. -/
namespace KotlinAudit.Linter

open Record (Checked)

inductive ReportFault
  /-- A field was looked up in a value that has none, or a location is no text. -/
  | noFields
  /-- A value that should be a list or a number is neither. -/
  | wrongKind
  /-- Locations are an object and have no first one. -/
  | noFirst
  /-- A text or a number that is no integer. -/
  | notInteger
  /-- An infinite line. -/
  | infinite
  /-- A location that leads to no path. -/
  | location (fault : LocationFault)
  /-- An issue whose fields have faults. -/
  | invalid (faults : List Record.Location)
deriving DecidableEq, Repr

namespace Report

/-- The fields of an object; no other value has any. -/
def fieldsOf : Json → Except ReportFault (Record.Fields Json)
  | .object fields => .ok fields
  | _ => .error .noFields

def look (fields : Record.Fields Json) (name : String) (default : Json) : Json :=
  (fields.lookup name).getD default

/-- Empty and zero values count as missing. -/
def isMissing : Json → Bool
  | .null | .bool false | .text "" | .array [] | .object [] => true
  | .int value => value == 0
  | .float value => value.isZero
  | _ => false

def orElse (json default : Json) : Json := if isMissing json then default else json

/-- What a value holds one after the other: an object its keys and a text its characters. -/
def itemsOf : Json → Except ReportFault (List Json)
  | .array items => .ok items
  | .object fields => .ok (fields.map fun (key, _) => .text key)
  | .text value => .ok (value.toList.map fun c => .text c.toString)
  | _ => .error .wrongKind

/-- The first of the values that `itemsOf` gives; the keys of an object are not in a row. -/
def firstOf : Json → Except ReportFault Json
  | .array (item :: _) => .ok item
  | .text value =>
    match value.toList with
    | c :: _ => .ok (.text c.toString)
    | [] => .error .wrongKind
  | .object _ => .error .noFirst
  | _ => .error .wrongKind

/-- The integer that a value stands for; fractions are cut off. -/
def integerOf : Json → Except ReportFault Int
  | .int value => .ok value
  | .bool value => .ok (if value then 1 else 0)
  | .float value =>
    match value.toRat? with
    | some exact => .ok (exact.num.tdiv exact.den)
    | none => .error (if value == .nan then .notInteger else .infinite)
  | .text value =>
    match Decimal.integer? value.toList with
    | some value => .ok value
    | none => .error .notInteger
  | _ => .error .wrongKind

/-- The rule set and the rule of an identifier such as `detekt.naming.FunctionNaming`. The first
part may name the linter; a single part is a rule without a rule set. -/
def ruleOf (identifier : List Char) : String × String :=
  let parts := (Text.splitAll (· == '.') identifier).map String.ofList
  let parts := if parts.head? == some analyzerId then parts.tail else parts
  match parts with
  | [] => ("", String.ofList identifier)
  | [rule] => ("", rule)
  | ruleSet :: rest => (ruleSet, rest.getLast?.getD "")

/-- A severity named by the issue's properties goes before the one of its level. -/
def severityOf (level named : Json) : Severity :=
  let ofLevel := Severity.ofLevel? (String.ofList (Text.lower level.inMessage))
  (Severity.ofName? (String.ofList named.inMessage)).getD (ofLevel.getD .warning)

def textField (name : String) (json : Json) : Checked String := (Record.text json).within name

/-- The issue of one result, none when it has no location. -/
def issueOf (resolve : Path → Except FileError Path) (root : Path) (result : Json) :
    Except ReportFault (Option Issue) := do
  let result ← fieldsOf result
  let locations := look result "locations" .null
  if isMissing locations then return none
  let first ← fieldsOf (← firstOf locations)
  let physical ← fieldsOf (look first "physicalLocation" (.object []))
  let artifact ← fieldsOf (look physical "artifactLocation" (.object []))
  let location := look artifact "uri" .null
  if isMissing location then return none
  let regionValue := look physical "region" (.object [])
  let (ruleSet, ruleId) := ruleOf (look result "ruleId" (.text "")).inMessage
  let properties ← fieldsOf (orElse (look result "properties" (.object [])) (.object []))
  let severity := severityOf (look result "level" (.text "warning"))
    (look properties "severity" .null)
  let message ← fieldsOf (look result "message" (.object []))
  let region ← fieldsOf regionValue
  let snippet ← fieldsOf (look region "snippet" (.object []))
  let .text written := location | throw .noFields
  let file ← (relativePath resolve root written).mapError .location
  let line ← integerOf (look region "startLine" (.int 1))
  let minutes ← integerOf (look properties "debtMinutes" (.int defaultMinutes))
  let checked :=
    (fun message column signature : _ =>
      Issue.mk ruleSet ruleId severity message file line column minutes signature) <$>
      textField "message" (look message "text" (.text "")) <*>
      (Record.nullable Record.int (look region "startColumn" .null)).within "column" <*>
      textField "signature" (look snippet "text" (.text ""))
  match checked.toExcept with
  | .ok issue => return some issue
  | .error faults => throw (.invalid faults)

def issues (resolve : Path → Except FileError Path) (root : Path) (report : Json) :
    Except ReportFault (List Issue) := do
  let report ← fieldsOf report
  let runs ← itemsOf (orElse (look report "runs" (.array [])) (.array []))
  let found ← runs.mapM fun run => do
    let run ← fieldsOf run
    let results ← itemsOf (orElse (look run "results" (.array [])) (.array []))
    results.mapM (issueOf resolve root)
  return found.flatten.filterMap id

end Report
end KotlinAudit.Linter

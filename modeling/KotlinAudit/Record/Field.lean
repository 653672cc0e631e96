import KotlinAudit.Decimal.Numeral
import KotlinAudit.Json.Basic
import KotlinAudit.Keyed
import KotlinAudit.Path

/-! Records that are checked as they are read. Every fault is kept by its place in the data, and checks of
independent parts are put together, so that all their faults are reported. A field takes a value of its
own kind and whatever stands for exactly one such value: a whole number may come as a text, a truth value
as a word.

This is how the library of records checks them that the settings and the stored records are made of (version 2.5
or a later one of its second version). What is relied on of it is stated by the checks below: what stands for
a value of another kind, that an integer is taken of a binary number only within 64 bits, that of a repeated
key the last value counts but those of a mapping are all checked, and that faults come in the order of the
fields, those of unknown fields last. -/
namespace KotlinAudit.Record

/-- The keys and indexes that lead to a place, from the outside in. -/
abbrev Location := List String

inductive Checked (α : Type)
  | valid (value : α)
  | faulty (faults : List Location)

namespace Checked

variable {α β : Type}

/-- A fault of the value itself. -/
def fault : Checked α := faulty [[]]

def faults : Checked α → List Location
  | valid _ => []
  | faulty faults => faults

def value? : Checked α → Option α
  | valid value => some value
  | faulty _ => none

instance : Applicative Checked where
  pure := valid
  map change
    | valid value => valid (change value)
    | faulty faults => faulty faults
  seq
    | valid change, rest => match rest () with
      | valid value => valid (change value)
      | faulty faults => faulty faults
    | faulty faults, rest => faulty (faults ++ (rest ()).faults)

/-- The same check seen from one level further out. -/
def within (key : String) : Checked α → Checked α
  | valid value => valid value
  | faulty faults => faulty (faults.map (key :: ·))

def ofOption : Option α → Checked α
  | some value => valid value
  | none => fault

/-- All values, or the faults of all of them. -/
def all : List (Checked α) → Checked (List α)
  | [] => valid []
  | check :: rest => (fun first others => first :: others) <$> check <*> all rest

def toExcept : Checked α → Except (List Location) α
  | valid value => .ok value
  | faulty faults => .error faults

end Checked

variable {α : Type}

abbrev Fields (β : Type) := List (String × β)

def text : Json → Checked String
  | .text value => .valid value
  | _ => .fault

/-- The bound up to which a binary number without a fraction stands for an integer. -/
def wholeBound : Rat := 9223372036854775808

def int : Json → Checked Int
  | .int value => .valid value
  | .bool value => .valid (if value then 1 else 0)
  | .float value =>
    match value.toRat? with
    | none => .fault
    | some exact =>
      if exact.den = 1 && -wholeBound ≤ exact && exact < wholeBound then .valid exact.num else .fault
  | .text value => .ofOption (Decimal.quotedInteger? value.toList)
  | _ => .fault

def bool : Json → Checked Bool
  | .bool value => .valid value
  | .int 0 => .valid false
  | .int 1 => .valid true
  | .float value =>
    if value.isZero then .valid false
    else if value.toRat? == some 1 then .valid true
    else .fault
  | .text value =>
    let word := String.ofList (value.toList.map Char.toLower)
    if ["0", "off", "f", "false", "n", "no"].contains word then .valid false
    else if ["1", "on", "t", "true", "y", "yes"].contains word then .valid true
    else .fault
  | _ => .fault

def float : Json → Checked Decimal.Binary64
  | .float value => .valid value
  | .int value => .ofOption (Decimal.Binary64.ofInt? value)
  | .bool value => .ofOption (Decimal.Binary64.ofInt? (if value then 1 else 0))
  | .text value => .ofOption (Decimal.quotedFloat? value.toList)
  | _ => .fault

/-- A binary number of a stored record, where an integer beyond the largest one is infinite. -/
def storedFloat : Json → Checked Decimal.Binary64
  | .int value => .valid (.ofRat value)
  | value => float value

def path : Json → Checked Path
  | .text value => .valid (Path.ofText value)
  | _ => .fault

def choice (ofName? : String → Option α) : Json → Checked α
  | .text value => .ofOption (ofName? value)
  | _ => .fault

def nullable (read : Json → Checked α) : Json → Checked (Option α)
  | .null => .valid none
  | value => some <$> read value

def list (read : Json → Checked α) : Json → Checked (List α)
  | .array items =>
    .all (items.zipIdx.map fun (item, index) => (read item).within (toString index))
  | _ => .fault

/-- An object whose keys are names of a closed set. Values under the same key are all checked, and
the last one holds. -/
def mapping {κ : Type} [DecidableEq κ] (key : String → Option κ) (read : Json → Checked α) :
    Json → Checked (List (κ × α))
  | .object fields =>
    Keyed.ofList <$> .all (fields.map fun (name, value) =>
      (fun key value => (key, value)) <$> ((Checked.ofOption (key name)).within "[key]").within name
        <*> (read value).within name)
  | _ => .fault

/-- The fields of an object; of several values under a key only the last one counts. -/
def fields (json : Json) (read : Fields Json → Checked α) : Checked α :=
  match json with
  | .object fields => read (Keyed.ofList fields)
  | _ => .fault

namespace Fields

variable {β : Type}

def required (fields : Fields β) (name : String) (read : β → Checked α) : Checked α :=
  match fields.lookup name with
  | none => Checked.fault.within name
  | some value => (read value).within name

def withDefault (fields : Fields β) (name : String) (default : α) (read : β → Checked α) :
    Checked α :=
  match fields.lookup name with
  | none => .valid default
  | some value => (read value).within name

/-- The faults of fields that a closed record does not have. -/
def unknown (fields : Fields β) (names : List String) : List Location :=
  fields.filterMap fun (name, _) => if names.contains name then none else some [name]

def closed (fields : Fields β) (names : List String) (check : Checked α) : Checked α :=
  match fields.unknown names with
  | [] => check
  | faults => .faulty (check.faults ++ faults)

end Fields
end KotlinAudit.Record

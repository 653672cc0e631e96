import KotlinAudit.Decimal.Binary64

/-! Values of the data notation in which baselines, histories and linter reports are kept. Objects
keep the order of their fields, and whole numbers of any size stay apart from binary ones. -/
namespace KotlinAudit

inductive Json
  | null
  | bool (value : Bool)
  | int (value : Int)
  | float (value : Decimal.Binary64)
  | text (value : String)
  | array (items : List Json)
  | object (fields : List (String × Json))
deriving Inhabited

namespace Json

def field? (key : String) : Json → Option Json
  | object fields => fields.lookup key
  | _ => none

def texts (values : List String) : Json := array (values.map text)

def optional {α : Type} (encode : α → Json) : Option α → Json
  | none => null
  | some value => encode value

end Json
end KotlinAudit

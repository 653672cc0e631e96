import KotlinAudit.Json.Basic

/-! Values of settings, whatever notation they were written in. -/
namespace KotlinAudit

inductive Setting
  /-- A value without parts. -/
  | plain (value : Json)
  /-- A date or a time, which no setting takes. -/
  | moment
  | array (items : List Setting)
  | table (fields : List (String × Setting))
deriving Inhabited

namespace Setting

mutual

def ofJson : Json → Setting
  | .array items => array (ofItems items)
  | .object fields => table (ofFields fields)
  | value => plain value

def ofItems : List Json → List Setting
  | [] => []
  | item :: rest => ofJson item :: ofItems rest

def ofFields : List (String × Json) → List (String × Setting)
  | [] => []
  | (name, value) :: rest => (name, ofJson value) :: ofFields rest

end

end Setting
end KotlinAudit

/-! Values by key, as lists of pairs in the order in which the keys were set first. -/
namespace KotlinAudit.Keyed

variable {κ α : Type} [DecidableEq κ]

/-- Sets a key: a key that is already there keeps its place. -/
def put (key : κ) (value : α) : List (κ × α) → List (κ × α)
  | [] => [(key, value)]
  | (other, old) :: rest =>
    if other = key then (key, value) :: rest else (other, old) :: put key value rest

/-- The pairs set one after the other: of several values under a key the last one holds. -/
def ofList (pairs : List (κ × α)) : List (κ × α) :=
  pairs.foldl (fun kept (key, value) => put key value kept) []

end KotlinAudit.Keyed

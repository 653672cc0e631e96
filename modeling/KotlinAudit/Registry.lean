import KotlinAudit.Analyzer

/-! A registry of analyzers under their identifiers, in the order of registration. -/
namespace KotlinAudit

structure Registry where
  analyzers : List Analyzer
  distinct : (analyzers.map Analyzer.id).Nodup

namespace Registry

def empty : Registry := ⟨[], by simp⟩

/-- The analyzer of an identifier, if there is one. -/
def find? (registry : Registry) (id : String) : Option Analyzer :=
  registry.analyzers.find? (·.id == id)

def contains (registry : Registry) (id : String) : Bool := (registry.find? id).isSome

/-- The identifiers, which are also what a registry goes through as a mapping. -/
def ids (registry : Registry) : List String := registry.analyzers.map Analyzer.id

def size (registry : Registry) : Nat := registry.analyzers.length

theorem not_mem_ids_of_find?_eq_none {registry : Registry} {id : String}
    (h : registry.find? id = none) : id ∉ registry.ids := by
  intro hmem
  obtain ⟨analyzer, hin, hid⟩ := List.mem_map.1 hmem
  have := List.find?_eq_none.1 h analyzer hin
  simp [hid] at this

/-- The refusal of an analyzer whose identifier is taken. -/
structure TakenId where
  id : String
deriving DecidableEq, Repr

def TakenId.message (taken : TakenId) : String :=
  "Analyzer '" ++ taken.id ++ "' already registered"

/-- Adds an analyzer at the end, unless its identifier is taken. -/
def register (registry : Registry) (analyzer : Analyzer) : Except TakenId Registry :=
  match h : registry.find? analyzer.id with
  | some _ => .error ⟨analyzer.id⟩
  | none => .ok ⟨registry.analyzers ++ [analyzer], by
      rw [List.map_append, List.nodup_append]
      refine ⟨registry.distinct, by simp, ?_⟩
      intro id hid other hother
      simp only [List.map_cons, List.map_nil, List.mem_singleton] at hother
      subst hother
      rintro rfl
      exact not_mem_ids_of_find?_eq_none h hid⟩

/-- The registry of some analyzers, unless two of them share an identifier. -/
def ofList (analyzers : List Analyzer) : Except TakenId Registry := analyzers.foldlM register empty

/-- The analyzer of an identifier, or another one where there is none. -/
def findD (registry : Registry) (id : String) (fallback : Analyzer) : Analyzer :=
  (registry.find? id).getD fallback

/-- The refusal to look up an identifier that no analyzer has. -/
structure UnknownId where
  id : String
deriving DecidableEq, Repr

/-- The analyzer of an identifier that has to be there. -/
def item (registry : Registry) (id : String) : Except UnknownId Analyzer :=
  match registry.find? id with
  | some analyzer => .ok analyzer
  | none => .error ⟨id⟩

/-- The distinct ids in order of first request, split into the analyzers they name and the ids that
name none. -/
def select (registry : Registry) (requested : List String) : List Analyzer × List String :=
  let distinct := requested.eraseDups
  (distinct.filterMap registry.find?, distinct.filter (!registry.contains ·))

end Registry
end KotlinAudit

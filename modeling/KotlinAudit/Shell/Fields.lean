import KotlinAudit.Shell.Script
import KotlinAudit.Text.Scan

/-! From the parts of a word to the fields that a command gets, and patterns for texts. -/
namespace KotlinAudit.Shell

inductive Fragment
  /-- Stays together; what is not quoted may be a pattern. -/
  | kept (octets : List Char) (quoted : Bool)
  /-- Is cut into fields where separators stand. -/
  | cut (octets : List Char)
  /-- Ends a field. -/
  | next
  /-- Takes a field that stays empty away. -/
  | vanishing
deriving Repr

namespace Fragment

def octets : Fragment → List Char
  | kept octets _ | cut octets => octets
  | next => [' ']
  | vanishing => []

/-- The characters of a pattern, each with whether it is quoted. -/
def pattern : Fragment → List (Char × Bool)
  | kept octets quoted => octets.map (·, quoted)
  | cut octets => octets.map (·, false)
  | next => [(' ', true)]
  | vanishing => []

end Fragment

/-- The finished fields after a text that is cut, and the unfinished one; blank separators count as
one, any other separator ends a field of its own. -/
private def cutFrom (separators : List Char) (field : Option (List Char)) :
    List Char → List (List Char) × Option (List Char)
  | [] => ([], field)
  | c :: rest =>
    if !separators.contains c then cutFrom separators (some (field.getD [] ++ [c])) rest
    else if Text.isSpace c then
      let (fields, last) := cutFrom separators none rest
      (field.toList ++ fields, last)
    else
      let (fields, last) := cutFrom separators none rest
      (field.getD [] :: fields, last)

private def fieldsFrom (separators : List Char) (field : Option (List Char)) :
    List Fragment → List (List Char)
  | [] => field.toList
  | .kept octets _ :: rest => fieldsFrom separators (some (field.getD [] ++ octets)) rest
  | .cut octets :: rest =>
    let (fields, last) := cutFrom separators field octets
    fields ++ fieldsFrom separators last rest
  | .next :: rest => field.getD [] :: fieldsFrom separators (some []) rest
  | .vanishing :: rest => fieldsFrom separators field rest

def fields (separators : List Char) (fragments : List Fragment) : List (List Char) :=
  let found := fieldsFrom separators none fragments
  let vanishes := fragments.any fun fragment => match fragment with
    | .vanishing => true
    | _ => false
  if vanishes && found == [[]] then [] else found

/-- The members of a bracket and whether they are excluded, with the pattern behind the bracket. -/
private def bracket? (pattern : List (Char × Bool)) :
    Option (Bool × List (Char × Char) × List (Char × Bool)) :=
  let (excluded, inside) := match pattern with
    | ('!', false) :: rest | ('^', false) :: rest => (true, rest)
    | rest => (false, rest)
  let first := inside.take 1
  let others := (inside.drop 1).takeWhile (· != (']', false))
  let after := (inside.drop 1).drop others.length
  if after.isEmpty then none
  else some (excluded, ranges ((first ++ others).map (·.1)), after.drop 1)
where
  ranges : List Char → List (Char × Char)
    | first :: '-' :: last :: rest => (first, last) :: ranges rest
    | c :: rest => (c, c) :: ranges rest
    | [] => []

def fits : Nat → List (Char × Bool) → List Char → Bool
  | 0, _, _ => false
  | steps + 1, pattern, text =>
    match pattern, text with
    | [], text => text.isEmpty
    | ('*', false) :: rest, text =>
      fits steps rest text || (!text.isEmpty && fits steps pattern (text.drop 1))
    | _ :: _, [] => false
    | ('?', false) :: rest, _ :: text => fits steps rest text
    | ('[', false) :: rest, c :: text =>
      match bracket? rest with
      | some (excluded, members, after) =>
        (members.any fun (first, last) => first ≤ c && c ≤ last) != excluded && fits steps after text
      | none => c == '[' && fits steps rest text
    | (d, _) :: rest, c :: text => c == d && fits steps rest text

def fitsPattern (pattern : List (Char × Bool)) (text : List Char) : Bool :=
  fits (pattern.length + text.length + 1) pattern text

/-- A text without the shortest or the longest part at its end or its start that fits a pattern. -/
def withoutFitting (atEnd longest : Bool) (pattern : List (Char × Bool)) (text : List Char) :
    List Char :=
  let lengths := List.range (text.length + 1)
  let part (n : Nat) : List Char := if atEnd then text.drop (text.length - n) else text.take n
  match (if longest then lengths.reverse else lengths).find? fun n => fitsPattern pattern (part n) with
  | some n => if atEnd then text.take (text.length - n) else text.drop n
  | none => text

end KotlinAudit.Shell

import KotlinAudit.Text.CaseTables
import KotlinAudit.Text.Character

/-! Lower, upper and title case of texts. One character can become several, and the Greek capital
sigma has a form of its own at the end of a word. -/
namespace KotlinAudit.Text

open CaseTables (Run)

def CaseTables.Run.contains (run : Run) (n : Nat) : Bool :=
  run.first ≤ n && n ≤ run.last && (n - run.first) % run.stride == 0

private def shifted (runs : List Run) (c : Char) : Char :=
  match runs.find? (·.contains c.toNat) with
  | some run => Char.ofNat (c.toNat + run.shift).toNat
  | none => c

private def expansion? (table : List (Nat × List Nat)) (c : Char) : Option (List Char) :=
  (table.lookup c.toNat).map (·.map Char.ofNat)

/-- The lower case of one character standing alone; only the dotted capital I becomes two. -/
def lowerChar (c : Char) : List Char :=
  if c.toNat < 128 then [c.toLower]
  else if c.toNat == 0x130 then ['i', '\u0307']
  else [shifted CaseTables.lowerRuns c]

/-- The characters whose lower case begins with `c`. -/
def loweredFrom (c : Char) : List Char :=
  let runs := CaseTables.lowerRuns.filterMap fun run =>
    let source := ((c.toNat : Int) - run.shift).toNat
    if run.contains source then some (Char.ofNat source) else none
  (if (lowerChar c).headD c == c then [c] else []) ++ runs ++ (if c == 'i' then ['\u0130'] else [])

def upperChar (c : Char) : List Char :=
  if c.toNat < 128 then [c.toUpper]
  else (expansion? CaseTables.upperExpansions c).getD [shifted CaseTables.upperRuns c]

def titleChar (c : Char) : List Char :=
  if c.toNat < 128 then [c.toUpper]
  else (expansion? CaseTables.titleExceptions c).getD (upperChar c)

/-- Whether a cased letter comes first once marks are looked through. -/
private def startsCased (text : List Char) : Bool :=
  match text.dropWhile isCaseIgnorable with
  | [] => false
  | c :: _ => isCased c

/-- The lower case of `c` between the text before it, nearest character first, and the text after
it: a capital sigma that ends a word takes its final form. -/
private def lowerWithin (before : List Char) (c : Char) (after : List Char) : List Char :=
  if c == 'Σ' then
    if startsCased before && !startsCased after then ['ς'] else ['σ']
  else lowerChar c

private def lowerFrom (before : List Char) : List Char → List Char
  | [] => []
  | c :: rest => lowerWithin before c rest ++ lowerFrom (c :: before) rest

def lower (text : List Char) : List Char := lowerFrom [] text

def upper (text : List Char) : List Char := text.flatMap upperChar

private def titleFrom (before : List Char) : List Char → List Char
  | [] => []
  | c :: rest =>
    let insideWord := match before with
      | [] => false
      | previous :: _ => isCased previous
    (if insideWord then lowerWithin before c rest else titleChar c) ++ titleFrom (c :: before) rest

/-- Every letter that follows no letter is put in title case, every other one in lower case. -/
def title (text : List Char) : List Char := titleFrom [] text

end KotlinAudit.Text

import KotlinAudit.Console.Markup
import KotlinAudit.Console.Width

/-! Status lines and headings of a run. -/
namespace KotlinAudit

namespace Console

inductive Status
  | info | ok | warn | fail | debug
deriving DecidableEq, Repr

def Status.glyph : Status → String
  | info => "ℹ️ "
  | ok => "✅ "
  | warn => "⚠️ "
  | fail => "❌ "
  | debug => ""

/-- A status line; its glyph is shown only if emoji are. -/
def statusLine (status : Status) (emoji : Bool) (message : String) : String :=
  let glyph := if emoji then status.glyph else ""
  String.ofList (printed (glyph.toList ++ message.toList))

def debugLine (message : String) : String := statusLine .debug false ("[debug] " ++ message)

private def dashes (count : Nat) : List Char := List.replicate count '─'

def rule (title : List Char) : List Char :=
  let title := shortened (lineWidth - 4)
    (expandTabs (title.map fun c => if c == '\n' then ' ' else c))
  let side := (lineWidth - width title) / 2
  let right := min (side + 1) (lineWidth - (side - 1) - width title)
  fitted lineWidth (dashes (side - 1) ++ ' ' :: title ++ ' ' :: dashes right)

/-- The heading of a phase: an empty line, then the title between dashes or on a rule. -/
def headingLines (title : List Char) (color : Bool) : List String :=
  let title := title.filter isPrinted
  if color then ["", String.ofList (rule title)]
  else ["", String.ofList (printed ("--- ".toList ++ title ++ " ---".toList))]

/-- The heading with a title in which tags and names of emoji are followed. A rule without a title
is whole. -/
def heading (title : String) (color : Bool) : Except Markup.Fault (List String) :=
  if color && title.isEmpty then .ok ["", String.ofList (dashes lineWidth)]
  else (Markup.shown true title.toList).map fun title => headingLines title color

end Console

/-! ### What a run says while it goes on -/

inductive Notice
  | status (status : Console.Status) (message : String)
  /-- Shown only to those who want to know everything. -/
  | debug (message : String)
deriving DecidableEq, Repr

namespace Notice

def info (message : String) : Notice := status .info message
def ok (message : String) : Notice := status .ok message
def warn (message : String) : Notice := status .warn message
def fail (message : String) : Notice := status .fail message

def isDebug : Notice → Bool
  | debug _ => true
  | status _ _ => false

def line (emoji : Bool) : Notice → String
  | status kind message => Console.statusLine kind emoji message
  | debug message => Console.debugLine message

end Notice
end KotlinAudit

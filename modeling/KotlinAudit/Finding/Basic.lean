/-! What an inspection reports: findings, and the closed sets of categories, priorities and efforts
they are sorted by. -/
namespace KotlinAudit

inductive Category
  | architecture | compose | stateManagement | errorHandling | dependencyInjection | database
  | performance | naming | testCoverage | documentation | security | codeSmell
deriving DecidableEq, Repr, Inhabited

inductive Priority
  | critical | high | medium | low
deriving DecidableEq, Repr, Inhabited

inductive Effort
  | trivial | small | medium | large
deriving DecidableEq, Repr, Inhabited

namespace Category

def all : List Category :=
  [architecture, compose, stateManagement, errorHandling, dependencyInjection, database,
    performance, naming, testCoverage, documentation, security, codeSmell]

def name : Category → String
  | architecture => "architecture"
  | compose => "compose"
  | stateManagement => "state-management"
  | errorHandling => "error-handling"
  | dependencyInjection => "dependency-injection"
  | database => "database"
  | performance => "performance"
  | naming => "naming"
  | testCoverage => "test-coverage"
  | documentation => "documentation"
  | security => "security"
  | codeSmell => "code-smell"

def ofName? (text : String) : Option Category := all.find? (·.name == text)

end Category

namespace Priority

/-- The priorities, the most severe one first. -/
def all : List Priority := [critical, high, medium, low]

def name : Priority → String
  | critical => "critical"
  | high => "high"
  | medium => "medium"
  | low => "low"

def ofName? (text : String) : Option Priority := all.find? (·.name == text)

end Priority

namespace Effort

def all : List Effort := [trivial, small, medium, large]

def name : Effort → String
  | trivial => "trivial"
  | small => "small"
  | medium => "medium"
  | large => "large"

def ofName? (text : String) : Option Effort := all.find? (·.name == text)

end Effort

/-- An issue at a line of a file, reported by an analyzer or by the external linter. -/
structure Finding where
  id : String
  analyzer : String
  category : Category
  priority : Priority
  title : String
  description : String
  file : String
  line : Int
  column : Option Int
  snippet : String
  recommendation : String
  before : Option String
  after : Option String
  autoFixable : Bool
  effort : Effort
  references : List String
deriving DecidableEq, Repr, Inhabited

namespace Finding

/-- What makes two findings the same issue. -/
structure Key where
  file : String
  line : Int
  category : Category
  title : String
deriving DecidableEq, Repr

def key (finding : Finding) : Key :=
  ⟨finding.file, finding.line, finding.category, finding.title⟩

end Finding

/-! ### The order of priorities and the least severe one that each category allows -/

/-- A higher rank is more severe. -/
def Priority.rank : Priority → Nat
  | .critical => 3
  | .high => 2
  | .medium => 1
  | .low => 0

def Priority.moreSevere (priority other : Priority) : Bool := other.rank < priority.rank

/-- The priority that findings of a category have at least. -/
def Category.floor : Category → Priority
  | .security => .critical
  | .architecture | .errorHandling => .high
  | .performance | .codeSmell | .stateManagement | .compose | .database | .dependencyInjection =>
    .medium
  | .naming | .documentation | .testCoverage => .low

def Priority.raisedTo (priority : Priority) (category : Category) : Priority :=
  if priority.moreSevere category.floor then priority else category.floor

def Finding.raised (finding : Finding) : Finding :=
  { finding with priority := finding.priority.raisedTo finding.category }

end KotlinAudit

import KotlinAudit.Registry
import KotlinAudit.Rule.Architecture
import KotlinAudit.Rule.CodeSmell
import KotlinAudit.Rule.Compose
import KotlinAudit.Rule.Database
import KotlinAudit.Rule.DependencyInjection
import KotlinAudit.Rule.Documentation
import KotlinAudit.Rule.ErrorHandling
import KotlinAudit.Rule.Naming
import KotlinAudit.Rule.Performance
import KotlinAudit.Rule.Security
import KotlinAudit.Rule.StateManagement
import KotlinAudit.Rule.TestCoverage

/-! The analyzers that every run has unless told otherwise. -/
namespace KotlinAudit

/-- The bundled analyzers in the order in which they look at a file. -/
def bundledAnalyzers : List Analyzer :=
  [Rule.Architecture.analyzer, Rule.CodeSmell.analyzer, Rule.Naming.analyzer,
    Rule.ErrorHandling.analyzer, Rule.StateManagement.analyzer, Rule.Compose.analyzer,
    Rule.DependencyInjection.analyzer, Rule.Database.analyzer, Rule.Security.analyzer,
    Rule.Performance.analyzer, Rule.TestCoverage.analyzer, Rule.Documentation.analyzer]

def Registry.bundled : Registry := ⟨bundledAnalyzers, by decide⟩

end KotlinAudit

import KotlinAudit.Analyzer
import KotlinAudit.Pattern.Basic
import KotlinAudit.Pattern.Search
import KotlinAudit.Text.Lines

/-! Credentials written into the source, and addresses reached without encryption. -/
namespace KotlinAudit.Rule.Security

open Text (Line)

section Patterns
open Pattern

private def isLetterOrDigit (c : Char) : Bool := Text.isAsciiLetter c || Text.isAsciiDigit c

private def quote : Pattern := among "'\""
private def notQuote : Pattern := noneOf "'\""
private def anything : Pattern := many inLine
private def asciiDigit : Pattern := char Text.isAsciiDigit

private def letterOrDigit : Pattern := charAnyCase isLetterOrDigit

/-- Two words that may be joined by an underscore or a hyphen. -/
private def joined (first second : String) : Pattern :=
  all [textAnyCase first, optional (among "_-"), textAnyCase second]

/-- A quoted stretch of at least twenty letters and digits. -/
private def quotedKey : Pattern := all [quote, atLeast 20 letterOrDigit, quote]

private def assignedKey (name : Pattern) : Pattern :=
  all [name, anything, only '=', anything, quotedKey]

private def assignedText (name : String) : Pattern :=
  all [textAnyCase name, anything, only '=', anything, quote, atLeast 8 notQuote, quote]

private def tokenChar (extra : String) : Pattern :=
  charAnyCase fun c => isLetterOrDigit c || extra.toList.contains c

/-- The looks of secrets; letters match in either case. -/
def secretPatterns : List Pattern :=
  [assignedKey (joined "api" "key"),
    assignedKey (joined "api" "secret"),
    assignedKey (joined "access" "token"),
    assignedKey (joined "auth" "token"),
    all [textAnyCase "bearer", anything, quotedKey],
    all [textAnyCase "AKIA", times 16 letterOrDigit],
    all [textAnyCase "AIza", times 35 (tokenChar "-_")],
    all [textAnyCase "gh", charAnyCase ("opsu".toList.contains ·), only '_', times 36 letterOrDigit],
    assignedText "password",
    assignedText "secret",
    all [textAnyCase "-----BEGIN ", oneOf (["RSA", "OPENSSH", "DSA", "EC", "PGP"].map textAnyCase),
      textAnyCase " PRIVATE KEY"],
    all [oneOf (["postgres", "mysql", "mongodb", "redis"].map textAnyCase), text "://",
      oneOrMore (noneOf ":"), only ':', oneOrMore (noneOf "@"), only '@'],
    all [textAnyCase "xox", charAnyCase ("baprs".toList.contains ·), only '-',
      atLeast 10 asciiDigit, only '-', atLeast 10 asciiDigit, only '-', atLeast 24 letterOrDigit],
    all [textAnyCase "eyJ", oneOrMore (tokenChar "-_="), only '.', oneOrMore (tokenChar "-_="),
      only '.', many (tokenChar "-_.+/=")]]

/-- A quoted address without encryption; addresses of the machine itself are exempt. -/
def cleartextUrl : Pattern :=
  all [among "\"'", text "http://", ahead false (texts ["localhost", "127.0.0.1", "10.0.2.2"]),
    oneOrMore (noneOf "\"'"), among "\"'"]

/-- A quoted text of at least four characters, in three groups: the quotes and its beginning. -/
def quotedText : Pattern :=
  all [capture 1 quote, capture 2 (times 4 notQuote), many notQuote, capture 3 quote]

end Patterns

def secretIndex? (line : Line) : Option Nat := secretPatterns.findIdx? (·.occursIn line)

/-- The line with quoted texts cut down to their first four characters. -/
def redact (line : Line) : Line :=
  quotedText.replaceAll
    (fun found => found.group 1 ++ found.group 2 ++ "****".toList ++ found.group 3) line

def hardcodedSecret (number : Nat) (line : Line) : Draft where
  line := number
  rule := "hardcoded-secret"
  title := "Hard-coded Secret"
  description := "A credential or private key appears to be embedded in source code."
  priority := .critical
  snippet := String.ofList (redact line)
  recommendation := "Move the value to local.properties or a secrets manager and read it " ++
    "through BuildConfig at build time."
  before := some "const val API_KEY = \"sk_live_...\""
  after := some "val apiKey = BuildConfig.API_KEY"

def cleartextDraft (number : Nat) (line : Line) : Draft where
  line := number
  rule := "cleartext-url"
  title := "Cleartext HTTP URL"
  description := "An http:// endpoint sends traffic without transport encryption."
  priority := .high
  snippet := String.ofList line
  recommendation := "Use https:// and keep cleartext traffic disabled in the network security " ++
    "config."
  autoFixable := true
  effort := .trivial
  references := ["https://developer.android.com/privacy-and-security/security-config"]

/-- Comments and imports are left alone. -/
def isExempt (line : Line) : Bool :=
  ["//", "*", "import "].any fun sign => sign.toList.isPrefixOf line

def lineDrafts (number : Nat) (line : Line) : List Draft :=
  if isExempt line then []
  else
    (if (secretIndex? line).isSome then [hardcodedSecret number line] else []) ++
      if cleartextUrl.occursIn line then [cleartextDraft number line] else []

def rules (text : List Char) : List Draft :=
  (Text.lines text).zipIdx.flatMap fun (line, index) => lineDrafts (index + 1) (Text.trim line)

def analyzer : Analyzer :=
  .ofRules "security" "Security Analyzer" .security outsideTests fun _ => rules

end KotlinAudit.Rule.Security

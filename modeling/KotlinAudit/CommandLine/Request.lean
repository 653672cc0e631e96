import KotlinAudit.Config.Basic
import KotlinAudit.Decimal.Numeral

/-! What a command line asks for. It has options with and without values, and other words. Options may be
written in full or by a letter, letters may share a word, and options and other words may mix. -/
namespace KotlinAudit.CommandLine

structure Switch where
  /-- The name after two hyphens. -/
  name : String
  /-- The letter after a single hyphen. -/
  letter : Option Char
  takesValue : Bool
deriving DecidableEq, Repr

/-- The option for help, which every command knows. -/
def helpSwitch : Switch := ⟨"help", none, false⟩

inductive Word
  | option (name : String) (value : String)
  | plain (text : String)
deriving DecidableEq, Repr

/-- The options in one word, and the option whose value is the next word. -/
structure Bundle where
  words : List Word
  open? : Option String

/-- The options behind a single hyphen. The letter of an option with a value ends the options: what
follows it is the value. -/
def bundleOfLetters? (switches : List Switch) : List Char → Option Bundle
  | [] => some ⟨[], none⟩
  | letter :: rest =>
    match switches.find? (·.letter == some letter), rest with
    | none, _ => none
    | some switch, rest =>
      if !switch.takesValue then
        (bundleOfLetters? switches rest).map fun bundle =>
          { bundle with words := .option switch.name "" :: bundle.words }
      else if rest.isEmpty then some ⟨[], some switch.name⟩
      else some ⟨[.option switch.name (String.ofList rest)], none⟩

/-- The option behind two hyphens. Its value may follow an equals sign. -/
def bundleOfName? (switches : List Switch) (text : List Char) : Option Bundle :=
  let name := String.ofList (text.takeWhile (· != '='))
  let value := text.dropWhile (· != '=')
  match switches.find? (·.name == name) with
  | none => none
  | some switch =>
    if value.isEmpty then
      if switch.takesValue then some ⟨[], some name⟩ else some ⟨[.option name ""], none⟩
    else if switch.takesValue then some ⟨[.option name (String.ofList (value.drop 1))], none⟩
    else none

/-- What a word with hyphens in front means; a plain word means nothing. -/
inductive Meaning
  | options (bundle : Option Bundle)
  | endOfOptions
  | plain

def meaning (switches : List Switch) (text : String) : Meaning :=
  match text.toList with
  | ['-', '-'] => .endOfOptions
  | '-' :: '-' :: name => .options (bundleOfName? switches name)
  | '-' :: letter :: letters => .options (bundleOfLetters? switches (letter :: letters))
  | _ => .plain

/-- The meaning of words, none when an option is unknown, misses its value or has one too many. If
options do not mix with plain words, the first plain word ends them. -/
def words? (switches : List Switch) (mixed : Bool) : List String → Option (List Word)
  | [] => some []
  | text :: rest =>
    match meaning switches text, rest with
    | .endOfOptions, rest => some (rest.map .plain)
    | .plain, rest =>
      if mixed then (words? switches mixed rest).map (.plain text :: ·)
      else some (.plain text :: rest.map .plain)
    | .options none, _ => none
    | .options (some ⟨words, none⟩), rest => (words? switches mixed rest).map (words ++ ·)
    | .options (some ⟨_, some _⟩), [] => none
    | .options (some ⟨words, some name⟩), value :: rest =>
      (words? switches mixed rest).map (words ++ .option name value :: ·)

/-- What takes precedence over the settings of a project. -/
structure Overrides where
  enableLinter : Option Bool
  linterConfig : Option Path
  outputDirectory : Option Path
  jobs : Option Int
  noEmoji : Bool
  noColor : Bool
  verbose : Bool
deriving DecidableEq, Repr, Inhabited

def Overrides.apply (overrides : Overrides) (config : Config) : Config where
  root := config.root
  discovery := config.discovery
  execution := { config.execution with
    jobs := overrides.jobs.getD config.execution.jobs
    enableLinter := overrides.enableLinter.getD config.execution.enableLinter }
  linter := { config.linter with
    configPath := overrides.linterConfig.getD config.linter.configPath }
  output := {
    directory := overrides.outputDirectory.getD config.output.directory
    emoji := config.output.emoji && !overrides.noEmoji
    color := config.output.color && !overrides.noColor
    verbose := config.output.verbose || overrides.verbose }

structure Source where
  root : Path
  configFile : Option Path
  overrides : Overrides
deriving DecidableEq, Repr, Inhabited

/-- The choice of files and analyzers; if nothing is chosen, everything is analysed. -/
structure Choice where
  paths : List Path
  analyzers : List String
  failOnCritical : Bool
deriving DecidableEq, Repr, Inhabited

inductive Request
  | analyze (source : Source) (choice : Choice)
  | analyzers
  | compare (source : Source)
deriving DecidableEq, Repr

def Source.paths (source : Source) : List Path :=
  source.root :: source.configFile.toList ++ source.overrides.linterConfig.toList ++
    source.overrides.outputDirectory.toList

def Request.paths : Request → List Path
  | analyze source choice => source.paths ++ choice.paths
  | analyzers => []
  | compare source => source.paths

inductive Refusal
  | help
  | usage
deriving DecidableEq, Repr

def Refusal.exitCode : Refusal → Int
  | help => 0
  | usage => 2

/-! ### Reading -/

def sourceSwitches : List Switch :=
  [helpSwitch, ⟨"output-dir", some 'o', true⟩, ⟨"config", none, true⟩, ⟨"no-emoji", none, false⟩,
    ⟨"no-color", none, false⟩]

def analyzeSwitches : List Switch :=
  sourceSwitches ++ [⟨"path", some 'p', true⟩, ⟨"analyzer", some 'a', true⟩,
    ⟨"linter", none, false⟩, ⟨"no-linter", none, false⟩, ⟨"linter-config", none, true⟩,
    ⟨"jobs", some 'j', true⟩, ⟨"verbose", some 'v', false⟩, ⟨"fail-on-critical", none, false⟩]

def valuesOf (name : String) (words : List Word) : List String :=
  words.filterMap fun word => match word with
    | .option other value => if other = name then some value else none
    | .plain _ => none

def isGiven (name : String) (words : List Word) : Bool := !(valuesOf name words).isEmpty

/-- The value of an option that is given for the last time. -/
def lastPath? (name : String) (words : List Word) : Option Path :=
  (valuesOf name words).getLast?.map Path.ofText

def plainOf (words : List Word) : List String :=
  words.filterMap fun word => match word with
    | .option _ _ => none
    | .plain text => some text

/-- Of two opposite options the last one holds. -/
def enableLinter? (words : List Word) : Option Bool :=
  (words.filterMap fun word => match word with
    | .option "linter" _ => some true
    | .option "no-linter" _ => some false
    | _ => none).getLast?

/-- The count of jobs, which must be positive. -/
def jobs? (words : List Word) : Except Refusal (Option Int) :=
  match (valuesOf "jobs" words).getLast? with
  | none => .ok none
  | some text =>
    match Decimal.integer? text.toList with
    | some count => if 1 ≤ count then .ok (some count) else .error .usage
    | none => .error .usage

def sourceOf (words : List Word) : Except Refusal Source := do
  let root ← match plainOf words with
    | [] => .ok (Path.ofText ".")
    | [root] => .ok (Path.ofText root)
    | _ => .error .usage
  return {
    root := root
    configFile := lastPath? "config" words
    overrides := {
      enableLinter := enableLinter? words
      linterConfig := lastPath? "linter-config" words
      outputDirectory := lastPath? "output-dir" words
      jobs := ← jobs? words
      noEmoji := isGiven "no-emoji" words
      noColor := isGiven "no-color" words
      verbose := isGiven "verbose" words } }

def choiceOf (words : List Word) : Choice where
  paths := (valuesOf "path" words).map Path.ofText
  analyzers := valuesOf "analyzer" words
  failOnCritical := isGiven "fail-on-critical" words

/-- The words behind a command. Help goes before everything that is wrong with their values. -/
def wordsOf (switches : List Switch) (mixed : Bool) (texts : List String) :
    Except Refusal (List Word) :=
  match words? switches mixed texts with
  | none => .error .usage
  | some words => if isGiven "help" words then .error .help else .ok words

namespace Request

def ofWords (texts : List String) : Except Refusal Request := do
  match plainOf (← wordsOf [helpSwitch] false texts) with
  | "analyze" :: rest =>
    let words ← wordsOf analyzeSwitches true rest
    return analyze (← sourceOf words) (choiceOf words)
  | "compare" :: rest => return compare (← sourceOf (← wordsOf sourceSwitches true rest))
  | "analyzers" :: rest =>
    if (plainOf (← wordsOf [helpSwitch] true rest)).isEmpty then return analyzers
    else throw .usage
  | _ => throw .usage

end Request
end KotlinAudit.CommandLine

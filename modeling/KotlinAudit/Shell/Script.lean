/-! Scripts as they are read: commands, and the words of which they are made. What lies inside a word
and is itself a script, a sum or a word is kept as text until the word is needed. -/
namespace KotlinAudit.Shell

inductive Use
  | value
  | length
  /-- Another word takes its place: `action` says when and what else is done; an empty value counts
  as none if `emptyToo`. -/
  | instead (action : Char) (emptyToo : Bool) (word : List Char)
  /-- What fits a pattern is left out at the end or at the start. -/
  | without (atEnd longest : Bool) (pattern : List Char)
deriving Repr

/-- A part of a word. What is quoted is taken as it is. -/
inductive Part
  | literal (octets : List Char) (quoted : Bool)
  | parameter (name : List Char) (use : Use) (quoted : Bool)
  /-- What a script writes. -/
  | outputOf (script : List Char) (quoted : Bool)
  | arithmetic (expression : List Char) (quoted : Bool)
  | badParameter
deriving Repr

abbrev Word := List Part

/-- Where a command reads or writes instead. -/
inductive Redirection
  | read (target : Word)
  | write (descriptor : Nat) (target : Word)
  | append (descriptor : Nat) (target : Word)
  /-- One descriptor leads to where another one leads. -/
  | duplicate (descriptor : Nat) (target : Word)
  /-- The text stands in the script itself. -/
  | here (text : List Char) (expands : Bool)
deriving Repr

inductive Command
  | nothing
  | simple (line : Nat) (words : List Word) (redirections : List Redirection)
  | pipe (left right : Command)
  | negated (command : Command)
  | both (left right : Command)
  | either (left right : Command)
  | sequence (left right : Command)
  | background (command : Command)
  | subshell (body : Command)
  | redirected (body : Command) (line : Nat) (redirections : List Redirection)
  | choice (test yes no : Command)
  | loop (isUntil : Bool) (test body : Command)
  | each (name : List Char) (words : Option (List Word)) (body : Command)
  | select (word : Word) (cases : List (List Word × Command))
  | define (name : List Char) (body : Command)
deriving Repr, Inhabited

inductive ScriptFault
  | unterminatedQuote
  | unterminatedBackquote
  | missingBrace
  | missingBrackets
  | badLoopName
  | badFunctionName
  | badDescriptor
  /-- A token stands where there may be none, or where another one has to stand. -/
  | unexpected (token : String) (expected : Option String)
deriving DecidableEq, Repr

def ScriptFault.message : ScriptFault → String
  | unterminatedQuote => "Unterminated quoted string"
  | unterminatedBackquote => "EOF in backquote substitution"
  | missingBrace => "Missing '\x7d'"
  | missingBrackets => "Missing '))'"
  | badLoopName => "Bad for loop variable"
  | badFunctionName => "Bad function name"
  | badDescriptor => "Bad fd number"
  | unexpected token none => token ++ " unexpected"
  | unexpected token (some expected) => token ++ " unexpected (expecting " ++ expected ++ ")"

/-- The commands of a shell itself that have more rights than others: what is wrong with them ends
the script, and no function has their names. -/
def specialNames : List String :=
  [".", ":", "break", "continue", "eval", "exec", "exit", "export", "readonly", "return", "set",
    "shift", "times", "trap", "unset"]

end KotlinAudit.Shell

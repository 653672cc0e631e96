import KotlinAudit.Shell.Format

/-! How a program is called, and what its run leaves. What a command may find on the machine is a few
directories that are always there, files that cannot be run, and programs. -/
namespace KotlinAudit.Shell

inductive Place
  | directory
  | file
  | program (name : String)
  | missing
  /-- The path leads through a file. -/
  | blocked
  | tooLong
deriving DecidableEq, Repr

namespace Place

def directories : List String :=
  ["/", "/bin", "/boot", "/dev", "/dev/fd", "/dev/pts", "/dev/shm", "/etc", "/home", "/lib", "/media",
    "/mnt", "/opt", "/proc", "/proc/self", "/root", "/run", "/sbin", "/srv", "/sys", "/tmp", "/usr",
    "/usr/bin", "/usr/include", "/usr/lib", "/usr/local", "/usr/local/bin", "/usr/local/lib",
    "/usr/sbin", "/usr/share", "/usr/src", "/var", "/var/cache", "/var/lib", "/var/log", "/var/tmp"]

def files : List String :=
  ["/dev/full", "/dev/null", "/dev/random", "/dev/stderr", "/dev/stdin", "/dev/stdout", "/dev/tty",
    "/dev/urandom", "/dev/zero", "/etc/bash.bashrc", "/etc/environment", "/etc/fstab", "/etc/group",
    "/etc/gshadow", "/etc/host.conf", "/etc/hostname", "/etc/hosts", "/etc/issue", "/etc/ld.so.conf",
    "/etc/nsswitch.conf", "/etc/os-release", "/etc/passwd", "/etc/profile", "/etc/resolv.conf",
    "/etc/shadow", "/etc/shells", "/proc/cpuinfo", "/proc/meminfo", "/proc/version"]

def programs : List String :=
  ["[", "basename", "bash", "cat", "cut", "dash", "dirname", "echo", "env", "expr", "false", "head",
    "ls", "nice", "nohup", "printf", "pwd", "rev", "seq", "sh", "sleep", "sort", "tac", "tail",
    "tee", "test", "timeout", "tr", "true", "uname", "uniq", "wc", "which",
    "xargs", "yes"]

def programDirectories : List String := ["/bin/", "/usr/bin/"]

/-- The longest name, and the longest path. -/
def longestName : Nat := 255
def longestPath : Nat := 4095

def atPath (path : List Char) : Place :=
  let text := String.ofList path
  if directories.contains text then .directory
  else if files.contains text then .file
  else
    match programDirectories.find? fun directory => directory.toList.isPrefixOf path with
    | some place =>
      let name := String.ofList (path.drop place.length)
      if programs.contains name then .program name else .missing
    | none => .missing

/-- Follows names from a directory, whose path has no slash at its end. -/
def follow (reached : List Char) : List (List Char) → Place
  | [] => atPath (if reached.isEmpty then ['/'] else reached)
  | name :: rest =>
    if longestName < name.length then .tooLong
    else if name.isEmpty || name == ['.'] then follow reached rest
    else if name == ['.', '.'] then
      follow ((reached.reverse.dropWhile (· != '/')).drop 1).reverse rest
    else
      let next := reached ++ '/' :: name
      if rest.isEmpty then atPath next
      else match atPath next with
        | .directory => follow next rest
        | .file | .program _ => .blocked
        | place => place

/-- What stands at a path with a slash in it. Where a path starts that does not start at the root is
not known. -/
def ofPath (path : List Char) : Place :=
  if longestPath < path.length then .tooLong
  else match Text.splitAll (· == '/') path with
    | [] :: names => follow [] names
    | names =>
      if names.any fun name => longestName < name.length then .tooLong
      else if names.all fun name => name.isEmpty || name == ['.'] || name == ['.', '.'] then
        .directory
      else .missing

/-- What stands at the place of a program that a word names. A word without a slash is looked up in
the directories of programs. -/
def ofWord (word : List Char) : Place :=
  if word.contains '/' then ofPath word
  else if word.isEmpty || word == ['.'] || word == ['.', '.'] then .directory
  else if longestName < word.length then .tooLong
  else if programs.contains (String.ofList word) then .program (String.ofList word)
  else .missing

/-- The program at a place, or why there is none to run. -/
def toProgram : Place → Except Fault String
  | program name => .ok name
  | directory | file => .error .noPermission
  | missing => .error .missing
  | blocked => .error .notDirectory
  | tooLong => .error .nameTooLong

end Place

/-- A program under the name by which it was called, with what it can read. -/
structure Call where
  name : List Char
  arguments : List (List Char)
  input : List Char
  /-- The files that a script has written. -/
  files : List (List Char × List Char)

/-- What a program has done, and what it has left of its input. -/
structure Run where
  events : List Event
  exitCode : Int
  unread : List Char

namespace Run

def silent (exitCode : Int) : Run := ⟨[], exitCode, []⟩

def writing (octets : List Char) : Run := ⟨[.output octets], 0, []⟩

end Run

namespace Call

/-- A line of the program about itself. -/
def line (call : Call) (text : List Char) : List Char := call.name ++ message ": " ++ text ++ ['\n']

def complain (call : Call) (text : List Char) (exitCode : Int) : Run :=
  ⟨[.errors (call.line text)], exitCode, call.input⟩

def refuse (call : Call) (text : List Char) (exitCode : Int) : Run :=
  ⟨[.errors (call.line text ++ message "Try '" ++ call.name ++
    message " --help' for more information.\n")], exitCode, call.input⟩

def refuseOption (call : Call) (option : List Char) (exitCode : Int) : Run :=
  match option with
  | '-' :: '-' :: _ => call.refuse (message "unrecognized option '" ++ option ++ ['\'']) exitCode
  | _ => call.refuse (message "invalid option -- '" ++ (option.drop 1).take 1 ++ ['\'']) exitCode

/-- How much is read at most of what has no end. -/
def zeros : Nat := 1048576

/-- The text behind an operand, or why there is none. -/
def content (call : Call) (operand : List Char) : Except (List Char) (List Char) :=
  if operand == ['-'] || operand == "/dev/stdin".toList then .ok call.input
  else if operand == "/dev/zero".toList then .ok (List.replicate zeros '\x00')
  else match call.files.lookup operand with
    | some text => .ok text
    | none =>
      let path := if operand.contains '/' then operand else '.' :: '/' :: operand
      match Place.ofPath path with
      | .file | .program _ => .ok []
      | .directory => .error (message "Is a directory")
      | .missing => .error (message "No such file or directory")
      | .blocked => .error (message "Not a directory")
      | .tooLong => .error (message "File name too long")

/-- The operands, which are the input alone if there are none. -/
def operandsOr (operands : List (List Char)) : List (List Char) :=
  if operands.isEmpty then [['-']] else operands

/-- The texts behind operands put together, and what is said of those that have none: `how` tells it
with the operand and the reason. -/
def gather (call : Call) (how : List Char → List Char → List Char) (failure : Int)
    (operands : List (List Char)) : List Char × List Event × Int :=
  operands.foldl (fun (text, events, code) operand =>
    match call.content operand with
    | .ok more => (text ++ more, events, code)
    | .error reason => (text, events ++ [.errors (call.line (how operand reason))], failure))
    ([], [], 0)

def plainly (operand reason : List Char) : List Char := operand ++ message ": " ++ reason

end Call

def linesOf (text : List Char) : List (List Char) := linesFrom [] text
where
  linesFrom (line : List Char) : List Char → List (List Char)
    | [] => if line.isEmpty then [] else [line.reverse]
    | c :: rest =>
      if c == '\n' then (c :: line).reverse :: linesFrom [] rest else linesFrom (c :: line) rest

/-- A line without its line feed. -/
def bare (line : List Char) : List Char :=
  if line.getLast? == some '\n' then line.dropLast else line

end KotlinAudit.Shell

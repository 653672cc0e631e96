import KotlinAudit.Pattern.Syntax
import KotlinAudit.SourceFile

/-! Globs for paths. One star matches within a directory and two stars match across directories; a
dot is a dot, and everything else is read as a written pattern. -/
namespace KotlinAudit.Glob

/-- What follows the first character of the mark that stands for two stars. -/
def markTail : List Char := "DOUBLE_STAR".toList ++ ['\x00']

/-- Every part of a glob written out, but for two stars, for which a mark is put. -/
def marked : List Char → List Char
  | [] => []
  | '*' :: '*' :: rest => '\x00' :: markTail ++ marked rest
  | '*' :: rest => "[^/]*".toList ++ marked rest
  | '.' :: rest => '\\' :: '.' :: marked rest
  | c :: rest => c :: marked rest

/-- The written pattern of a glob. A glob that holds the mark itself means two stars by it. -/
def written (glob : List Char) : List Char :=
  Text.replaceAll '\x00' markTail ".*".toList (marked (Layer.normalized glob))

def pattern (glob : List Char) : Except Pattern.SyntaxError Pattern := Pattern.read (written glob)

/-- Whether a whole path matches; backslashes in it count as slashes. -/
def fits (pattern : Pattern) (path : List Char) : Bool :=
  pattern.matchesWhole (Layer.normalized path)

/-- Whether a path matches one of some globs. A glob that is no pattern is an error only when no
glob before it matches. -/
def matchesAny (globs : List (List Char)) (path : List Char) : Except Pattern.SyntaxError Bool :=
  match globs with
  | [] => .ok false
  | glob :: rest =>
    match pattern glob with
    | .error error => .error error
    | .ok found => if fits found path then .ok true else matchesAny rest path

end KotlinAudit.Glob

import KotlinAudit.FileTree.Basic
import KotlinAudit.Text.Character
import KotlinAudit.Text.Scan
import KotlinAudit.Text.Utf8

/-! Where a linter's report says that an issue is: from the written location of a file to its path below the
project's root. A location may name a host. A host in brackets is an address of eight groups of
hexadecimal digits, or one of a kind that is still to come; characters that look like separators are
refused. -/
namespace KotlinAudit.Linter

namespace Host

def isHexDigit (c : Char) : Bool :=
  Text.isAsciiDigit c || ('a' ≤ c && c ≤ 'f') || ('A' ≤ c && c ≤ 'F')

/-- A group of an address: one to four digits. -/
def isGroup (text : List Char) : Bool :=
  !text.isEmpty && text.length ≤ 4 && text.all isHexDigit

/-- A number up to 255 without zeros in front. -/
def isOctet (text : List Char) : Bool :=
  !text.isEmpty && text.length ≤ 3 && text.all Text.isAsciiDigit &&
    (text.length = 1 || text.head? != some '0') &&
    text.foldl (fun value c => value * 10 + (c.toNat - 48)) 0 ≤ 255

/-- Four octets between dots, which stand for the last two groups of an address. -/
def isQuad (text : List Char) : Bool :=
  let octets := Text.splitAll (· == '.') text
  octets.length = 4 && octets.all isOctet

/-- The groups with two of them in place of octets at the end. -/
def expanded (groups : List (List Char)) : List (List Char) :=
  match groups.getLast? with
  | some last => if isQuad last then groups.dropLast ++ [['0'], ['0']] else groups
  | none => groups

/-- Groups that stand for an address; one empty group inside stands for all that are missing, and
there it may be next to an empty group at the edge. -/
def isAddressOf (groups : List (List Char)) : Bool :=
  let inner := groups.tail.dropLast
  match inner.count [] with
  | 0 => groups.length = 8 && groups.all isGroup
  | 1 =>
    let front := groups.takeWhile (!·.isEmpty)
    let front := if groups.head? == some [] then [[]] else front
    let back := groups.drop (front.length + 1)
    let isSide (groups : List (List Char)) : Bool := groups == [[]] || groups.all isGroup
    let size (groups : List (List Char)) : Nat := if groups == [[]] then 0 else groups.length
    isSide front && isSide back && size front + size back < 8
  | _ => false

/-- An address, which may name its scope after a percent sign. -/
def isAddress (text : List Char) : Bool :=
  let address := text.takeWhile (· != '%')
  let scope := text.drop address.length
  let groups := Text.splitAll (· == ':') address
  (scope.isEmpty || (1 < scope.length && !scope.tail.contains '%')) && 3 ≤ groups.length &&
    isAddressOf (expanded groups)

/-- A kind of address that is still to come: its version, a dot and anything. -/
def isFuture (text : List Char) : Bool :=
  let version := text.tail.takeWhile isHexDigit
  let rest := text.drop (version.length + 1)
  !version.isEmpty && rest.head? == some '.' && 1 < rest.length

/-- Characters that are compatible with a separator of locations. -/
def lookalikes : List Char :=
  ['\u2047', '\u2048', '\u2049', '\u2100', '\u2101', '\u2105', '\u2106', '\u2a74', '\ufe13', '\ufe16',
    '\ufe55', '\ufe56', '\ufe5f', '\ufe6b', '\uff03', '\uff0f', '\uff1a', '\uff1f', '\uff20']

/-- The part after the last `@`, before which a name and a password may stand. -/
def withoutUser (authority : List Char) : List Char :=
  (authority.reverse.takeWhile (· != '@')).reverse

/-- The name of the host without its brackets and its port; none when anything else stands before
or after the brackets. -/
def bare? (host : List Char) : Option (List Char) :=
  match host with
  | '[' :: bracketed =>
    let name := bracketed.takeWhile (· != ']')
    match bracketed.drop (name.length + 1) with
    | [] => some name
    | c :: _ => if c == ':' then some name else none
  | host => if host.contains '[' then none else some (host.takeWhile (· != ':'))

/-- Whether the brackets of an authority are as they should be. Where there are any, the host has to
be an address of one of the two kinds. -/
def hasBrackets (authority : List Char) : Bool :=
  if authority.contains '[' && authority.contains ']' then
    match bare? (withoutUser authority) with
    | some name => if name.head? == some 'v' then isFuture name else isAddress name
    | none => false
  else !authority.contains '[' && !authority.contains ']'

def isValid (authority : List Char) : Bool :=
  hasBrackets authority && !authority.any lookalikes.contains

end Host

def hexValue? (c : Char) : Option Nat :=
  if Text.isAsciiDigit c then some (c.toNat - 48)
  else if 'a' ≤ c && c ≤ 'f' then some (c.toNat - 87)
  else if 'A' ≤ c && c ≤ 'F' then some (c.toNat - 55)
  else none

/-- The octets of characters below 128 in which a percent sign and two digits stand for any octet. -/
def octets : List Char → List Nat
  | '%' :: high :: low :: rest =>
    match hexValue? high, hexValue? low with
    | some high, some low => (high * 16 + low) :: octets rest
    | _, _ => '%'.toNat :: octets (high :: low :: rest)
  | c :: rest => c.toNat :: octets rest
  | [] => []
termination_by text => text.length

/-- Reads the percent signs of a location. Characters from 128 on stand for themselves and end a
stretch of octets. `stretch` holds the last characters below 128, in reverse. -/
def unescapedFrom (stretch : List Char) : List Char → List Char
  | [] => Text.Utf8.read (octets stretch.reverse)
  | c :: rest =>
    if c.toNat < 128 then unescapedFrom (c :: stretch) rest
    else Text.Utf8.read (octets stretch.reverse) ++ c :: unescapedFrom [] rest

def unescaped (text : List Char) : List Char := unescapedFrom [] text

/-- What the part after `file:` names: without the host, the query and the fragment. -/
def filePart? (location : List Char) : Option (List Char) :=
  let location := location.filter fun c => !(c == '\t' || c == '\n' || c == '\r')
  let beforeMarks := fun text : List Char => text.takeWhile fun c => c != '?' && c != '#'
  match location with
  | '/' :: '/' :: rest =>
    let host := rest.takeWhile fun c => c != '/' && c != '?' && c != '#'
    if Host.isValid host then some (beforeMarks (rest.drop host.length)) else none
  | rest => some (beforeMarks rest)

def pathOf? (location : String) : Option Path :=
  let text := location.toList
  let named := if "file:".toList.isPrefixOf text then filePart? (text.drop 5) else some text
  named.map fun name => Path.ofText (String.ofList (unescaped name))

inductive LocationFault
  | malformedHost
  | circular (error : FileError)
deriving DecidableEq, Repr

/-- The path of a location below `root`, or the path as it is written when it is relative or leads
elsewhere. `resolve` follows the links of a path. -/
def relativePath (resolve : Path → Except FileError Path) (root : Path) (location : String) :
    Except LocationFault String :=
  match pathOf? location with
  | none => .error .malformedHost
  | some path =>
    if !path.isAbsolute then .ok path.text
    else match resolve path, resolve root with
      | .ok found, .ok root => .ok ((root.relativeTo? found).getD path).text
      | .error error, _ | .ok _, .error error =>
        if error.cause = .nul then .ok path.text else .error (.circular error)

end KotlinAudit.Linter

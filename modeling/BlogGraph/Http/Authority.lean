import BlogGraph.Json.Reader
import BlogGraph.Text.Pieces
import BlogGraph.Text.Quoted

/-!
# Hosts that cannot be read

The host stands in an address between the two slashes and the path. Hardly any text is refused
there, but two kinds are. Where a bracket stands, the host must be an IPv6 address or one of a
later version in a pair of brackets, alone or before a colon and a port. And no character may
stand there that is taken apart into a delimiter when characters are brought to their compatible
form.

The checks are those of `urlsplit`, through which every request goes that is asked for its
`url.path`, and of `ip_address` for what stands between brackets.
-/

namespace BlogGraph.Url

open Text

/-- Why the host in an address cannot be read. -/
inductive Fault where
  | brackets
  | laterVersion
  | versionFour
  | noAddress (host : String)
  | delimiters (netloc : String)
deriving DecidableEq, Repr

/-- The wording of a cause. -/
def Fault.message : Fault → String
  | brackets => "Invalid IPv6 URL"
  | laterVersion => "IPvFuture address is invalid"
  | versionFour => "An IPv4 address cannot be in brackets"
  | noAddress host => quoted host ++ " does not appear to be an IPv4 or IPv6 address"
  | delimiters netloc =>
    "netloc '" ++ netloc ++ "' contains invalid characters under NFKC normalization"

/-! ## Addresses of hosts -/

/-- A part of an IPv4 address: a number up to 255 without zeros before it. -/
def isOctet (cs : List Char) : Bool :=
  !cs.isEmpty && cs.all Char.isDigit && cs.length ≤ 3 && (cs = ['0'] || cs.head? ≠ some '0') &&
    Json.natOfDigits cs ≤ 255

/-- An IPv4 address. -/
def isVersionFour (cs : List Char) : Bool :=
  let octets := pieces '.' cs
  octets.length = 4 && octets.all isOctet

/-- A group of an IPv6 address. -/
def isGroup (cs : List Char) : Bool :=
  !cs.isEmpty && cs.length ≤ 4 && cs.all fun c => (hexValue? c).isSome

/-- The parts of an IPv6 address between its colons. An IPv4 address at the end stands for two
groups. -/
def parts? (cs : List Char) : Option (List (List Char)) :=
  let parts := pieces ':' cs
  let last := parts.getLast?.getD []
  if parts.length < 3 then none
  else if last.contains '.' then
    if isVersionFour last then some (parts.dropLast ++ [['0'], ['0']]) else none
  else some parts

/-- The parts on one side of the gap. A side may be empty. -/
def besideGap (parts : List (List Char)) : List (List Char) :=
  if parts = [[]] then [] else parts

/-- The parts are eight groups, or up to seven on both sides of one gap. -/
def areGroups (parts : List (List Char)) : Bool :=
  match parts.tail.dropLast.findIdx? List.isEmpty with
  | none => parts.length = 8 && parts.all isGroup
  | some i =>
    let groups := besideGap (parts.take (i + 1)) ++ besideGap (parts.drop (i + 2))
    groups.length ≤ 7 && groups.all isGroup

/-- An IPv6 address, perhaps with a scope after a percent sign. -/
def isVersionSix (cs : List Char) : Bool :=
  let (address, scope?) := cutAt '%' cs
  (match scope? with
    | some scope => !scope.isEmpty && !scope.contains '%'
    | none => true) &&
  ((parts? address).map areGroups).getD false

/-- An address of a version to come, after its first letter: the version, a point and more. -/
def isLaterVersion (cs : List Char) : Bool :=
  let version := cs.takeWhile fun c => (hexValue? c).isSome
  match cs.drop version.length with
  | '.' :: _ :: _ => !version.isEmpty
  | _ => false

/-! ## Hosts -/

/-- What is wrong with the text between brackets. -/
def literalFault? : List Char → Option Fault
  | 'v' :: rest => if isLaterVersion rest then none else some .laterVersion
  | host =>
    if isVersionFour host then some .versionFour
    else if isVersionSix host then none
    else some (.noAddress (String.ofList host))

/-- What is wrong with a host and port in which, or before which, there are brackets. -/
def bracketsFault? (hostAndPort : List Char) : Option Fault :=
  match cutAt '[' hostAndPort with
  | (_, none) => literalFault? (cutAt ':' hostAndPort).1
  | (before, some inside) =>
    let (host, after) := cutAt ']' inside
    let port := after.getD []
    if !before.isEmpty || (!port.isEmpty && port.head? ≠ some ':') then some .brackets
    else literalFault? host

/-- Characters whose compatible form holds a delimiter. -/
def composedDelimiters : List Char :=
  ['\u2047', '\u2048', '\u2049', '\u2100', '\u2101', '\u2105', '\u2106', '\u2a74', '\ufe13',
    '\ufe16', '\ufe55', '\ufe56', '\ufe5f', '\ufe6b', '\uff03', '\uff0f', '\uff1a', '\uff1f',
    '\uff20']

/-- What is wrong with what stands between the two slashes and the path. -/
def netlocFault? (netloc : List Char) : Option Fault :=
  if netloc.contains '[' ≠ netloc.contains ']' then some .brackets
  else
    let hostAndPort := ((pieces '@' netloc).getLast?).getD []
    (if netloc.contains '[' then bracketsFault? hostAndPort else none).or
      (if netloc.any composedDelimiters.contains then some (.delimiters (String.ofList netloc))
      else none)

end BlogGraph.Url

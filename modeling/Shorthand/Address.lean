import Shorthand.Address.DomainName
import Shorthand.Address.Numeric
import Shorthand.Json.Token
import Shorthand.Text.Quoted
import Shorthand.Text.Utf8

set_option autoImplicit false
set_option relaxedAutoImplicit false

/-!
# Addresses of requests

A request names what it asks for by an address: a scheme and an authority, which may both be
missing, a path, a query, which nobody reads, and a fragment, which is not even sent. An address
without host is relative to the server. The path is made free of dot segments first and its
escapes are resolved after that, on the sending and on the receiving side.

## Main definitions

* `Shorthand.Address` — the parts of an address that matter.
* `Shorthand.Address.Fault` — why an address is refused.
* `Shorthand.Address.parse` — the parts of a text.
* `Shorthand.Address.removeDots` — a path without dot segments.
* `Shorthand.Address.unescape` — a text with its percent escapes resolved.
* `Shorthand.Address.target` — the path that the server sees.
-/

namespace Shorthand

/-- The parts of an address that matter. -/
structure Address where
  scheme : Text
  user : Text
  host : Text
  port : Text
  path : Text
  query : Text
  deriving DecidableEq, Repr

namespace Address

/-- Why an address is refused. -/
inductive Fault where
  | tooLong
  /-- A control character of ASCII stands in it. -/
  | unprintable (c : Char) (position : Nat)
  /-- The host looks like a number of four bytes and is none. -/
  | fourBytes (host : Text)
  /-- The host stands in brackets and is no number of sixteen bytes. -/
  | sixteenBytes (host : Text)
  /-- The host has characters beyond ASCII and is no domain name. -/
  | domainName (host : Text)
  /-- The port is no number. -/
  | port (text : Text)
  /-- A path without scheme and authority starts with two slashes. -/
  | doubleSlash
  /-- A path without scheme and authority starts with a colon. -/
  | colon
  /-- With its escapes the path of a relative address is too long. -/
  | pathTooLong
  /-- With its escapes the query of a relative address is too long. -/
  | queryTooLong
  /-- Nothing is served under the scheme. -/
  | scheme (name : Text)
  deriving DecidableEq, Repr

/-- A fault in words. -/
def Fault.message : Fault → Text
  | .tooLong => "URL too long".toList
  | .unprintable c position =>
    "Invalid non-printable ASCII character in URL, ".toList ++ Text.quoted [c] ++
      " at position ".toList ++ Text.ofNat position ++ ['.']
  | .fourBytes host => "Invalid IPv4 address: ".toList ++ Text.quoted host
  | .sixteenBytes host => "Invalid IPv6 address: ".toList ++ Text.quoted host
  | .domainName host => "Invalid IDNA hostname: ".toList ++ Text.quoted host
  | .port text => "Invalid port: ".toList ++ Text.quoted text
  | .doubleSlash => "Relative URLs cannot have a path starting with '//'".toList
  | .colon => "Relative URLs cannot have a path starting with ':'".toList
  | .pathTooLong => "URL component 'path' too long".toList
  | .queryTooLong => "URL component 'query' too long".toList
  | .scheme name => Text.quoted name

/-! ## The parts of an address -/

/-- The longest address, and the longest part of an address that is sent, in characters. -/
def maxLength : Nat := 65536

/-- Whether a character can stand in a scheme. -/
def isSchemeChar (c : Char) : Bool := c.isAlphanum || c == '+' || c == '.' || c == '-'

/-- The scheme before a colon, and what follows the colon. A scheme starts with a letter, or is
empty. -/
def splitScheme (s : Text) : Text × Text :=
  match s.span isSchemeChar with
  | (name, ':' :: rest) => if name.head?.all Char.isAlpha then (name, rest) else ([], s)
  | _ => ([], s)

/-- The authority after two slashes, and what follows it. -/
def splitAuthority (s : Text) : Text × Text :=
  match s with
  | '/' :: '/' :: rest => rest.span fun c => c != '/' && c != '?' && c != '#'
  | _ => ([], s)

/-- What stands before the last of a character, and after it; all comes after when there is none. -/
def splitLast (mark : Char) (s : Text) : Text × Text :=
  let after := (s.reverse.takeWhile (· != mark)).reverse
  (s.take (s.length - after.length - 1), after)

/-- The host of an authority without user, and the port after it. A host in brackets may hold
colons. -/
def splitHost (s : Text) : Text × Text :=
  let host := match s with
    | '[' :: _ =>
      if s.contains ']' then s.take (s.length - (splitLast ']' s).2.length)
      else s.takeWhile (· != ':')
    | _ => s.takeWhile (· != ':')
  match s.drop host.length with
  | ':' :: port => (host, port)
  | port => (host, port)

/-- The first control character of ASCII in a text, and its place. -/
def unprintable? (s : Text) : Option (Char × Nat) :=
  s.zipIdx.find? fun (c, _) => c.toNat < 0x20 || c.toNat == 0x7F

/-- Whether an address names an authority. -/
def hasAuthority (a : Address) : Bool := !a.user.isEmpty || !a.host.isEmpty || !a.port.isEmpty

/-- Whether an address is one by itself, not one relative to the server. -/
def isAbsolute (a : Address) : Bool := !a.scheme.isEmpty && !a.host.isEmpty

/-- The parts of a text. -/
def split (s : Text) : Address :=
  let (scheme, rest) := splitScheme s
  let (authority, rest) := splitAuthority rest
  let (user, place) := splitLast '@' authority
  let (host, port) := splitHost place
  let (path, rest) := rest.span fun c => c != '?' && c != '#'
  let query := match rest with
    | '?' :: more => more.takeWhile (· != '#')
    | _ => []
  { scheme := scheme.map Char.toLower, user, host, port, path, query }

/-- The number in a host with brackets around it. -/
def bracketed? (host : Text) : Option Text :=
  if host.head? = some '[' && host.getLast? = some ']' then some host.tail.dropLast else none

/-- What is wrong with a host. One in ASCII may have any name. -/
def hostFault? (host : Text) : Option Fault :=
  if looksNumeric host then
    if isFourBytes host then none else some (.fourBytes host)
  else match bracketed? host with
    | some number => if isSixteenBytes number then none else some (.sixteenBytes host)
    | none =>
      if host.all (·.toNat < 0x80) || isDomainName host then none else some (.domainName host)

/-- The parts of a text, if it is an address. -/
def parse (s : Text) : Except Fault Address :=
  if maxLength < s.length then .error .tooLong
  else match unprintable? s with
    | some (c, position) => .error (.unprintable c position)
    | none =>
      let a := split s
      match hostFault? a.host with
      | some fault => .error fault
      | none =>
        if !a.port.isEmpty && (Text.toInt? a.port).isNone then .error (.port a.port)
        else if a.scheme.isEmpty && !a.hasAuthority then
          if "//".toList.isPrefixOf a.path then .error .doubleSlash
          else if a.path.head? = some ':' then .error .colon
          else .ok a
        else .ok a

/-! ## Paths -/

/-- The segments of a path without those that are dots: one dot says nothing, two take back the
segment before, but not the empty one before the first slash. -/
def withoutDots : List Text → List Text → List Text
  | before, [] => before
  | before, segment :: rest =>
    if segment = ['.'] then withoutDots before rest
    else if segment = ['.', '.'] then
      withoutDots (if before = [[]] then before else before.dropLast) rest
    else withoutDots (before ++ [segment]) rest

/-- A path without dot segments. -/
def removeDots (path : Text) : Text := Text.join ['/'] (withoutDots [] (Text.splitOn ['/'] path))

/-- The bytes that a text with percent escapes stands for. -/
def escapedBytes : Text → List UInt8
  | [] => []
  | '%' :: a :: b :: rest =>
    match Json.hexValue? [a, b] with
    | some n => UInt8.ofNat n :: escapedBytes rest
    | none => 0x25 :: escapedBytes (a :: b :: rest)
  | c :: rest => Text.encode [c] ++ escapedBytes rest

/-- The text of bytes: where they are no UTF-8, a byte beyond ASCII becomes a replacement
character. -/
def decodeLeniently (bytes : List UInt8) : Text :=
  (Text.decode? bytes).getD (bytes.map fun b => if b < 0x80 then Char.ofNat b.toNat else '\ufffd')

/-- A text with its percent escapes resolved. -/
def unescape (s : Text) : Text := decodeLeniently (escapedBytes s)

/-- The schemes under which something is served. -/
def schemes : List Text := ["http", "https", "ws", "wss"].map String.toList

/-- The characters of ASCII that are escaped in a query, apart from those that cannot be seen. -/
def escapedInQuery : Text := " \"#<>".toList

/-- The characters of ASCII that are escaped in a path, apart from those that cannot be seen. -/
def escapedInPath : Text := escapedInQuery ++ "?`\x7b\x7d".toList

/-- The length of a text with its escapes: three characters for each byte of what is escaped. -/
def sentLength (escaped s : Text) : Nat :=
  s.foldl (fun total c =>
    total + if c.toNat < 0x80 && !escaped.contains c then 1 else 3 * c.utf8Size) 0

/-- The path of an address as it is written: one under a scheme or an authority is without dot
segments. -/
def writtenPath (a : Address) : Text :=
  if !a.scheme.isEmpty || a.hasAuthority then removeDots a.path else a.path

/-- The path of an address that is relative to the server, from the root of the server. -/
def rootedPath (a : Address) : Text := '/' :: a.writtenPath.dropWhile (· == '/')

/-- The path of an address as it is sent. A relative address is put together with that of the
server, and its parts must not be too long for that. -/
def sentPath (a : Address) : Except Fault Text :=
  if a.isAbsolute then
    if schemes.contains a.scheme then .ok a.writtenPath else .error (.scheme a.scheme)
  else if maxLength < sentLength escapedInPath a.rootedPath then .error .pathTooLong
  else if maxLength < sentLength escapedInQuery a.query then .error .queryTooLong
  else .ok (removeDots a.rootedPath)

/-- The path that the server sees. -/
def target (s : Text) : Except Fault Text := do
  let a ← parse s
  return unescape (unescape (← a.sentPath))

end Address

end Shorthand

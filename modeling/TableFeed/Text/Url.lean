import TableFeed.Text.Blank
import TableFeed.Text.Domain
import TableFeed.Text.InternetAddress
import TableFeed.Text.Percent
import TableFeed.Text.Split

/-!
# URLs

A URL is taken apart into scheme, login, host, port, path and query by the general rules: white
space around it does not count, `.` and `..` in its path are followed, and an IP address in
brackets is checked. Behind the schemes of the web the rules are looser for slashes, which may lean
either way, and stricter for hosts, which are domain names or addresses.
-/

namespace TableFeed

/-- Why a text is no URL. -/
inductive UrlError where
  | noScheme
  | emptyHost
  | invalidDomainName
  | invalidIpv4
  | invalidIpv6
  | invalidPort
  | invalidDomainCharacter
  deriving DecidableEq, Repr

/-- The wording of a fault of a URL. -/
def UrlError.message : UrlError → String
  | .noScheme => "relative URL without a base"
  | .emptyHost => "empty host"
  | .invalidDomainName => "invalid international domain name"
  | .invalidIpv4 => "invalid IPv4 address"
  | .invalidIpv6 => "invalid IPv6 address"
  | .invalidPort => "invalid port number"
  | .invalidDomainCharacter => "invalid domain character"

/-- The host of a URL. -/
inductive Host where
  | none
  /-- A domain name where the scheme asks for one, or else a text as it is written. -/
  | name (cs : List Char)
  /-- An IP address: in brackets, or four numbers where a domain name may stand. -/
  | address
  deriving DecidableEq, Repr

/-- The parts of a URL. -/
structure Url where
  scheme : String
  /-- There is a path that may be followed, not only a text behind the scheme. -/
  hierarchical : Bool := true
  user : List Char := []
  password : List Char := []
  host : Host := .none
  port : Option Nat := none
  path : List Char := []
  query : List Char := []
  deriving Repr

namespace Url

/-- Characters that are dropped from the ends of a URL. -/
def isControlOrSpace (c : Char) : Bool :=
  c.toNat ≤ 0x20

/-- Characters that are dropped anywhere in a URL. -/
def isLineBreak (c : Char) : Bool :=
  c = '\t' || c = '\n' || c = '\r'

/-- The scheme of a URL, in lower case, and what follows its colon. -/
def splitScheme (cs : List Char) : Option (String × List Char) :=
  match Split.first (· = ':') cs with
  | (c :: name, some rest) =>
    let ok := c.isAlpha && name.all fun c => c.isAlphanum || c = '+' || c = '-' || c = '.'
    if ok then some (String.ofList ((c :: name).map Char.toLower), rest) else none
  | _ => none

/-- The schemes of the web, whose URLs always have a host. -/
def webSchemes : List String :=
  ["http", "https", "ws", "wss", "ftp"]

/-- A slash, in either direction. -/
def isSlash (c : Char) : Bool :=
  c = '/' || c = '\\'

/-- What ends the part of a URL in which login, host and port stand. -/
def endsAuthority (web : Bool) (c : Char) : Bool :=
  c = '/' || c = '?' || c = '#' || (web && c = '\\')

/-! ### Hosts -/

/-- Characters that may not stand in a host. -/
def isForbidden (c : Char) : Bool :=
  c ∈ ['\x00', '\t', '\n', '\r', ' ', '#', '/', ':', '<', '>', '?', '@', '[', '\\', ']', '^', '|']

/-- The host at the front of an authority and what follows it: a colon inside brackets belongs to
the host. -/
def splitHost : Bool → List Char → List Char × List Char
  | _, [] => ([], [])
  | inside, c :: rest =>
    if c = ':' ∧ inside = false then ([], c :: rest)
    else
      let inside := if c = '[' then true else if c = ']' then false else inside
      let (host, rest) := splitHost inside rest
      (c :: host, rest)

/-- The host that a text is, its escapes taken back, where it has to be a domain name. -/
def domainOf (cs : List Char) : Except UrlError Host :=
  match (Utf8.decode? (Percent.decodeBytes (Utf8.encode cs))).bind (Domain.parse? ·.toList) with
  | none => .error .invalidDomainName
  | some [] => .error .emptyHost
  | some name =>
    if ¬ Ipv4.isMeant name then .ok (.name name)
    else if Ipv4.isAddress name then .ok .address
    else .error .invalidIpv4

/-- The host that a text is. -/
def hostOf (web : Bool) (cs : List Char) : Except UrlError Host :=
  match cs with
  | [] => .ok .none
  | '[' :: rest =>
    match rest.reverse with
    | ']' :: inner => if Ipv6.isAddress inner.reverse then .ok .address else .error .invalidIpv6
    | _ => .error .invalidIpv6
  | _ =>
    if web then domainOf cs
    else if cs.any isForbidden then .error .invalidDomainCharacter
    else .ok (.name cs)

/-- The port behind a host, and what follows it. A slash in either direction ends a port. -/
def splitPort : List Char → Except UrlError (Option Nat × List Char)
  | ':' :: cs =>
    let (digits, rest) := Digits.span cs
    if UInt16.size ≤ Digits.toNat digits ∨ rest.head?.any (!endsAuthority true ·) then
      .error .invalidPort
    else .ok (Digits.natural? digits, rest)
  | cs => .ok (none, cs)

/-! ### Paths -/

/-- A segment of a path that stands for the segment before it, or for itself. -/
def dots (segment : List Char) : Nat :=
  let plain := Percent.decodeBytes (Utf8.encode segment)
  if plain = [0x2E] then 1 else if plain = [0x2E, 0x2E] then 2 else 0

/-- A letter of a drive, with its mark. -/
def isDrive : List Char → Bool
  | [letter, mark] => letter.isAlpha && (mark = ':' || mark = '|')
  | _ => false

/-- The segments of a path, last first, without the last one. A drive is never left. -/
def leave : List (List Char) → List (List Char)
  | [] => []
  | segment :: before => if isDrive segment then segment :: before else before

/-- The segments of a path without those that stand for others; `kept` holds the ones so far, last
first. -/
def resolveDots : List (List Char) → List (List Char) → List (List Char)
  | kept, [] => kept.reverse
  | kept, [segment] =>
    match dots segment with
    | 0 => (segment :: kept).reverse
    | 1 => ([] :: kept).reverse
    | _ => ([] :: leave kept).reverse
  | kept, segment :: rest =>
    match dots segment with
    | 0 => resolveDots (segment :: kept) rest
    | 1 => resolveDots kept rest
    | _ => resolveDots (leave kept) rest

/-- A path without segments that stand for others. -/
def normalPath : List Char → List Char
  | '/' :: rest =>
    (resolveDots [] (Split.every (· = '/') rest)).flatMap fun segment => '/' :: segment
  | path => path

/-- A path as it stands behind an authority: with a slash in front, if there is any. -/
def rooted (web : Bool) (path : List Char) : List Char :=
  let path := if web then path.map fun c => if isSlash c then '/' else c else path
  match path with
  | [] => if web then ['/'] else []
  | '/' :: _ => path
  | _ => '/' :: path

/-- The path and the query behind an authority; what follows `#` is dropped. -/
def splitPath (web : Bool) (cs : List Char) : List Char × List Char :=
  let (cs, _) := Split.first (· = '#') cs
  let (path, query) := Split.first (· = '?') cs
  (normalPath (rooted web path), query.getD [])

/-! ### Whole URLs -/

/-- The parts of a URL behind `//`. -/
def ofAuthority (scheme : String) (cs : List Char) : Except UrlError Url := do
  let web := scheme ∈ webSchemes
  let authority := cs.takeWhile (!endsAuthority web ·)
  let rest := cs.dropWhile (!endsAuthority web ·)
  let (login, hostPort) := Split.last (· = '@') authority
  let (user, password) := Split.first (· = ':') (login.getD [])
  let (hostText, portText) := splitHost false hostPort
  let host ← hostOf web hostText
  let expected := web ∨ portText ≠ [] ∨ user ≠ [] ∨ password.getD [] ≠ [] ∨
    login = some [] ∧ rest ≠ []
  if hostText.isEmpty ∧ expected then throw .emptyHost
  let (port, slanted) ← splitPort portText
  let (path, query) := splitPath web (slanted ++ rest)
  return { scheme, user, password := password.getD [], host, port, path, query }

/-- What follows two slashes at the front of a text. -/
def behindSlashes? : List Char → Option (List Char)
  | a :: b :: rest => if isSlash a && isSlash b then some rest else none
  | _ => none

/-- The parts of a URL of a file. A host may stand behind two slashes; a drive is none, and the
local host need not be named. -/
def ofFile (scheme : String) (cs : List Char) : Except UrlError Url := do
  match behindSlashes? cs with
  | none =>
    let (path, query) := splitPath true cs
    return { scheme, path, query }
  | some cs =>
    let text := cs.takeWhile (!endsAuthority true ·)
    let text := if isDrive text then [] else text
    let host ← hostOf true text
    let host := if host = .name "localhost".toList then .none else host
    let (path, query) := splitPath true (cs.drop text.length)
    return { scheme, host, path, query }

/-- Takes a URL apart. -/
def parse (text : String) : Except UrlError Url := do
  let trimmed := Blank.trimBy isControlOrSpace text.toList
  match splitScheme (trimmed.filter (!isLineBreak ·)) with
  | none => throw .noScheme
  | some (scheme, rest) =>
    if scheme = "file" then ofFile scheme rest
    else if scheme ∈ webSchemes then ofAuthority scheme (rest.dropWhile isSlash)
    else match rest with
      | '/' :: '/' :: rest => ofAuthority scheme rest
      | '/' :: _ =>
        let (path, query) := splitPath false rest
        return { scheme, path, query }
      | _ => return { scheme, hierarchical := false, path := rest }

/-- The parameters in the query, first to last. -/
def parameters (u : Url) : List (String × String) :=
  let text (cs : List Char) : String :=
    let spaced := cs.map fun c => if c = '+' then ' ' else c
    Utf8.decodeLossy (Percent.decodeBytes (Utf8.encode spaced))
  ((Split.every (· = '&') u.query).filter (· ≠ [])).map fun pair =>
    let (key, value) := Split.first (· = '=') pair
    (text key, text (value.getD []))

/-- The value of the first parameter of a name. -/
def parameter? (u : Url) (name : String) : Option String :=
  u.parameters.lookup name

end Url

end TableFeed

import Nullness.Endpoint.DomainName
import Nullness.Json.Lexical

/-!
# Addresses of trace collectors

Whether a text is a URL to which traces could be sent: a scheme, and for the schemes of the web a
host that is a domain name or an address, and the number of a service. The text is read as browsers
read it, so blanks around it and line ends inside it do not matter.
-/

namespace Nullness

/-- Why a text is not an address. -/
inductive EndpointError
  | noScheme
  | emptyHost
  | invalidService
  | invalidDomain
  | invalidHostCharacter
  | invalidIpv4
  | invalidIpv6
deriving DecidableEq

/-- The wording of a refused address. -/
def EndpointError.message : EndpointError → String
  | .noScheme => "relative URL without a base"
  | .emptyHost => "empty host"
  | .invalidService => "invalid port number"
  | .invalidDomain => "invalid international domain name"
  | .invalidHostCharacter => "invalid domain character"
  | .invalidIpv4 => "invalid IPv4 address"
  | .invalidIpv6 => "invalid IPv6 address"

namespace Endpoint

/-! ### Numeric addresses -/

/-- A part of an IPv4 address in decimal, octal or hexadecimal notation. -/
def ipv4Number? (cs : List Char) : Option Nat :=
  let number (base : Nat) (cs : List Char) : Option Nat :=
    cs.foldlM (fun n c => do
      let d ← Lexical.hexValue? c
      if d < base then some (n * base + d) else none) 0
  match cs with
  | [] => none
  | '0' :: 'x' :: cs | '0' :: 'X' :: cs => number 16 cs
  | '0' :: c :: cs => number 8 (c :: cs)
  | cs => number 10 cs

/-- The parts of a text between points. -/
def dotted (cs : List Char) : List (List Char) := cs.splitOn '.'

/-- The parts of a domain name; a point at its end does not begin another part. -/
def labels (cs : List Char) : List (List Char) :=
  match (dotted cs).reverse with
  | [] :: l :: rest => (l :: rest).reverse
  | _ => dotted cs

/-- Whether a domain name has to be an IPv4 address: its last part is a number. -/
def endsInNumber (cs : List Char) : Bool :=
  match (labels cs).getLast? with
  | none => false
  | some last => (!last.isEmpty && last.all Char.isDigit) || (ipv4Number? last).isSome

/-- Whether the parts are an IPv4 address. The last of them fills what the others leave of the four
bytes. -/
def isIpv4 (parts : List (List Char)) : Bool :=
  parts.length ≤ 4 &&
    match (parts.mapM ipv4Number?).map List.reverse with
    | none | some [] => false
    | some (last :: others) =>
      last < Nat.pow 256 (4 - others.length) && others.all (· < 256)

/-- Whether a text is an IPv4 address of four plain decimal numbers. -/
def isDottedQuad (cs : List Char) : Bool :=
  let plain (part : List Char) : Bool :=
    match part with
    | [] => false
    | ['0'] => true
    | c :: rest =>
      c ≠ '0' && (c :: rest).all Char.isDigit && rest.length ≤ 2 &&
        (c :: rest).foldl (fun n c => n * 10 + (c.toNat - '0'.toNat)) 0 < 256
  (dotted cs).length = 4 && (dotted cs).all plain

/-- Whether a text continues an IPv6 address after a number of its eight pieces. At most one run of
pieces may be left out; an IPv4 address stands for two pieces. Every step takes a character. -/
def isIpv6From : Nat → Nat → Bool → List Char → Bool
  | 0, _, _, _ => false
  | _ + 1, pieces, shortened, [] => shortened || pieces = 8
  | bound + 1, pieces, shortened, ':' :: cs =>
    pieces < 8 && !shortened && isIpv6From bound (pieces + 1) true cs
  | bound + 1, pieces, shortened, c :: cs =>
    let digits := ((c :: cs).take 4).takeWhile fun c => (Lexical.hexValue? c).isSome
    pieces < 8 && !digits.isEmpty &&
      match (c :: cs).drop digits.length with
      | [] => shortened || pieces + 1 = 8
      | '.' :: _ => pieces ≤ 6 && isDottedQuad (c :: cs) && (shortened || pieces + 2 = 8)
      | ':' :: next :: rest => isIpv6From bound (pieces + 1) shortened (next :: rest)
      | _ => false

/-- Whether a text is an IPv6 address. -/
def isIpv6 (cs : List Char) : Bool :=
  match cs with
  | ':' :: ':' :: rest => isIpv6From (cs.length + 1) 1 true rest
  | ':' :: _ | [] => false
  | cs => isIpv6From (cs.length + 1) 0 false cs

/-! ### Hosts -/

/-- Replaces percent signs before two hexadecimal digits by the byte that these spell. -/
def percentDecode : List UInt8 → List UInt8
  | [] => []
  | 37 :: a :: b :: rest =>
    match Lexical.hexValue? (Char.ofNat a.toNat), Lexical.hexValue? (Char.ofNat b.toNat) with
    | some high, some low => UInt8.ofNat (high * 16 + low) :: percentDecode rest
    | _, _ => 37 :: percentDecode (a :: b :: rest)
  | a :: rest => a :: percentDecode rest

/-- Checks an address in brackets. -/
def checkBracketed (cs : List Char) : Except EndpointError Unit :=
  if cs.getLast? = some ']' && isIpv6 cs.dropLast then .ok () else .error .invalidIpv6

/-- Checks a domain name or an IPv4 address. -/
def checkDomain (cs : List Char) : Except EndpointError Unit :=
  let bytes := percentDecode (String.ofList cs).toUTF8.toList
  match (String.fromUTF8? ⟨bytes.toArray⟩).bind fun text => DomainName.ofText? text.toList with
  | none => .error .invalidDomain
  | some [] => .error .emptyHost
  | some name =>
    if endsInNumber name && !isIpv4 (labels name) then .error .invalidIpv4 else .ok ()

/-- Checks a host under a scheme of the web. -/
def checkHost : List Char → Except EndpointError Unit
  | '[' :: cs => checkBracketed cs
  | cs => checkDomain cs

/-- Checks a host under another scheme. -/
def checkOpaqueHost : List Char → Except EndpointError Unit
  | '[' :: cs => checkBracketed cs
  | cs =>
    if cs.any fun c => c.toNat = 0 || " #/:<>?@[\\]^|".toList.contains c then
      .error .invalidHostCharacter
    else .ok ()

/-! ### Addresses -/

/-- The kinds of scheme. -/
inductive Scheme
  | web
  | file
  | other
deriving DecidableEq

/-- The kind of a scheme, by its name in lower case. -/
def Scheme.ofName (name : String) : Scheme :=
  if ["http", "https", "ws", "wss", "ftp"].contains name then .web
  else if name = "file" then .file
  else .other

/-- The scheme at the start of a text and what follows its colon. -/
def scheme? (cs : List Char) : Option (Scheme × List Char) :=
  let isPart (c : Char) : Bool := c.isAlphanum || c = '+' || c = '-' || c = '.'
  match cs.takeWhile isPart, cs.dropWhile isPart with
  | c :: name, ':' :: rest =>
    if c.isAlpha then some (.ofName (String.ofList ((c :: name).map Char.toLower)), rest) else none
  | _, _ => none

/-- Whether a character ends the part of an address that names the host. -/
def endsAuthority (s : Scheme) (c : Char) : Bool :=
  c = '/' || c = '?' || c = '#' || (s ≠ .other && c = '\\')

/-- Splits a text behind the last at sign: what stands before that sign, if there is one, and what
stands behind. -/
def splitUser (cs : List Char) : Option (List Char) × List Char :=
  let behind := (cs.reverse.takeWhile (· ≠ '@')).reverse
  if behind.length = cs.length then (none, cs)
  else (some (cs.take (cs.length - behind.length - 1)), behind)

/-- The host in front of a service number, and that number with its colon. Colons in brackets belong
to the host. -/
def splitService : Bool → List Char → List Char × List Char
  | _, [] => ([], [])
  | inBrackets, c :: cs =>
    if c = ':' && !inBrackets then ([], c :: cs)
    else
      let (host, service) := splitService (c = '[' || (c ≠ ']' && inBrackets)) cs
      (c :: host, service)

/-- Checks a service number with its colon, if there is one: it has sixteen bits. -/
def checkService : List Char → Except EndpointError Unit
  | [] => .ok ()
  | _ :: cs =>
    let digits := cs.takeWhile (· ≠ '\\')
    if digits.all Char.isDigit &&
        digits.foldl (fun n c => n * 10 + (c.toNat - '0'.toNat)) 0 < 65536 then .ok ()
    else .error .invalidService

/-- Checks what stands behind the two slashes. -/
def checkAuthority (s : Scheme) (cs : List Char) : Except EndpointError Unit := do
  let authority := cs.takeWhile fun c => !endsAuthority s c
  let (user, hostAndService) := splitUser authority
  let (host, service) := splitService false hostAndService
  if host.isEmpty then
    let needsHost := match user with
      | none => false
      | some [] => authority.length < cs.length
      | some user => user ≠ [':']
    if s = .web || needsHost || !service.isEmpty then .error .emptyHost
  else if s = .web then checkHost host
  else checkOpaqueHost host
  checkService service

/-- Whether a text is a letter and a colon or a bar, as drives are named. -/
def isDrive : List Char → Bool
  | [c, d] => c.isAlpha && (d = ':' || d = '|')
  | _ => false

/-- Checks the host of a file, if one is named. -/
def checkFile : List Char → Except EndpointError Unit
  | a :: b :: cs =>
    if (a = '/' || a = '\\') && (b = '/' || b = '\\') then
      let host := cs.takeWhile fun c => !endsAuthority .file c
      if host.isEmpty || isDrive host then .ok () else checkHost host
    else .ok ()
  | _ => .ok ()

/-- The text without blanks around it and without tabs and line ends. -/
def cleaned (cs : List Char) : List Char :=
  let trim (cs : List Char) : List Char := cs.dropWhile fun c => c.toNat ≤ 32
  (trim (trim cs).reverse).reverse.filter fun c => c ≠ '\t' && c ≠ '\n' && c ≠ '\r'

/-- Checks an address. -/
def check (text : String) : Except EndpointError Unit :=
  match scheme? (cleaned text.toList) with
  | none => .error .noScheme
  | some (.web, cs) => checkAuthority .web (cs.dropWhile fun c => c = '/' || c = '\\')
  | some (.file, cs) => checkFile cs
  | some (.other, '/' :: '/' :: cs) => checkAuthority .other cs
  | some (.other, _) => .ok ()

end Endpoint

end Nullness

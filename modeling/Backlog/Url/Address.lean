import Backlog.Url.Host

/-!
# Addresses of resources

An absolute address starts with a scheme. Some schemes are special: they have a host, and a
backslash counts as a slash. What follows the host is taken as it is, so only the scheme, the
host and the port can be wrong.
-/

namespace Backlog.Url

inductive Scheme
  | special
  | file
  | other
deriving DecidableEq

def Scheme.ofName (name : List Char) : Scheme :=
  let name := String.ofList (name.map Char.toLower)
  if name = "file" then .file
  else if ["http", "https", "ws", "wss", "ftp"].contains name then .special
  else .other

/-- A control character or a space. -/
def isEdge (c : Char) : Bool := c.toNat ≤ 0x20

/-- A text without controls and spaces at its ends, and without tabs and line ends. -/
def cleaned (s : String) : List Char :=
  (((s.toList.dropWhile isEdge).reverse.dropWhile isEdge).reverse).filter fun c =>
    c ≠ '\t' ∧ c ≠ '\n' ∧ c ≠ '\r'

/-- The scheme before the first colon, and what follows the colon. -/
def scheme? (cs : List Char) : Option (List Char × List Char) :=
  match cs with
  | [] => none
  | c :: _ =>
    let name := cs.takeWhile fun c => c.isAlphanum || c = '+' || c = '-' || c = '.'
    match cs.drop name.length with
    | ':' :: rest => if c.isAlpha then some (name, rest) else none
    | _ => none

def isSlash (c : Char) : Bool := c = '/' || c = '\\'

/-- The character ends the part of an address that names the host. -/
def endsAuthority (special : Bool) (c : Char) : Bool :=
  c = '/' || c = '?' || c = '#' || (special && c = '\\')

/-- The user before the last at sign, and the rest from behind it. -/
def userAndHost (authority : List Char) : Option (List Char) × List Char :=
  if authority.contains '@' then
    let host := (authority.reverse.takeWhile (· ≠ '@')).reverse
    (some (authority.take (authority.length - host.length - 1)), host)
  else (none, authority)

/-- The host ends at the first colon outside brackets. -/
def splitPort (inside : Bool) : List Char → List Char × Option (List Char)
  | [] => ([], none)
  | c :: rest =>
    if c = ':' ∧ ¬ inside then ([], some rest)
    else
      let inside := if c = '[' then true else if c = ']' then false else inside
      let (host, port) := splitPort inside rest
      (c :: host, port)

/-- A port is a number below `2^16`, or empty. A backslash ends it. -/
def checkPort (cs : List Char) : Except Fault Unit :=
  let digits := cs.takeWhile Char.isDigit
  let rest := cs.drop digits.length
  if Decimal.ofDigits digits < 65536 ∧ (rest.isEmpty ∨ rest.head? = some '\\') then .ok ()
  else .error .invalidPort

/-- User, host and port. -/
def checkAuthority (special : Bool) (cs : List Char) : Except Fault Unit := do
  let authority := cs.takeWhile fun c => !endsAuthority special c
  let (user, rest) := userAndHost authority
  if user = some [] ∧ rest.isEmpty ∧ authority.length < cs.length then throw .emptyHost
  let (host, port) := splitPort false rest
  if special then
    if host.isEmpty then throw .emptyHost
    checkHost host
  else
    checkOpaqueHost host
    if host.isEmpty ∧ port.isSome then throw .emptyHost
  match port with
  | some port => checkPort port
  | none => pure ()
  if host.isEmpty ∧ user.any fun u => u ≠ [] ∧ u ≠ [':'] then throw .emptyHost

/-- A letter and a colon or bar, which names a drive and not a host. -/
def isDrive : List Char → Bool
  | [c, d] => c.isAlpha && (d = ':' || d = '|')
  | _ => false

def checkFile (cs : List Char) : Except Fault Unit :=
  match cs with
  | a :: b :: rest =>
    if isSlash a && isSlash b then
      let host := rest.takeWhile fun c => !endsAuthority true c
      if host.isEmpty || isDrive host then .ok () else checkHost host
    else .ok ()
  | _ => .ok ()

/-- A text is an absolute address. -/
def check (s : String) : Except Fault Unit :=
  match scheme? (cleaned s) with
  | none => .error .relativeWithoutBase
  | some (name, rest) =>
    match Scheme.ofName name with
    | .special => checkAuthority true (rest.dropWhile isSlash)
    | .file => checkFile rest
    | .other =>
      match rest with
      | '/' :: '/' :: rest => checkAuthority false rest
      | _ => .ok ()

end Backlog.Url

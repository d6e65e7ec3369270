import Backlog.Json.Reader
import Backlog.Url.Code
import Backlog.Url.Direction
import Backlog.Url.Joiner
import Backlog.Url.Punycode

/-!
# Hosts of addresses

A host is a domain name, an address of four numbers, an address of eight groups in brackets, or
for schemes without rules of their own any text without certain characters.
-/

namespace Backlog.Url

inductive Fault
  | relativeWithoutBase
  | emptyHost
  | invalidPort
  | invalidIpv4
  | invalidIpv6
  | invalidDomainCharacter
  | invalidDomainName
deriving DecidableEq

def Fault.message : Fault → String
  | relativeWithoutBase => "relative URL without a base"
  | emptyHost => "empty host"
  | invalidPort => "invalid port number"
  | invalidIpv4 => "invalid IPv4 address"
  | invalidIpv6 => "invalid IPv6 address"
  | invalidDomainCharacter => "invalid domain character"
  | invalidDomainName => "invalid international domain name"

/-! ## Four numbers -/

/-- A number to base 8, 10 or 16, as its first characters say. -/
def ipv4Number? (cs : List Char) : Option Nat :=
  let (base, digits) := match cs with
    | '0' :: x :: rest => if x = 'x' ∨ x = 'X' then (16, rest) else (8, x :: rest)
    | cs => (10, cs)
  if cs.isEmpty then none
  else digits.foldlM (fun n c =>
    (Json.hexValue? c).bind fun d => if d < base then some (n * base + d) else none) 0

def dropLastEmpty (parts : List (List Char)) : List (List Char) :=
  if parts.getLast? = some [] then parts.dropLast else parts

/-- The last label of a domain name is a number. -/
def endsInNumber (cs : List Char) : Bool :=
  match (dropLastEmpty (cs.splitOn '.')).getLast? with
  | none => false
  | some last => (!last.isEmpty && last.all Char.isDigit) || (ipv4Number? last).isSome

def checkIpv4 (cs : List Char) : Except Fault Unit :=
  let parts := dropLastEmpty (cs.splitOn '.')
  if 4 < parts.length then .error .invalidIpv4
  else
    match parts.mapM ipv4Number? with
    | none => .error .invalidIpv4
    | some numbers =>
      match numbers.getLast? with
      | none => .error .invalidIpv4
      | some last =>
        let others := numbers.dropLast
        if others.all (· ≤ 255) ∧ last < Nat.pow 256 (4 - others.length) then .ok ()
        else .error .invalidIpv4

/-! ## Eight groups -/

/-- The four numbers at the end of an address of eight groups. -/
def ipv4Tail (cs : List Char) : Bool :=
  let parts := cs.splitOn '.'
  parts.length = 4 && parts.all fun p =>
    !p.isEmpty && p.length ≤ 3 && p.all Char.isDigit && (p.length = 1 || p.head? ≠ some '0') &&
      Decimal.ofDigits p ≤ 255

/-- Groups from a place where one may start; `gap` tells that a double colon has stood before. -/
def ipv6Groups : Nat → Nat → Bool → List Char → Bool
  | 0, _, _, _ => false
  | fuel + 1, groups, gap, cs =>
    match cs with
    | [] => if gap then groups ≤ 7 else groups = 8
    | ':' :: rest => groups < 8 && !gap && ipv6Groups fuel (groups + 1) true rest
    | cs =>
      let run := (cs.takeWhile fun c => (Json.hexValue? c).isSome).take 4
      let rest := cs.drop run.length
      groups < 8 &&
        match rest with
        | '.' :: _ =>
          !run.isEmpty && groups ≤ 6 && ipv4Tail cs && (if gap then groups ≤ 5 else groups = 6)
        | [] => !run.isEmpty && ipv6Groups fuel (groups + 1) gap []
        | ':' :: rest => !run.isEmpty && !rest.isEmpty && ipv6Groups fuel (groups + 1) gap rest
        | _ => false

def checkIpv6 (cs : List Char) : Except Fault Unit :=
  let good := match cs with
    | ':' :: ':' :: rest => ipv6Groups (cs.length + 1) 1 true rest
    | ':' :: _ => false
    | cs => ipv6Groups (cs.length + 1) 0 false cs
  if good then .ok () else .error .invalidIpv6

/-- A host in brackets. -/
def checkBracketed (cs : List Char) : Except Fault Unit :=
  if cs.getLast? = some ']' then checkIpv6 (cs.drop 1).dropLast else .error .invalidIpv6

/-! ## Domain names -/

/-- The bytes of a text with the escapes of a percent sign and two digits undone. -/
def percentDecode : List UInt8 → List UInt8
  | [] => []
  | 37 :: h :: l :: tail =>
    match Json.hexValue? (Char.ofNat h.toNat), Json.hexValue? (Char.ofNat l.toNat) with
    | some x, some y => UInt8.ofNat (16 * x + y) :: percentDecode tail
    | _, _ => 37 :: percentDecode (h :: l :: tail)
  | b :: rest => b :: percentDecode rest

/-- The label that one behind `xn--` stands for. It has at least one character beyond ASCII, and
only characters that may stand in a name as they are. -/
def label? (label : List Char) : Option (List Char) :=
  if label.take 4 = ['x', 'n', '-', '-'] then do
    let cs ← Punycode.decode? (label.drop 4)
    if cs.any (fun c => 0x80 ≤ c.toNat) &&
        cs.all fun c => isDomainChar c && !isDropped c && folded c = c && c ≠ '.' then some cs
    else none
  else some label

/-- A label does not start with a mark, and its joiners have something to join. -/
def isLabel (label : List Char) : Bool := !label.head?.any isMark && joinersFit [] label

/-- The labels of a name can stand together. -/
def checkLabels (labels : List (List Char)) : Bool :=
  match labels.mapM label? with
  | some labels => labels.all isLabel && Direction.allFit labels
  | none => false

/-- A domain name in its small form. -/
def domainName (cs : List Char) : Except Fault (List Char) :=
  let bytes := percentDecode (String.ofList cs).toUTF8.toList
  match String.fromUTF8? ⟨bytes.toArray⟩ with
  | none => .error .invalidDomainName
  | some s =>
    let kept := s.toList.filter (!isDropped ·)
    let name := kept.map folded
    if kept.all isDomainChar && name.all isDomainChar && checkLabels (name.splitOn '.') then
      .ok name
    else .error .invalidDomainName

/-- A host under a scheme that knows domain names. -/
def checkHost (cs : List Char) : Except Fault Unit :=
  if cs.head? = some '[' then checkBracketed cs
  else do
    let name ← domainName cs
    if name.isEmpty then .error .emptyHost
    else if endsInNumber name then checkIpv4 name
    else .ok ()

/-- A host under any other scheme. -/
def checkOpaqueHost (cs : List Char) : Except Fault Unit :=
  if cs.head? = some '[' then checkBracketed cs
  else if cs.any (fun c => c.toNat = 0 || ['\t', '\n', '\r', ' ', '#', '/', ':', '<', '>', '?', '@',
      '[', '\\', ']', '^', '|'].contains c) then .error .invalidDomainCharacter
  else .ok ()

end Backlog.Url

/-!
# Addresses to listen on

An address is a host and a port with a colon between them. The host is an IPv4 address, four decimal
numbers without leading zeros, or an IPv6 address in brackets, perhaps with a zone behind a percent
sign. Names are no addresses.
-/

namespace CloudIde

/-- The address of a host. -/
inductive Host where
  | v4 (octets : List Nat)
  /-- The eight groups, and the zone. -/
  | v6 (groups : List Nat) (zone : Nat)
  deriving DecidableEq, Repr

/-- An address to listen on. -/
structure SocketAddress where
  host : Host
  port : Nat
  deriving DecidableEq, Repr

namespace SocketAddress

/-- The value of a digit to a base of at most sixteen. -/
def digitValue? (base : Nat) (c : Char) : Option Nat :=
  let value :=
    if '0' ≤ c ∧ c ≤ '9' then c.toNat - '0'.toNat
    else if 'a' ≤ c ∧ c ≤ 'f' then c.toNat - 'a'.toNat + 10
    else if 'A' ≤ c ∧ c ≤ 'F' then c.toNat - 'A'.toNat + 10
    else 16
  if value < base then some value else none

/-- A number to a base in front: all digits that stand there, at most so many and not above the
greatest value. A zero may lead other digits only where that is allowed. -/
def number (base : Nat) (most : Option Nat) (zeroLeads : Bool) (greatest : Nat)
    (input : List Char) : Option (Nat × List Char) :=
  let digits := input.takeWhile fun c => (digitValue? base c).isSome
  let value := digits.foldl (fun n c => base * n + (digitValue? base c).getD 0) 0
  if digits.isEmpty || most.any (· < digits.length) || greatest < value
      || (!zeroLeads && digits.length > 1 && digits.head? = some '0') then none
  else some (value, input.drop digits.length)

/-- What follows a character in front. -/
def after (c : Char) : List Char → Option (List Char)
  | [] => none
  | first :: rest => if first = c then some rest else none

/-- A number of an IPv4 address. -/
def octet (input : List Char) : Option (Nat × List Char) := number 10 (some 3) false 255 input

/-- An IPv4 address in front. -/
def ipv4 (input : List Char) : Option (List Nat × List Char) := do
  let (a, rest) ← octet input
  let (b, rest) ← octet (← after '.' rest)
  let (c, rest) ← octet (← after '.' rest)
  let (d, rest) ← octet (← after '.' rest)
  some ([a, b, c, d], rest)

/-- What follows the colon between two groups; none stands before the first. -/
def afterColon (isFirst : Bool) (input : List Char) : Option (List Char) :=
  if isFirst then some input else after ':' input

/-- The groups of an IPv6 address in front, at most so many. An IPv4 address at their end stands for
two; says whether there is one. -/
def groups : (room : Nat) → (isFirst : Bool) → List Char → List Nat × Bool × List Char
  | 0, _, input => ([], false, input)
  | room + 1, isFirst, input =>
    match if room = 0 then none else (afterColon isFirst input).bind ipv4 with
    | some (octets, rest) =>
      match octets with
      | [a, b, c, d] => ([256 * a + b, 256 * c + d], true, rest)
      | _ => ([], false, input)
    | none =>
      match (afterColon isFirst input).bind (number 16 (some 4) true 0xFFFF) with
      | some (group, rest) =>
        let (others, embedded, rest) := groups room false rest
        (group :: others, embedded, rest)
      | none => ([], false, input)

/-- An IPv6 address in front: eight groups, or fewer with two colons for the missing ones. -/
def ipv6 (input : List Char) : Option (List Nat × List Char) :=
  let (front, embedded, rest) := groups 8 true input
  if front.length = 8 then some (front, rest)
  else if embedded then none
  else do
    let rest ← after ':' (← after ':' rest)
    let (back, _, rest) := groups (7 - front.length) true rest
    some (front ++ List.replicate (8 - front.length - back.length) 0 ++ back, rest)

/-- The zone behind an IPv6 address, zero when there is none. -/
def zoneBehind (input : List Char) : Nat × List Char :=
  ((after '%' input).bind (number 10 none true 0xFFFFFFFF)).getD (0, input)

/-- The port behind a host. -/
def portBehind (input : List Char) : Option (Nat × List Char) :=
  (after ':' input).bind (number 10 none true 65535)

/-- An IPv4 address with a port, in front. -/
def withIpv4 (input : List Char) : Option (SocketAddress × List Char) := do
  let (octets, rest) ← ipv4 input
  let (port, rest) ← portBehind rest
  some (⟨.v4 octets, port⟩, rest)

/-- An IPv6 address in brackets with a port, in front. -/
def withIpv6 (input : List Char) : Option (SocketAddress × List Char) := do
  let (list, rest) ← ipv6 (← after '[' input)
  let (zone, rest) := zoneBehind rest
  let (port, rest) ← portBehind (← after ']' rest)
  some (⟨.v6 list zone, port⟩, rest)

/-- The address that a text writes. -/
def ofText? (text : String) : Option SocketAddress :=
  match withIpv4 text.toList <|> withIpv6 text.toList with
  | some (address, []) => some address
  | _ => none

end SocketAddress

end CloudIde

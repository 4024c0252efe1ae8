import K1s.Py.Decode
import K1s.Py.Text

/-!
# Networks of addresses

`ip_network` of Python's `ipaddress`, for IPv4 and IPv6.  A network is an aligned block
of addresses of one version, and two networks have an address in common exactly when
their blocks meet.
-/

namespace K1s
namespace Py

inductive IpVersion
  | v4
  | v6
  deriving DecidableEq

/-- `max_prefixlen`. -/
def IpVersion.bits : IpVersion → Nat
  | .v4 => 32
  | .v6 => 128

/-- `IPv4Network` or `IPv6Network`. -/
structure IpNetwork where
  version : IpVersion
  networkAddress : Nat
  prefixlen : Nat
  scopeId : Option String
  fits : prefixlen ≤ version.bits
  aligned : 2 ^ (version.bits - prefixlen) ∣ networkAddress
  deriving DecidableEq

variable (network : IpNetwork) (text : String)

namespace IpNetwork

def numAddresses : Nat :=
  2 ^ (network.version.bits - network.prefixlen)

def addresses : Set (IpVersion × Nat) :=
  {address | address.1 = network.version ∧
    address.2 ∈ Set.Ico network.networkAddress (network.networkAddress + network.numAddresses)}

theorem numAddresses_pos : 0 < network.numAddresses :=
  Nat.two_pow_pos _

/-- The first address is one of the network. -/
theorem networkAddress_mem :
    (network.version, network.networkAddress) ∈ network.addresses :=
  ⟨rfl, le_rfl, Nat.lt_add_of_pos_right network.numAddresses_pos⟩

/-- The network of an address, whose host bits are dropped. -/
def ofAddress
    (version : IpVersion) (address prefixlen : Nat) (scopeId : Option String)
    (fits : prefixlen ≤ version.bits) : IpNetwork where
  version := version
  networkAddress :=
    address / 2 ^ (version.bits - prefixlen) * 2 ^ (version.bits - prefixlen)
  prefixlen := prefixlen
  -- An address with host bits loses its scope with them.
  scopeId := if 2 ^ (version.bits - prefixlen) ∣ address then scopeId else none
  fits := fits
  aligned := Nat.dvd_mul_left _ _

/-- `subnets(new_prefix=mask)`, in the order of their addresses. -/
def subnets (mask : Nat) (fits : mask ≤ network.version.bits) : List IpNetwork :=
  if network.prefixlen = network.version.bits then [network]
  else
    (List.range (2 ^ (mask - network.prefixlen))).map fun index =>
      ofAddress network.version
        (network.networkAddress + index * 2 ^ (network.version.bits - mask)) mask none fits

end IpNetwork

/-! ## Reading addresses -/

def parseOctet : Option Nat :=
  if isDigits text = false ∨ 3 < text.length ∨ (text ≠ "0" ∧ startsWith "0" text = true) then
    none
  else if 255 < digitsValue text.toList then none
  else some (digitsValue text.toList)

/-- `IPv4Address._ip_int_from_string`. -/
def ipv4Int : Option Nat :=
  match split '.' text with
  | [first, second, third, fourth] => do
      let octets ← [first, second, third, fourth].mapM parseOctet
      return octets.foldl (fun value octet => 256 * value + octet) 0
  | _ => none

def parseHextet : Option Nat :=
  if text = "" ∨ 4 < text.length then none
  else text.toList.foldlM (fun value digit => (hexValue digit).map (16 * value + ·)) 0

def hextetsValue (parts : List String) : Option Nat :=
  parts.foldlM (fun value part => (parseHextet part).map (65536 * value + ·)) 0

/-- The parts of an IPv6 address, with an IPv4-style suffix in hexadecimal. -/
def ipv6Parts : Option (List String) :=
  let parts := split ':' text
  let last := parts.getLast?.getD ""
  if parts.length < 3 then none
  else if last.toList.contains '.' then
    (ipv4Int last).map fun value =>
      parts.dropLast ++ [String.ofList (Nat.toDigits 16 (value / 65536)),
        String.ofList (Nat.toDigits 16 (value % 65536))]
  else some parts

/-- `IPv6Address._ip_int_from_string`, on the parts. -/
def ipv6PartsInt (parts : List String) : Option Nat :=
  if 9 < parts.length then none
  else
    match (List.range' 1 (parts.length - 2)).filter fun index => parts[index]? = some "" with
    | [] => if parts.length = 8 then hextetsValue parts else none
    | [skipIndex] =>
        let headEmpty := parts.head? = some ""
        let lastEmpty := parts.getLast? = some ""
        let partsHi := if headEmpty then skipIndex - 1 else skipIndex
        let partsLo :=
          if lastEmpty then parts.length - skipIndex - 2 else parts.length - skipIndex - 1
        if (headEmpty ∧ partsHi ≠ 0) ∨ (lastEmpty ∧ partsLo ≠ 0) ∨ 8 < partsHi + partsLo + 1 then
          none
        else do
          let high ← hextetsValue (parts.take partsHi)
          let low ← hextetsValue (parts.drop (parts.length - partsLo))
          return high * 2 ^ (16 * (8 - partsHi)) + low
    | _ => none

/-- `IPv6Address`, with its scope. -/
def ipv6Address : Option (Nat × Option String) := do
  let (address, scopeId) ←
    match split '%' text with
    | [address] => some (address, none)
    | [address, scopeId] => if scopeId = "" then none else some (address, some scopeId)
    | _ => none
  let parts ← ipv6Parts address
  let value ← ipv6PartsInt parts
  return (value, scopeId)

/-! ## Reading masks -/

/-- `_prefix_from_prefix_string`.  `int` refuses more than 4300 digits. -/
def prefixFromPrefixString (bits : Nat) (text : String) : Option Nat :=
  if isDigits text = true ∧ text.length ≤ 4300 ∧ digitsValue text.toList ≤ bits then
    some (digitsValue text.toList)
  else none

def prefixFromIpInt (value : Nat) : Option Nat :=
  (List.range 33).find? fun length => value = (2 ^ length - 1) * 2 ^ (32 - length)

/-- `_prefix_from_ip_string`: a netmask, or else a hostmask. -/
def prefixFromIpString : Option Nat :=
  (ipv4Int text).bind fun value =>
    (prefixFromIpInt value).orElse fun _ => prefixFromIpInt (2 ^ 32 - 1 - value)

/-- The block of an address that was read, if the mask is one. -/
def networkOf
    (version : IpVersion) (address : Option (Nat × Option String))
    (mask : Option Nat) : Option IpNetwork := do
  let (value, scopeId) ← address
  let prefixlen ← mask
  if fits : prefixlen ≤ version.bits then
    return .ofAddress version value prefixlen scopeId fits
  else none

/-- `IPv4Network(text, strict=False)`. -/
def ipv4Network : Option IpNetwork :=
  match split '/' text with
  | [address] => networkOf .v4 ((ipv4Int address).map (·, none)) (some 32)
  | [address, mask] =>
      networkOf .v4 ((ipv4Int address).map (·, none))
        ((prefixFromPrefixString 32 mask).orElse fun _ => prefixFromIpString mask)
  | _ => none

/-- `IPv6Network(text, strict=False)`. -/
def ipv6Network : Option IpNetwork :=
  match split '/' text with
  | [address] => networkOf .v6 (ipv6Address address) (some 128)
  | [address, mask] => networkOf .v6 (ipv6Address address) (prefixFromPrefixString 128 mask)
  | _ => none

/-- `ip_network(text, strict=False)`. -/
def ipNetwork : Option IpNetwork :=
  (ipv4Network text).orElse fun _ => ipv6Network text

/-! ## Writing networks -/

/-- The hextets of a number, the highest first. -/
def hextetsOf (value : Nat) : List String :=
  (List.range 8).map fun index =>
    String.ofList (Nat.toDigits 16 (value / 65536 ^ (7 - index) % 65536))

/-- The longest run of zeros, the first of several, as its start and its length: the
loop of `_compress_hextets`, with the run that is being read. -/
def longestZeros : List String → Nat → Nat → Nat × Nat → Nat × Nat
  | [], _, _, best => best
  | hextet :: rest, index, length, best =>
      if hextet = "0" then
        longestZeros rest (index + 1) (length + 1)
          (if best.2 < length + 1 then (index - length, length + 1) else best)
      else longestZeros rest (index + 1) 0 best

def compressHextets (hextets : List String) : List String :=
  let (start, length) := longestZeros hextets 0 0 (0, 0)
  if length ≤ 1 then hextets
  else
    (if start = 0 then [""] else hextets.take start) ++ [""] ++
      (if start + length = hextets.length then [""] else hextets.drop (start + length))

def IpNetwork.toText : String :=
  let address := network.networkAddress
  (match network.version with
    | .v4 =>
        String.intercalate "." ([24, 16, 8, 0].map fun shift =>
          toString (address / 2 ^ shift % 256))
    | .v6 =>
        String.intercalate ":" (compressHextets (hextetsOf address)) ++
          (network.scopeId.elim "" fun scopeId => "%" ++ scopeId)) ++
    "/" ++ toString network.prefixlen

/-- The addresses that a text denotes: those of its network, if it is one. -/
def addressesOf : Set (IpVersion × Nat) :=
  (ipNetwork text).elim ∅ IpNetwork.addresses

end Py
end K1s

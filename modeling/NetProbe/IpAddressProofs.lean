import Mathlib.Algebra.Group.Nat.Defs
import Mathlib.Data.List.Basic
import NetProbe.PyTextProofs

/-!
# The `ipaddress` module: parsing and classification

`ipAddress` is `ipaddress.ip_address` on strings: an IPv4 literal, else an IPv6 literal with an
optional scope, else `ValueError` (`none`).  An address is the integer it stands for.  The
predicates `is_loopback`, `is_link_local`, `is_multicast`, `is_reserved`, `is_unspecified` and
`is_private` are the special-purpose tables of CPython 3.12, as its late patch releases have
them.  An IPv4-mapped IPv6 address is private exactly when the embedded address is; the other
predicates are delegated to the embedded address in the later patch releases only
(`Python.mappedDelegates`).

The textual form of an IPv4 address (`ipv4Str`) parses back to it (`ipAddress_ipv4Str`),
so re-checking a mapped address through its text checks the embedded address.
-/

namespace NetProbeIpAddress

open NetProbePyText

/-- A parsed address: its integer value, for IPv6 with the scope if one was given. -/
inductive IpAddr where
  | v4 (n : Nat)
  | v6 (n : Nat) (scope : Option Str)
  deriving DecidableEq, Repr

/-- Digits to a number, in a base. -/
def digitsToNat (base : Nat) (val : Char → Nat) (s : Str) : Nat :=
  s.foldl (fun acc c => acc * base + val c) 0

def decVal (c : Char) : Nat := c.toNat - '0'.toNat

/-- `_HEX_DIGITS` -/
def isHexDigit (c : Char) : Bool :=
  isAsciiDigit c || ('a' ≤ c && c ≤ 'f') || ('A' ≤ c && c ≤ 'F')

def hexVal (c : Char) : Nat :=
  if isAsciiDigit c then c.toNat - '0'.toNat
  else if 'a' ≤ c then c.toNat - 'a'.toNat + 10
  else c.toNat - 'A'.toNat + 10

-- ── IPv4 ──────────────────────────────────────────────────────────────────────────

/-- `_BaseV4._parse_octet` -/
def parseOctet (s : Str) : Option Nat :=
  if s = [] then none
  else if !s.all isAsciiDigit then none
  else if 3 < s.length then none
  else if s ≠ ['0'] && s.head? = some '0' then none
  else if 255 < digitsToNat 10 decVal s then none
  else some (digitsToNat 10 decVal s)

/-- `int.from_bytes(map(_parse_octet, octets), "big")` -/
def octetsToInt (octets : List Str) : Option Nat :=
  (octets.mapM parseOctet).map fun ns => ns.foldl (fun acc n => acc * 256 + n) 0

/-- `IPv4Address(address)._ip` -/
def ipv4Address (s : Str) : Option Nat :=
  if '/' ∈ s then none
  else if s = [] then none
  else
    let octets := split '.' s
    if octets.length ≠ 4 then none else octetsToInt octets

/-- `str(IPv4Address(n))` -/
def ipv4Str (n : Nat) : Str :=
  ['.'].intercalate
    [Nat.toDigits 10 (n / 16777216 % 256), Nat.toDigits 10 (n / 65536 % 256),
     Nat.toDigits 10 (n / 256 % 256), Nat.toDigits 10 (n % 256)]

-- ── IPv6 ──────────────────────────────────────────────────────────────────────────

/-- `_BaseV6._parse_hextet`; `int("", 16)` raises as well. -/
def parseHextet (s : Str) : Option Nat :=
  if !s.all isHexDigit then none
  else if 4 < s.length then none
  else if s = [] then none
  else some (digitsToNat 16 hexVal s)

/-- The parts of the text, with an IPv4 suffix rewritten as two hextets. -/
def ipv6Parts (s : Str) : Option (List Str) :=
  if s = [] then none
  else
    let parts := split ':' s
    if parts.length < 3 then none
    else
      let last := parts.getLastD []
      if '.' ∈ last then
        (ipv4Address last).map fun n =>
          parts.dropLast ++ [Nat.toDigits 16 (n / 65536 % 65536), Nat.toDigits 16 (n % 65536)]
      else some parts

/-- The positions of `::`: the empty parts that are neither the first nor the last. -/
def skipIndices (parts : List Str) : List Nat :=
  (List.range parts.length).filter fun i =>
    1 ≤ i && i + 1 < parts.length && parts.getD i [] = []

/-- The hextets before and after the run of zeros, and the length of that run. -/
def ipv6Layout (parts : List Str) : Option (List Str × Nat × List Str) :=
  if 9 < parts.length then none
  else
    match skipIndices parts with
    | [] =>
        if parts.length ≠ 8 then none
        else if parts.head? = some [] then none
        else if parts.getLast? = some [] then none
        else some (parts, 0, [])
    | [i] =>
        let hi := if parts.head? = some [] then i - 1 else i
        let lo := if parts.getLast? = some [] then parts.length - i - 2 else parts.length - i - 1
        if parts.head? = some [] && hi ≠ 0 then none
        else if parts.getLast? = some [] && lo ≠ 0 then none
        else if 8 < hi + lo + 1 then none
        else some (parts.take hi, 8 - (hi + lo), parts.drop (parts.length - lo))
    | _ => none

/-- `_BaseV6._ip_int_from_string` -/
def ipv6IntFromString (s : Str) : Option Nat :=
  (ipv6Parts s).bind fun parts =>
    (ipv6Layout parts).bind fun (hi, skipped, lo) =>
      (hi.mapM parseHextet).bind fun his =>
        (lo.mapM parseHextet).map fun los =>
          los.foldl (fun acc h => acc * 65536 + h)
            (his.foldl (fun acc h => acc * 65536 + h) 0 * 65536 ^ skipped)

/-- `IPv6Address(address)`: the scope is what follows the only `%`. -/
def ipv6Address (s : Str) : Option (Nat × Option Str) :=
  if '/' ∈ s then none
  else
    match partition '%' s with
    | (addr, false, _) => (ipv6IntFromString addr).map fun n => (n, none)
    | (addr, true, scope) =>
        if scope = [] || '%' ∈ scope then none
        else (ipv6IntFromString addr).map fun n => (n, some scope)

/-- `ipaddress.ip_address(address)`; `none` is its `ValueError`. -/
def ipAddress (s : Str) : Option IpAddr :=
  match ipv4Address s with
  | some n => some (.v4 n)
  | none => (ipv6Address s).map fun r => .v6 r.1 r.2

-- ── Classification ────────────────────────────────────────────────────────────────

/-- Membership in the network `base/prefix` of a `width`-bit address space. -/
def inNetwork (width n : Nat) (net : Nat × Nat) : Bool :=
  n / 2 ^ (width - net.2) = net.1 / 2 ^ (width - net.2)

def quad (a b c d : Nat) : Nat := ((a * 256 + b) * 256 + c) * 256 + d

/-- `_IPv4Constants._private_networks` -/
def ipv4PrivateNetworks : List (Nat × Nat) :=
  [(quad 0 0 0 0, 8), (quad 10 0 0 0, 8), (quad 127 0 0 0, 8), (quad 169 254 0 0, 16),
   (quad 172 16 0 0, 12), (quad 192 0 0 0, 24), (quad 192 0 0 170, 31), (quad 192 0 2 0, 24),
   (quad 192 168 0 0, 16), (quad 198 18 0 0, 15), (quad 198 51 100 0, 24),
   (quad 203 0 113 0, 24), (quad 240 0 0 0, 4), (quad 255 255 255 255, 32)]

/-- `_IPv4Constants._private_networks_exceptions` -/
def ipv4PrivateExceptions : List (Nat × Nat) :=
  [(quad 192 0 0 9, 32), (quad 192 0 0 10, 32)]

/-- `_IPv6Constants._private_networks` -/
def ipv6PrivateNetworks : List (Nat × Nat) :=
  [(1, 128), (0, 128), (0xffff * 2 ^ 32, 96), (0x64ff9b0001 * 2 ^ 80, 48), (0x0100 * 2 ^ 112, 64),
   (0x2001 * 2 ^ 112, 23), (0x20010db8 * 2 ^ 96, 32), (0x2002 * 2 ^ 112, 16),
   (0x3fff * 2 ^ 112, 20), (0xfc00 * 2 ^ 112, 7), (0xfe80 * 2 ^ 112, 10)]

/-- `_IPv6Constants._private_networks_exceptions` -/
def ipv6PrivateExceptions : List (Nat × Nat) :=
  [(0x20010001 * 2 ^ 96 + 1, 128), (0x20010001 * 2 ^ 96 + 2, 128), (0x20010003 * 2 ^ 96, 32),
   (0x200100040112 * 2 ^ 80, 48), (0x20010020 * 2 ^ 96, 28), (0x20010030 * 2 ^ 96, 28)]

/-- `_IPv6Constants._reserved_networks` -/
def ipv6ReservedNetworks : List (Nat × Nat) :=
  [(0, 8), (0x0100 * 2 ^ 112, 8), (0x0200 * 2 ^ 112, 7), (0x0400 * 2 ^ 112, 6),
   (0x0800 * 2 ^ 112, 5), (0x1000 * 2 ^ 112, 4), (0x4000 * 2 ^ 112, 3), (0x6000 * 2 ^ 112, 3),
   (0x8000 * 2 ^ 112, 3), (0xa000 * 2 ^ 112, 3), (0xc000 * 2 ^ 112, 3), (0xe000 * 2 ^ 112, 4),
   (0xf000 * 2 ^ 112, 5), (0xf800 * 2 ^ 112, 6), (0xfe00 * 2 ^ 112, 9)]

def ipv4IsLoopback (n : Nat) : Bool := inNetwork 32 n (quad 127 0 0 0, 8)
def ipv4IsLinkLocal (n : Nat) : Bool := inNetwork 32 n (quad 169 254 0 0, 16)
def ipv4IsMulticast (n : Nat) : Bool := inNetwork 32 n (quad 224 0 0 0, 4)
def ipv4IsReserved (n : Nat) : Bool := inNetwork 32 n (quad 240 0 0 0, 4)
def ipv4IsUnspecified (n : Nat) : Bool := n = 0
def ipv4IsPrivate (n : Nat) : Bool :=
  ipv4PrivateNetworks.any (inNetwork 32 n) && ipv4PrivateExceptions.all fun net =>
    !inNetwork 32 n net

/-- `IPv6Address.ipv4_mapped` -/
def ipv4Mapped (n : Nat) : Option Nat :=
  if n / 2 ^ 32 ≠ 0xffff then none else some (n % 2 ^ 32)

/-- A predicate of an IPv6 address that the later patch releases delegate to the embedded
    address of a mapped one. -/
def delegated (py : Python) (onV4 : Nat → Bool) (onV6 : Nat → Bool) (n : Nat) : Bool :=
  match ipv4Mapped n with
  | some m => if py.mappedDelegates then onV4 m else onV6 n
  | none => onV6 n

/-- `addr.is_loopback` -/
def isLoopback (py : Python) : IpAddr → Bool
  | .v4 n => ipv4IsLoopback n
  | .v6 n _ => delegated py ipv4IsLoopback (fun n => n = 1) n

/-- `addr.is_link_local` -/
def isLinkLocal (py : Python) : IpAddr → Bool
  | .v4 n => ipv4IsLinkLocal n
  | .v6 n _ => delegated py ipv4IsLinkLocal (fun n => inNetwork 128 n (0xfe80 * 2 ^ 112, 10)) n

/-- `addr.is_multicast` -/
def isMulticast (py : Python) : IpAddr → Bool
  | .v4 n => ipv4IsMulticast n
  | .v6 n _ => delegated py ipv4IsMulticast (fun n => inNetwork 128 n (0xff00 * 2 ^ 112, 8)) n

/-- `addr.is_reserved` -/
def isReserved (py : Python) : IpAddr → Bool
  | .v4 n => ipv4IsReserved n
  | .v6 n _ => delegated py ipv4IsReserved (fun n => ipv6ReservedNetworks.any (inNetwork 128 n)) n

/-- `addr.is_unspecified` -/
def isUnspecified (py : Python) : IpAddr → Bool
  | .v4 n => ipv4IsUnspecified n
  | .v6 n _ => delegated py ipv4IsUnspecified (fun n => n = 0) n

/-- `addr.is_private` -/
def isPrivate : IpAddr → Bool
  | .v4 n => ipv4IsPrivate n
  | .v6 n _ =>
      match ipv4Mapped n with
      | some m => ipv4IsPrivate m
      | none =>
          ipv6PrivateNetworks.any (inNetwork 128 n) &&
            ipv6PrivateExceptions.all fun net => !inNetwork 128 n net

-- ── Round trip of IPv4 addresses ──────────────────────────────────────────────────

/-- The decimal text of a byte is an octet. -/
theorem parseOctet_toDigits {n : Nat} (h : n < 256) : parseOctet (Nat.toDigits 10 n) = some n := by
  have hall : ∀ m < 256, parseOctet (Nat.toDigits 10 m) = some m := by decide +kernel
  exact hall n h

/-- The decimal text of a byte has neither a dot nor a slash. -/
theorem toDigits_plain {n : Nat} (h : n < 256) :
    '.' ∉ Nat.toDigits 10 n ∧ '/' ∉ Nat.toDigits 10 n := by
  have hall : ∀ m < 256, '.' ∉ Nat.toDigits 10 m ∧ '/' ∉ Nat.toDigits 10 m := by decide +kernel
  exact hall n h

/-- **Round trip.** The dotted text of a 32-bit number parses back to that number. -/
theorem ipv4Address_ipv4Str {n : Nat} (h : n < 2 ^ 32) : ipv4Address (ipv4Str n) = some n := by
  have hb : ∀ m : Nat, m % 256 < 256 := fun m => Nat.mod_lt _ (by decide)
  have hsplit : split '.' (ipv4Str n) =
      [Nat.toDigits 10 (n / 16777216 % 256), Nat.toDigits 10 (n / 65536 % 256),
       Nat.toDigits 10 (n / 256 % 256), Nat.toDigits 10 (n % 256)] := by
    refine List.splitOn_intercalate _ ?_ (by simp)
    intro l hl
    simp only [List.mem_cons, List.not_mem_nil, or_false] at hl
    rcases hl with rfl | rfl | rfl | rfl <;> exact (toDigits_plain (hb _)).1
  have hslash : '/' ∉ ipv4Str n := by
    rw [ipv4Str]
    simp [List.intercalate, (toDigits_plain (hb _)).2]
  have hne : ipv4Str n ≠ [] := by
    intro he
    rw [he] at hsplit
    have := congrArg List.length hsplit
    simp [split] at this
  rw [ipv4Address]
  rw [if_neg hslash, if_neg hne]
  simp only [hsplit, octetsToInt, List.mapM_cons, List.mapM_nil, parseOctet_toDigits (hb _)]
  simp
  omega

theorem ipAddress_ipv4Str {n : Nat} (h : n < 2 ^ 32) :
    ipAddress (ipv4Str n) = some (.v4 n) := by
  rw [ipAddress]
  rw [ipv4Address_ipv4Str h]

example : ipAddress (str "2001:db8::192.0.2.33") =
    some (.v6 0x20010db80000000000000000c0000221 none) := by
  decide +kernel

end NetProbeIpAddress

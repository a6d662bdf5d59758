import Mathlib.Algebra.Group.Nat.Defs
import Mathlib.Tactic.Common

/-!
# Hosts and addresses

What the webhooks use of Python's `urllib.parse` and `ipaddress`. A text is a list of characters here. Lower
case and NFKC are tables of Unicode, so they are parameters.
-/

namespace NodePilot.Urls

/-- Texts are looked up by their equality. -/
local instance lawfulParts : LawfulBEq (List Char) := inferInstance

/-- What `unicodedata` says: `str.lower` and `normalize("NFKC", ...)`. -/
structure Unicode where
  lower : List Char → List Char
  nfkc : List Char → List Char

/-- `str.isascii` -/
def isAscii (s : List Char) : Bool := s.all fun c => c.toNat < 128

/-! ## Cutting a text -/

/-- `s.partition(c)`: what is before the first `c`, and what is behind it. -/
def partition (c : Char) (s : List Char) : List Char × Option (List Char) :=
  (s.takeWhile (· ≠ c), (s.dropWhile (· ≠ c)).tail?)

@[simp]
theorem partition_self {c : Char} {s : List Char} : partition c (c :: s) = ([], some s) := by
  simp [partition]

theorem partition_cons {c d : Char} {s : List Char} (differs : d ≠ c) :
    partition c (d :: s) = (d :: (partition c s).1, (partition c s).2) := by
  simp [partition, differs]

theorem partition_of_not_mem {c : Char} {s : List Char} (absent : c ∉ s) : partition c s = (s, none) := by
  induction s with
  | nil => rfl
  | cons d s ih =>
    rw [List.mem_cons, not_or] at absent
    rw [partition_cons (Ne.symm absent.1), ih absent.2]

theorem partition_append {c : Char} {s t : List Char} (absent : c ∉ s) :
    partition c (s ++ c :: t) = (s, some t) := by
  induction s with
  | nil => exact partition_self
  | cons d s ih =>
    rw [List.mem_cons, not_or] at absent
    rw [List.cons_append, partition_cons (Ne.symm absent.1), ih absent.2]

theorem eq_append_of_partition {c : Char} {s before behind : List Char}
    (cut : partition c s = (before, some behind)) : s = before ++ c :: behind := by
  induction s generalizing before with
  | nil => cases cut
  | cons d s ih =>
    by_cases same : d = c
    · subst same
      rw [partition_self] at cut
      cases cut
      rfl
    · rw [partition_cons same] at cut
      obtain ⟨rfl, rest⟩ := Prod.mk.inj cut
      rw [List.cons_append, ← ih (Prod.ext rfl rest)]

/-- `s.rpartition(c)[2]` -/
def afterLast (c : Char) (s : List Char) : List Char := (s.reverse.takeWhile (· ≠ c)).reverse

/-- `s.split(c)` -/
def splitAll (c : Char) : List Char → List (List Char)
  | [] => [[]]
  | d :: s =>
    if d = c then [] :: splitAll c s
    else match splitAll c s with
      | part :: parts => (d :: part) :: parts
      | [] => [[d]]

/-! ## `ipaddress` -/

/-- `IPv4Address` or `IPv6Address`. -/
inductive IpAddress
  | v4 (ip : BitVec 32)
  | v6 (ip : BitVec 128) (scopeId : Option (List Char))
deriving DecidableEq

/-- `IPv4Address._parse_octet` -/
def parseOctet (s : List Char) : Option Nat :=
  if s = [] ∨ ¬ s.all Char.isDigit ∨ 3 < s.length then none
  else if s ≠ ['0'] ∧ s.head? = some '0' then none
  else
    let n := s.foldl (fun n c => 10 * n + (c.toNat - '0'.toNat)) 0
    if 255 < n then none else some n

/-- `IPv4Address._ip_int_from_string` -/
def parseV4 (s : List Char) : Option (BitVec 32) := do
  let octets ← (splitAll '.' s).mapM parseOctet
  if octets.length = 4 then some (BitVec.ofNat 32 (octets.foldl (fun n o => 256 * n + o) 0)) else none

def hexDigit (c : Char) : Option Nat :=
  if c.isDigit then some (c.toNat - '0'.toNat)
  else if 'a' ≤ c ∧ c ≤ 'f' then some (c.toNat - 'a'.toNat + 10)
  else if 'A' ≤ c ∧ c ≤ 'F' then some (c.toNat - 'A'.toNat + 10)
  else none

/-- `IPv6Address._parse_hextet` -/
def parseHextet (s : List Char) : Option Nat := do
  let digits ← s.mapM hexDigit
  if s = [] ∨ 4 < s.length then none else some (digits.foldl (fun n d => 16 * n + d) 0)

/-- One side of `::`. It may be empty, at the end of the address; then it is no hextet. -/
def sideOf (parts : List (List Char)) : Option (List (List Char)) :=
  if [] ∉ parts then some parts else if parts = [[]] then some [] else none

/-- The hextets of an address that has been cut at its colons: an empty part within it stands for as many
zeros as are missing. -/
def hextets (parts : List (List Char)) : Option (List Nat) :=
  match (parts.drop 1).dropLast.findIdxs (· = []) with
  | [] => if parts.length = 8 then parts.mapM parseHextet else none
  | [k] => do
    let hi ← sideOf (parts.take (k + 1))
    let lo ← sideOf (parts.drop (k + 2))
    if 7 < hi.length + lo.length then none
    let before ← hi.mapM parseHextet
    let behind ← lo.mapM parseHextet
    some (before ++ List.replicate (8 - (hi.length + lo.length)) 0 ++ behind)
  | _ => none

/-- `IPv6Address._ip_int_from_string` -/
def parseV6Int (s : List Char) : Option (BitVec 128) := do
  let parts := splitAll ':' s
  if parts.length < 3 then none
  let last := parts.getLast?.getD []
  -- A dotted quad at the end is written as two hextets.
  let parts ← if '.' ∈ last then
      (parseV4 last).map fun ip =>
        parts.dropLast ++ [Nat.toDigits 16 (ip.toNat / 65536), Nat.toDigits 16 (ip.toNat % 65536)]
    else some parts
  let words ← hextets parts
  some (BitVec.ofNat 128 (words.foldl (fun n w => 65536 * n + w) 0))

/-- `IPv6Address(s)` -/
def parseV6 (s : List Char) : Option IpAddress :=
  if '/' ∈ s then none
  else match partition '%' s with
  | (address, none) => (parseV6Int address).map fun ip => .v6 ip none
  | (address, some scopeId) =>
    if scopeId = [] ∨ '%' ∈ scopeId then none else (parseV6Int address).map fun ip => .v6 ip (some scopeId)

/-- `ip_address(s)`; `none` is a `ValueError`. -/
def ipAddress (s : List Char) : Option IpAddress := ((parseV4 s).map .v4).or (parseV6 s)

/-! ## Kinds of addresses -/

/-- `ip in network`, where the network is its first address and the length of its prefix. -/
def within {w : Nat} (ip : BitVec w) (network : BitVec w × Nat) : Bool :=
  ip >>> (w - network.2) = network.1 >>> (w - network.2)

/-- An IPv4 network, in bytes. -/
def net4 (a b c d : Nat) (prefixLength : Nat) : BitVec 32 × Nat :=
  (BitVec.ofNat 32 (((a * 256 + b) * 256 + c) * 256 + d), prefixLength)

/-- An IPv6 network, by its first three hextets and the last one. -/
def net6 (a b c z : Nat) (prefixLength : Nat) : BitVec 128 × Nat :=
  (BitVec.ofNat 128 (((a * 65536 + b) * 65536 + c) * 2 ^ 80 + z), prefixLength)

/-- `_IPv4Constants._private_networks` -/
def privateNetworks4 : List (BitVec 32 × Nat) :=
  [net4 0 0 0 0 8, net4 10 0 0 0 8, net4 127 0 0 0 8, net4 169 254 0 0 16, net4 172 16 0 0 12,
    net4 192 0 0 0 24, net4 192 0 0 170 31, net4 192 0 2 0 24, net4 192 168 0 0 16, net4 198 18 0 0 15,
    net4 198 51 100 0 24, net4 203 0 113 0 24, net4 240 0 0 0 4, net4 255 255 255 255 32]

/-- `_IPv4Constants._private_networks_exceptions` -/
def publicNetworks4 : List (BitVec 32 × Nat) := [net4 192 0 0 9 32, net4 192 0 0 10 32]

/-- `_IPv6Constants._private_networks` -/
def privateNetworks6 : List (BitVec 128 × Nat) :=
  [net6 0 0 0 1 128, net6 0 0 0 0 128, (BitVec.ofNat 128 0xffff00000000, 96), net6 0x64 0xff9b 1 0 48,
    net6 0x100 0 0 0 64, net6 0x2001 0 0 0 23, net6 0x2001 0xdb8 0 0 32, net6 0x2002 0 0 0 16,
    net6 0x3fff 0 0 0 20, net6 0xfc00 0 0 0 7, net6 0xfe80 0 0 0 10]

/-- `_IPv6Constants._private_networks_exceptions` -/
def publicNetworks6 : List (BitVec 128 × Nat) :=
  [net6 0x2001 1 0 1 128, net6 0x2001 1 0 2 128, net6 0x2001 3 0 0 32, net6 0x2001 4 0x112 0 48,
    net6 0x2001 0x20 0 0 28, net6 0x2001 0x30 0 0 28]

/-- `_IPv6Constants._reserved_networks` -/
def reservedNetworks6 : List (BitVec 128 × Nat) :=
  [net6 0 0 0 0 8, net6 0x100 0 0 0 8, net6 0x200 0 0 0 7, net6 0x400 0 0 0 6, net6 0x800 0 0 0 5,
    net6 0x1000 0 0 0 4, net6 0x4000 0 0 0 3, net6 0x6000 0 0 0 3, net6 0x8000 0 0 0 3,
    net6 0xa000 0 0 0 3, net6 0xc000 0 0 0 3, net6 0xe000 0 0 0 4, net6 0xf000 0 0 0 5,
    net6 0xf800 0 0 0 6, net6 0xfe00 0 0 0 9]

namespace IpAddress

/-- The address itself, or the IPv4 address that is mapped into it. -/
def unmapped : IpAddress → IpAddress
  | v4 ip => v4 ip
  | v6 ip scopeId => if ip >>> 32 = 0xffff then v4 (ip.truncate 32) else v6 ip scopeId

/-- `is_private` -/
def isPrivate (a : IpAddress) : Bool :=
  match a.unmapped with
  | v4 ip => privateNetworks4.any (within ip) ∧ publicNetworks4.all fun n => ¬ within ip n
  | v6 ip _ => privateNetworks6.any (within ip) ∧ publicNetworks6.all fun n => ¬ within ip n

/-- `is_loopback` -/
def isLoopback (a : IpAddress) : Bool :=
  match a.unmapped with
  | v4 ip => within ip (net4 127 0 0 0 8)
  | v6 ip _ => ip = 1

/-- `is_link_local` -/
def isLinkLocal (a : IpAddress) : Bool :=
  match a.unmapped with
  | v4 ip => within ip (net4 169 254 0 0 16)
  | v6 ip _ => within ip (net6 0xfe80 0 0 0 10)

/-- `is_reserved` -/
def isReserved (a : IpAddress) : Bool :=
  match a.unmapped with
  | v4 ip => within ip (net4 240 0 0 0 4)
  | v6 ip _ => reservedNetworks6.any (within ip)

end IpAddress

/-! ## `urllib.parse` -/

/-- `urlsplit(url)`, as far as the host is concerned. -/
structure SplitUrl where
  scheme : List Char
  netloc : List Char
deriving DecidableEq

/-- What `urlsplit` drops before it reads the URL: leading blanks and control characters, and every tab and
line break. -/
def cleaned (url : List Char) : List Char :=
  (url.dropWhile fun c => c.toNat ≤ 32).filter fun c => c ≠ '\t' ∧ c ≠ '\r' ∧ c ≠ '\n'

/-- The scheme, and what is behind its colon; no scheme, and all of it. -/
def splitScheme (url : List Char) : List Char × List Char :=
  match partition ':' url with
  | (c :: name, some rest) =>
    if c.isAlpha ∧ name.all fun c => c.isAlphanum ∨ c = '+' ∨ c = '-' ∨ c = '.' then
      ((c :: name).map Char.toLower, rest)
    else ([], url)
  | _ => ([], url)

/-- `_splitnetloc` -/
def splitNetloc : List Char → List Char
  | '/' :: '/' :: rest => rest.takeWhile fun c => c ≠ '/' ∧ c ≠ '?' ∧ c ≠ '#'
  | _ => []

/-- `_check_bracketed_host`: it does not raise. -/
def bracketedHostOk (host : List Char) : Bool :=
  match host with
  | 'v' :: rest =>
    let version := rest.takeWhile fun c => (hexDigit c).isSome
    let future := rest.dropWhile fun c => (hexDigit c).isSome
    version ≠ [] ∧ future.head? = some '.' ∧ 2 ≤ future.length
  | _ => match ipAddress host with
    | some (.v6 _ _) => true
    | _ => false

/-- The checks of the brackets, `_check_bracketed_netloc` among them. -/
def bracketsOk (netloc : List Char) : Bool :=
  if '[' ∉ netloc ∧ ']' ∉ netloc then true
  else if '[' ∉ netloc ∨ ']' ∉ netloc then false
  else match partition '[' (afterLast '@' netloc) with
  | (before, some bracketed) =>
    let (host, port) := partition ']' bracketed
    before = [] ∧ (port.all fun port => port = [] ∨ port.head? = some ':') ∧ bracketedHostOk host
  | (hostAndPort, none) => bracketedHostOk (partition ':' hostAndPort).1

/-- `_checknetloc`: it does not raise. -/
def netlocOk (u : Unicode) (netloc : List Char) : Bool :=
  let n := netloc.filter fun c => c ≠ '@' ∧ c ≠ ':' ∧ c ≠ '#' ∧ c ≠ '?'
  isAscii netloc ∨ u.nfkc n = n ∨ ['/', '?', '#', '@', ':'].all fun c => c ∉ u.nfkc n

/-- `urlsplit(url)`; `none` is a `ValueError`. -/
def urlsplit (u : Unicode) (url : List Char) : Option SplitUrl :=
  let (scheme, rest) := splitScheme (cleaned url)
  let netloc := splitNetloc rest
  if bracketsOk netloc ∧ netlocOk u netloc then some ⟨scheme, netloc⟩ else none

/-- The host, as it stands in the URL: `_hostinfo`. -/
def SplitUrl.hostinfo (s : SplitUrl) : List Char :=
  match partition '[' (afterLast '@' s.netloc) with
  | (_, some bracketed) => (partition ']' bracketed).1
  | (hostAndPort, none) => (partition ':' hostAndPort).1

/-- A host in lower case, but for the zone of an address. -/
def lowerHost (u : Unicode) (host : List Char) : List Char :=
  match partition '%' host with
  | (name, some zone) => u.lower name ++ '%' :: zone
  | (name, none) => u.lower name

/-- `hostname` -/
def SplitUrl.hostname (u : Unicode) (s : SplitUrl) : Option (List Char) :=
  if s.hostinfo = [] then none else some (lowerHost u s.hostinfo)

end NodePilot.Urls

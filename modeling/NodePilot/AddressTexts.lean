import NodePilot.Addresses
import NodePilot.Lib.Positional
import NodePilot.Urls

/-!
# Addresses as texts

`str`, `int` and `ip_address` of an integer, as Python 3.12 has them in `ipaddress`, and `IPPool.address_range` of
`apps/networks/models.py` over the texts that the columns of the table hold. A number does not say of which family the
address is that it was made from.
-/

namespace NodePilot.Urls

open Lib

/-! ## Texts of addresses -/

/-- `IPv4Address._string_from_ip_int` -/
def v4Text (ip : BitVec 32) : List Char := ['.'].intercalate ((positions 256 4 ip.toNat).map (Nat.toDigits 10))

/-- The state of the loop of `_compress_hextets`: the longest run of zeros so far, and the run that ends here. -/
structure ZeroRuns where
  bestStart : Nat := 0
  bestLen : Nat := 0
  start : Option Nat := none
  len : Nat := 0

/-- A round of the loop. -/
def ZeroRuns.step (runs : ZeroRuns) (entry : List Char × Nat) : ZeroRuns :=
  if entry.1 = ['0'] then
    let start := runs.start.getD entry.2
    let len := runs.len + 1
    if runs.bestLen < len then ⟨start, len, some start, len⟩ else { runs with start := some start, len := len }
  else { runs with start := none, len := 0 }

/-- `_compress_hextets`. Where the zeros are at an end of the address, an empty part stands there, too. -/
def compressHextets (hextets : List (List Char)) : List (List Char) :=
  let runs := hextets.zipIdx.foldl ZeroRuns.step {}
  if 1 < runs.bestLen then
    let bestEnd := runs.bestStart + runs.bestLen
    let lengthened := if bestEnd = hextets.length then hextets ++ [[]] else hextets
    let shortened := lengthened.take runs.bestStart ++ [[]] ++ lengthened.drop bestEnd
    if runs.bestStart = 0 then [] :: shortened else shortened
  else hextets

/-- `IPv6Address._string_from_ip_int` -/
def v6Text (ip : BitVec 128) : List Char :=
  [':'].intercalate (compressHextets ((positions 65536 8 ip.toNat).map (Nat.toDigits 16)))

namespace IpAddress

/-- `str(address)` -/
def str : IpAddress → List Char
  | v4 ip => v4Text ip
  | v6 ip none => v6Text ip
  | v6 ip (some scopeId) => v6Text ip ++ '%' :: scopeId

/-- `int(address)` -/
def toInt : IpAddress → Nat
  | v4 ip => ip.toNat
  | v6 ip _ => ip.toNat

/-- `address.version` -/
def version : IpAddress → Nat
  | v4 _ => 4
  | v6 _ _ => 6

/-- `ip_address(value)` of a number; `none` is a `ValueError`. -/
def ofInt (value : Nat) : Option IpAddress :=
  if value < 2 ^ 32 then some (v4 (BitVec.ofNat 32 value))
  else if value < 2 ^ 128 then some (v6 (BitVec.ofNat 128 value) none)
  else none

end IpAddress

end NodePilot.Urls

namespace NodePilot.Addresses

open Urls

/-! ## The range of a pool -/

/-- The columns of `IPPool`. -/
structure PoolColumns where
  startAddress : List Char
  endAddress : List Char

/-- All that `IPPool.address_range` yields; `none` is a `ValueError`. -/
def PoolColumns.addressRange (pool : PoolColumns) : Option (List (List Char)) := do
  let start := (← ipAddress pool.startAddress).toInt
  let last := (← ipAddress pool.endAddress).toInt
  (List.range (last + 1 - start)).mapM fun k => (IpAddress.ofInt (start + k)).map IpAddress.str

/-- An address of the rows, as `ipaddress` has it. -/
def Address.ip : Address → IpAddress
  | .v4 value => .v4 (BitVec.ofNat 32 value)
  | .v6 value => .v6 (BitVec.ofNat 128 value) none

/-- The columns of a pool. -/
def IpPool.columns (pool : IpPool) : PoolColumns := ⟨pool.startAddress.ip.str, pool.endAddress.ip.str⟩

end NodePilot.Addresses

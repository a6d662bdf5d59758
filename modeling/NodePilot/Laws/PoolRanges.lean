import NodePilot.Laws.FirstFit
import NodePilot.Lib.Traversal

/-!
# Addresses of the subnet

Nothing relates a pool to its subnet: the serializer takes any two addresses for its ends, and `allocate_ip` any
number between them. So the addresses that are allocated are in the subnet exactly where the ends of every pool
that is not empty are, each read back from its number.
-/

namespace NodePilot.Addresses

open Lib Lib.Script

/-- `address.version` -/
def Address.version : Address → Nat
  | .v4 _ => 4
  | .v6 _ => 6

/-- Whatever rows there are, an address that `allocate_ip` returns is in the subnet, and of its family. -/
def AllocatesWithin (subnet : Subnet) (pools : List IpPool) : Prop :=
  ∀ rows note address s', alone sequential (allocateIp subnet none note) () { rows := rows, pools := pools } =
    some (.ok address, (), s') → subnet.contains address = true ∧ address.version = subnet.network.version

variable {subnet : Subnet} {pools : List IpPool} {pool : IpPool} {address : Address}

theorem version_of_contains (h : subnet.contains address = true) : address.version = subnet.network.version := by
  unfold Subnet.contains at h
  cases address <;> cases network : subnet.network <;> simp_all [Address.version]

theorem mem_addressRange : address ∈ pool.addressRange ↔
    ∃ value, pool.startAddress.toNat ≤ value ∧ value ≤ pool.endAddress.toNat ∧ address = .ofNat value :=
  mem_map_range_add

theorem contains_ofNat (value : Nat) : subnet.contains (.ofNat value) = true ↔ match subnet.network with
    | .v4 network => value < 2 ^ 32 ∧
        value / 2 ^ (32 - subnet.prefixLength) = network / 2 ^ (32 - subnet.prefixLength)
    | .v6 network => ¬ value < 2 ^ 32 ∧
        value / 2 ^ (128 - subnet.prefixLength) = network / 2 ^ (128 - subnet.prefixLength) := by
  unfold Address.ofNat
  by_cases low : value < 2 ^ 32
  · rw [if_pos low, Subnet.contains]
    cases subnet.network with
    | v4 =>
      rw [decide_eq_true_eq]
      exact ⟨fun same => ⟨low, same⟩, And.right⟩
    | v6 => exact ⟨nofun, fun h => absurd low h.1⟩
  · rw [if_neg low, Subnet.contains]
    cases subnet.network with
    | v4 => exact ⟨nofun, fun h => absurd h.1 low⟩
    | v6 =>
      rw [decide_eq_true_eq]
      exact ⟨fun same => ⟨low, same⟩, And.right⟩

/-- A number between two others that agree from some binary place on agrees with them. -/
theorem div_between {low high value network k : Nat} (first : low / k = network) (last : high / k = network)
    (above : low ≤ value) (below : value ≤ high) : value / k = network := by
  apply Nat.le_antisymm
  · rw [← last]
    exact Nat.div_le_div_right below
  · rw [← first]
    exact Nat.div_le_div_right above

/-- What is between two addresses of a subnet belongs to it. -/
theorem contains_between {low high value : Nat} (first : subnet.contains (.ofNat low) = true)
    (last : subnet.contains (.ofNat high) = true) (above : low ≤ value) (below : value ≤ high) :
    subnet.contains (.ofNat value) = true := by
  rw [contains_ofNat] at first last ⊢
  cases network : subnet.network with
  | v4 =>
    simp only [network] at first last ⊢
    exact ⟨by omega, div_between first.2 last.2 above below⟩
  | v6 =>
    simp only [network] at first last ⊢
    exact ⟨by omega, div_between first.2 last.2 above below⟩

/-- Every address of a pool can be the one that is left. -/
theorem exists_allocated (h : address ∈ tried pools) (subnet : Subnet) (note : String) : ∃ rows s',
    alone sequential (allocateIp subnet none note) () { rows := rows, pools := pools } =
      some (.ok address, (), s') := by
  let rows : Rows := fun a => if a = address then none else some { state := .allocated }
  obtain ⟨s', ends⟩ := @alone_allocateIp rows pools subnet note
  have only : (tried pools).find? (free rows) = some address := by
    apply find?_of_only h
    · simp [free, rows]
    · intro other _ left
      by_contra taken
      simp [free, rows, taken] at left
  rw [only] at ends
  exact ⟨rows, s', ends.1⟩

/-- The ends of a pool, unless it is empty, are in the subnet. -/
def Subnet.spans (subnet : Subnet) (pool : IpPool) : Bool :=
  pool.startAddress.toNat ≤ pool.endAddress.toNat →
    subnet.contains (.ofNat pool.startAddress.toNat) = true ∧ subnet.contains (.ofNat pool.endAddress.toNat) = true

/-- **When allocated addresses belong to the subnet.** -/
theorem allocatesWithin_iff (subnet : Subnet) (pools : List IpPool) :
    AllocatesWithin subnet pools ↔ ∀ pool ∈ pools, subnet.spans pool = true := by
  constructor
  · intro within pool known
    have inside (value : Nat) (above : pool.startAddress.toNat ≤ value) (below : value ≤ pool.endAddress.toNat) :
        subnet.contains (.ofNat value) = true := by
      have listed : Address.ofNat value ∈ tried pools :=
        List.mem_flatMap.mpr ⟨pool, known, mem_addressRange.mpr ⟨value, above, below, rfl⟩⟩
      obtain ⟨rows, s', allocated⟩ := exists_allocated listed subnet ""
      exact (within rows "" _ s' allocated).1
    rw [Subnet.spans, decide_eq_true_eq]
    intro some
    exact ⟨inside _ (Nat.le_refl _) some, inside _ some (Nat.le_refl _)⟩
  · intro spans rows note address s' allocated
    have listed : address ∈ tried pools := by
      obtain ⟨s'', ends⟩ := @alone_allocateIp rows pools subnet note
      cases found : (tried pools).find? (free rows) with
      | none =>
        rw [found] at ends
        obtain ⟨e, raised, -⟩ := ends
        rw [raised] at allocated
        cases allocated
      | some first =>
        rw [found] at ends
        rw [ends.1] at allocated
        cases allocated
        exact List.mem_of_find?_eq_some found
    obtain ⟨pool, known, inRange⟩ := List.mem_flatMap.mp listed
    obtain ⟨value, above, below, rfl⟩ := mem_addressRange.mp inRange
    have ends := spans pool known
    rw [Subnet.spans, decide_eq_true_eq] at ends
    obtain ⟨first, last⟩ := ends (above.trans below)
    have inside := contains_between first last above below
    exact ⟨inside, version_of_contains inside⟩

/-! ## A pool elsewhere -/

/-- 10.20.120.0/24 -/
def prodSubnet : Subnet := ⟨"10.20.120.0/24", .v4 169113600, 24⟩

/-- 10.20.121.5 to 10.20.121.9 -/
def nextDoor : IpPool := ⟨.v4 169113861, .v4 169113865⟩

/-- The API accepts the pool for the subnet, and an address of the next subnet is allocated. -/
theorem allocated_next_door : ¬ ∀ (subnet : Subnet) (pools : List IpPool), subnet.accepted = true →
    (∀ pool ∈ pools, pool.accepted = true) → AllocatesWithin subnet pools := by
  intro always
  have within := always prodSubnet [nextDoor] (by decide) (by decide)
  have listed : Address.v4 169113861 ∈ tried [nextDoor] := by decide
  obtain ⟨rows, s', allocated⟩ := exists_allocated listed prodSubnet ""
  have inside := (within rows "" _ s' allocated).1
  revert inside
  decide

end NodePilot.Addresses

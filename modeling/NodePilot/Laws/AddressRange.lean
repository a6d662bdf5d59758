import NodePilot.Laws.AddressTexts

/-!
# The range of a pool

`address_range` makes numbers of the ends and addresses of the numbers between them. So it yields the addresses of the
family in their order, each once; but an IPv6 address with a number below `2 ^ 32` comes back as an IPv4 address.
-/

namespace NodePilot.Urls.IpAddress

variable {a : IpAddress} {value : Nat}

/-- An address without a scope: the others have a number that is not theirs alone. -/
def Unscoped : IpAddress → Prop
  | v6 _ (some _) => False
  | _ => True

theorem Unscoped.wellFormed (unscoped : a.Unscoped) : a.WellFormed := by
  cases a with
  | v4 => trivial
  | v6 ip scope =>
    cases scope with
    | none => trivial
    | some scopeId => exact unscoped.elim

theorem toInt_lt (a : IpAddress) : a.toInt < 2 ^ 128 := by
  cases a with
  | v4 ip => exact ip.isLt.trans (by decide)
  | v6 ip scope => exact ip.isLt

/-- The address that is made of a number. -/
def numbered (value : Nat) : IpAddress :=
  if value < 2 ^ 32 then v4 (BitVec.ofNat 32 value) else v6 (BitVec.ofNat 128 value) none

theorem ofInt_eq (small : value < 2 ^ 128) : ofInt value = some (numbered value) := by
  rw [ofInt, numbered, if_pos small]
  split <;> rfl

theorem unscoped_numbered (value : Nat) : (numbered value).Unscoped := by
  rw [numbered]
  split <;> trivial

theorem toInt_numbered (small : value < 2 ^ 128) : (numbered value).toInt = value := by
  rw [numbered]
  split
  · next low => exact (BitVec.toNat_ofNat value 32).trans (Nat.mod_eq_of_lt low)
  · exact (BitVec.toNat_ofNat value 128).trans (Nat.mod_eq_of_lt small)

theorem version_numbered (value : Nat) : (numbered value).version = if value < 2 ^ 32 then 4 else 6 := by
  rw [numbered]
  split <;> rfl

/-- An address without a scope comes back from its number if its family does. -/
theorem numbered_toInt (unscoped : a.Unscoped) (family : a.version = (numbered a.toInt).version) :
    numbered a.toInt = a := by
  rw [version_numbered] at family
  cases a with
  | v4 ip =>
    have low : (v4 ip).toInt < 2 ^ 32 := ip.isLt
    rw [numbered, if_pos low, toInt]
    simp
  | v6 ip scope =>
    have high : ¬ (v6 ip scope).toInt < 2 ^ 32 := by
      intro low
      rw [if_pos low] at family
      cases family
    cases scope with
    | none =>
      rw [numbered, if_neg high, toInt]
      simp
    | some scopeId => exact unscoped.elim

end NodePilot.Urls.IpAddress

namespace NodePilot.Addresses

open Lib Urls

variable {pool : PoolColumns} {first last : IpAddress}

/-- The address is of the family of the ends, and between them. -/
def Between (first last a : IpAddress) : Prop :=
  a.version = first.version ∧ a.Unscoped ∧ first.toInt ≤ a.toInt ∧ a.toInt ≤ last.toInt

/-- **The range is exact**: what is yielded are the texts of the addresses of the family from `first` to `last`, in
increasing order and none of them twice. -/
structure Exact (first last : IpAddress) (yielded : List (List Char)) : Prop where
  ordered : ∃ addresses : List IpAddress, yielded = addresses.map IpAddress.str ∧
    addresses.Pairwise (fun a b => a.toInt < b.toInt) ∧ ∀ a, a ∈ addresses ↔ Between first last a
  nodup : yielded.Nodup

/-- The addresses that are made of the numbers from one to another. -/
def numbers (low high : Nat) : List IpAddress := (List.range (high + 1 - low)).map fun k => .numbered (low + k)

theorem mem_numbers {low high : Nat} {a : IpAddress} :
    a ∈ numbers low high ↔ ∃ value, low ≤ value ∧ value ≤ high ∧ a = .numbered value :=
  mem_map_range_add

/-- What a pool yields whose ends are addresses. -/
theorem addressRange_eq (start : ipAddress pool.startAddress = some first) (stop : ipAddress pool.endAddress = some last) :
    pool.addressRange = some ((numbers first.toInt last.toInt).map IpAddress.str) := by
  have bound := last.toInt_lt
  rw [PoolColumns.addressRange, start, stop, numbers, List.map_map]
  apply mapM_eq_some_map
  intro k inside
  have below := List.mem_range.mp inside
  rw [IpAddress.ofInt_eq (by omega)]
  rfl

theorem pairwise_numbers {low high : Nat} (bound : high < 2 ^ 128) :
    (numbers low high).Pairwise fun a b => a.toInt < b.toInt := by
  rw [numbers, List.pairwise_map]
  refine List.pairwise_lt_range.imp_of_mem ?_
  intro j k hj hk before
  have below := List.mem_range.mp hj
  have below' := List.mem_range.mp hk
  rw [IpAddress.toInt_numbered (by omega), IpAddress.toInt_numbered (by omega)]
  omega

/-- The texts of addresses in increasing order are different. -/
theorem nodup_texts {addresses : List IpAddress} (unscoped : ∀ a ∈ addresses, a.Unscoped)
    (increasing : addresses.Pairwise fun a b => a.toInt < b.toInt) : (addresses.map IpAddress.str).Nodup := by
  rw [List.Nodup, List.pairwise_map]
  refine increasing.imp_of_mem ?_
  intro a b ha hb before same
  rw [str_injective (unscoped a ha).wellFormed (unscoped b hb).wellFormed same] at before
  exact Nat.lt_irrefl _ before

/-- Where every number between the ends makes an address of the family, the range is exact. -/
theorem exact_of_family (family : ∀ value, first.toInt ≤ value → value ≤ last.toInt →
      (IpAddress.numbered value).version = first.version) :
    Exact first last ((numbers first.toInt last.toInt).map IpAddress.str) := by
  have bound := last.toInt_lt
  have unscoped : ∀ a ∈ numbers first.toInt last.toInt, a.Unscoped := by
    intro a mem
    obtain ⟨value, -, -, rfl⟩ := mem_numbers.mp mem
    exact IpAddress.unscoped_numbered value
  have increasing := @pairwise_numbers first.toInt last.toInt bound
  refine ⟨⟨_, rfl, increasing, fun a => ⟨?_, ?_⟩⟩, nodup_texts unscoped increasing⟩
  · intro mem
    obtain ⟨value, above, below, rfl⟩ := mem_numbers.mp mem
    have number : (IpAddress.numbered value).toInt = value := IpAddress.toInt_numbered (by omega)
    refine ⟨family value above below, IpAddress.unscoped_numbered value, ?_⟩
    rw [number]
    exact ⟨above, below⟩
  · rintro ⟨version, unscoped, above, below⟩
    have back := IpAddress.numbered_toInt unscoped (version.trans (family _ above below).symm)
    exact mem_numbers.mpr ⟨a.toInt, above, below, back.symm⟩

theorem version_cases (a : IpAddress) : a.version = 4 ∧ a.toInt < 2 ^ 32 ∨ a.version = 6 := by
  cases a with
  | v4 ip => exact .inl ⟨rfl, ip.isLt⟩
  | v6 => exact .inr rfl

/-- An IPv6 range that is not empty and begins below `2 ^ 32` begins with an IPv4 address. -/
theorem not_exact_of_low (v6 : first.version = 6) (nonempty : first.toInt ≤ last.toInt) (low : first.toInt < 2 ^ 32) :
    ¬ Exact first last ((numbers first.toInt last.toInt).map IpAddress.str) := by
  intro range
  obtain ⟨addresses, yielded, -, between⟩ := range.ordered
  have begins : IpAddress.numbered first.toInt ∈ numbers first.toInt last.toInt :=
    mem_numbers.mpr ⟨_, Nat.le_refl _, nonempty, rfl⟩
  have text := List.mem_map_of_mem (f := IpAddress.str) begins
  rw [yielded] at text
  obtain ⟨a, mem, same⟩ := List.mem_map.mp text
  obtain ⟨version, unscoped, -⟩ := (between a).mp mem
  rw [str_injective unscoped.wellFormed (IpAddress.unscoped_numbered _).wellFormed same, IpAddress.version_numbered,
    if_pos low, v6] at version
  cases version

/-- **When the range of a pool is exact**: the ends are IPv4 addresses, the range is empty, or it begins at `2 ^ 32` or
above. -/
theorem addressRange_exact_iff (start : ipAddress pool.startAddress = some first)
    (stop : ipAddress pool.endAddress = some last) (family : first.version = last.version) :
    (∃ yielded, pool.addressRange = some yielded ∧ Exact first last yielded) ↔
      first.version = 4 ∨ last.toInt < first.toInt ∨ 2 ^ 32 ≤ first.toInt := by
  constructor
  · rintro ⟨yielded, ends, range⟩
    rw [addressRange_eq start stop] at ends
    cases ends
    by_contra bad
    rw [not_or, not_or, Nat.not_lt, Nat.not_le] at bad
    obtain ⟨notV4, nonempty, low⟩ := bad
    have v6 : first.version = 6 := (version_cases first).resolve_left fun v4 => notV4 v4.1
    exact not_exact_of_low v6 nonempty low range
  · intro fine
    refine ⟨_, addressRange_eq start stop, exact_of_family fun value above below => ?_⟩
    rw [IpAddress.version_numbered]
    rcases version_cases first with ⟨v4, -⟩ | v6
    · have small : last.toInt < 2 ^ 32 := by
        rcases version_cases last with ⟨-, small⟩ | v6
        · exact small
        · rw [← family, v4] at v6
          cases v6
      rw [if_pos (by omega), v4]
    · rw [if_neg ?_, v6]
      rcases fine with v4 | empty | high
      · rw [v6] at v4
        cases v4
      · omega
      · omega

/-- From `10.0.0.9` to `10.0.0.11`. -/
theorem addressRange_exact_tens : (∃ yielded,
    (PoolColumns.mk "10.0.0.9".toList "10.0.0.11".toList).addressRange = some yielded ∧
      Exact (.v4 0x0a000009) (.v4 0x0a00000b) yielded) ↔
    (4 : Nat) = 4 ∨ 0x0a00000b < 0x0a000009 ∨ 2 ^ 32 ≤ 0x0a000009 :=
  addressRange_exact_iff rfl rfl rfl

/-- From `::1` to `::2` what is yielded are `0.0.0.1` and `0.0.0.2`. -/
theorem low_range_inexact : ¬ ∃ yielded, (PoolColumns.mk "::1".toList "::2".toList).addressRange = some yielded ∧
    Exact (.v6 1 none) (.v6 2 none) yielded := by
  rintro ⟨yielded, ends, range⟩
  rw [@addressRange_eq _ (.v6 1 none) (.v6 2 none) rfl rfl] at ends
  cases ends
  exact not_exact_of_low rfl (by decide) (by decide) range

example : (PoolColumns.mk "::1".toList "::2".toList).addressRange = some ["0.0.0.1".toList, "0.0.0.2".toList] := by
  rfl

/-! ## The rows -/

theorem unscoped_ip (address : Address) : address.ip.Unscoped := by
  cases address <;> trivial

theorem ipAddress_ip (address : Address) : ipAddress address.ip.str = some address.ip :=
  ipAddress_str (unscoped_ip address).wellFormed

theorem toInt_ip {address : Address} (valid : address.valid = true) : address.ip.toInt = address.toNat := by
  cases address with
  | v4 value => exact (BitVec.toNat_ofNat value 32).trans (Nat.mod_eq_of_lt (of_decide_eq_true valid))
  | v6 value => exact (BitVec.toNat_ofNat value 128).trans (Nat.mod_eq_of_lt (of_decide_eq_true valid))

theorem ip_ofNat (value : Nat) : (Address.ofNat value).ip = .numbered value := by
  rw [Address.ofNat, IpAddress.numbered]
  split <;> rfl

/-- **Texts and rows**: the columns of a pool that the API has accepted yield the texts of the addresses that the pool
of the rows has. -/
theorem addressRange_columns {rows : IpPool} (accepted : rows.accepted = true) :
    rows.columns.addressRange = some (rows.addressRange.map fun address => address.ip.str) := by
  obtain ⟨start, stop⟩ : rows.startAddress.valid = true ∧ rows.endAddress.valid = true :=
    of_decide_eq_true accepted
  rw [addressRange_eq (ipAddress_ip rows.startAddress) (ipAddress_ip rows.endAddress), toInt_ip start, toInt_ip stop,
    numbers, IpPool.addressRange, List.map_map, List.map_map]
  simp only [Function.comp_def, ip_ofNat]

end NodePilot.Addresses

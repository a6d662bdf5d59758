import Mathlib
import NodePilot.Laws.HostLinks
import NodePilot.Lib.Separators
import NodePilot.Networks

/-!
# The names of VLAN networks

The uplink and the dedicated bridge of a VLAN network are named after its bridge and its VLAN. Two
VLAN networks share such a name only when they share both, since a number has no dot in decimal. But
a bridge may itself be called so: `vmbr0.120b` is accepted as the bridge of another network, and its
NICs then attach to the dedicated bridge of VLAN 120 on `vmbr0`.
-/

namespace NodePilot.Networks

open Lib Lib.Script Agent

/-! ## Decimal names -/

/-- `vlan_interface_name`, of a name that is accepted. -/
def uplink (bridge : Text) (vlan : Nat) : Text := bridge ++ ".".toList ++ decimal vlan

/-- `vlan_bridge_name`, of a name that is accepted. -/
def dedicated (bridge : Text) (vlan : Nat) : Text := uplink bridge vlan ++ "b".toList

theorem decimal_natCast (n : Nat) : decimal n = Nat.toDigits 10 n := by
  show (Nat.repr n).toList = Nat.toDigits 10 n
  simp [Nat.repr]

/-- A decimal name has digits only. -/
theorem isDigit_of_mem_decimal {n : Nat} {c : Char} (h : c ∈ decimal n) : c.isDigit := by
  rw [decimal_natCast] at h
  exact Nat.isDigit_of_mem_toDigits (by decide) (by decide) h

/-- Numbers with the same name are the same. -/
theorem decimal_injective {m n : Nat} (h : decimal m = decimal n) : m = n := by
  rw [decimal_natCast, decimal_natCast] at h
  refine Nat.repr_injective ?_
  simp only [Nat.repr, h]

/-- The number of a VLAN has four digits at most. -/
theorem length_decimal_le {n : Nat} (h : n ≤ 4094) : (decimal n).length ≤ 4 := by
  rw [decimal_natCast, Nat.length_toDigits_le_iff (by decide) (by decide)]
  omega

theorem decimal_ne_nil (n : Nat) : decimal n ≠ [] := by
  rw [decimal_natCast]
  exact Nat.toDigits_ne_nil

/-- The last dot splits a text in one way only. -/
theorem uplink_injective {a b : Text} {m n : Nat} (h : uplink a m = uplink b n) : a = b ∧ m = n := by
  have dotless : ∀ k : Nat, '.' ∉ decimal k := fun k hk =>
    absurd (isDigit_of_mem_decimal hk) (by decide)
  have split : a ++ '.' :: decimal m = b ++ '.' :: decimal n := by simpa [uplink] using h
  obtain ⟨rfl, digits⟩ := append_last_sep_inj (dotless m) (dotless n) split
  exact ⟨rfl, decimal_injective digits⟩

/-- The bridge of a VLAN tells its parent and its number. -/
theorem dedicated_injective {a b : Text} {m n : Nat} (h : dedicated a m = dedicated b n) :
    a = b ∧ m = n :=
  uplink_injective (List.append_cancel_right h)

/-- An uplink ends with a digit, a dedicated bridge with a letter. -/
theorem uplink_ne_dedicated {a b : Text} {m n : Nat} : uplink a m ≠ dedicated b n := by
  intro h
  have last := congrArg List.getLast? h
  rw [dedicated, uplink, List.getLast?_append_of_ne_nil _ (decimal_ne_nil m)] at last
  have letter : (decimal m).getLast? = some 'b' := last.trans (by simp)
  exact absurd (isDigit_of_mem_decimal (List.mem_of_getLast? letter)) (by decide)

/-! ## Accepted rows -/

/-- The serializer accepts the row's bridge and VLAN, among some rows and for some spelling. -/
def Accepted (net : NetworkRow) : Prop :=
  ∃ rows data, data.node = net.node ∧ isValid rows data = .ok (net.bridge.toList, net.vlanId)

/-- An interface name without a line feed at its end. -/
def plainName (name : Text) : Prop :=
  ∃ c rest, name = c :: rest ∧ isAlnum c ∧ rest.length ≤ 14 ∧
    (rest.all fun c => isAlnum c || c = '_' || c = '.' || c = '-') ∧ name.getLast? ≠ some '\n'

/-- A plain name is a safe one that does not end in a line break. -/
theorem plainName_iff {name : Text} :
    plainName name ↔ safeIface name ∧ name.getLast? ≠ some '\n' := by
  unfold plainName safeIface
  constructor
  · rintro ⟨c, rest, rfl, first, short, others, last⟩
    rw [if_neg last]
    simp [first, short, others, last]
  · rintro ⟨safe, last⟩
    rw [if_neg last] at safe
    cases name with
    | nil => cases safe
    | cons c rest =>
      simp only [Bool.and_eq_true, decide_eq_true_eq] at safe
      exact ⟨c, rest, rfl, safe.1.1, safe.1.2, safe.2, last⟩

/-- What is stripped ends in no blank. -/
theorem getLast?_strip_ne {text : Text} {c : Char} (h : isSpace c) :
    (strip text).getLast? ≠ some c := by
  intro last
  unfold strip at last
  rw [List.getLast?_reverse] at last
  have kept := List.head?_dropWhile_not isSpace (text.dropWhile isSpace).reverse
  rw [last] at kept
  exact absurd (h.symm.trans kept) (by decide)

/-- A bridge that passes has a plain name. -/
theorem validateBridge_ok {bridge value : Text} (h : validateBridge bridge = .ok value) :
    plainName value := by
  unfold validateBridge at h
  dsimp only at h
  split_ifs at h with blank long null safe
  cases h
  exact plainName_iff.mpr ⟨safe, getLast?_strip_ne (by decide)⟩

/-- A VLAN that passes is in the range. -/
theorem validateVlanId_ok {vlanId : Option Int} {value : Option Nat}
    (h : validateVlanId vlanId = .ok value) : ∀ v ∈ value, 1 ≤ v ∧ v ≤ 4094 := by
  unfold validateVlanId at h
  intro v hv
  split at h
  · cases h
    cases hv
  · split_ifs at h with range
    cases h
    cases hv
    omega

/-- What the serializer accepts has passed both checks. -/
theorem isValid_ok {rows : List NetworkRow} {data : NetworkData} {bridge : Text}
    {vlanId : Option Nat} (h : isValid rows data = .ok (bridge, vlanId)) :
    plainName bridge ∧ uniqueTogether rows data.node bridge vlanId ∧
      ∀ v ∈ vlanId, (1 ≤ v ∧ v ≤ 4094) ∧ bridge.length ≤ 9 := by
  unfold isValid at h
  split at h
  case h_1 b v hb hv =>
    split_ifs at h with unique
    split at h
    case h_1 fits =>
      cases h
      refine ⟨validateBridge_ok hb, unique, fun v hv' => ⟨validateVlanId_ok hv v hv', ?_⟩⟩
      unfold validate at fits
      split_ifs at fits with long
      have some : vlanId.isSome := Option.isSome_iff_exists.mpr ⟨v, hv'⟩
      have len : vlanBridgeSuffixLen = 6 := by decide
      have short := not_lt.mp fun h => long ⟨some, h⟩
      rw [len, maxIfaceLen] at short
      omega
    case h_2 => cases h
  all_goals cases h

/-- The bridge of an accepted row has a plain name. -/
theorem Accepted.plain {net : NetworkRow} (h : Accepted net) : plainName net.bridge.toList := by
  obtain ⟨rows, data, -, valid⟩ := h
  exact (isValid_ok valid).1

/-- The VLAN of an accepted row is in the range, and its names fit. -/
theorem Accepted.range {net : NetworkRow} (h : Accepted net) {v : Nat} (hv : net.vlanId = some v) :
    (1 ≤ v ∧ v ≤ 4094) ∧ net.bridge.toList.length ≤ 9 := by
  obtain ⟨rows, data, -, valid⟩ := h
  exact (isValid_ok valid).2.2 v hv

/-- Letters, digits and dots may follow an accepted name as long as it stays short. -/
theorem plainName_append {name tail : Text} (h : plainName name)
    (short : name.length + tail.length ≤ 15) (nonempty : tail ≠ [])
    (fits : ∀ c ∈ tail, isAlnum c ∨ c = '.') : plainName (name ++ tail) := by
  obtain ⟨c, rest, rfl, first, -, others, -⟩ := h
  refine ⟨c, rest ++ tail, rfl, first, ?_, ?_, ?_⟩
  · rw [List.length_append]
    rw [List.length_cons] at short
    omega
  · rw [List.all_append, others, Bool.true_and, List.all_eq_true]
    intro c hc
    rcases fits c hc with alnum | rfl
    · simp [alnum]
    · decide
  · rw [List.getLast?_append_of_ne_nil _ nonempty]
    intro last
    rcases fits _ (List.mem_of_getLast? last) with alnum | dot
    · exact absurd alnum (by decide)
    · exact absurd dot (by decide)

theorem isAlnum_of_isDigit {c : Char} (h : c.isDigit) : isAlnum c := by
  simp [isAlnum, Char.isAlphanum, h]

/-- The uplink of an accepted row has a plain name. -/
theorem Accepted.uplink {net : NetworkRow} (h : Accepted net) {v : Nat} (hv : net.vlanId = some v) :
    plainName (uplink net.bridge.toList v) := by
  obtain ⟨⟨_, le⟩, short⟩ := h.range hv
  unfold Networks.uplink
  rw [List.append_assoc]
  refine plainName_append h.plain ?_ (by simp) ?_
  · have := length_decimal_le le
    simp
    omega
  · intro c hc
    rcases List.mem_append.mp hc with hc | hc
    · exact .inr (by simpa using hc)
    · exact .inl (isAlnum_of_isDigit (isDigit_of_mem_decimal hc))

/-- So has its bridge. -/
theorem Accepted.dedicated {net : NetworkRow} (h : Accepted net) {v : Nat}
    (hv : net.vlanId = some v) : plainName (dedicated net.bridge.toList v) := by
  obtain ⟨⟨_, le⟩, short⟩ := h.range hv
  refine plainName_append (h.uplink hv) ?_ (by simp) ?_
  · have := length_decimal_le le
    simp [Networks.uplink]
    omega
  · intro c hc
    have letter : c = 'b' := by simpa using hc
    exact .inl (letter ▸ by decide)

/-! ## Created links and attached NICs -/

/-- There is a host on which `create_network` makes a link of that name for the row. -/
def Creates (net : NetworkRow) (name : Text) : Prop :=
  ∃ s : Host, ¬ s.links.present name ∧
    (Host.execute (Agent.createNetwork (networkRequest .createNetwork net).payload)
      s).2.links.present name

/-- A NIC of the network, with no VLAN but the network's, is attached to the bridge: when its domain
is created, or when it is plugged in. -/
def Attaches (net : NetworkRow) (bridge : Text) : Prop :=
  ∃ (vm : VmRow) (nic : NicRow), orNat nic.vlan net.vlanId = net.vlanId ∧
    (nicTargetBridge (nicPayload vm nic net) = .ok bridge ∨
      ∃ fields, domainNic nic net = .obj fields ∧ resolveNicBridge fields = .ok bridge)

/-- The bridge that NICs attach to. -/
def attachBridge (net : NetworkRow) : Text :=
  match net.vlanId with
  | some v => dedicated net.bridge.toList v
  | none => net.bridge.toList

/-- The links that stand for the VLAN. -/
def vlanLinks (net : NetworkRow) : List Text :=
  match net.vlanId with
  | some v => [uplink net.bridge.toList v, dedicated net.bridge.toList v]
  | none => []

/-- The agent resolves the bridge of an accepted row. -/
theorem Accepted.nicBridge {net : NetworkRow} (h : Accepted net) (nic : Dict)
    (hv : nic.get? "vlan" = some (.ofNat? net.vlanId)) :
    nicBridge nic net.bridge.toList = .ok (attachBridge net) := by
  unfold Agent.nicBridge attachBridge
  rw [hv]
  cases hvlan : net.vlanId with
  | none => rfl
  | some v =>
    have positive : v ≠ 0 := by have := (h.range hvlan).1; omega
    have safe := (plainName_iff.mp (h.dedicated hvlan)).1
    simp only [Json.ofNat?, Nat.cast_eq_zero, positive, if_false]
    rw [vlanBridgeName, validateIface]
    exact if_pos safe

/-- A NIC without a VLAN of its own is attached to the network's bridge. -/
theorem Accepted.attaches {net : NetworkRow} (h : Accepted net) {vm : VmRow} {nic : NicRow}
    (own : orNat nic.vlan net.vlanId = net.vlanId) :
    nicTargetBridge (nicPayload vm nic net) = .ok (attachBridge net) := by
  refine h.nicBridge (nicPayload vm nic net) ?_
  rw [← own]
  rfl

/-- Both ways to attach a NIC of the network lead to the same bridge. -/
theorem Attaches.eq {net : NetworkRow} (h : Accepted net) {bridge : Text} (ha : Attaches net bridge) :
    bridge = attachBridge net := by
  obtain ⟨vm, nic, own, target | ⟨fields, hfields, target⟩⟩ := ha
  · exact Except.ok.inj (target.symm.trans (h.attaches own))
  · unfold domainNic at hfields
    injection hfields with hfields
    have vlan : Dict.get? fields "vlan" = some (.ofNat? (orNat nic.vlan net.vlanId)) := by
      rw [← hfields]
      rfl
    rw [own] at vlan
    have same : resolveNicBridge fields = nicBridge fields net.bridge.toList := by
      rw [← hfields]
      rfl
    exact Except.ok.inj (target.symm.trans (same.trans (h.nicBridge _ vlan)))

/-- The agent reads the VLAN that the row has. -/
theorem Accepted.vlanIdOf {net : NetworkRow} (h : Accepted net) (operation : OperationType) :
    vlanIdOf (networkRequest operation net).payload = net.vlanId.map Nat.cast := by
  have found : Dict.get? (networkRequest operation net).payload "vlan_id" =
      some (.ofNat? net.vlanId) := rfl
  unfold Agent.vlanIdOf
  rw [found]
  cases hv : net.vlanId with
  | none => rfl
  | some v =>
    have positive : v ≠ 0 := by have := (h.range hv).1; omega
    simp [Json.ofNat?, positive]

/-- The handler of CREATE_NETWORK on a row with a VLAN. -/
theorem Accepted.create_vlan {net : NetworkRow} (h : Accepted net) {v : Nat}
    (hv : net.vlanId = some v) :
    Agent.createNetwork (networkRequest .createNetwork net).payload =
      ensureVlanNetwork net.bridge.toList v := by
  have vlan := h.vlanIdOf .createNetwork
  rw [hv] at vlan
  unfold Agent.createNetwork
  rw [vlan]
  rfl

/-- A network without VLAN is one bridge. -/
theorem Accepted.create_plain {net : NetworkRow} (h : Accepted net) (hv : net.vlanId = none) :
    Agent.createNetwork (networkRequest .createNetwork net).payload =
      (do createBridge net.bridge.toList; return net.bridge.toList) := by
  have vlan := h.vlanIdOf .createNetwork
  rw [hv] at vlan
  unfold Agent.createNetwork
  rw [vlan]
  rfl

/-- Whatever happens on the host, CREATE_NETWORK makes no other links than these. -/
theorem Creates.mem {net : NetworkRow} (h : Accepted net) {name : Text} (made : Creates net name) :
    name ∈ net.bridge.toList :: vlanLinks net := by
  obtain ⟨s, absent, there⟩ := made
  refine (Adds.present (Q := fun _ => True) ?_ there).resolve_left absent
  cases hv : net.vlanId with
  | none =>
    rw [h.create_plain hv]
    exact Obeys.bind (adds_createBridge List.mem_cons_self) fun _ _ => Obeys.pure trivial
  | some v =>
    rw [h.create_vlan hv]
    refine adds_ensureVlanNetwork List.mem_cons_self ?_ ?_
    · simp [vlanLinks, hv, uplink]
    · simp [vlanLinks, hv, uplink, dedicated]

/-- On a host without links, all of them are made. -/
theorem Accepted.creates {net : NetworkRow} (h : Accepted net) {name : Text}
    (mem : name ∈ net.bridge.toList :: vlanLinks net) : Creates net name := by
  have safe := (plainName_iff.mp h.plain).1
  refine ⟨{ links := [] }, by simp [Links.present], ?_⟩
  cases hv : net.vlanId with
  | none =>
    have made : Does [] (createBridge net.bridge.toList >>= fun _ => pure net.bridge.toList) _ _ :=
      Does.bind (Does.createBridge safe (by simp [Links.present])) Does.pure
    rw [h.create_plain hv, made.present, Links.present_iff]
    rwa [vlanLinks, hv] at mem
  | some v =>
    have range : (1 : Int) ≤ v ∧ (v : Int) ≤ 4094 := by exact_mod_cast (h.range hv).1
    rw [h.create_vlan hv, Does.present (Does.ensureVlanNetwork range safe
      (plainName_iff.mp (h.uplink hv)).1 (plainName_iff.mp (h.dedicated hv)).1), Links.present_iff]
    rwa [vlanLinks, hv] at mem

/-! ## Isolation -/

/-- The first network is kept apart from the second: their NICs attach to different bridges, and no
link that its creation makes for a VLAN has a name that the second one uses. -/
def IsolatedFrom (a b : NetworkRow) : Prop :=
  (∀ x y, Attaches a x → Attaches b y → x ≠ y) ∧
    ∀ name, Creates a name → name ≠ a.bridge.toList →
      name ≠ b.bridge.toList ∧ ¬ Creates b name

/-- The bridge of the row is called after the other row's bridge and VLAN: `<bridge>.<vlan>` or
`<bridge>.<vlan>b`. -/
def CalledAfter (a b : NetworkRow) : Prop :=
  ∃ v ∈ b.vlanId, a.bridge.toList = b.bridge.toList ++ ".".toList ++ decimal v ∨
    a.bridge.toList = b.bridge.toList ++ ".".toList ++ decimal v ++ "b".toList

/-- One network is called after a link of another's VLAN. -/
theorem calledAfter_iff {a b : NetworkRow} : CalledAfter a b ↔ a.bridge.toList ∈ vlanLinks b := by
  unfold CalledAfter vlanLinks
  cases b.vlanId with
  | none => simp
  | some v => simp [uplink, dedicated]

/-- Two rows that share a link of their VLANs share the bridge and the VLAN. -/
theorem vlanLinks_disjoint {a b : NetworkRow} (differ : (a.bridge, a.vlanId) ≠ (b.bridge, b.vlanId))
    {name : Text} (ha : name ∈ vlanLinks a) : name ∉ vlanLinks b := by
  intro hb
  unfold vlanLinks at ha hb
  cases hv : a.vlanId with
  | none => simp [hv] at ha
  | some v =>
    cases hw : b.vlanId with
    | none => simp [hw] at hb
    | some w =>
      have same : a.bridge.toList = b.bridge.toList ∧ v = w := by
        simp only [hv, hw, List.mem_cons, List.not_mem_nil, or_false] at ha hb
        rcases ha with rfl | rfl <;> rcases hb with hb | hb
        · exact uplink_injective hb
        · exact absurd hb uplink_ne_dedicated
        · exact absurd hb.symm uplink_ne_dedicated
        · exact dedicated_injective hb
      rw [hv, hw, same.2, String.toList_inj.mp same.1] at differ
      exact differ rfl

/-- The bridge to which NICs go is the network's own or one of the VLAN's links. -/
theorem attachBridge_eq_or_mem (net : NetworkRow) :
    (net.vlanId = none ∧ attachBridge net = net.bridge.toList) ∨
      attachBridge net ∈ vlanLinks net := by
  unfold attachBridge vlanLinks
  cases net.vlanId with
  | none => exact .inl ⟨rfl, rfl⟩
  | some v => exact .inr (by simp)

/-- No row is called after itself: the names of its VLAN are longer than its own. -/
theorem bridge_notMem_vlanLinks (net : NetworkRow) : net.bridge.toList ∉ vlanLinks net := by
  unfold vlanLinks
  cases net.vlanId with
  | none => simp
  | some v => simp [uplink, dedicated]

/-- Networks that are not called after each other have different bridges. -/
theorem attachBridge_ne {a b : NetworkRow} (differ : (a.bridge, a.vlanId) ≠ (b.bridge, b.vlanId))
    (hab : ¬ CalledAfter a b) (hba : ¬ CalledAfter b a) : attachBridge a ≠ attachBridge b := by
  rw [calledAfter_iff] at hab hba
  intro same
  rcases attachBridge_eq_or_mem a with ⟨na, ha⟩ | ha <;>
    rcases attachBridge_eq_or_mem b with ⟨nb, hb⟩ | hb
  · rw [ha, hb] at same
    rw [na, nb, String.toList_inj.mp same] at differ
    exact differ rfl
  · exact hab (ha ▸ same ▸ hb)
  · exact hba (hb ▸ same ▸ ha)
  · exact vlanLinks_disjoint differ ha (same ▸ hb)

/-- And they are isolated. -/
theorem isolatedFrom_of_not_calledAfter {a b : NetworkRow} (ha : Accepted a) (hb : Accepted b)
    (differ : (a.bridge, a.vlanId) ≠ (b.bridge, b.vlanId)) (hab : ¬ CalledAfter a b)
    (hba : ¬ CalledAfter b a) : IsolatedFrom a b := by
  constructor
  · intro x y attachA attachB
    rw [attachA.eq ha, attachB.eq hb]
    exact attachBridge_ne differ hab hba
  · intro name made other
    rw [calledAfter_iff] at hba
    have mine := (List.mem_cons.mp (made.mem ha)).resolve_left other
    have notBridge : name ≠ b.bridge.toList := fun same => hba (same ▸ mine)
    refine ⟨notBridge, fun madeB => ?_⟩
    have theirs := (List.mem_cons.mp (madeB.mem hb)).resolve_left notBridge
    exact vlanLinks_disjoint differ mine theirs

/-- **Two accepted networks of different bridge or VLAN are kept apart if and only if neither has
its bridge called after the other's VLAN.** -/
theorem isolated_iff {a b : NetworkRow} (ha : Accepted a) (hb : Accepted b)
    (differ : (a.bridge, a.vlanId) ≠ (b.bridge, b.vlanId)) :
    (IsolatedFrom a b ∧ IsolatedFrom b a) ↔ ¬ CalledAfter a b ∧ ¬ CalledAfter b a := by
  constructor
  · rintro ⟨hab, hba⟩
    constructor
    · intro called
      have mem := calledAfter_iff.mp called
      have made := hb.creates (List.mem_cons_of_mem _ mem)
      have other : a.bridge.toList ≠ b.bridge.toList := fun same =>
        bridge_notMem_vlanLinks b (same ▸ mem)
      exact (hba.2 _ made other).1 rfl
    · intro called
      have mem := calledAfter_iff.mp called
      have made := ha.creates (List.mem_cons_of_mem _ mem)
      have other : b.bridge.toList ≠ a.bridge.toList := fun same =>
        bridge_notMem_vlanLinks a (same ▸ mem)
      exact (hab.2 _ made other).1 rfl
  · rintro ⟨hab, hba⟩
    exact ⟨isolatedFrom_of_not_calledAfter ha hb differ hab hba,
      isolatedFrom_of_not_calledAfter hb ha differ.symm hba hab⟩

/-- A row on node 1. -/
def row (bridge : String) (vlanId : Option Nat) : NetworkRow :=
  { pk := 1, uuid := ⟨1⟩, node := 1, name := "lan", bridge := bridge, vlanId := vlanId }

/-- Two VLANs on one bridge are kept apart. -/
theorem isolated_vlans :
    IsolatedFrom (row "vmbr0" (some 100)) (row "vmbr0" (some 200)) ∧
      IsolatedFrom (row "vmbr0" (some 200)) (row "vmbr0" (some 100)) := by
  have first : Accepted (row "vmbr0" (some 100)) :=
    ⟨[], ⟨1, "lan", "vmbr0".toList, some 100⟩, rfl, by rfl⟩
  have second : Accepted (row "vmbr0" (some 200)) :=
    ⟨[], ⟨1, "lan", "vmbr0".toList, some 200⟩, rfl, by rfl⟩
  refine (isolated_iff first second (by decide)).mpr ⟨?_, ?_⟩
  · rintro ⟨v, hv, called | called⟩
    · cases hv
      exact absurd called (by decide)
    · cases hv
      exact absurd called (by decide)
  · rintro ⟨v, hv, called | called⟩
    · cases hv
      exact absurd called (by decide)
    · cases hv
      exact absurd called (by decide)

/-- A network without VLAN whose bridge is called `vmbr0.120b` shares that bridge with VLAN 120 on
`vmbr0`. -/
theorem shared_bridge :
    ¬ ∀ a b : NetworkRow, Accepted a → Accepted b → a.node = b.node →
      (a.bridge, a.vlanId) ≠ (b.bridge, b.vlanId) → IsolatedFrom a b := by
  intro isolated
  let vm : VmRow :=
    { pk := 1, uuid := ⟨1⟩, domainUuid := ⟨2⟩, organization := 1, project := 1, node := some 1
      name := "web" }
  let nic : NicRow :=
    { pk := 1, uuid := ⟨3⟩, vm := 1, network := 1, macAddress := "52:54:00:00:00:01" }
  have plain : Accepted (row "vmbr0.120b" none) :=
    ⟨[], ⟨1, "lan", "vmbr0.120b".toList, none⟩, rfl, by rfl⟩
  have tagged : Accepted (row "vmbr0" (some 120)) :=
    ⟨[], ⟨1, "lan", "vmbr0".toList, some 120⟩, rfl, by rfl⟩
  have apart := (isolated _ _ plain tagged rfl (by decide)).1
  exact apart "vmbr0.120b".toList "vmbr0.120b".toList ⟨vm, nic, rfl, .inl (by rfl)⟩
    ⟨vm, nic, rfl, .inl (by rfl)⟩ rfl

end NodePilot.Networks

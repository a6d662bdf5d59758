import Mathlib.Algebra.Group.Nat.Defs
import Mathlib.Tactic.Common

/-!
# Identifiers, JSON values and the agent protocol

The vocabulary the controller and the agent share: 128-bit UUIDs and their text, the JSON values
a payload is made of, and the closed set of operations (`apps/nodes/protocol.py`, mirrored by
`nodepilot_agent/protocol.py`).
-/

namespace NodePilot

/-! ## UUIDs -/

/-- A UUID, as `uuid.uuid4()` draws it and `UUIDField` stores it. -/
structure Uuid where
  bits : BitVec 128
deriving DecidableEq

/-- One lowercase hexadecimal digit. -/
def hexDigit (n : Nat) : Char := "0123456789abcdef".toList.getD n '0'

/-- The `w` low hexadecimal digits of a number, most significant first. -/
def hex : Nat → Nat → List Char
  | 0, _ => []
  | w + 1, n => hex w (n / 16) ++ [hexDigit (n % 16)]

/-- Python's `str(uuid)`: 32 hexadecimal digits grouped 8-4-4-4-12. -/
def Uuid.chars (u : Uuid) : List Char :=
  let h := hex 32 u.bits.toNat
  h.take 8 ++ ['-'] ++ (h.drop 8).take 4 ++ ['-'] ++ (h.drop 12).take 4 ++ ['-'] ++
    (h.drop 16).take 4 ++ ['-'] ++ h.drop 20

def Uuid.str (u : Uuid) : String := String.ofList u.chars

/-! ## JSON -/

/-- A JSON value, as a payload, a response or a `JSONField` holds it. -/
inductive Json where
  | null
  | bool (b : Bool)
  | int (n : Int)
  /-- A number with a fraction or an exponent, by its text. -/
  | float (text : String)
  | str (s : String)
  | arr (xs : List Json)
  | obj (fields : List (String × Json))
deriving Repr, Inhabited

/-- Truth of a JSON value in an `if`. -/
def Json.truthy : Json → Bool
  | .null => false
  | .bool b => b
  | .int n => n ≠ 0
  | .float text => (text.toList.takeWhile (fun c => c ≠ 'e' && c ≠ 'E')).any fun c => c ∉ ['-', '0', '.']
  | .str s => s ≠ ""
  | .arr xs => xs.length ≠ 0
  | .obj fields => fields.length ≠ 0

/-- A Python `dict` with string keys. -/
abbrev Dict : Type := List (String × Json)

/-- `d.get(key)`. -/
def Dict.get? (d : Dict) (key : String) : Option Json := d.lookup key

/-- `d.get(key, default)` where a string is expected. The handlers on the other side send nothing
but strings under these keys. -/
def Dict.getStr (d : Dict) (key default : String) : String :=
  match d.get? key with
  | some (.str s) => s
  | _ => default

/-- `d.get(key, default)` where a number is expected. -/
def Dict.getInt (d : Dict) (key : String) (default : Int) : Int :=
  match d.get? key with
  | some (.int n) => n
  | _ => default

/-- `x or y` on an optional number: zero counts as missing. -/
def orNat (x y : Option Nat) : Option Nat :=
  match x with
  | some (n + 1) => some (n + 1)
  | _ => y

/-- An optional number, `None` as `null`. -/
def Json.ofNat? : Option Nat → Json
  | some n => .int n
  | none => .null

/-! ## Operations and requests -/

/-- `OperationType`: the typed messages between controller and agent. -/
inductive OperationType
  | getHostInfo | getDomainInfo
  | createVm | deleteVm | startVm | stopVm | shutdownVm | rebootVm | resetVm | pauseVm | resumeVm
  | migrateVm
  | createDisk | deleteDisk | resizeDisk | attachDisk | detachDisk | cloneDisk
  | attachIso | detachIso
  | createNetwork | deleteNetwork | attachNic | detachNic
  | createSnapshot | deleteSnapshot | rollbackSnapshot
  | createStoragePool | deleteStoragePool | getStoragePoolInfo
  | generateCloudInit | openConsole
  | createBackup | restoreBackup
deriving DecidableEq, Repr

/-- The text of an operation on the wire. -/
def OperationType.value : OperationType → String
  | .getHostInfo => "GET_HOST_INFO"
  | .getDomainInfo => "GET_DOMAIN_INFO"
  | .createVm => "CREATE_VM"
  | .deleteVm => "DELETE_VM"
  | .startVm => "START_VM"
  | .stopVm => "STOP_VM"
  | .shutdownVm => "SHUTDOWN_VM"
  | .rebootVm => "REBOOT_VM"
  | .resetVm => "RESET_VM"
  | .pauseVm => "PAUSE_VM"
  | .resumeVm => "RESUME_VM"
  | .migrateVm => "MIGRATE_VM"
  | .createDisk => "CREATE_DISK"
  | .deleteDisk => "DELETE_DISK"
  | .resizeDisk => "RESIZE_DISK"
  | .attachDisk => "ATTACH_DISK"
  | .detachDisk => "DETACH_DISK"
  | .cloneDisk => "CLONE_DISK"
  | .attachIso => "ATTACH_ISO"
  | .detachIso => "DETACH_ISO"
  | .createNetwork => "CREATE_NETWORK"
  | .deleteNetwork => "DELETE_NETWORK"
  | .attachNic => "ATTACH_NIC"
  | .detachNic => "DETACH_NIC"
  | .createSnapshot => "CREATE_SNAPSHOT"
  | .deleteSnapshot => "DELETE_SNAPSHOT"
  | .rollbackSnapshot => "ROLLBACK_SNAPSHOT"
  | .createStoragePool => "CREATE_STORAGE_POOL"
  | .deleteStoragePool => "DELETE_STORAGE_POOL"
  | .getStoragePoolInfo => "GET_STORAGE_POOL_INFO"
  | .generateCloudInit => "GENERATE_CLOUD_INIT"
  | .openConsole => "OPEN_CONSOLE"
  | .createBackup => "CREATE_BACKUP"
  | .restoreBackup => "RESTORE_BACKUP"

/-- The members of the enumeration, in their order. -/
def OperationType.all : List OperationType :=
  [.getHostInfo, .getDomainInfo, .createVm, .deleteVm, .startVm, .stopVm, .shutdownVm, .rebootVm, .resetVm, .pauseVm,
    .resumeVm, .migrateVm, .createDisk, .deleteDisk, .resizeDisk, .attachDisk, .detachDisk, .cloneDisk, .attachIso,
    .detachIso, .createNetwork, .deleteNetwork, .attachNic, .detachNic, .createSnapshot, .deleteSnapshot,
    .rollbackSnapshot, .createStoragePool, .deleteStoragePool, .getStoragePoolInfo, .generateCloudInit, .openConsole,
    .createBackup, .restoreBackup]

/-- What `send_operation` puts into an `AgentRequest`, without the fresh `request_id`. -/
structure AgentRequest where
  operation : OperationType
  resourceId : String
  payload : Dict

/-- What becomes of one `send_operation` call. -/
inductive AgentOutcome
  /-- The node has no active agent: raised before anything is sent. -/
  | noAgent
  /-- The agent is not connected: raised before anything is sent. -/
  | notConnected
  /-- Sent, and no answer in time. `performed` says whether the host did it all the same. -/
  | timedOut (performed : Bool)
  /-- Sent, and the agent answered with an error: its handler raised. -/
  | failed (error : Option String)
  /-- Sent, and the agent confirmed with this data. -/
  | ok (data : Dict)

/-- The request left the controller. -/
def AgentOutcome.sent : AgentOutcome → Bool
  | .noAgent | .notConnected => false
  | _ => true

/-- The agent's handler ran to its end on the host. -/
def AgentOutcome.performed : AgentOutcome → Bool
  | .timedOut p => p
  | .ok _ => true
  | _ => false

/-- The agent's confirmation reached the controller. -/
def AgentOutcome.confirmed : AgentOutcome → Bool
  | .ok _ => true
  | _ => false

/-- The host after an operation whose handler, where it runs, ends as `ran`: `none` where the outcome
does not agree with that. An agent may also refuse what it cannot read; then `handled` is false. -/
def AgentOutcome.settle {ε α σ : Type} (handled : Bool) (ran : Except ε α × σ) (host : σ) :
    AgentOutcome → Option σ
  | .noAgent | .notConnected | .timedOut false => some host
  | .timedOut true => some ran.2
  | .failed _ =>
    if handled then
      match ran with
      | (.error _, host') => some host'
      | (.ok _, _) => none
    else some host
  | .ok _ =>
    match ran with
    | (.ok _, host') => some host'
    | (.error _, _) => none

/-! ## The text of a UUID determines it -/

theorem hexDigit_injOn {a b : Nat} (ha : a < 16) (hb : b < 16) (h : hexDigit a = hexDigit b) :
    a = b := by
  have all : ∀ i j : Fin 16, hexDigit i = hexDigit j → i = j := by decide
  exact congrArg Fin.val (all ⟨a, ha⟩ ⟨b, hb⟩ h)

/-- What holds of every hexadecimal digit holds of every character of `hex`. -/
theorem hex_forall {p : Char → Prop} (hp : ∀ i : Fin 16, p (hexDigit i)) (w n : Nat) :
    ∀ c ∈ hex w n, p c := by
  induction w generalizing n with
  | zero => exact fun c hc => absurd hc List.not_mem_nil
  | succ w ih =>
    intro c hc
    rcases List.mem_append.mp hc with hc | hc
    · exact ih _ c hc
    · rw [List.mem_singleton.mp hc]
      exact hp ⟨n % 16, Nat.mod_lt n (by decide)⟩

theorem hex_no_dash (w n : Nat) : '-' ∉ hex w n :=
  fun h => hex_forall (p := (· ≠ '-')) (by decide) w n '-' h rfl

theorem hex_injOn {w a b : Nat} (ha : a < 16 ^ w) (hb : b < 16 ^ w) (h : hex w a = hex w b) :
    a = b := by
  induction w generalizing a b with
  | zero => simp only [Nat.pow_zero, Nat.lt_one_iff] at ha hb; rw [ha, hb]
  | succ w ih =>
    obtain ⟨high, low⟩ := List.append_inj' h rfl
    have hlow : a % 16 = b % 16 :=
      hexDigit_injOn (Nat.mod_lt _ (by decide)) (Nat.mod_lt _ (by decide)) (List.cons.inj low).1
    have hhigh : a / 16 = b / 16 := by
      refine ih ?_ ?_ high
      · exact Nat.div_lt_of_lt_mul (by rw [Nat.mul_comm]; exact ha)
      · exact Nat.div_lt_of_lt_mul (by rw [Nat.mul_comm]; exact hb)
    calc a = 16 * (a / 16) + a % 16 := (Nat.div_add_mod a 16).symm
      _ = 16 * (b / 16) + b % 16 := by rw [hlow, hhigh]
      _ = b := Nat.div_add_mod b 16

/-- Dropping the dashes gives the digits back. -/
theorem Uuid.chars_digits (u : Uuid) :
    u.chars.filter (· ≠ '-') = hex 32 u.bits.toNat := by
  have keep : ∀ l : List Char, l ⊆ hex 32 u.bits.toNat → l.filter (· ≠ '-') = l := by
    intro l hl
    refine List.filter_eq_self.mpr fun c hc => ?_
    have : c ≠ '-' := fun e => hex_no_dash 32 u.bits.toNat (e ▸ hl hc)
    simpa using this
  have sub : ∀ a b, ((hex 32 u.bits.toNat).drop a).take b ⊆ hex 32 u.bits.toNat := fun a b =>
    List.Subset.trans (List.take_subset _ _) (List.drop_subset _ _)
  simp only [Uuid.chars, List.filter_append, keep _ (List.take_subset _ _), keep _ (sub _ _),
    keep _ (List.drop_subset _ _)]
  generalize hex 32 u.bits.toNat = h
  have dash : List.filter (fun c => decide (c ≠ '-')) ['-'] = [] := by decide
  simp only [dash, List.append_nil]
  have split : ∀ a b, (h.drop a).take b ++ h.drop (a + b) = h.drop a := fun a b => by
    rw [← List.drop_drop]; exact List.take_append_drop b (h.drop a)
  rw [List.append_assoc, List.append_assoc, List.append_assoc, split 16 4, split 12 4, split 8 4,
    List.take_append_drop]

theorem Uuid.chars_forall {p : Char → Prop} (hp : ∀ i : Fin 16, p (hexDigit i)) (hdash : p '-')
    (u : Uuid) : ∀ c ∈ u.chars, p c := by
  intro c hc
  by_cases h : c = '-'
  · exact h ▸ hdash
  · refine hex_forall hp 32 u.bits.toNat c ?_
    rw [← u.chars_digits]
    exact List.mem_filter.mpr ⟨hc, by simpa using h⟩

theorem Uuid.chars_injective {u v : Uuid} (h : u.chars = v.chars) : u = v := by
  have digits : hex 32 u.bits.toNat = hex 32 v.bits.toNat := by
    rw [← u.chars_digits, ← v.chars_digits, h]
  have nat := hex_injOn (by simpa using u.bits.isLt) (by simpa using v.bits.isLt) digits
  cases u
  cases v
  exact congrArg Uuid.mk (BitVec.eq_of_toNat_eq nat)

theorem Uuid.str_injective {u v : Uuid} (h : u.str = v.str) : u = v := by
  refine Uuid.chars_injective ?_
  have texts := congrArg String.toList h
  simpa [Uuid.str] using texts

end NodePilot

import NodePilot.Agent.DiskCreation

/-!
# The volumes of a ZFS pool

What the `zfs` commands of `storage/zfs.py` do to the volumes of a host. A snapshot belongs to its volume; a stream
carries the snapshot that is sent to the volume that is received, and a clone depends on the snapshot it is made from.
A command succeeds if it can, unless the host lets it fail.
-/

namespace NodePilot.Agent.Pools

open Lib Volumes
open Urls (partition)

structure ZfsSnapshot where
  name : String
  content : List UInt8

structure Zvol where
  dataset : String
  size : Int
  content : List UInt8 := []
  snapshots : List ZfsSnapshot := []
  /-- The snapshot that it is a clone of. -/
  origin : Option String := none

/-- `dataset@name`, with one `@`. -/
def splitSnap (snap : String) : Option (String × String) :=
  match partition '@' snap.toList with
  | (dataset, some name) => if '@' ∈ name then none else some (String.ofList dataset, String.ofList name)
  | (_, none) => none

abbrev Zvols : Type := List Zvol

namespace Zvols

variable (z : Zvols)

def volume? (dataset : String) : Option Zvol := z.find? (·.dataset = dataset)

/-- A volume is changed. -/
def edit (dataset : String) (f : Zvol → Zvol) : Zvols := z.map fun v => if v.dataset = dataset then f v else v

/-- A snapshot with its volume. -/
def snapshot? (snap : String) : Option (Zvol × ZfsSnapshot) := do
  let (dataset, name) ← splitSnap snap
  let v ← z.volume? dataset
  let s ← v.snapshots.find? (·.name = name)
  return (v, s)

/-- `zfs create -V` -/
def create (size : Int) (dataset : String) : Option Zvols :=
  if (z.volume? dataset).isSome then none else some (z ++ [{ dataset := dataset, size := size }])

/-- `zfs snapshot` -/
def snapshot (snap : String) : Option Zvols := do
  let (dataset, name) ← splitSnap snap
  let v ← z.volume? dataset
  if v.snapshots.any (·.name = name) then none
  else some (z.edit dataset fun v => { v with snapshots := v.snapshots ++ [⟨name, v.content⟩] })

/-- `zfs clone` -/
def clone (snap dest : String) : Option Zvols := do
  let (v, s) ← z.snapshot? snap
  if (z.volume? dest).isSome then none
  else some (z ++ [{ dataset := dest, size := v.size, content := s.content, origin := some snap }])

/-- `zfs send` and `zfs receive` -/
def sendReceive (snap dest : String) : Option Zvols := do
  let (v, s) ← z.snapshot? snap
  if (z.volume? dest).isSome then none
  else some (z ++ [{ dataset := dest, size := v.size, content := s.content, snapshots := [s] }])

/-- `zfs destroy` of a snapshot that nothing depends on. -/
def destroy (snap : String) : Option Zvols := do
  let (dataset, name) ← splitSnap snap
  if (z.snapshot? snap).isSome ∧ ¬ z.any (·.origin = some snap) then
    some (z.edit dataset fun v => { v with snapshots := v.snapshots.filter (·.name ≠ name) })
  else none

/-- The volume is this one, or is below it. -/
def inTree (dataset name : String) : Bool := name = dataset ∨ isBelow dataset.toList name.toList

/-- `zfs destroy -r`, of a volume that nothing else depends on, or of a snapshot. -/
def destroyTree (dataset : String) : Option Zvols :=
  if (splitSnap dataset).isSome then z.destroy dataset
  else if (z.volume? dataset).isSome ∧ ¬ z.any fun v => ¬ inTree dataset v.dataset ∧
      (v.origin.bind splitSnap).any fun o => inTree dataset o.1 then
    some (z.filter fun v => ¬ inTree dataset v.dataset)
  else none

/-- What a command prints that succeeds, and what it leaves. -/
def zfs : Command → Option (String × Zvols)
  | .zfsSnapshot snap => (z.snapshot snap).map fun z => ("", z)
  | .zfsClone snap dest => (z.clone snap dest).map fun z => ("", z)
  | .zfsSendReceive snap dest => (z.sendReceive snap dest).map fun z => ("", z)
  | .zfsDestroy snap => (z.destroy snap).map fun z => ("", z)
  | .zfsDestroyTree dataset => (z.destroyTree dataset).map fun z => ("", z)
  | .zfsSetVolsize size dataset =>
    (z.volume? dataset).map fun _ => ("", z.edit dataset fun v => { v with size := size })
  | .zfsGetVolsize dataset => (z.volume? dataset).map fun v => (toString v.size ++ "\n", z)
  | _ => none

end Zvols

/-! ## Hosts -/

/-- What the host decides at a command. -/
structure ZfsChoice where
  fails : Bool := false
  timesOut : Bool := false
  /-- It has had its effect when it fails or is killed. -/
  performed : Bool := false

def ZfsChoice.takesEffect (c : ZfsChoice) : Bool := ¬ c.fails ∧ ¬ c.timesOut ∨ c.performed

structure ZfsHost where
  volumes : Zvols
  script : Nat → ZfsChoice := fun _ => {}
  /-- How many commands have run. -/
  pos : Nat := 0

namespace ZfsHost

/-- How a command ends that could print this. -/
def answer (choice : ZfsChoice) : Option String → Completed
  | some stdout => if choice.timesOut then .timedOut else if choice.fails then .failed 1 "" else .done stdout
  | none => if choice.timesOut then .timedOut else .failed 1 ""

def handle : Handler HostOp HostAns ZfsHost
  | .run c, h =>
    let choice := h.script h.pos
    let result := h.volumes.zfs c
    (answer choice (result.map Prod.fst),
      { h with
        pos := h.pos + 1
        volumes := if choice.takesEffect then (result.map Prod.snd).getD h.volumes else h.volumes })
  | .pathExists _, h => (false, h)
  | .remove _, h => (none, h)
  | .getsize _, h => (none, h)

/-- The end of a call on the host. -/
def execute {α : Type} (x : StorageM α) (h : ZfsHost) : Except StorageError α × ZfsHost :=
  let r := Script.exec handle x () h
  (r.1, r.2.2)

end ZfsHost

/-! ## Calls -/

/-- A call of `ZFSBackend` -/
inductive ZfsCall
  | create (name : String) (size : Int)
  | call (c : Call)

/-- A call of the backend of a pool that is cut after so many commands. -/
structure ZfsAttempt where
  poolPath : String
  call : ZfsCall
  script : Nat → ZfsChoice := fun _ => {}
  commands : Nat

/-- What an attempt leaves. -/
def ZfsAttempt.left (realpath : String → String) (loads : String → Option Dict) (a : ZfsAttempt) (z : Zvols) : Zvols :=
  match a.call with
  | .create name size =>
    if safeName name ∧ a.commands ≠ 0 ∧ (a.script 0).takesEffect then (z.create size (a.poolPath ++ "/" ++ name)).getD z
    else z
  | .call c =>
    (((c.script realpath loads .zfs a.poolPath).prog ()).cut ZfsHost.handle a.commands ⟨z, a.script, 0⟩).volumes

/-- What the attempts leave, one after the other. -/
def zfsLeftBy (realpath : String → String) (loads : String → Option Dict) (attempts : List ZfsAttempt) (z : Zvols) :
    Zvols :=
  attempts.foldl (fun z a => a.left realpath loads z) z

end NodePilot.Agent.Pools

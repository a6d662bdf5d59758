import NodePilot.Services

/-!
# Editing a VM

PATCH on a VM (`apps/virtual_machines/views.py`, with `VirtualMachineSerializer`) beside the requests and
tasks that work on it. The view loads the row, and the serializer sets the fields that the request may
change and saves the object: every column, as it was loaded. Tasks save single columns.

A row that has been deleted in between is not there to be updated, so it is inserted again.
-/

namespace NodePilot.Edits

open Lib

/-! ## Objects -/

/-- The columns of a VM that nothing but an edit reads or writes. -/
structure Details where
  hostname : String := ""
  description : String := ""

/-- A `VirtualMachine` in memory. -/
structure LoadedVm where
  row : VmRow
  details : Details := {}

/-- The validated data of a PATCH. What is not in `read_only_fields` may be given. -/
structure VmEdit where
  name : Option String := none
  hostname : Option String := none
  description : Option String := none
  bootOrder : Option (List String) := none
  autostart : Option Bool := none

/-- The first half of `ModelSerializer.update` -/
def VmEdit.apply (edit : VmEdit) (vm : LoadedVm) : LoadedVm where
  row := { vm.row with
    name := edit.name.getD vm.row.name
    bootOrder := edit.bootOrder.getD vm.row.bootOrder
    autostart := edit.autostart.getD vm.row.autostart }
  details :=
    { hostname := edit.hostname.getD vm.details.hostname
      description := edit.description.getD vm.details.description }

/-- Every column but the key. -/
def overwrite (row v : VmRow) : VmRow := { row with pk := v.pk }

/-- `vm.save()`: an `UPDATE` of all columns, or an `INSERT` where there is no row. -/
def saveAll (t : Tables) (row : VmRow) : Except Exn Tables :=
  if t.vms.any fun v => v.pk ≠ row.pk ∧ v.project = row.project ∧ v.name = row.name then
    .error (.integrityError "unique_vm_name_per_project")
  else match Table.get t.vms row.pk with
    | some _ => .ok { t with vms := Table.modify t.vms row.pk (overwrite row) }
    | none => .ok { t with vms := t.vms ++ [row] }

/-! ## Requests -/

/-- What a PATCH does beyond what the other requests do. -/
inductive EditOp
  | service (o : ServiceOp)
  /-- The query of `get_object`. -/
  | load (uuid : Uuid)
  /-- `instance.save()` -/
  | saveAll (vm : LoadedVm)

@[reducible]
def EditAns : EditOp → Type
  | .service o => ServiceAns o
  | .load _ => Option LoadedVm
  | .saveAll _ => Except Exn Unit

abbrev EditM (α : Type) : Type := Script EditOp EditAns Exn Unit α

/-- `partial_update`, with the object in hand: the permission is asked for, and the serializer makes the
edit of the body, or refuses it. -/
def updateLoaded (permitted : LoadedVm → Bool) (validated : Option VmEdit) (vm : LoadedVm) : EditM Unit :=
  if ¬ permitted vm then
    throw (.api "PERMISSION_DENIED" "You do not have permission to perform this action.")
  else match validated with
  | none => throw (.api "VALIDATION_FAILED" "The request could not be validated.")
  | some edit => do
    match ← Script.perform (EditOp.saveAll (edit.apply vm)) with
    | .ok () => return ()
    | .error e => throw e

/-- `partial_update` -/
def partialUpdate (uuid : Uuid) (permitted : LoadedVm → Bool) (validated : Option VmEdit) : EditM Unit := do
  let found : Option LoadedVm ← Script.perform (EditOp.load uuid)
  match found with
  | none => throw (.doesNotExist "VirtualMachine")
  | some vm => updateLoaded permitted validated vm

/-- A request or a task, among the operations of edits. -/
def ofService {α : Type} (x : ServiceM α) : EditM α := x.translate .service fun _ a => a

inductive Request
  | patch (uuid : Uuid)
  | lifecycle (r : LifecycleRequest)
  | task (task : Task)

/-! ## Side by side -/

/-- What the tasks say of a VM: its `status`, `provisioning_state` and `last_error`. -/
abbrev Truth : Type := VMStatus × ProvisioningState × String

def truth (v : VmRow) : Truth := (v.status, v.provisioningState, v.lastError)

/-- What is stored of a VM. -/
def stored (t : Tables) (vm : Nat) : Option Truth := (Table.get t.vms vm).map truth

/-- A save of a PATCH, and what was stored of the VM before and after. -/
structure Saved where
  vm : Nat
  before : Option Truth
  after : Option Truth

structure State where
  world : World
  details : Nat → Details := fun _ => {}
  /-- The saves that were carried out, newest first. -/
  saves : List Saved := []

namespace State

def act (c : ServiceChoice) (thread : Nat) : (o : EditOp) → State → Option (EditAns o × State)
  | .service o, s =>
    (Site.act 0 c thread o ⟨s.world, []⟩).map fun r => (r.1, { s with world := r.2.world })
  | .load uuid, s =>
    some ((s.world.db.vms.find? (·.uuid = uuid)).map fun row => ⟨row, s.details row.pk⟩, s)
  | .saveAll vm, s =>
    match if c.dbFails then .error .databaseError else saveAll s.world.db vm.row with
    | .error e => some (.error e, s)
    | .ok db => some (.ok (), { s with
        world := { s.world with db := db }
        details := fun pk => if pk = vm.row.pk then vm.details else s.details pk
        saves := ⟨vm.row.pk, stored s.world.db vm.row.pk, stored db vm.row.pk⟩ :: s.saves })

end State

inductive Event
  | patch (uuid : Uuid) (permitted : LoadedVm → Bool) (validated : Option VmEdit)
  /-- A lifecycle request, with the task it enqueues. -/
  | request (vm : Nat) (r : LifecycleRequest) (requestedBy : Option Nat) (taskId : String)
  /-- A message is delivered, for the first time or again. -/
  | deliver (task : Task) (taskId : String) (jobId : Nat)
  /-- A statement of another process. -/
  | statement (w : Write) (now : Nat) (uuid : Uuid)
  /-- `create_vm` -/
  | create (row : VmRow) (uuid domainUuid : Uuid)

abbrev Worker : Type := Thread Request EditOp EditAns (Except Exn Unit × Unit)

def env : Event → State → Option (List Worker × State)
  | .patch uuid permitted validated, s =>
    some ([⟨.patch uuid, (partialUpdate uuid permitted validated).prog ()⟩], s)
  | .request vm r requestedBy taskId, s =>
    (Table.get s.world.db.vms vm).map fun row =>
      ([⟨.lifecycle r, (ofService (r.script taskId requestedBy row)).prog ()⟩], s)
  | .deliver task taskId jobId, s =>
    some ([⟨.task task, (ofService (ofTask (task.run taskId jobId))).prog ()⟩], s)
  | .statement w now uuid, s =>
    match s.world.db.write now uuid w with
    | .ok db => some ([], { s with world := { s.world with db := db } })
    | .error _ => some ([], s)
  | .create row uuid domainUuid, s =>
    match s.world.db.createVm uuid domainUuid row with
    | .ok r => some ([], { s with world := { s.world with db := r.2 } })
    | .error _ => some ([], s)

/-- Edits, lifecycle requests and tasks. -/
def system :
    System Request EditOp EditAns (Except Exn Unit × Unit) State ServiceChoice Event :=
  ⟨State.act, env⟩

end NodePilot.Edits

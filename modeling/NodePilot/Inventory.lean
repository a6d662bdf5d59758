import NodePilot.Lib.Pool
import NodePilot.Permissions

/-!
# Virtual machines and what they refer to

The requests that create virtual machines, their disks, NICs and backups, and the schedules of their
backups (`apps/virtual_machines`, `apps/vm_templates`, `apps/backups`), with the objects that they
name. `accept` is all that can turn a request down: the permission of the view, the serializer, and
the checks of the service. `apply` writes the rows.

A uuid in a request is looked up in the whole table, whatever organization the row belongs to. The
rows that no request here writes are kept by value in the rows that refer to them, and what hangs off
a VM is kept with it. `VirtualMachine.node` may be null in the table, but every VM is created with a
node.
-/

namespace NodePilot.Inventory

open Lib Access

/-! ## Rows -/

/-- A row of the organizations. -/
structure Organization where
  pk : Nat
  uuid : Uuid
deriving DecidableEq

/-- A row of the projects. -/
structure Project where
  uuid : Uuid
  organization : Nat
deriving DecidableEq

/-- A row of the nodes. -/
structure Node where
  uuid : Uuid
  organization : Nat
deriving DecidableEq

/-- A row of the storage pools. -/
structure StoragePool where
  uuid : Uuid
  /-- The uuid of its node. -/
  node : Uuid
deriving DecidableEq

/-- A row of the networks. -/
structure Network where
  uuid : Uuid
  node : Uuid
deriving DecidableEq

/-- A row of the images. -/
structure Image where
  uuid : Uuid
  organization : Nat
  name : String := ""
  status : String := "READY"
deriving DecidableEq

/-- A row of the templates. -/
structure Template where
  uuid : Uuid
  organization : Nat
  image : Image
  name : String := ""
deriving DecidableEq

/-- A row of the backup targets. -/
structure BackupTarget where
  uuid : Uuid
  organization : Nat
deriving DecidableEq

/-- The rows that the requests only read. -/
structure Catalog where
  organizations : List Organization := []
  projects : List Project := []
  nodes : List Node := []
  pools : List StoragePool := []
  networks : List Network := []
  templates : List Template := []
  targets : List BackupTarget := []

/-- A row of the disks, with its pool. -/
structure VMDisk where
  storage : StoragePool
  sourceImage : Option Image := none
deriving DecidableEq

/-- A row of the VMs, with what hangs off it. -/
structure VirtualMachine where
  uuid : Uuid
  organization : Nat
  project : Project
  node : Node
  template : Option Template := none
  createdBy : Nat
  idempotencyKey : String := ""
  disks : List VMDisk := []
  /-- The networks of its NICs. -/
  nics : List Network := []
  /-- The targets of its backups. -/
  backups : List BackupTarget := []
deriving DecidableEq

/-- A row of the schedules. -/
structure BackupSchedule where
  uuid : Uuid
  organization : Nat
  /-- The uuid of its VM. -/
  vm : Uuid
  target : BackupTarget
deriving DecidableEq

/-- The rows that the requests write. -/
structure Rows where
  vms : List VirtualMachine := []
  schedules : List BackupSchedule := []
  /-- The clones that were begun: the uuid of the source and that of the clone. -/
  clones : List (Uuid × Uuid) := []
deriving DecidableEq

/-- A VM by its uuid. -/
def Rows.vm (s : Rows) (uuid : Uuid) : Option VirtualMachine :=
  s.vms.find? (·.uuid = uuid)

/-! ## Requests -/

/-- Who sends a request: a user that is not a superuser, and the scopes of the API token. -/
structure Client where
  user : User
  scopes : Option Json := none
  ordinary : user.isSuperuser = false

/-- Why a request is refused. -/
inductive Refusal
  | permissionDenied
  | notFound
  | invalid (field message : String)
  | api (code message : String)
  | integrityError
deriving DecidableEq

/-- What else decides about a request: the node that the scheduler finds best, the uuid that a new row
draws, and a refusal for a reason that has nothing to do with the objects named (a quota, a lock, a
name that is taken, a field that is not valid). -/
structure Draw where
  scheduled : Option Uuid := none
  uuid : Uuid
  refusal : Option Refusal := none

/-- `VirtualMachineCreateSerializer`: `organization` may also stand in the query. -/
structure CreateBody where
  organization : Option Uuid := none
  project : Option Uuid := none
  node : Option Uuid := none
  template : Option Uuid := none
  storages : List Uuid := []
  networks : List Uuid := []
  idempotencyKey : String := ""

/-- `DeployTemplateSerializer` -/
structure DeployBody where
  project : Uuid
  node : Option Uuid := none
  storage : Uuid
  network : Uuid
  idempotencyKey : String := ""

/-- The requests that make rows. -/
inductive Request
  | create (client : Client) (body : CreateBody) (draw : Draw)
  | deploy (client : Client) (template : Uuid) (body : DeployBody) (draw : Draw)
  | attachDisk (client : Client) (vm storage : Uuid) (draw : Draw)
  | attachNic (client : Client) (vm network : Uuid) (draw : Draw)
  | clone (client : Client) (vm : Uuid) (draw : Draw)
  /-- The task of a clone copies a disk, a NIC. -/
  | cloneDisk (source clone : Uuid) (index : Nat)
  | cloneNic (source clone : Uuid) (index : Nat)
  /-- `?organization=` decides about the permission, if it is there. -/
  | createBackup (client : Client) (query : Option Uuid) (vm target : Uuid) (draw : Draw)
  | createSchedule (client : Client) (query : Option Uuid) (organization vm target : Uuid)
      (draw : Draw)
  | updateSchedule (client : Client) (schedule : Uuid) (organization vm target : Option Uuid)
      (draw : Draw)

/-- A request that was accepted, with the objects that it names. -/
inductive Order
  /-- `create_vm` -/
  | newVm (uuid : Uuid) (organization : Nat) (project : Project) (node : Node)
      (template : Option Template) (disks : List VMDisk) (nics : List Network) (createdBy : Nat)
      (idempotencyKey : String)
  /-- A VM was created for the idempotency key before. -/
  | existing
  | disk (vm : VirtualMachine) (storage : StoragePool)
  | nic (vm : VirtualMachine) (network : Network)
  | clone (uuid : Uuid) (source : VirtualMachine) (createdBy : Nat)
  | cloneDisk (source clone : VirtualMachine) (disk : VMDisk)
  | cloneNic (source clone : VirtualMachine) (network : Network)
  | backup (vm : VirtualMachine) (target : BackupTarget)
  | schedule (uuid : Uuid) (organization : Nat) (vm : VirtualMachine) (target : BackupTarget)
  | reschedule (schedule : BackupSchedule) (organization : Option Nat) (vm : Option VirtualMachine)
      (target : Option BackupTarget)

/-! ## Admission -/

section Accept

variable (cat : Catalog) (g : Grants)

/-- A `SlugRelatedField` over a whole table. -/
def resolve {α : Type} (field : String) (found : Option α) : Except Refusal α :=
  match found with
  | some a => .ok a
  | none => .error (.invalid field "does_not_exist")

/-- The same for a field that may be left out. -/
def resolve? {α : Type} (field : String) (uuid : Option Uuid) (find : Uuid → Option α) :
    Except Refusal (Option α) :=
  match uuid with
  | none => .ok none
  | some uuid => do
    let a ← resolve field (find uuid)
    return some a

/-- Refusals without a place of their own. -/
def Draw.pass (draw : Draw) : Except Refusal Unit :=
  match draw.refusal with
  | some refusal => .error refusal
  | none => .ok ()

/-- `has_permission` of a view for an action that has no object. -/
def permit (client : Client) (codename : String) (organization : Option Nat) :
    Except Refusal Unit :=
  if hasResourcePermission g client.user client.scopes (some codename) false organization then .ok ()
  else .error .permissionDenied

/-- `get_object`, of an object of the organization. -/
def getObject {α : Type} (client : Client) (codename : String) (organization : α → Nat)
    (found : Option α) : Except Refusal α :=
  if ¬ hasResourcePermission g client.user client.scopes (some codename) true none then
    .error .permissionDenied
  else match found with
    | none => .error .notFound
    | some a =>
      -- the queryset has the organizations that the user is a member of
      if (client.user.pk, organization a) ∉ g.memberships then .error .notFound
      else if hasObjectPermission g client.user client.scopes (some codename)
          (some (organization a)) then .ok a
      else .error .permissionDenied

/-- `CapacityWeightedScheduler.select_node`: one of the organization's nodes. -/
def selectNode (organization : Nat) (draw : Draw) : Except Refusal Node :=
  match draw.scheduled.bind fun uuid =>
      cat.nodes.find? fun n => n.uuid = uuid ∧ n.organization = organization with
  | some node => .ok node
  | none => .error (.api "NO_SCHEDULABLE_NODE" "No online node has enough free capacity for this VM.")

/-- The node that was asked for, or else one that the scheduler selects. -/
def placeOn (organization : Nat) (node : Option Node) (draw : Draw) : Except Refusal Node :=
  match node with
  | some node => .ok node
  | none => selectNode cat organization draw

/-- `create_vm`. A VM without disks would get one without a storage pool, which the table does not
take. -/
def createVm (s : Rows) (organization : Nat) (project : Project) (node : Option Node)
    (template : Option Template) (disks : List VMDisk) (nics : List Network) (createdBy : Nat)
    (idempotencyKey : String) (draw : Draw) : Except Refusal Order :=
  if idempotencyKey ≠ "" ∧ s.vms.any fun v =>
      v.createdBy = createdBy ∧ v.idempotencyKey = idempotencyKey then .ok .existing
  else do
    draw.pass
    let node ← placeOn cat organization node draw
    if disks.isEmpty ∨ (s.vm draw.uuid).isSome then .error .integrityError
    else return .newVm draw.uuid organization project node template disks nics createdBy idempotencyKey

/-- `Organization.objects.filter(uuid=...).first()` -/
def organizationBy (uuid : Uuid) : Option Nat :=
  (cat.organizations.find? (·.uuid = uuid)).map Organization.pk

/-- The project that the body names. -/
def findProject (uuid : Uuid) : Option Project := cat.projects.find? (·.uuid = uuid)
/-- The node that the body names. -/
def findNode (uuid : Uuid) : Option Node := cat.nodes.find? (·.uuid = uuid)
/-- The template that the body names. -/
def findTemplate (uuid : Uuid) : Option Template := cat.templates.find? (·.uuid = uuid)
/-- The pool that the body names. -/
def findPool (uuid : Uuid) : Option StoragePool := cat.pools.find? (·.uuid = uuid)
/-- The network that the body names. -/
def findNetwork (uuid : Uuid) : Option Network := cat.networks.find? (·.uuid = uuid)
/-- The target that the body names. -/
def findTarget (uuid : Uuid) : Option BackupTarget := cat.targets.find? (·.uuid = uuid)

/-- `VirtualMachineViewSet.create`. The permission is that of the project's organization. -/
def create (s : Rows) (client : Client) (body : CreateBody) (draw : Draw) :
    Except Refusal Order := do
  permit g client "vm.create" ((body.project.bind (findProject cat)).map Project.organization)
  let project ← resolve "project" (body.project.bind (findProject cat))
  let node ← resolve? "node" body.node (findNode cat)
  let template ← resolve? "template" body.template (findTemplate cat)
  let storages ← body.storages.mapM fun uuid => resolve "storage" (findPool cat uuid)
  let networks ← body.networks.mapM fun uuid => resolve "network" (findNetwork cat uuid)
  if body.organization.bind (organizationBy cat) ≠ some project.organization then
    .error (.invalid "project" "Project does not belong to the target organization.")
  else
    createVm cat s project.organization project node template
      (storages.map fun storage => { storage := storage }) networks client.user.pk
      body.idempotencyKey draw

/-- `TemplateViewSet.deploy` and `create_vm_from_template`. The VM is the template's
organization's. -/
def deploy (s : Rows) (client : Client) (template : Uuid) (body : DeployBody) (draw : Draw) :
    Except Refusal Order := do
  let template ← getObject g client "vm.create" Template.organization (findTemplate cat template)
  let project ← resolve "project" (findProject cat body.project)
  let node ← resolve? "node" body.node (findNode cat)
  let storage ← resolve "storage" (findPool cat body.storage)
  let network ← resolve "network" (findNetwork cat body.network)
  if template.image.status ≠ "READY" then
    .error (.api "TEMPLATE_IMAGE_NOT_READY" ("Template '" ++ template.name ++ "'s image (" ++
      template.image.name ++ ") is not ready yet (status: " ++ template.image.status ++ ")."))
  else
    createVm cat s template.organization project node (some template)
      [{ storage := storage, sourceImage := some template.image }] [network] client.user.pk
      body.idempotencyKey draw

/-- `VirtualMachineViewSet.get_object` -/
def getVm (s : Rows) (client : Client) (codename : String) (uuid : Uuid) :
    Except Refusal VirtualMachine :=
  getObject g client codename VirtualMachine.organization (s.vm uuid)

/-- An element of a VM that a clone is being made of, and the clone. -/
def copied {α : Type} (s : Rows) (source clone : Uuid) (elements : VirtualMachine → List α)
    (index : Nat) : Except Refusal (VirtualMachine × VirtualMachine × α) :=
  if (source, clone) ∉ s.clones then .error .notFound
  else match s.vm source, s.vm clone with
    | some source, some clone =>
      match (elements source)[index]? with
      | some a => .ok (source, clone, a)
      | none => .error .notFound
    | _, _ => .error .notFound

/-- What becomes of a request. -/
def accept (s : Rows) : Request → Except Refusal Order
  | .create client body draw => create cat g s client body draw
  | .deploy client template body draw => deploy cat g s client template body draw
  | .attachDisk client vm storage draw => do
    let vm ← getVm g s client "vm.update" vm
    let storage ← resolve "storage" (findPool cat storage)
    draw.pass
    return .disk vm storage
  | .attachNic client vm network draw => do
    let vm ← getVm g s client "vm.update" vm
    let network ← resolve "network" (findNetwork cat network)
    draw.pass
    return .nic vm network
  | .clone client vm draw => do
    let vm ← getVm g s client "vm.clone" vm
    draw.pass
    if (s.vm draw.uuid).isSome then .error .integrityError
    else return .clone draw.uuid vm client.user.pk
  | .cloneDisk source clone index => do
    let (source, clone, disk) ← copied s source clone VirtualMachine.disks index
    return .cloneDisk source clone disk
  | .cloneNic source clone index => do
    let (source, clone, network) ← copied s source clone VirtualMachine.nics index
    return .cloneNic source clone network
  | .createBackup client query vm target draw => do
    permit g client "backup.create" (match query with
      | some uuid => organizationBy cat uuid
      | none => (s.vm vm).map VirtualMachine.organization)
    let vm ← resolve "vm" (s.vm vm)
    let target ← resolve "target" (findTarget cat target)
    draw.pass
    return .backup vm target
  | .createSchedule client query organization vm target draw => do
    permit g client "backup.create" (organizationBy cat (query.getD organization))
    let organization ← resolve "organization" (organizationBy cat organization)
    let vm ← resolve "vm" (s.vm vm)
    let target ← resolve "target" (findTarget cat target)
    draw.pass
    if s.schedules.any (·.uuid = draw.uuid) then .error .integrityError
    else return .schedule draw.uuid organization vm target
  | .updateSchedule client schedule organization vm target draw => do
    let schedule ← getObject g client "backup.create" BackupSchedule.organization
      (s.schedules.find? (·.uuid = schedule))
    let organization ← resolve? "organization" organization (organizationBy cat)
    let vm ← resolve? "vm" vm s.vm
    let target ← resolve? "target" target (findTarget cat)
    draw.pass
    return .reschedule schedule organization vm target

end Accept

/-! ## Writes -/

/-- The VM with the uuid rewritten. -/
def Rows.rewrite (s : Rows) (uuid : Uuid) (f : VirtualMachine → VirtualMachine) :
    Rows :=
  { s with vms := s.vms.map fun v => if v.uuid = uuid then f v else v }

/-- The rows after an accepted request. -/
def apply (s : Rows) : Order → Rows
  | .existing => s
  | .newVm uuid organization project node template disks nics createdBy idempotencyKey =>
    { s with vms := s.vms ++ [⟨uuid, organization, project, node, template, createdBy,
        idempotencyKey, disks, nics, []⟩] }
  | .disk vm storage =>
    s.rewrite vm.uuid fun v => { v with disks := v.disks ++ [{ storage := storage }] }
  | .nic vm network => s.rewrite vm.uuid fun v => { v with nics := v.nics ++ [network] }
  | .clone uuid source createdBy =>
    { s with
      vms := s.vms ++ [{ uuid := uuid, organization := source.organization
                         project := source.project, node := source.node, createdBy := createdBy }]
      clones := (source.uuid, uuid) :: s.clones }
  | .cloneDisk _ clone disk =>
    s.rewrite clone.uuid fun v => { v with disks := v.disks ++ [{ storage := disk.storage }] }
  | .cloneNic _ clone network => s.rewrite clone.uuid fun v => { v with nics := v.nics ++ [network] }
  | .backup vm target => s.rewrite vm.uuid fun v => { v with backups := v.backups ++ [target] }
  | .schedule uuid organization vm target =>
    { s with schedules := s.schedules ++ [⟨uuid, organization, vm.uuid, target⟩] }
  | .reschedule schedule organization vm target =>
    { s with schedules := s.schedules.map fun b =>
        if b.uuid = schedule.uuid then
          { b with
            organization := organization.getD b.organization
            vm := (vm.map VirtualMachine.uuid).getD b.vm
            target := target.getD b.target }
        else b }

/-- A request. One that is refused writes nothing. -/
def step (cat : Catalog) (g : Grants) (request : Request) (s : Rows) : Option Rows :=
  match accept cat g s request with
  | .ok order => some (apply s order)
  | .error _ => some s

end NodePilot.Inventory

import NodePilot.Lib.Table
import NodePilot.Permissions

/-!
# Organization-scoped viewsets

`apps/common/viewsets.py` and the viewsets that build on it. The rows of every table are kept with
the foreign keys that lead towards their organization or that a deletion follows. A request is
answered as the framework does it: permissions first, then the object and its own permission, then
the serializer and the write.

What an action returns is the rows that it writes, each with its table: the object, the rows that
are deleted with it or lose their reference to it (`on_delete`), and the job, address or VM that a
service makes for it. `destroy` of a network or a snapshot leaves the deletion to a task, whose
deletion is counted as the request's. Rows of tables that have no organization of their own and no
viewset are left out: disks, NICs, agents, deliveries, periodic tasks and audit entries.
-/

namespace NodePilot.Access

open Lib

/-! ## Rows -/

/-- The tables that lead to an organization. -/
inductive Model
  | organization | node | network | subnet | vm
  | storagePool | ipPool | ipAddress | snapshot | backup | backupTarget | backupSchedule | webhook
  | template | project | membership | quota | role | roleAssignment | job | event | image
deriving DecidableEq

/-- The foreign keys. -/
inductive Field
  | organization | node | network | subnet | vm | project | role | target | template | storage
  | image
deriving DecidableEq

/-- Every table. -/
def Model.all : List Model :=
  [.organization, .node, .network, .subnet, .vm, .storagePool, .ipPool, .ipAddress, .snapshot,
    .backup, .backupTarget, .backupSchedule, .webhook, .template, .project, .membership, .quota,
    .role, .roleAssignment, .job, .event, .image]

/-- Every foreign key. -/
def Field.all : List Field :=
  [.organization, .node, .network, .subnet, .vm, .project, .role, .target, .template, .storage,
    .image]

/-- `model._meta.get_field(field).related_model` -/
def Model.relatedModel : Model → Field → Option Model
  | .storagePool, .node | .network, .node | .vm, .node | .job, .node => some .node
  | .subnet, .network => some .network
  | .ipPool, .subnet | .ipAddress, .subnet => some .subnet
  | .snapshot, .vm | .backup, .vm | .backupSchedule, .vm => some .vm
  | .backup, .target | .backupSchedule, .target => some .backupTarget
  | .vm, .project | .quota, .project | .roleAssignment, .project => some .project
  | .roleAssignment, .role => some .role
  | .vm, .template => some .template
  | .image, .storage => some .storagePool
  | .template, .image => some .image
  | .node, .organization | .vm, .organization | .backupTarget, .organization
  | .backupSchedule, .organization | .webhook, .organization | .template, .organization
  | .project, .organization | .membership, .organization | .quota, .organization
  | .role, .organization | .roleAssignment, .organization | .job, .organization
  | .event, .organization | .image, .organization => some .organization
  | _, _ => none

/-- What becomes of a row when the row it refers to is deleted. -/
inductive OnDelete
  | cascade | protect | setNull
deriving DecidableEq

/-- `on_delete` of a foreign key. -/
def Model.onDelete : Model → Field → OnDelete
  | .vm, .node | .backup, .target | .image, .storage | .template, .image => .protect
  | .job, .node | .vm, .template => .setNull
  | _, _ => .cascade

/-- The path of the viewset of a table. -/
def Model.organizationFieldPath : Model → List Field
  | .organization => []
  | .storagePool | .network => [.node, .organization]
  | .subnet => [.network, .node, .organization]
  | .ipPool | .ipAddress => [.subnet, .network, .node, .organization]
  | .snapshot | .backup => [.vm, .organization]
  | _ => [.organization]

/-- How many steps of CASCADE can follow each other from a row of the table. -/
def Model.height : Model → Nat
  | .organization => 4
  | .node => 3
  | .network | .project => 2
  | .subnet | .vm | .backupTarget | .role => 1
  | _ => 0

/-- A row, with its foreign keys. -/
structure Record where
  pk : Nat
  uuid : Uuid
  refs : Field → Option Nat := fun _ => none

instance : Row Record := ⟨Record.pk⟩

/-- The row with one foreign key changed. -/
def Record.set (r : Record) (f : Field) (ref : Option Nat) : Record :=
  { r with refs := fun f' => if f' = f then ref else r.refs f' }

/-- The rows of every table. -/
abbrev Tables : Type := Model → List Record

/-- The object at the end of a path of foreign keys, by its primary key; nothing where one of them
is null. -/
def Tables.walk (t : Tables) : Model → Record → List Field → Option Nat
  | _, r, [] => some r.pk
  | m, r, f :: path => do
    let pk ← r.refs f
    let related ← m.relatedModel f
    let next ← Table.get (t related) pk
    walk t related next path

/-- A row of a table before and after a write. -/
structure Written where
  model : Model
  before : Option Record
  after : Option Record

/-- The tables after a write to one of them. -/
def Tables.write (t : Tables) (w : Written) : Tables := fun m =>
  if m = w.model then
    match w.before, w.after with
    | none, none => t m
    | none, some r => t m ++ [r]
    | some r, none => Table.remove (t m) r.pk
    | some r, some r' => Table.modify (t m) r.pk fun _ => r'
  else t m

/-- The tables after all writes, in their order. -/
def Tables.writeAll (t : Tables) (ws : List Written) : Tables := ws.foldl Tables.write t

/-! ## Deletion -/

/-- A row with a key to another. -/
structure Reference where
  model : Model
  field : Field
  row : Record

/-- The rows that refer to a row of the table by a key of the kind. -/
def Tables.referring (t : Tables) (kind : OnDelete) (m : Model) (r : Record) : List Reference :=
  Model.all.flatMap fun m' => Field.all.flatMap fun f =>
    if m'.relatedModel f = some m ∧ m'.onDelete f = kind then
      ((t m').filter fun r' => r'.refs f = some r.pk).map fun r' => ⟨m', f, r'⟩
    else []

/-- The rows that are deleted with a row, itself first: those that refer to it by CASCADE, and so on
for so many steps. -/
def Tables.collect (t : Tables) : Nat → Model → Record → List (Model × Record)
  | 0, m, r => [(m, r)]
  | n + 1, m, r => (m, r) :: (t.referring .cascade m r).flatMap fun x => t.collect n x.model x.row

/-- The rows that lose their reference to a row of the table. -/
def Tables.released (t : Tables) (m : Model) (r : Record) : List Written :=
  (t.referring .setNull m r).map fun x => ⟨x.model, some x.row, some (x.row.set x.field none)⟩

/-- The database. No two rows of a table have the same primary key. -/
structure Db where
  tables : Tables
  keyed : ∀ m, ((tables m).map Record.pk).Nodup

/-- `model.objects.filter(uuid=uuid).first()` -/
def Db.byUuid (db : Db) (m : Model) (uuid : Uuid) : Option Record :=
  (db.tables m).find? (·.uuid = uuid)

/-! ## Viewsets -/

/-- The actions of the viewsets. -/
inductive Action
  | list | retrieve | create | update | partialUpdate | destroy
  | allocate | reserve | release | maintenance | registerAgent | revokeAgent | rollback | restore
  | deploy | deliveries | cancel | download
  | start | stop | reboot | pause | resume | clone | migrate | console
  | attachDisk | resizeDisk | removeDisk | attachNic | removeNic
deriving DecidableEq

/-- `view.detail` -/
def Action.detail : Action → Bool
  | .list | .create => false
  | _ => true

/-- The methods of HTTP. -/
inductive Method
  | get | post | put | patch | delete
deriving DecidableEq

/-- The method by which an action is requested. -/
def Action.method : Action → Method
  | .list | .retrieve | .deliveries | .download | .console => .get
  | .update => .put
  | .partialUpdate => .patch
  | .destroy | .removeDisk | .removeNic => .delete
  | _ => .post

/-- What a viewset declares. -/
structure ViewSet where
  model : Model
  organizationFieldPath : List Field := [.organization]
  permissionMap : List (Action × String)
  httpMethodNames : List Method := [.get, .post, .put, .patch, .delete]
  /-- Of the serializer's field for the first step of the path. -/
  required : Bool := true
  allowNull : Bool := false
  /-- `RoleViewSet.get_queryset` adds the rows that have no organization. -/
  globalRows : Bool := false
  /-- `BackupViewSet.destroy` marks the row and leaves it. -/
  marksDeleted : Bool := false

/-- A permission map that gives each of the standard actions a codename. -/
def standard (view create update destroy : String) : List (Action × String) :=
  [(.list, view), (.retrieve, view), (.create, create), (.update, update), (.partialUpdate, update),
    (.destroy, destroy)]

/-- `StoragePoolViewSet` in `apps/storage/views.py`. -/
def storagePoolViewSet : ViewSet where
  model := .storagePool
  organizationFieldPath := [.node, .organization]
  permissionMap := standard "storage.view" "storage.manage" "storage.manage" "storage.manage"

/-- `NetworkViewSet` in `apps/networks/views.py`. -/
def networkViewSet : ViewSet where
  model := .network
  organizationFieldPath := [.node, .organization]
  permissionMap := standard "network.view" "network.manage" "network.manage" "network.manage"
  httpMethodNames := [.get, .post, .delete]

/-- `SubnetViewSet` in `apps/networks/views.py`. -/
def subnetViewSet : ViewSet where
  model := .subnet
  organizationFieldPath := [.network, .node, .organization]
  permissionMap := standard "network.view" "network.manage" "network.manage" "network.manage" ++
    [(.allocate, "network.manage"), (.reserve, "network.manage")]

/-- `IPPoolViewSet` in `apps/networks/views.py`. -/
def ipPoolViewSet : ViewSet where
  model := .ipPool
  organizationFieldPath := [.subnet, .network, .node, .organization]
  permissionMap := standard "network.view" "network.manage" "network.manage" "network.manage"

/-- `IPAddressViewSet` in `apps/networks/views.py`. -/
def ipAddressViewSet : ViewSet where
  model := .ipAddress
  organizationFieldPath := [.subnet, .network, .node, .organization]
  permissionMap := standard "network.view" "network.manage" "network.manage" "network.manage" ++
    [(.release, "network.manage")]

/-- `SnapshotViewSet` in `apps/snapshots/views.py`. -/
def snapshotViewSet : ViewSet where
  model := .snapshot
  organizationFieldPath := [.vm, .organization]
  httpMethodNames := [.get, .post, .delete]
  permissionMap := [(.list, "vm.view"), (.retrieve, "vm.view"), (.create, "vm.snapshot"),
    (.destroy, "vm.snapshot"), (.rollback, "vm.snapshot")]

/-- `BackupViewSet` in `apps/backups/views.py`. -/
def backupViewSet : ViewSet where
  model := .backup
  organizationFieldPath := [.vm, .organization]
  httpMethodNames := [.get, .post, .delete]
  permissionMap := [(.list, "backup.view"), (.retrieve, "backup.view"), (.create, "backup.create"),
    (.destroy, "backup.delete"), (.restore, "backup.restore")]
  marksDeleted := true

/-- `BackupTargetViewSet` in `apps/backups/views.py`. -/
def backupTargetViewSet : ViewSet where
  model := .backupTarget
  permissionMap := standard "backup.view" "backup.create" "backup.create" "backup.delete"

/-- `BackupScheduleViewSet` in `apps/backups/views.py`. -/
def backupScheduleViewSet : ViewSet where
  model := .backupSchedule
  permissionMap := standard "backup.view" "backup.create" "backup.create" "backup.delete"

/-- `WebhookViewSet` in `apps/webhooks/views.py`. -/
def webhookViewSet : ViewSet where
  model := .webhook
  permissionMap := standard "webhook.manage" "webhook.manage" "webhook.manage" "webhook.manage" ++
    [(.deliveries, "webhook.manage")]

/-- `TemplateViewSet` in `apps/vm_templates/views.py`. -/
def templateViewSet : ViewSet where
  model := .template
  permissionMap := standard "template.view" "template.manage" "template.manage" "template.manage" ++
    [(.deploy, "vm.create")]

/-- `ProjectViewSet` in `apps/organizations/views.py`. -/
def projectViewSet : ViewSet where
  model := .project
  permissionMap := standard "organization.manage" "organization.manage" "organization.manage"
    "organization.manage"

/-- `MembershipViewSet` in `apps/organizations/views.py`. -/
def membershipViewSet : ViewSet where
  model := .membership
  permissionMap := standard "organization.manage" "organization.manage" "organization.manage"
    "organization.manage"

/-- `QuotaViewSet` in `apps/organizations/views.py`. -/
def quotaViewSet : ViewSet where
  model := .quota
  permissionMap := standard "organization.manage" "organization.manage" "organization.manage"
    "organization.manage"

/-- `RoleViewSet` in `apps/permissions/views.py`. -/
def roleViewSet : ViewSet where
  model := .role
  permissionMap := standard "organization.manage" "organization.manage" "organization.manage"
    "organization.manage"
  required := false
  allowNull := true
  globalRows := true

/-- `RoleAssignmentViewSet` in `apps/permissions/views.py`. -/
def roleAssignmentViewSet : ViewSet where
  model := .roleAssignment
  permissionMap := standard "organization.manage" "organization.manage" "organization.manage"
    "organization.manage"

/-- `NodeViewSet` in `apps/nodes/views.py`. -/
def nodeViewSet : ViewSet where
  model := .node
  permissionMap := standard "node.view" "node.manage" "node.manage" "node.manage" ++
    [(.maintenance, "node.manage"), (.registerAgent, "node.manage"), (.revokeAgent, "node.manage")]

/-- `VirtualMachineViewSet` in `apps/virtual_machines/views.py`. -/
def virtualMachineViewSet : ViewSet where
  model := .vm
  permissionMap := standard "vm.view" "vm.create" "vm.update" "vm.delete" ++
    [(.start, "vm.start"), (.stop, "vm.stop"), (.reboot, "vm.reboot"), (.pause, "vm.stop"),
      (.resume, "vm.start"), (.clone, "vm.clone"), (.migrate, "vm.migrate"),
      (.console, "vm.console"), (.attachDisk, "vm.update"), (.resizeDisk, "vm.update"),
      (.removeDisk, "vm.update"), (.attachNic, "vm.update"), (.removeNic, "vm.update")]

/-- `JobViewSet` in `apps/jobs/views.py`. -/
def jobViewSet : ViewSet where
  model := .job
  permissionMap := [(.list, "job.view"), (.retrieve, "job.view"), (.cancel, "job.manage")]

/-- `EventViewSet` in `apps/events/views.py`. -/
def eventViewSet : ViewSet where
  model := .event
  permissionMap := [(.list, "event.view"), (.retrieve, "event.view")]

/-- `ImageViewSet` in `apps/images/views.py`. -/
def imageViewSet : ViewSet where
  model := .image
  permissionMap := [(.list, "image.view"), (.retrieve, "image.view"), (.destroy, "image.delete"),
    (.download, "image.view")]
  httpMethodNames := [.get, .delete]

/-- The viewsets that use the default `get_organization`. -/
def organizationScoped : List ViewSet :=
  [storagePoolViewSet, networkViewSet, subnetViewSet, ipPoolViewSet, ipAddressViewSet,
    snapshotViewSet, backupViewSet, backupTargetViewSet, backupScheduleViewSet, webhookViewSet,
    templateViewSet, projectViewSet, membershipViewSet, quotaViewSet, roleViewSet,
    roleAssignmentViewSet, nodeViewSet]

/-! ## Requests -/

/-- A reference in the query or in the body: missing, `null`, an empty text, a UUID, or anything
else. -/
inductive Param
  | missing | null | blank
  | uuid (u : Uuid)
  | malformed

/-- A request as a viewset reads it. -/
structure Request where
  user : User
  /-- The scopes of `request.api_token`, if the request came with one. -/
  scopes : Option Json := none
  action : Action
  /-- The object's identifier in the URL. -/
  lookup : Uuid := ⟨0⟩
  /-- `?organization=` -/
  organization : Param := .missing
  /-- The body's references. -/
  data : Field → Param := fun _ => .missing
  /-- What the serializer takes from the body for the foreign keys that do not start the path. -/
  others : Field → Option (Option Nat) := fun _ => none
  /-- The identifier that a new row draws. -/
  drawn : Uuid := ⟨0⟩
  /-- The identifier that the job of the request draws. -/
  drawnJob : Uuid := ⟨0⟩
  /-- The row of the address that `allocate` or `reserve` comes to, if there is one already. -/
  address : Option Uuid := none
  /-- The node on which a template is deployed. -/
  placed : Option Nat := none
  /-- The other fields are valid, and nothing else keeps the request from being carried out. -/
  valid : Bool := true

/-- Why a request is not carried out. -/
inductive Denial
  | permissionDenied | methodNotAllowed | notFound | invalid
  /-- `ProtectedError` -/
  | protectedError
deriving DecidableEq

namespace ViewSet

variable (v : ViewSet) (db : Db) (g : Grants) (req : Request)

/-- `HasResourcePermission._resolve_codename` -/
def codename : Option String := v.permissionMap.lookup req.action

/-- The key by which the path starts. -/
def firstField : Field := v.organizationFieldPath.headD .organization

/-- What `get_organization` finds in the body. -/
def bodyOrganization : Option Nat :=
  match v.organizationFieldPath with
  | [] => none
  | [.organization] =>
    match req.data .organization with
    | .uuid u => (db.byUuid .organization u).map Record.pk
    | _ => none
  | first :: rest =>
    match req.data first with
    | .uuid u => do
      let related ← v.model.relatedModel first
      let obj ← db.byUuid related u
      db.tables.walk related obj rest
    | _ => none

/-- `OrganizationScopedQuerysetMixin.get_organization`, the organization by its primary key. A text
that is no UUID makes the query raise, and the request fails. -/
def getOrganization : Option Nat :=
  match req.organization with
  | .uuid u => (db.byUuid .organization u).map Record.pk
  | .malformed => none
  | .missing | .null | .blank => v.bodyOrganization db req

/-- `HasResourcePermission._resolve_organization_from_object` -/
def organizationOf (t : Tables) (r : Record) : Option Nat :=
  t.walk v.model r v.organizationFieldPath

/-- `get_queryset` -/
def getQueryset : List Record :=
  if req.user.isSuperuser then db.tables v.model
  else
    let member := (g.memberships.filter (·.1 = req.user.pk)).map Prod.snd
    let organizations :=
      match req.action, v.permissionMap.lookup .list with
      | .list, some codename => g.organizationsWithPermission req.user codename member
      | _, _ => member
    (db.tables v.model).filter fun r =>
      (match v.organizationOf db.tables r with
        | some organization => organization ∈ organizations
        | none => false) || (v.globalRows && (r.refs .organization).isNone)

/-- `get_object` -/
def getObject : Except Denial Record :=
  match (v.getQueryset db g req).find? (·.uuid = req.lookup) with
  | none => .error .notFound
  | some r =>
    if hasObjectPermission g req.user req.scopes (v.codename req)
        (v.organizationOf db.tables r) then .ok r
    else .error .permissionDenied

/-- The serializer's `SlugRelatedField` for the first step of the path: what the validated data has
for it, if anything. An update by `PATCH` may leave out any field. Where the field of a new row is not
required, as that of a role, the validator of the columns that are unique together asks for it. -/
def validated (instance? : Option Record) (patch : Bool) : Except Denial (Option (Option Nat)) :=
  match req.data v.firstField with
  | .missing => if patch || (instance?.isSome && ¬ v.required) then .ok none else .error .invalid
  | .null | .blank => if v.allowNull then .ok (some none) else .error .invalid
  | .malformed => .error .invalid
  | .uuid u =>
    match (v.model.relatedModel v.firstField).bind fun related => db.byUuid related u with
    | some obj => .ok (some (some obj.pk))
    | none => .error .invalid

/-- The object with what the validated data has for the other foreign keys. -/
def amend (r : Record) : Record :=
  { r with refs := fun f => if f = v.firstField then r.refs f else (req.others f).getD (r.refs f) }

/-- The object with what the validated data has for the first step of the path. -/
def assign (r : Record) : Option (Option Nat) → Record
  | none => r
  | some ref => r.set v.firstField ref

/-! ### Services -/

/-- The actions whose service makes a job. -/
def makesJob : Bool :=
  match v.model, req.action with
  | .storagePool, .create | .network, .create | .network, .destroy | .snapshot, .create
  | .snapshot, .destroy | .snapshot, .rollback | .backup, .create | .backup, .restore => true
  | _, _ => false

/-- The node of the object, or of its VM. -/
def nodeOf (t : Tables) (r : Record) : Option Nat :=
  match v.model with
  | .snapshot | .backup => do
    let vm ← Table.get (t .vm) (← r.refs .vm)
    vm.refs .node
  | _ => r.refs .node

/-- `create_job` -/
def newJob (organization node : Option Nat) : Written where
  model := .job
  before := none
  after := some
    { pk := Table.nextPk (db.tables .job), uuid := req.drawnJob
      refs := fun | .organization => organization | .node => node | _ => none }

/-- The job of the object's organization, where the action has one. -/
def jobs (r : Record) : List Written :=
  if v.makesJob req then
    [newJob db req (v.organizationOf db.tables r) (v.nodeOf db.tables r)]
  else []

/-- `allocate_ip` and `reserve_ip`: the address is in the subnet already, or it is added to it. -/
def addressOf (subnet : Record) : Written :=
  match (db.tables .ipAddress).find? fun a =>
      a.refs .subnet = some subnet.pk ∧ req.address = some a.uuid with
  | some a => ⟨.ipAddress, some a, some a⟩
  | none =>
    ⟨.ipAddress, none, some
      { pk := Table.nextPk (db.tables .ipAddress), uuid := req.drawn
        refs := fun | .subnet => some subnet.pk | _ => none }⟩

/-- `create_vm_from_template`: the VM and its job are in the organization of the template, and the
project is the one that the body names. -/
def deployed (template : Record) : Except Denial (List Written) :=
  match req.data .project with
  | .uuid u =>
    match db.byUuid .project u with
    | some project => .ok
        [⟨.vm, none, some
          { pk := Table.nextPk (db.tables .vm), uuid := req.drawn
            refs := fun
              | .organization => template.refs .organization
              | .project => some project.pk
              | .node => req.placed
              | .template => some template.pk
              | _ => none }⟩,
          newJob db req (template.refs .organization) req.placed]
    | none => .error .invalid
  | _ => .error .invalid

/-- The deletion of the object, with what `on_delete` does to the rows that refer to it. -/
def removed (r : Record) : Except Denial (List Written) :=
  if v.marksDeleted then .ok [⟨v.model, some r, some r⟩]
  else
    let taken := db.tables.collect v.model.height v.model r
    if taken.all fun x => (db.tables.referring .protect x.1 x.2).isEmpty then
      .ok (v.jobs db req r ++ (taken.flatMap fun x => db.tables.released x.1 x.2) ++
        taken.map fun x => ⟨x.1, some x.2, none⟩)
    else .error .protectedError

/-! ### Handlers -/

/-- The handler of an action, with the rows that it writes. -/
def perform : Except Denial (List Written) :=
  match req.action with
  | .list => .ok []
  | .create => do
    let ref ← v.validated db req none false
    let r : Record := { pk := Table.nextPk (db.tables v.model), uuid := req.drawn }
    let r := v.assign (v.amend req r) ref
    if req.valid then .ok (⟨v.model, none, some r⟩ :: v.jobs db req r) else .error .invalid
  | .update | .partialUpdate => do
    let r ← v.getObject db g req
    let ref ← v.validated db req r (req.action = .partialUpdate)
    if req.valid then .ok [⟨v.model, some r, some (v.assign (v.amend req r) ref)⟩] else .error .invalid
  | .destroy => do
    let r ← v.getObject db g req
    if req.valid then v.removed db req r else .error .invalid
  -- `release` and `maintenance` save other fields of the object
  | .release | .maintenance => do
    let r ← v.getObject db g req
    if req.valid then .ok [⟨v.model, some r, some r⟩] else .error .invalid
  | .allocate | .reserve => do
    let r ← v.getObject db g req
    if req.valid then .ok [addressOf db req r] else .error .invalid
  | .rollback | .restore => do
    let r ← v.getObject db g req
    if req.valid then .ok (v.jobs db req r) else .error .invalid
  | .deploy => do
    let r ← v.getObject db g req
    if req.valid then deployed db req r else .error .invalid
  | _ => do
    let _ ← v.getObject db g req
    .ok []

/-- A request to the viewset. -/
def dispatch : Except Denial (List Written) :=
  if ¬ hasResourcePermission g req.user req.scopes (v.codename req)
      (req.action.detail || req.action = .list) (v.getOrganization db req) then
    .error .permissionDenied
  else if req.action.method ∉ v.httpMethodNames then .error .methodNotAllowed
  else v.perform db g req

end ViewSet

end NodePilot.Access

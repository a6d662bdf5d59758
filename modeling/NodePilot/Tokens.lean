import NodePilot.Lib.Pool
import NodePilot.Viewsets

/-!
# API tokens and what they lead to

Requests that come with an API token, and WebSocket connections that come with a ticket
(`apps/authentication`). The views that `HasResourcePermission` guards hold a request to the scopes
of its token. The views for tokens, for tickets and for an upload under way ask for an authenticated
user only, and a ticket keeps nothing of the token it was issued for.

A `Portal` has the rows these views read, and the credentials that one client holds: the token it
began with and whatever its own requests returned.
-/

namespace NodePilot.Access

open Lib

/-! ## Guarded views -/

/-- What `HasResourcePermission` reads of a view. -/
structure View where
  permissionMap : List (Action × String) := []
  requiredPermission : Option String := none

/-- `HasResourcePermission._resolve_codename` -/
def View.codename (view : View) (action : Action) : Option String :=
  if view.permissionMap.isEmpty then view.requiredPermission else view.permissionMap.lookup action

/-- A viewset, as the guard sees it. -/
def ViewSet.view (v : ViewSet) : View := { permissionMap := v.permissionMap }

def organizationView : View where
  permissionMap := standard "organization.manage" "organization.manage" "organization.manage"
    "organization.manage"

def auditLogView : View where
  requiredPermission := some "audit.view"

def nodeMetricsView : View where
  requiredPermission := some "node.view"

def vmMetricsView : View where
  requiredPermission := some "vm.view"

def initiateUploadView : View where
  requiredPermission := some "image.upload"

/-- The views that `HasResourcePermission` guards. -/
def guardedViews : List View :=
  (organizationScoped ++ [virtualMachineViewSet, jobViewSet, eventViewSet, imageViewSet]).map
      ViewSet.view ++
    [organizationView, auditLogView, nodeMetricsView, vmMetricsView, initiateUploadView]

abbrev GuardedView : Type := { view : View // view ∈ guardedViews }

/-! ## Rows -/

/-- `APIToken`. The raw token stands for the hash that is stored of it. -/
structure APIToken where
  raw : Nat
  uuid : Uuid
  user : Nat
  scopes : Json := .arr []
  expiresAt : Option Nat := none
  revoked : Bool := false

instance : Row APIToken := ⟨APIToken.raw⟩

/-- `APIToken.is_valid` -/
def APIToken.isValid (token : APIToken) (now : Nat) : Bool :=
  !token.revoked && match token.expiresAt with
    | some expiry => now < expiry
    | none => true

/-- A WebSocket ticket, as Redis keeps it. -/
structure Ticket where
  key : Nat
  user : Nat
  expiresAt : Nat

instance : Row Ticket := ⟨Ticket.key⟩

/-- `TICKET_TTL_SECONDS` -/
def ticketTtlSeconds : Nat := 30

/-- What the views read, and what the client has. -/
structure Portal where
  tokens : List APIToken
  tickets : List Ticket := []
  /-- `ImageUploadSession`: the session and the user who created it. -/
  uploads : List (Uuid × Nat) := []
  /-- The raw tokens and the tickets that the client holds. -/
  held : List Nat := []
  heldTickets : List Nat := []
  /-- The codenames required for what the client did to organization resources. -/
  performed : List String := []

/-! ## Requests -/

/-- The consumers that look at a ticket's user. -/
inductive Consumer
  | job | nodeStatus | vm | console | events

/-- What a consumer asks `has_permission` for. -/
def Consumer.codename : Consumer → String
  | .job => "job.view"
  | .nodeStatus => "node.view"
  | .vm => "vm.view"
  | .console => "vm.console"
  | .events => "event.view"

/-- The codename for uploading an image. The views for an upload under way do not name it. -/
def uploadCodename : String := "image.upload"

/-- What decides a request besides the rows above. -/
structure Surroundings where
  now : Nat := 0
  grants : Grants := {}
  active : Nat → Bool := fun _ => true
  superuser : Nat → Bool := fun _ => false

/-- A request with an API token. `done` says that nothing else keeps it from being carried out. -/
inductive Call
  /-- A request to a guarded view: its organization as far as it is known before the view runs, and
  the organization of its object if it has one. -/
  | resource (view : GuardedView) (action : Action) (organization : Option Nat)
      (object : Option (Option Nat)) (done : Bool)
  /-- `InitiateUploadView.post` -/
  | initiateUpload (organization : Option Nat) (uuid : Uuid) (done : Bool)
  /-- `ChunkUploadView.put`, `FinalizeUploadView.post` and `AbortUploadView.post` -/
  | continueUpload (uuid : Uuid) (done : Bool)
  /-- `APITokenViewSet.create` -/
  | createToken (scopes : Option Json) (expiresAt : Option Nat) (uuid : Uuid) (done : Bool)
  /-- `APITokenViewSet.update` and `partial_update` -/
  | updateToken (uuid : Uuid) (scopes : Option Json) (expiresAt : Option (Option Nat)) (done : Bool)
  /-- `APITokenViewSet.destroy` -/
  | revokeToken (uuid : Uuid)
  /-- `WSTicketView.post` -/
  | issueTicket
  /-- Whatever reads the user's own tokens, the user's profile or the permission catalog. -/
  | readOwn

inductive Step
  | api (raw : Nat) (call : Call)
  /-- A WebSocket connection: the organization of its object, if the object is there, and whether
  it is in a state to be connected to. -/
  | connect (ticket : Nat) (consumer : Consumer) (organization : Option Nat) (ready : Bool)

/-- `validate_scopes`. Of an object the keys are looked at; of a text the characters, and of a
number or a boolean nothing can be. -/
def validScopes (value : Json) : Bool :=
  match value with
  | .null => false
  | .arr xs => xs.all fun x => permissionCatalog.any fun codename => isText codename x
  | .obj fields => fields.all fun field => decide (field.1 ∈ permissionCatalog)
  | value => !value.truthy

namespace Portal

variable (e : Surroundings) (p : Portal)

def user (pk : Nat) : User := { pk := pk, isSuperuser := e.superuser pk }

/-- `APITokenAuthentication.authenticate` -/
def authenticate (raw : Nat) : Option APIToken := do
  let token ← Table.get p.tokens raw
  if token.isValid e.now && e.active token.user then some token else none

/-- One of the user's own tokens. -/
def ownToken (token : APIToken) (uuid : Uuid) : Option APIToken :=
  p.tokens.find? fun t => t.user = token.user ∧ t.uuid = uuid

/-- The checks of `HasResourcePermission` on a request with a token. -/
def permits (token : APIToken) (codename : Option String) (deferred : Bool)
    (organization : Option Nat) (object : Option (Option Nat)) : Bool :=
  hasResourcePermission e.grants (user e token.user) (some token.scopes) codename deferred
    organization && match object with
    | some organization =>
      hasObjectPermission e.grants (user e token.user) (some token.scopes) codename organization
    | none => true

/-- A request is carried out. -/
def accepts (token : APIToken) : Call → Bool
  | .resource view action organization object done =>
    permits e token (view.1.codename action) (action.detail || action = .list) organization object &&
      done
  | .initiateUpload organization _ done =>
    permits e token initiateUploadView.requiredPermission false organization none && done
  | .continueUpload uuid done => decide ((uuid, token.user) ∈ p.uploads) && done
  | .createToken scopes _ _ done => scopes.all validScopes && done
  | .updateToken uuid scopes _ done =>
    (p.ownToken token uuid).isSome && scopes.all (fun
      | .null => false
      | _ => true) && done
  | .revokeToken uuid => (p.ownToken token uuid).isSome
  | .issueTicket | .readOwn => true

/-- What a request that is carried out does. -/
def effect (token : APIToken) : Call → Portal
  | .resource view action _ _ _ =>
    { p with performed := p.performed ++ (view.1.codename action).toList }
  | .initiateUpload _ uuid _ =>
    { p with
      uploads := p.uploads ++ [(uuid, token.user)]
      performed := p.performed ++ [uploadCodename] }
  | .continueUpload _ _ => { p with performed := p.performed ++ [uploadCodename] }
  | .createToken scopes expiresAt uuid _ =>
    { p with
      tokens := p.tokens ++ [{
        raw := Table.nextPk p.tokens, uuid := uuid, user := token.user
        scopes := scopes.getD (.arr []), expiresAt := expiresAt }]
      held := p.held ++ [Table.nextPk p.tokens] }
  | .updateToken uuid scopes expiresAt _ =>
    match p.ownToken token uuid with
    | some t => { p with tokens := Table.modify p.tokens t.raw fun t =>
        { t with scopes := scopes.getD t.scopes, expiresAt := expiresAt.getD t.expiresAt } }
    | none => p
  | .revokeToken uuid =>
    match p.ownToken token uuid with
    | some t => { p with tokens := Table.modify p.tokens t.raw fun t => { t with revoked := true } }
    | none => p
  | .issueTicket =>
    { p with
      tickets := p.tickets ++ [{
        key := Table.nextPk p.tickets, user := token.user, expiresAt := e.now + ticketTtlSeconds }]
      heldTickets := p.heldTickets ++ [Table.nextPk p.tickets] }
  | .readOwn => p

/-- `redeem_ticket`, the ticket while it is valid. -/
def redeem (key : Nat) : Option Ticket := (Table.get p.tickets key).filter (e.now < ·.expiresAt)

/-- A connection with a good ticket is let in. -/
def letsIn (ticket : Ticket) (consumer : Consumer) (organization : Option Nat) (ready : Bool) :
    Bool :=
  organization.isSome && e.active ticket.user &&
    e.grants.hasPermission (user e ticket.user) organization consumer.codename && ready

end Portal

/-- One request of the client, with a credential that it holds. -/
def Portal.step (s : Surroundings × Step) (p : Portal) : Option Portal :=
  match s.2 with
  | .api raw call =>
    if raw ∉ p.held then none
    else match p.authenticate s.1 raw with
      | some token => if p.accepts s.1 token call then some (p.effect s.1 token call) else some p
      | none => some p
  | .connect key consumer organization ready =>
    if key ∉ p.heldTickets then none
    else match p.redeem s.1 key with
      | some ticket =>
        let rest := { p with tickets := Table.remove p.tickets key }
        if Portal.letsIn s.1 ticket consumer organization ready then
          some { rest with performed := p.performed ++ [consumer.codename] }
        else some rest
      | none => some p

end NodePilot.Access

import NodePilot.Domains
import NodePilot.Laws.DomainIdentity
import NodePilot.Laws.Outcomes

/-!
# Whether a VM's status is true of its domain

A task writes the status that its operation is meant to bring about. What the operation does bring
about depends on the domain as it finds it, and on the guest: a guest may not power off when it is
asked to, or may do so long after; a paused domain that is started, reset or rebooted stays paused;
and a rollback writes no status at all. `Suits` says for each step when none of this happens, and the
status is true all along a run exactly when every step of it suits.
-/

namespace NodePilot

open Lib

/-! ## What the calls do to a domain -/

namespace Agent

/-- The guest powers off now. -/
def Power.leaves (p : Power) (obey : Bool) : Prop :=
  p.state = .running ∧ p.shutdownRequested ∧ obey

instance (p : Power) (obey : Bool) : Decidable (p.leaves obey) :=
  inferInstanceAs (Decidable (_ ∧ _ ∧ _))

/-- Only the guest of a running domain can power it off. -/
theorem Power.after_of_idle {p : Power} {obey : Bool} (idle : p.state ≠ .running) :
    p.after obey = p := by
  cases obey with
  | false => rfl
  | true => simp [Power.after, Power.obeyed, idle]

/-- What a lifecycle operation makes of a domain, `none` where libvirt raises. -/
def Power.under (p : Power) : OperationType → Option Power
  | .startVm => some (if p.state = .shutOff then { state := .running } else p)
  | .stopVm => some (if p.state = .shutOff then p else {})
  | .shutdownVm => some (if p.state = .shutOff then p else { p with shutdownRequested := true })
  | .rebootVm | .resetVm => if p.state = .shutOff then none else some p
  | .pauseVm => if p.state = .shutOff then none else some { p with state := .paused }
  | .resumeVm => if p.state = .shutOff then none else some { p with state := .running }
  | _ => none

end Agent

/-- The operations of the lifecycle tasks. -/
def OperationType.isLifecycle : OperationType → Bool
  | .startVm | .stopVm | .shutdownVm | .rebootVm | .resetVm | .pauseVm | .resumeVm => true
  | _ => false

namespace Agent

section Serve

variable {workdir : Text} {h h' : Hypervisor} {u : Text}

/-- A call about a domain finds it and changes it alone. -/
theorem withDomain_some {f : Domain → Option Domain} (done : h.withDomain u f = some h') :
    ∃ d d', h u = some d ∧ f d = some d' ∧ h' = Function.update h u (some d') := by
  obtain ⟨d, found, rest⟩ := Option.bind_eq_some_iff.mp done
  obtain ⟨d', made, same⟩ := Option.bind_eq_some_iff.mp rest
  exact ⟨d, d', found, made, (Option.some.inj same).symm⟩

/-- One call of a handler. -/
theorem serve_one {r : AgentRequest} {c : LibvirtCall} (calls : libvirtCalls workdir r = .ok [c]) :
    h.serve workdir r = c.perform h := by
  rw [Hypervisor.serve, calls]
  exact bind_pure _

/-- The calls that look a domain up and leave it. -/
theorem withDomain_same (done : h.withDomain u some = some h') : h' = h := by
  obtain ⟨d, d', found, made, rfl⟩ := withDomain_some done
  cases made
  rw [← found]
  exact Function.update_eq_self u h

/-- A lifecycle operation is one call, on the domain that has the VM's `uuid`. -/
theorem perform_lifecycle (workdir : Text) (h : Hypervisor) (v : VmRow) {operation : OperationType}
    (lifecycle : operation.isLifecycle) :
    ∃ c, libvirtCalls workdir (vmRequest v operation) = .ok [c] ∧
      c.perform h = h.withDomain v.uuid.chars fun d =>
        (d.power.under operation).map fun p => { d with power := p } := by
  have key : v.uuid.str.toList = v.uuid.chars := String.toList_ofList
  have acts {c : LibvirtCall} {f : Domain → Option Domain}
      (calls : libvirtCalls workdir (vmRequest v operation) = .ok [c])
      (done : c.perform h = h.withDomain v.uuid.str.toList f)
      (power : ∀ d, f d = (d.power.under operation).map fun p => { d with power := p }) :
      ∃ c, libvirtCalls workdir (vmRequest v operation) = .ok [c] ∧
        c.perform h = h.withDomain v.uuid.chars fun d =>
          (d.power.under operation).map fun p => { d with power := p } := by
    rw [key, funext power] at done
    exact ⟨c, calls, done⟩
  cases operation with
  | startVm | stopVm | shutdownVm | rebootVm | resetVm | pauseVm | resumeVm =>
    refine acts rfl rfl fun d => ?_
    by_cases off : d.power.state = .shutOff
    · simp [Domain.isActive, Domain.whenActive, Power.under, off]
    · simp [Domain.isActive, Domain.whenActive, Power.under, off]
  | _ => cases lifecycle

/-- A lifecycle call changes the power of the VM's domain. -/
theorem serve_lifecycle {v : VmRow} {operation : OperationType} (lifecycle : operation.isLifecycle)
    (done : h.serve workdir (vmRequest v operation) = some h') :
    ∃ d p, h v.uuid.chars = some d ∧ d.power.under operation = some p ∧
      h' = Function.update h v.uuid.chars (some { d with power := p }) := by
  obtain ⟨c, calls, acts⟩ := perform_lifecycle workdir h v lifecycle
  rw [serve_one calls, acts] at done
  obtain ⟨d, d', found, made, rfl⟩ := withDomain_some done
  obtain ⟨p, hp, rfl⟩ := Option.map_eq_some_iff.mp made
  exact ⟨d, p, found, hp, rfl⟩

/-- An operation on a named snapshot is one call, on the same domain. -/
theorem serve_named {v : VmRow} {r : AgentRequest} {make : Text → Text → LibvirtCall}
    {f : Text → Domain → Option Domain} {name : Except AgentError Text}
    (calls : libvirtCalls workdir r = do return [make v.uuid.str.toList (← name)])
    (acts : ∀ u name, (make u name).perform h = h.withDomain u (f name))
    (done : h.serve workdir r = some h') :
    ∃ name' d d', name = .ok name' ∧ h v.uuid.chars = some d ∧ f name' d = some d' ∧
      h' = Function.update h v.uuid.chars (some d') := by
  have key : v.uuid.str.toList = v.uuid.chars := String.toList_ofList
  cases name with
  | error e =>
    rw [Hypervisor.serve, calls] at done
    cases done
  | ok name =>
    rw [serve_one calls, acts, key] at done
    obtain ⟨d, d', found, made, rfl⟩ := withDomain_some done
    exact ⟨name, d, d', rfl, found, made, rfl⟩

/-- CREATE_DISK touches no domain. -/
theorem serve_createDisk {r : AgentRequest} (create : r.operation = .createDisk)
    (done : h.serve workdir r = some h') : h' = h := by
  have calls : libvirtCalls workdir r = .ok [] := by
    unfold libvirtCalls
    rw [create]
  rw [Hypervisor.serve, calls] at done
  exact (Option.some.inj done).symm

/-- Neither does GENERATE_CLOUD_INIT. -/
theorem serve_generateCloudInit {r : AgentRequest} (generate : r.operation = .generateCloudInit)
    (done : h.serve workdir r = some h') : h' = h := by
  have calls : ∃ xml, libvirtCalls workdir r = .ok [.attachDevice r.resourceId.toList xml false] := by
    unfold libvirtCalls
    rw [generate]
    exact ⟨_, rfl⟩
  obtain ⟨xml, calls⟩ := calls
  rw [serve_one calls] at done
  exact withDomain_same done

/-- CREATE_VM defines the domain under `domain_uuid`. One that is there stays as it is. -/
theorem serve_createVm {v : VmRow} {disks : List (DiskRow × PoolRow)}
    {nics : List (NicRow × NetworkRow)}
    (done : h.serve workdir (createVmRequest v disks nics) = some h') :
    h' = Function.update h v.domainUuid.chars (some ((h v.domainUuid.chars).getD {})) := by
  cases built : buildDomainXml (createVmRequest v disks nics).payload with
  | error e =>
    have calls : libvirtCalls workdir (createVmRequest v disks nics) = .error e := by
      rw [libvirtCalls, createVmRequest, vmRequest]
      exact congrArg (· >>= _) built
    rw [Hypervisor.serve, calls] at done
    cases done
  | ok xml =>
    have calls : libvirtCalls workdir (createVmRequest v disks nics) = .ok [.defineDomain xml] := by
      rw [libvirtCalls, createVmRequest, vmRequest]
      exact congrArg (· >>= _) built
    rw [serve_one calls, LibvirtCall.perform, createVm_uuidElement calls] at done
    exact (Option.some.inj done).symm

end Serve

end Agent

namespace Domains

open Agent

/-! ## When a step suits -/

/-- An operation suits a domain that it finds at `p`: what its task writes is true then. `late` is
whether a guest that has been asked to power off does so meanwhile. -/
def Fits (late : Bool) (p : Power) : OperationType → Prop
  | .startVm | .rebootVm | .resetVm => p.state ≠ .paused ∧ ¬ p.leaves late
  | .resumeVm => ¬ (p.shutdownRequested ∧ late)
  | .shutdownVm => p.state = .shutOff ∨ (p.state = .running ∧ late)
  | _ => True

/-- Provisioning suits the domain that was there before. -/
def FitsProvision (autostart late : Bool) (p : Power) : Prop :=
  if autostart then Fits late p .startVm else p.state = .shutOff ∨ p.leaves late

/-- The operation of a lifecycle task, by the type of its job. -/
def VmTask.operation (type : JobType) : VmTask → Option OperationType
  | .start => some .startVm
  | .stop => some (if type = .vmStop then .stopVm else .shutdownVm)
  | .reboot => some (if type = .vmReset then .resetVm else .rebootVm)
  | .pause => some .pauseVm
  | .resume => some .resumeVm
  | _ => none

/-- Whether the VM's domain runs. -/
def State.power (s : State) (v : VmRow) : Power :=
  ((s.domains v.domainUuid.chars).map Domain.power).getD {}

/-- What a snapshot recorded. -/
def State.recorded (s : State) (v : VmRow) (x : SnapshotRow) : Option Power :=
  (s.domains v.domainUuid.chars).bind fun d => d.snapshot x.agentSnapshotId.toList

/-- The execution suits the state it starts from. -/
def Execution.Suits (x : Execution) (s : State) (v : VmRow) : Prop :=
  match x.task with
  | .provision => FitsProvision v.autostart x.late ((s.power v).after x.early)
  | .createSnapshot _ | .deleteSnapshot _ =>
    v.status = .running → ¬ (s.power v).leaves (x.early || x.late)
  | .rollbackSnapshot snapshot => ∀ y ∈ Table.get s.db.snapshots snapshot,
    ∀ p ∈ s.recorded v y, Agrees v.status (some (p.after x.late).state)
  | task => ∀ job ∈ Table.get s.db.jobs x.jobId, ∀ operation ∈ task.operation job.type,
    Fits x.late ((s.power v).after x.early) operation

/-- The step suits the state it starts from. -/
def Suits (vm : Nat) : Event → State → Prop
  | .execute x, s => ∀ v ∈ Table.get s.db.vms vm, x.Suits s v
  | .powerOff, s => ∀ v ∈ Table.get s.db.vms vm, v.status = .running → ¬ (s.power v).shutdownRequested
  | .elsewhere _, _ => True

/-! ## One step -/

/-- The status that the task of an operation writes. -/
def statusOf : OperationType → VMStatus
  | .stopVm | .shutdownVm => .stopped
  | .pauseVm => .paused
  | _ => .running

/-- No domain but the VM's own has the VM's `uuid`. -/
def Sole (vm : Nat) (s : State) : Prop :=
  ∀ v ∈ Table.get s.db.vms vm, ∀ d, s.domains v.uuid.chars = some d →
    v.uuid.chars = v.domainUuid.chars

/-- A lifecycle call leaves the state that its status names exactly where it fits. -/
theorem agrees_under {p p' : Power} {late : Bool} (operation : OperationType)
    (lifecycle : operation.isLifecycle) (done : p.under operation = some p') :
    Agrees (statusOf operation) (some (p'.after late).state) ↔ Fits late p operation := by
  rcases p with ⟨state, requested⟩
  cases operation with
  | startVm | stopVm | shutdownVm | rebootVm | resetVm | pauseVm | resumeVm =>
    cases state <;> cases done <;> cases requested <;> cases late <;>
      simp [Agrees, statusOf, Fits, Power.after, Power.obeyed, Power.leaves]
  | _ => cases lifecycle

/-- A shutdown is over where the guest obeys. -/
theorem agrees_left {p : Power} {late : Bool} :
    Agrees .stopped (some (p.after late).state) ↔ p.state = .shutOff ∨ p.leaves late := by
  rcases p with ⟨state, requested⟩
  cases state <;> cases requested <;> cases late <;>
    simp [Agrees, Power.after, Power.obeyed, Power.leaves]

/-- Nothing but the guest's decisions. -/
theorem agrees_after {p : Power} {status : VMStatus} {early late : Bool}
    (before : Agrees status (some p.state)) :
    Agrees status (some ((p.after early).after late).state) ↔
      (status = .running → ¬ p.leaves (early || late)) := by
  by_cases running : p.state = .running
  · cases status with
    | running =>
      rcases p with ⟨state, requested⟩
      subst running
      cases requested <;> cases early <;> cases late <;>
        simp [Agrees, Power.after, Power.obeyed, Power.leaves]
    | stopped | paused => simp [Agrees, running] at before
    | _ => exact iff_of_true trivial (by simp)
  · rw [Power.after_of_idle running, Power.after_of_idle running]
    exact iff_of_true before fun _ left => running left.1

/-- An execution that succeeds, taken apart. -/
theorem execute_some {workdir : Text} {vm : Nat} {x : Execution} {s s' : State}
    (done : execute workdir vm x s = some s') :
    ∃ t calls h, Yields ((x.task.task vm).body x.jobId) () ⟨s.db.settled, []⟩ () () ⟨t.settled, calls⟩ ∧
      serveAll workdir calls (s.domains.guests fun _ => x.early) = some h ∧
      s' = ⟨t, h.guests fun _ => x.late⟩ := by
  obtain ⟨w, succeeded, rest⟩ := Option.bind_eq_some_iff.mp done
  obtain ⟨h, served, same⟩ := Option.bind_eq_some_iff.mp rest
  exact ⟨w.db, w.confirmed, h, Task.succeed_yields succeeded, served, (Option.some.inj same).symm⟩

/-- A lifecycle task that returns had its call confirmed. -/
theorem lifecycle_yields {vm jobId : Nat} {task : VmTask} {s s' : Ledger}
    (lifecycle : ∀ type, (task.operation type).isSome)
    (h : Yields ((task.task vm).body jobId) () s () () s') :
    ∃ v job data operation, Table.get s.rows.vms vm = some v ∧
      Table.get s.rows.jobs jobId = some (JobRow.shape job) ∧
      task.operation job.type = some operation ∧ operation.isLifecycle ∧
      s' = ⟨s.rows.vmSaved vm { status := some (statusOf operation) },
        s.calls ++ [(vmRequest v operation, data)]⟩ := by
  cases task with
  | start | pause | resume =>
    obtain ⟨v, job, data, found, foundJob, rfl⟩ := Yields.simpleLifecycleTask h
    exact ⟨v, job, data, _, found, foundJob, rfl, rfl, rfl⟩
  | stop =>
    obtain ⟨job, _, _, gotJob, rest⟩ := Yields.bind (x := getJob jobId) h
    obtain ⟨foundJob, rfl, rfl⟩ := gotJob.getJob
    split at rest
    · next forced =>
      obtain ⟨v, _, data, found, -, rfl⟩ := rest.simpleLifecycleTask
      exact ⟨v, job, data, .stopVm, found, foundJob, by rw [VmTask.operation, if_pos forced], rfl, rfl⟩
    · next forced =>
      obtain ⟨v, _, data, found, -, rfl⟩ := rest.simpleLifecycleTask
      exact ⟨v, job, data, .shutdownVm, found, foundJob, by rw [VmTask.operation, if_neg forced], rfl,
        rfl⟩
  | reboot =>
    obtain ⟨job, _, _, gotJob, rest⟩ := Yields.bind (x := getJob jobId) h
    obtain ⟨foundJob, rfl, rfl⟩ := gotJob.getJob
    split at rest
    · next hard =>
      obtain ⟨v, _, data, found, -, rfl⟩ := rest.simpleLifecycleTask
      exact ⟨v, job, data, .resetVm, found, foundJob, by rw [VmTask.operation, if_pos hard], rfl, rfl⟩
    · next hard =>
      obtain ⟨v, _, data, found, -, rfl⟩ := rest.simpleLifecycleTask
      exact ⟨v, job, data, .rebootVm, found, foundJob, by rw [VmTask.operation, if_neg hard], rfl, rfl⟩
  | _ => exact absurd (lifecycle .vmStop) (by simp [VmTask.operation])

/-- One call is served. -/
theorem serveAll_one {workdir : Text} {h : Hypervisor} {c : AgentRequest × Dict} :
    serveAll workdir [c] h = h.serve workdir c.1 := bind_pure _

/-- Calls that leave the host as it is. -/
theorem serveAll_same {workdir : Text} {h h' : Hypervisor} {calls : List (AgentRequest × Dict)}
    (same : ∀ c ∈ calls, ∀ h h' : Hypervisor, h.serve workdir c.1 = some h' → h' = h)
    (served : serveAll workdir calls h = some h') : h' = h := by
  induction calls generalizing h with
  | nil => exact (Option.some.inj served).symm
  | cons c calls ih =>
    obtain ⟨h₁, first, rest⟩ := Option.bind_eq_some_iff.mp served
    obtain rfl := same c List.mem_cons_self h h₁ first
    exact ih (fun c' hc' => same c' (List.mem_cons_of_mem c hc')) rest

/-- Calls are served one after the other. -/
theorem serveAll_append {workdir : Text} {h h' : Hypervisor}
    {calls calls' : List (AgentRequest × Dict)} (served : serveAll workdir (calls ++ calls') h = some h') :
    ∃ h₁, serveAll workdir calls h = some h₁ ∧ serveAll workdir calls' h₁ = some h' := by
  rw [serveAll, List.foldlM_append] at served
  exact Option.bind_eq_some_iff.mp served

/-! ### The state after a step -/

section Step

variable {workdir : Text} {vm : Nat} {x : Execution} {s s' : State} {v : VmRow}

/-- The status is true where it agrees with the domain's state. -/
theorem statusTrue_iff (s' : State) {v' : VmRow} {d' : Domain} (row : Table.get s'.db.vms vm = some v')
    (defined : s'.domains v'.domainUuid.chars = some d') :
    StatusTrue vm s' ↔ Agrees v'.status (some d'.power.state) := by
  simp [StatusTrue, row, State.domainState, defined]

/-- What a guest does, it does to its own domain. -/
theorem guests_some {h : Hypervisor} {u : Text} {d : Domain} (obey : Bool) (found : h u = some d) :
    h.guests (fun _ => obey) u = some { d with power := d.power.after obey } := by
  simp [Hypervisor.guests, found]

/-- The domain that an operation finds by the VM's `uuid` is the VM's. -/
theorem Sole.found {obey : Bool} {d : Domain} (sole : Sole vm s)
    (row : Table.get s.db.vms vm = some v)
    (found : s.domains.guests (fun _ => obey) v.uuid.chars = some d) :
    v.uuid.chars = v.domainUuid.chars ∧ ∃ d₀, s.domains v.uuid.chars = some d₀ ∧
      d = { d₀ with power := d₀.power.after obey } := by
  obtain ⟨d₀, found₀, rfl⟩ := Option.map_eq_some_iff.mp found
  exact ⟨sole v row d₀ found₀, d₀, found₀, rfl⟩

theorem power_of_domain {d : Domain} (defined : s.domains v.domainUuid.chars = some d) :
    s.power v = d.power := by
  simp [State.power, defined]

/-- The VM's domain has been replaced, and still no other one has the VM's `uuid`. -/
theorem replaced {t : Tables} {v' : VmRow} {d' : Domain} {early late : Bool} (sole : Sole vm s)
    (row : Table.get s.db.vms vm = some v) (row' : Table.get t.vms vm = some v')
    (key : v'.uuid = v.uuid) (same : v'.domainUuid = v.domainUuid)
    (ends : s' = ⟨t, Hypervisor.guests (Function.update (s.domains.guests fun _ => early)
      v.domainUuid.chars (some d')) fun _ => late⟩) :
    (StatusTrue vm s' ↔ Agrees v'.status (some (d'.power.after late).state)) ∧ Sole vm s' := by
  generalize hu : v.domainUuid.chars = u at ends
  have domains := congrArg State.domains ends
  have defined : s'.domains v'.domainUuid.chars =
      some { d' with power := d'.power.after late } := by
    rw [domains, same, hu]
    refine guests_some late ?_
    rw [Function.update_self]
  subst ends
  constructor
  · exact statusTrue_iff _ row' defined
  · intro v'' found d other
    cases row'.symm.trans found
    have own := sole v row
    rw [key] at other ⊢
    rw [same, hu]
    rw [hu] at own
    generalize v.uuid.chars = key at own other ⊢
    by_cases here : key = u
    · exact here
    · obtain ⟨d₁, defined₁, -⟩ := Option.map_eq_some_iff.mp other
      rw [Function.update_of_ne here] at defined₁
      obtain ⟨d₂, defined₂, -⟩ := Option.map_eq_some_iff.mp defined₁
      exact own d₂ defined₂

/-- The lifecycle tasks. -/
theorem lifecycle_iff (sole : Sole vm s) (lifecycle : ∀ type, (x.task.operation type).isSome)
    (row : Table.get s.db.vms vm = some v) (done : execute workdir vm x s = some s') :
    (StatusTrue vm s' ↔ ∀ job ∈ Table.get s.db.jobs x.jobId,
      ∀ operation ∈ x.task.operation job.type, Fits x.late ((s.power v).after x.early) operation) ∧
    Sole vm s' := by
  obtain ⟨t, calls, h, ran, served, ends⟩ := execute_some done
  obtain ⟨v₁, job, data, operation, row₁, foundJob, isOperation, isLifecycle, saved⟩ :=
    lifecycle_yields lifecycle ran
  cases row.symm.trans row₁
  obtain ⟨rows, rfl⟩ := Ledger.mk.inj saved
  rw [List.nil_append, serveAll_one] at served
  obtain ⟨d, p, found, acted, rfl⟩ := serve_lifecycle isLifecycle served
  obtain ⟨here, d₀, found₀, rfl⟩ := sole.found row found
  have row' : Table.get t.vms vm = some (VmFields.apply { status := some (statusOf operation) } v) := by
    have vms : t.settled.vms = _ := congrArg Tables.vms rows
    exact (congrArg (Table.get · vm) vms).trans (get_vmSaved_self.trans (congrArg (Option.map _) row))
  rw [here] at found₀ ends
  obtain ⟨truth, sole'⟩ := replaced sole row row' rfl rfl ends
  refine ⟨truth.trans ?_, sole'⟩
  rw [power_of_domain found₀]
  refine (agrees_under operation isLifecycle acted).trans ?_
  obtain ⟨job₀, foundJob₀, shape⟩ : ∃ j, Table.get s.db.jobs x.jobId = some j ∧ j.shape = job.shape :=
    Option.map_eq_some_iff.mp ((Table.get_map JobRow.shape fun _ => rfl).symm.trans foundJob)
  have type : job₀.type = job.type := (congrArg JobRow.type shape : job₀.shape.type = job.shape.type)
  simp [foundJob₀, type, isOperation]

/-- What the guests do to the VM's own domain. -/
theorem power_guests {obey : Bool} :
    ((s.domains.guests (fun _ => obey) v.domainUuid.chars).getD {}).power = (s.power v).after obey := by
  cases defined : s.domains v.domainUuid.chars with
  | none =>
    simp only [Hypervisor.guests, State.power, defined, Option.map_none, Option.getD_none]
    exact (Power.after_of_idle (by decide)).symm
  | some d => simp [Hypervisor.guests, State.power, defined]

/-- What provisioning does to the host. -/
theorem serve_provision {early : Bool} {h : Hypervisor} {v₁ v₂ : VmRow}
    {made cloud started : List (AgentRequest × Dict)} {disks : List (DiskRow × PoolRow)}
    {nics : List (NicRow × NetworkRow)} {data : Dict} (sole : Sole vm s)
    (row : Table.get s.db.vms vm = some v) (same : v₁.domainUuid = v.domainUuid)
    (key : v₂.uuid = v.uuid) (isMade : ∀ c ∈ made, c.1.operation = .createDisk)
    (isCloud : ∀ c ∈ cloud, c.1.operation = .generateCloudInit)
    (isStarted : started = [] ∨ ∃ data, started = [(vmRequest v₂ .startVm, data)])
    (served : serveAll workdir (made ++ ([(createVmRequest v₁ disks nics, data)] ++ (cloud ++ started)))
      (s.domains.guests fun _ => early) = some h) :
    ∃ d', h = Function.update (s.domains.guests fun _ => early) v.domainUuid.chars (some d') ∧
      (started = [] → d'.power = (s.power v).after early) ∧
      (started ≠ [] → ((s.power v).after early).under .startVm = some d'.power) := by
  obtain ⟨h₁, first, served₁⟩ := serveAll_append served
  obtain rfl := serveAll_same (fun c hc _ _ => serve_createDisk (isMade c hc)) first
  obtain ⟨h₂, second, served₂⟩ := serveAll_append served₁
  rw [serveAll_one] at second
  have defined := serve_createVm second
  rw [same] at defined
  obtain ⟨h₃, third, last⟩ := serveAll_append served₂
  obtain rfl := serveAll_same (fun c hc _ _ => serve_generateCloudInit (isCloud c hc)) third
  rcases isStarted with rfl | ⟨data, rfl⟩
  · cases last
    exact ⟨_, defined, fun _ => power_guests, fun none => absurd rfl none⟩
  · rw [serveAll_one] at last
    obtain ⟨d, p, found, acted, rfl⟩ := serve_lifecycle rfl last
    rw [key] at found ⊢
    have here : v.uuid.chars = v.domainUuid.chars := by
      by_contra other
      rw [defined, Function.update_of_ne other] at found
      exact other (sole.found row found).1
    rw [defined, here] at found
    rw [defined, here, Function.update_idem]
    rw [Function.update_self] at found
    cases found
    rw [power_guests] at acted
    exact ⟨_, rfl, by simp, fun _ => acted⟩

/-- After provisioning the status is true exactly under the condition. -/
theorem provision_iff (sole : Sole vm s) (provision : x.task = .provision)
    (row : Table.get s.db.vms vm = some v) (done : execute workdir vm x s = some s') :
    (StatusTrue vm s' ↔ FitsProvision v.autostart x.late ((s.power v).after x.early)) ∧
    Sole vm s' := by
  obtain ⟨t, calls, h, ran, served, ends⟩ := execute_some done
  rw [provision] at ran
  obtain ⟨v₀, v₁, v₂, v', made, disks, nics, data, cloud, started, row₀, onVm, shape₁, shape₂, isMade,
    isCloud, outcome, status⟩ := Yields.provisionVm ran
  cases row.symm.trans row₀
  obtain rfl : calls = _ := onVm.calls
  obtain rfl : v.pk = vm := Table.pk_of_get row
  obtain ⟨v'', row'', shape''⟩ : ∃ r, Table.get t.vms v.pk = some r ∧ r.shape = v.shape :=
    Option.map_eq_some_iff.mp (onVm.row.trans (congrArg (Option.map _) row))
  have same {r r' : VmRow} (h : r.shape = r'.shape) : r.domainUuid = r'.domainUuid :=
    (congrArg VmRow.domainUuid h : r.shape.domainUuid = r'.shape.domainUuid)
  have key {r r' : VmRow} (h : r.shape = r'.shape) : r.uuid = r'.uuid :=
    (congrArg VmRow.uuid h : r.shape.uuid = r'.shape.uuid)
  have isStarted : started = [] ∨ ∃ data, started = [(vmRequest v₂ .startVm, data)] := by
    rcases outcome with ⟨-, -, sent⟩ | ⟨-, -, none⟩
    · exact .inr sent
    · exact .inl none
  obtain ⟨d', rfl, left, run⟩ :=
    serve_provision sole row (same shape₁) (key shape₂) isMade isCloud isStarted served
  obtain ⟨truth, sole'⟩ := replaced sole row row'' (key shape'') (same shape'') ends
  refine ⟨truth.trans ?_, sole'⟩
  rw [status v'' row'', FitsProvision]
  rcases outcome with ⟨autostart, running, data, rfl⟩ | ⟨autostart, stopped, rfl⟩
  · rw [if_pos autostart, running]
    exact agrees_under .startVm rfl (run (by simp))
  · rw [if_neg autostart, stopped, left rfl]
    exact agrees_left

/-- The snapshot that a task loads, and the VM that it belongs to. -/
theorem load_row {t : Tables} {k : Nat} {y y' : SnapshotRow} {v' : VmRow}
    (concerns : Table.get t.snapshots k = some y' ∧ y'.vm = vm) (row : Table.get t.vms vm = some v)
    (loaded : t.settled.loadSnapshot k = some (y, v')) : y' = y ∧ v' = v := by
  obtain ⟨y₀, found, rest⟩ := Option.bind_eq_some_iff.mp loaded
  obtain ⟨v₀, found', same⟩ := Option.bind_eq_some_iff.mp rest
  cases same
  cases concerns.1.symm.trans found
  rw [concerns.2] at found'
  exact ⟨rfl, Option.some.inj (found'.symm.trans row)⟩

/-- A task that calls for one operation on a snapshot and writes no status. `f` is what the
operation makes of the domain, once the guest had its turn. -/
theorem execute_snapshot {k : Nat} {y : SnapshotRow} {request : VmRow → SnapshotRow → AgentRequest}
    {make : Text → Text → LibvirtCall} {name : Except AgentError Text}
    (f : Text → Domain → Option Domain) (sole : Sole vm s)
    (concerns : Table.get s.db.snapshots k = some y ∧ y.vm = vm)
    (row : Table.get s.db.vms vm = some v) (done : execute workdir vm x s = some s')
    (yields : ∀ s₁, Yields ((x.task.task vm).body x.jobId) () ⟨s.db.settled, []⟩ () () s₁ →
      ∃ y' v' data, s.db.settled.loadSnapshot k = some (y', v') ∧ s₁.rows.vms = s.db.settled.vms ∧
        s₁.calls = [] ++ [(request v' y', data)])
    (calls : libvirtCalls workdir (request v y) = do return [make v.uuid.str.toList (← name)])
    (acts : ∀ (h : Hypervisor) u name, (make u name).perform h = h.withDomain u (f name)) :
    ∃ name' d₀ d', name = .ok name' ∧ s.domains v.domainUuid.chars = some d₀ ∧
      f name' { d₀ with power := d₀.power.after x.early } = some d' ∧
      (StatusTrue vm s' ↔ Agrees v.status (some (d'.power.after x.late).state)) ∧ Sole vm s' := by
  obtain ⟨t, sent, h, ran, served, ends⟩ := execute_some done
  obtain ⟨y', v', data, loaded, vms, rfl⟩ := yields _ ran
  obtain ⟨rfl, rfl⟩ := load_row concerns row loaded
  rw [List.nil_append, serveAll_one] at served
  obtain ⟨name', d, d', named, found, acted, made⟩ := serve_named calls (acts _) served
  obtain ⟨here, d₀, found₀, rfl⟩ := sole.found row found
  rw [here] at found₀ made
  subst made
  have vms' : t.vms = s.db.vms := vms
  obtain ⟨truth, sole'⟩ := replaced sole row (vms' ▸ row) rfl rfl ends
  exact ⟨name', d₀, d', named, found₀, acted, truth, sole'⟩

/-- Where the operation leaves the domain as it finds it, only the guest decides. -/
theorem unchanged_iff {d' d₀ : Domain} (truth : StatusTrue vm s)
    (row : Table.get s.db.vms vm = some v) (found : s.domains v.domainUuid.chars = some d₀)
    (power : d'.power = d₀.power.after x.early) :
    Agrees v.status (some (d'.power.after x.late).state) ↔
      (v.status = .running → ¬ (s.power v).leaves (x.early || x.late)) := by
  rw [power, power_of_domain found]
  exact agrees_after ((statusTrue_iff s row found).mp truth)

/-- So it is after a snapshot. -/
theorem createSnapshot_iff {k : Nat} {y : SnapshotRow} (sole : Sole vm s) (truth : StatusTrue vm s)
    (task : x.task = .createSnapshot k) (concerns : Table.get s.db.snapshots k = some y ∧ y.vm = vm)
    (row : Table.get s.db.vms vm = some v) (done : execute workdir vm x s = some s') :
    (StatusTrue vm s' ↔ (v.status = .running → ¬ (s.power v).leaves (x.early || x.late))) ∧
    Sole vm s' := by
  obtain ⟨name, d₀, d', -, found, acted, after, sole'⟩ := execute_snapshot
    (fun name d => if (d.snapshot name).isSome then none
      else some { d with snapshots := d.snapshots ++ [(name, d.power)] }) sole concerns row done
    (fun s₁ ran => by rw [task] at ran; exact Yields.createSnapshotTask ran) rfl fun _ _ _ => rfl
  have power : d'.power = d₀.power.after x.early := by
    split at acted
    · cases acted
    · cases acted
      rfl
  exact ⟨after.trans (unchanged_iff truth row found power), sole'⟩

/-- And after the deletion of one. -/
theorem deleteSnapshot_iff {k : Nat} {y : SnapshotRow} (sole : Sole vm s) (truth : StatusTrue vm s)
    (task : x.task = .deleteSnapshot k) (concerns : Table.get s.db.snapshots k = some y ∧ y.vm = vm)
    (row : Table.get s.db.vms vm = some v) (done : execute workdir vm x s = some s') :
    (StatusTrue vm s' ↔ (v.status = .running → ¬ (s.power v).leaves (x.early || x.late))) ∧
    Sole vm s' := by
  obtain ⟨name, d₀, d', -, found, acted, after, sole'⟩ := execute_snapshot
    (fun name d =>
      (d.snapshot name).map fun _ => { d with snapshots := d.snapshots.filter (·.1 ≠ name) })
    sole concerns row done
    (fun s₁ ran => by rw [task] at ran; exact Yields.deleteSnapshotTask ran) rfl fun _ _ _ => rfl
  have power : d'.power = d₀.power.after x.early := by
    obtain ⟨p, -, rfl⟩ := Option.map_eq_some_iff.mp acted
    rfl
  exact ⟨after.trans (unchanged_iff truth row found power), sole'⟩

/-- And after a rollback. -/
theorem rollbackSnapshot_iff {k : Nat} {y : SnapshotRow} (sole : Sole vm s)
    (task : x.task = .rollbackSnapshot k) (concerns : Table.get s.db.snapshots k = some y ∧ y.vm = vm)
    (row : Table.get s.db.vms vm = some v) (done : execute workdir vm x s = some s') :
    (StatusTrue vm s' ↔ ∀ p ∈ s.recorded v y, Agrees v.status (some (p.after x.late).state)) ∧
    Sole vm s' := by
  obtain ⟨name, d₀, d', named, found, acted, after, sole'⟩ := execute_snapshot
    (fun name d => (d.snapshot name).map fun p => { d with power := p }) sole concerns row done
    (fun s₁ ran => by rw [task] at ran; exact Yields.rollbackSnapshotTask ran) rfl fun _ _ _ => rfl
  cases named
  obtain ⟨p, recorded, rfl⟩ := Option.map_eq_some_iff.mp acted
  have recorded' : s.recorded v y = some p := by
    rw [State.recorded, found]
    exact recorded
  refine ⟨after.trans ?_, sole'⟩
  simp [recorded']

/-- A task that succeeds has found the VM. -/
theorem execute_row (concerns : x.task.concerns vm s.db) (done : execute workdir vm x s = some s') :
    ∃ v, Table.get s.db.vms vm = some v := by
  obtain ⟨t, calls, h, ran, -, -⟩ := execute_some done
  have loaded {k : Nat} {y : SnapshotRow} {v : VmRow} (task : ∃ y' ∈ Table.get s.db.snapshots k, y'.vm = vm)
      (found : s.db.settled.loadSnapshot k = some (y, v)) : ∃ v, Table.get s.db.vms vm = some v := by
    obtain ⟨y', hy', rfl⟩ := task
    obtain ⟨y₀, found, rest⟩ := Option.bind_eq_some_iff.mp found
    obtain ⟨v₀, found', -⟩ := Option.bind_eq_some_iff.mp rest
    cases hy'.symm.trans found
    exact ⟨v₀, found'⟩
  cases task : x.task with
  | provision =>
    rw [task] at ran
    obtain ⟨v, -, -, -, -, -, -, -, -, -, row, -⟩ := Yields.provisionVm ran
    exact ⟨v, row⟩
  | start | stop | reboot | pause | resume =>
    obtain ⟨v, -, -, -, row, -⟩ := lifecycle_yields (by simp [task, VmTask.operation]) ran
    exact ⟨v, row⟩
  | createSnapshot k =>
    rw [task] at ran concerns
    obtain ⟨y, v, -, found, -⟩ := Yields.createSnapshotTask ran
    exact loaded concerns found
  | deleteSnapshot k =>
    rw [task] at ran concerns
    obtain ⟨y, v, -, found, -⟩ := Yields.deleteSnapshotTask ran
    exact loaded concerns found
  | rollbackSnapshot k =>
    rw [task] at ran concerns
    obtain ⟨y, v, -, found, -⟩ := Yields.rollbackSnapshotTask ran
    exact loaded concerns found

/-- After every task the status is true exactly under the condition. -/
theorem execute_iff (sole : Sole vm s) (truth : StatusTrue vm s) (concerns : x.task.concerns vm s.db)
    (done : execute workdir vm x s = some s') :
    (StatusTrue vm s' ↔ Suits vm (.execute x) s) ∧ Sole vm s' := by
  obtain ⟨v, row⟩ := execute_row concerns done
  have suits : Suits vm (.execute x) s ↔ x.Suits s v := by simp [Suits, row]
  rw [suits]
  cases task : x.task with
  | provision =>
    have iff := provision_iff sole task row done
    simpa only [Execution.Suits, task] using iff
  | start | stop | reboot | pause | resume =>
    have iff := lifecycle_iff sole (by simp [task, VmTask.operation]) row done
    simpa only [Execution.Suits, task] using iff
  | createSnapshot k =>
    rw [task] at concerns
    obtain ⟨y, found, owner⟩ := concerns
    have iff := createSnapshot_iff sole truth task ⟨found, owner⟩ row done
    simpa only [Execution.Suits, task] using iff
  | deleteSnapshot k =>
    rw [task] at concerns
    obtain ⟨y, found, owner⟩ := concerns
    have iff := deleteSnapshot_iff sole truth task ⟨found, owner⟩ row done
    simpa only [Execution.Suits, task] using iff
  | rollbackSnapshot k =>
    rw [task] at concerns
    obtain ⟨y, found, owner⟩ := concerns
    obtain ⟨iff, sole'⟩ := rollbackSnapshot_iff sole task ⟨found, owner⟩ row done
    refine ⟨iff.trans ?_, sole'⟩
    simp [Execution.Suits, task, Option.mem_def.mp found]

/-- So it is after the guests have powered off. -/
theorem powerOff_iff (sole : Sole vm s) (truth : StatusTrue vm s)
    (ends : s' = { s with domains := s.domains.guests fun _ => true }) :
    (StatusTrue vm s' ↔ Suits vm .powerOff s) ∧ Sole vm s' := by
  subst ends
  refine ⟨?_, fun v row d found => (sole.found row found).1⟩
  cases row : Table.get s.db.vms vm with
  | none => simp [StatusTrue, Suits, row]
  | some v =>
    have suits : Suits vm .powerOff s ↔ (v.status = .running → ¬ (s.power v).shutdownRequested) := by
      simp [Suits, row]
    rw [suits]
    cases defined : s.domains v.domainUuid.chars with
    | none =>
      have same : StatusTrue vm { s with domains := s.domains.guests fun _ => true } ↔
          StatusTrue vm s := by
        simp [StatusTrue, row, State.domainState, Hypervisor.guests, defined]
      exact iff_of_true (same.mpr truth) (by simp [State.power, defined])
    | some d =>
      have before := (statusTrue_iff s row defined).mp truth
      have after : StatusTrue vm { s with domains := s.domains.guests fun _ => true } ↔
          Agrees v.status (some ((d.power.after true).after false).state) :=
        statusTrue_iff { s with domains := s.domains.guests fun _ => true } row
          (guests_some true defined)
      rw [after, agrees_after before, power_of_domain defined]
      refine forall_congr' fun running => not_congr ?_
      rw [running] at before
      simp [Power.leaves, Option.some.inj before]

/-- Where the VM's row keeps its identifiers and its status. -/
theorem elsewhere_kept {db : Tables} (same : about db vm = about s.db vm) (sole : Sole vm s)
    (truth : StatusTrue vm s) : StatusTrue vm { s with db := db } ∧ Sole vm { s with db := db } := by
  have kept : ∀ v ∈ Table.get db.vms vm, ∃ v₀ ∈ Table.get s.db.vms vm,
      v₀.uuid = v.uuid ∧ v₀.domainUuid = v.domainUuid ∧ v₀.status = v.status := by
    intro v row
    rw [about, Option.mem_def.mp row, Option.map_some] at same
    obtain ⟨v₀, row₀, eq⟩ := Option.map_eq_some_iff.mp same.symm
    simp only [Prod.mk.injEq] at eq
    exact ⟨v₀, row₀, eq⟩
  constructor
  · intro v row
    obtain ⟨v₀, row₀, -, uuid, status⟩ := kept v row
    have before := truth v₀ row₀
    rwa [status, State.domainState, uuid] at before
  · intro v row d found
    obtain ⟨v₀, row₀, key, uuid, -⟩ := kept v row
    rw [← key] at found ⊢
    rw [sole v₀ row₀ d found, uuid]

/-- One step. -/
theorem step_iff {e : Event} (sole : Sole vm s) (truth : StatusTrue vm s)
    (done : step workdir vm e s = some s') : (StatusTrue vm s' ↔ Suits vm e s) ∧ Sole vm s' := by
  cases e with
  | execute x =>
    rw [step] at done
    split at done
    · next concerns => exact execute_iff sole truth concerns done
    · cases done
  | powerOff => exact powerOff_iff sole truth (Option.some.inj done).symm
  | elsewhere db =>
    rw [step] at done
    split at done
    · next same =>
      cases done
      obtain ⟨truth', sole'⟩ := elsewhere_kept same sole truth
      exact ⟨iff_of_true truth' trivial, sole'⟩
    · cases done

end Step

/-- **Exactly when a VM's status is true.** From a state in which it is, and in which no domain but
the VM's own has the VM's `uuid`: it is true whenever no task is running exactly if every step that is taken suits the
state it starts from. -/
theorem status_true_iff (workdir : Text) (vm : Nat) (s : State) (starts : StatusTrue vm s)
    (sole : Sole vm s) (es : List Event) :
    (∀ t ∈ visited (step workdir vm) es s, StatusTrue vm t) ↔
      Along (step workdir vm) (fun e t => (step workdir vm e t).isSome → Suits vm e t) es s := by
  refine visited_iff (I := fun t => StatusTrue vm t ∧ Sole vm t) (F := fun _ _ => True)
    (fun t h => h.1) ?_ ?_ ⟨starts, sole⟩ (Along.of_forall (fun _ _ _ => trivial) _)
  · rintro e t t' ⟨truth, sole⟩ - done
    obtain ⟨iff, sole'⟩ := step_iff sole truth done
    constructor
    · intro suits
      exact ⟨iff.mpr (suits (by simp [done])), sole'⟩
    · exact fun truth' _ => iff.mp truth'
  · intro e t refused taken
    simp [refused] at taken

/-! ## Runs -/

/-- A VM whose two identifiers agree, so that its domain is found. -/
def matchedVm : VmRow :=
  { pk := 1, uuid := ⟨1⟩, domainUuid := ⟨1⟩, organization := 1, project := 1, node := some 1
    name := "web", autostart := true }

/-- The VM is about to be provisioned. There is a job of each type, and a snapshot to be taken. -/
def requested : State where
  db :=
    { vms := [matchedVm]
      jobs := [.vmCreate, .vmShutdown, .vmStart, .vmPause, .vmReset, .snapshotCreate, .vmStop,
        .snapshotRollback].mapIdx fun i type => { pk := i + 1, uuid := ⟨i + 1⟩, type := type }
      snapshots := [{ pk := 1, uuid := ⟨1⟩, vm := 1, name := "s" }] }
  domains := fun _ => none

/-- The VM is provisioned. -/
def provisioned : Event := .execute { jobId := 1, task := .provision }

/-- A guest that powers off as soon as it is asked to, and is started again. -/
def obedient : List Event :=
  [provisioned, .execute { jobId := 2, task := .stop, late := true },
    .execute { jobId := 3, task := .start }, .execute { jobId := 4, task := .pause }]

theorem status_true_iff_obedient :
    (visited (step [] 1) obedient requested).length = 5 ∧
    (∀ t ∈ visited (step [] 1) obedient requested, StatusTrue 1 t) ∧
    Along (step [] 1) (fun e t => (step [] 1 e t).isSome → Suits 1 e t) obedient requested := by
  have sole : Sole 1 requested := fun v _ d found => by cases found
  have truth : ∀ t ∈ visited (step [] 1) obedient requested, StatusTrue 1 t := by decide +kernel
  refine ⟨by decide +kernel, truth, ?_⟩
  exact (status_true_iff [] 1 requested (by decide) sole obedient).mp truth

/-- A guest that does not power off when it is asked to. -/
def ignored : List Event := [provisioned, .execute { jobId := 2, task := .stop }]

/-- A guest that powers off when its VM has been started again. -/
def delayed : List Event := ignored ++ [.execute { jobId := 3, task := .start }, .powerOff]

/-- A VM that is reset while it is paused. -/
def resetPaused : List Event :=
  [provisioned, .execute { jobId := 4, task := .pause }, .execute { jobId := 5, task := .reboot }]

/-- The agent names the snapshot as it was asked to. -/
def snapshotNamed : Nat → Choice := fun _ => { agent := .ok [("snapshot_id", .str "s")] }

/-- A VM that is stopped, and rolled back to when it was running. -/
def rolledBack : List Event :=
  [provisioned, .execute { jobId := 6, task := .createSnapshot 1, script := snapshotNamed },
    .execute { jobId := 7, task := .stop }, .execute { jobId := 8, task := .rollbackSnapshot 1 }]

/-- The status and the state of the domain at the end of a run. -/
def ending (es : List Event) : Option (Option VMStatus × Option DomainState) :=
  (runFrom (step [] 1) es requested).map fun t =>
    ((Table.get t.db.vms 1).map VmRow.status, t.domainState matchedVm)

theorem status_untrue :
    ending ignored = some (some .stopped, some .running) ∧
    ending delayed = some (some .running, some .shutOff) ∧
    ending resetPaused = some (some .running, some .paused) ∧
    ending rolledBack = some (some .stopped, some .running) ∧
    ¬ ∀ t ∈ visited (step [] 1) ignored requested, StatusTrue 1 t := by
  decide +kernel

end Domains

end NodePilot

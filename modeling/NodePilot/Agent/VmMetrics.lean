import Mathlib.Algebra.Order.Field.Rat
import Mathlib.Data.Rat.Floor
import NodePilot.Protocol

/-!
# The samples of running machines

`nodepilot_agent/vm_metrics.py`: each round of `vm_metrics_loop` lists the domains of the host, keeps the last reading
of each one's `cpu_time`, and posts what the controller is to record. What libvirt and the clock answer is given, round
by round. A number of seconds is exact here, and so is a percentage before it is rounded.
-/

namespace NodePilot.Agent.VmMetrics

/-! ## The tracker -/

/-- A reading of a domain: its `cpu_time` in nanoseconds, and what `time.monotonic()` said. -/
structure Reading where
  cpuTimeNs : Nat
  time : ℚ
deriving DecidableEq

/-- `round(x)`: the nearest whole number, and an even one of two. -/
def roundHalfEven (x : ℚ) : Int :=
  let low := x.floor
  if x - low < 1 / 2 then low
  else if 1 / 2 < x - low then low + 1
  else if low % 2 = 0 then low
  else low + 1

/-- `round(x, 1)` -/
def roundTenth (x : ℚ) : ℚ := roundHalfEven (x * 10) / 10

/-- The share of its own CPUs that a domain has used between two readings. -/
def utilization (previous current : Reading) (nrVirtCpu : Nat) : ℚ :=
  ((current.cpuTimeNs : ℚ) - previous.cpuTimeNs) /
    ((current.time - previous.time) * 1000000000 * (max nrVirtCpu 1 : Nat)) * 100

/-- What `_DomainCpuTracker.sample` answers where there is a previous reading. -/
def percent (previous current : Reading) (nrVirtCpu : Nat) : Option ℚ :=
  if current.time - previous.time ≤ 0 then none
  else if current.cpuTimeNs < previous.cpuTimeNs then none
  else some (roundTenth (min (utilization previous current nrVirtCpu) 100))

/-- `_DomainCpuTracker._last` -/
abbrev Tracker : Type := Uuid → Option Reading

/-- A tracker that has seen nothing. -/
def Tracker.fresh : Tracker := fun _ => none

/-- `_DomainCpuTracker.sample` -/
def Tracker.sample (last : Tracker) (domainUuid : Uuid) (reading : Reading) (nrVirtCpu : Nat) : Option ℚ × Tracker :=
  ((last domainUuid).bind fun previous => percent previous reading nrVirtCpu,
    fun uuid => if uuid = domainUuid then some reading else last uuid)

/-- `_DomainCpuTracker.forget_missing` -/
def Tracker.forgetMissing (last : Tracker) (active : List Uuid) : Tracker := fun uuid =>
  if active.contains uuid then last uuid else none

/-! ## A round -/

/-- What of `dom.info()` is used. -/
structure Info where
  memKb : Nat
  nrVirtCpu : Nat
  cpuTimeNs : Nat

/-- A domain that was listed: what its methods answer, `none` where one raises. -/
structure Guest where
  isActive : Option Bool := some true
  uuidString : Option Uuid
  info : Option Info
  /-- What the clock says when its reading is kept. -/
  time : ℚ
  /-- `memoryStats().get("rss")` -/
  rss : Option (Option Nat) := some none

structure Sample where
  domainUuid : Uuid
  cpuPercent : Option ℚ
  memoryUsedMb : Option Nat

/-- The resident memory, if it is known and not zero, or else what the domain was given. -/
def Guest.memoryUsedMb (g : Guest) (info : Info) : Option Nat :=
  match g.rss with
  | some (some (rss + 1)) => some ((rss + 1) / 1024)
  | _ => if info.memKb ≠ 0 then some (info.memKb / 1024) else none

/-- How far the loop of `_collect_samples` has come. -/
structure Pass where
  tracker : Tracker
  active : List Uuid := []
  samples : List Sample := []

/-- The loop of `_collect_samples`, and whether it came to the end. A domain that is gone when its `info()` is asked for
is left out; where another method raises, the tracker keeps what was read until then. -/
def collect (p : Pass) : List Guest → Bool × Pass
  | [] => (true, p)
  | g :: gs =>
    match g.isActive with
    | none => (false, p)
    | some false => collect p gs
    | some true =>
      match g.uuidString with
      | none => (false, p)
      | some uuid =>
        let p := { p with active := p.active ++ [uuid] }
        match g.info with
        | none => collect p gs
        | some info =>
          let (cpuPercent, tracker) := p.tracker.sample uuid ⟨info.cpuTimeNs, g.time⟩ info.nrVirtCpu
          collect { p with
            tracker := tracker
            samples := p.samples ++ [⟨uuid, cpuPercent, g.memoryUsedMb info⟩] } gs

/-- The domains that are listed, or `none` where `connect()` or `listAllDomains()` raises. -/
abbrev Listing : Type := Option (List Guest)

/-- `_collect_samples` -/
def collectSamples (tracker : Tracker) : Listing → Option (List Sample) × Tracker
  | none => (none, tracker)
  | some guests =>
    let (through, p) := collect { tracker := tracker } guests
    if through then (some p.samples, p.tracker.forgetMissing p.active) else (none, p.tracker)

/-- A round of `vm_metrics_loop`: what it posts, if anything. -/
def round (tracker : Tracker) (listing : Listing) : List Sample × Tracker :=
  let (samples, tracker) := collectSamples tracker listing
  ((samples.getD []).filter fun s => s.cpuPercent.isSome || s.memoryUsedMb.isSome, tracker)

end NodePilot.Agent.VmMetrics

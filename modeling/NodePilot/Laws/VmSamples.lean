import NodePilot.VmSamples

/-!
# What a recorded sample says

A percentage that is recorded for a machine is the share that its domain used between two readings of its own counter:
the one of that round, and the last one before it after which every finished round saw the domain running. Whatever
raises, gets lost or starts again in between, no other pair of readings is ever compared.
-/

namespace NodePilot.Agent.VmMetrics

/-! ## What the tracker remembers -/

/-- What the rounds of a process come by. -/
inductive Seen
  | read (domainUuid : Uuid) (reading : Reading)
  /-- A round has come to its end, and these domains were running. -/
  | finished (active : List Uuid)

/-- After this, the reading of the domain is still the last one that counts. -/
def Seen.Spares (uuid : Uuid) : Seen → Prop
  | .read other _ => other ≠ uuid
  | .finished active => uuid ∈ active

/-- The last reading of a domain that counts. -/
def Last (history : List Seen) (uuid : Uuid) (reading : Reading) : Prop :=
  ∃ before rest, history = before ++ .read uuid reading :: rest ∧ ∀ e ∈ rest, e.Spares uuid

section Tracker

variable {history : List Seen} {last : Tracker} {uuid : Uuid} {reading : Reading}

/-- Nothing was read yet. -/
theorem not_last_nil : ¬ Last [] uuid reading := by
  rintro ⟨before, rest, same, -⟩
  exact absurd same (by simp)

/-- The last reading is the newest, or the last before if this one spares it. -/
theorem last_snoc {e : Seen} :
    Last (history ++ [e]) uuid reading ↔ e = .read uuid reading ∨ e.Spares uuid ∧ Last history uuid reading := by
  constructor
  · rintro ⟨before, rest, same, spares⟩
    rcases List.eq_nil_or_concat rest with rfl | ⟨rest, e', rfl⟩
    · exact .inl (List.append_inj_right' same rfl |> List.singleton_inj.mp)
    · rw [List.concat_eq_append] at same spares
      have split : history ++ [e] = (before ++ .read uuid reading :: rest) ++ [e'] := by simpa using same
      obtain ⟨rfl, last⟩ := List.append_inj' split rfl
      obtain rfl := List.singleton_inj.mp last
      exact .inr ⟨spares e (by simp), before, rest, rfl, fun e' mem => spares e' (List.mem_append_left _ mem)⟩
  · rintro (rfl | ⟨spares, before, rest, rfl, sparesRest⟩)
    · exact ⟨history, [], rfl, nofun⟩
    · refine ⟨before, rest ++ [e], by simp, fun e' mem => ?_⟩
      rcases List.mem_append.mp mem with mem | mem
      · exact sparesRest e' mem
      · exact List.mem_singleton.mp mem ▸ spares

/-- The tracker has the last readings that count. -/
def Agrees (last : Tracker) (history : List Seen) : Prop :=
  ∀ uuid reading, last uuid = some reading ↔ Last history uuid reading

/-- A fresh tracker remembers nothing. -/
theorem agrees_fresh : Agrees Tracker.fresh [] := fun _ _ => ⟨nofun, fun there => (not_last_nil there).elim⟩

/-- A sample is remembered. -/
theorem Agrees.sample (agrees : Agrees last history) (domainUuid : Uuid) (reading : Reading) (nrVirtCpu : Nat) :
    Agrees (last.sample domainUuid reading nrVirtCpu).2 (history ++ [.read domainUuid reading]) := by
  intro uuid r
  rw [last_snoc]
  change (if uuid = domainUuid then some reading else last uuid) = some r ↔ _
  split
  · next same =>
    subst same
    constructor
    · intro found
      exact .inl (by rw [Option.some.inj found])
    · rintro (read | ⟨spares, -⟩)
      · exact congrArg some (Seen.read.inj read).2
      · exact absurd rfl spares
  · next other =>
    rw [agrees uuid r]
    constructor
    · intro there
      exact .inr ⟨Ne.symm other, there⟩
    · rintro (read | ⟨-, there⟩)
      · exact absurd (Seen.read.inj read).1.symm other
      · exact there

/-- Domains that are gone are forgotten. -/
theorem Agrees.forgetMissing (agrees : Agrees last history) (active : List Uuid) :
    Agrees (last.forgetMissing active) (history ++ [.finished active]) := by
  intro uuid r
  rw [last_snoc]
  change (if active.contains uuid then last uuid else none) = some r ↔ _
  split
  · next running =>
    rw [agrees uuid r]
    exact ⟨fun there => .inr ⟨List.contains_iff_mem.mp running, there⟩, fun h => (h.resolve_left nofun).2⟩
  · next missing =>
    constructor
    · nofun
    · rintro (read | ⟨spares, -⟩)
      · cases read
      · exact absurd (List.contains_iff_mem.mpr spares) missing

end Tracker

/-! ## What a round sees -/

/-- A method raises that no handler expects to. -/
def Guest.raises (g : Guest) : Bool :=
  match g.isActive with
  | none => true
  | some false => false
  | some true => g.uuidString.isNone

/-- The domains that a guest accounts for. -/
def Guest.active (g : Guest) : List Uuid :=
  match g.isActive with
  | some true => g.uuidString.toList
  | _ => []

/-- What is seen of a guest. -/
def Guest.seen (g : Guest) : List Seen :=
  match g.isActive, g.uuidString, g.info with
  | some true, some uuid, some info => [.read uuid ⟨info.cpuTimeNs, g.time⟩]
  | _, _, _ => []

/-- The guests that a round comes to. -/
def reached (guests : List Guest) : List Guest := guests.takeWhile fun g => ¬ g.raises

/-- What a round sees. -/
def Listing.seen : Listing → List Seen
  | none => []
  | some guests => (reached guests).flatMap Guest.seen ++
      if guests.all fun g => ¬ g.raises then [.finished (guests.flatMap Guest.active)] else []

/-- What a sample is made of, in a round before which this was seen. -/
def Taken (history : List Seen) (guests : List Guest) (s : Sample) : Prop :=
  ∃ before g rest info, guests = before ++ g :: rest ∧ g.isActive = some true ∧ g.uuidString = some s.domainUuid ∧
    g.info = some info ∧ s.memoryUsedMb = g.memoryUsedMb info ∧
      ∀ p, s.cpuPercent = some p ↔ ∃ previous, Last (history ++ before.flatMap Guest.seen) s.domainUuid previous ∧
        percent previous ⟨info.cpuTimeNs, g.time⟩ info.nrVirtCpu = some p

section Rounds

variable {history : List Seen} {g : Guest} {guests : List Guest} {s : Sample} {p : Pass}

/-- One more guest is sampled. -/
theorem Taken.cons (h : Taken (history ++ g.seen) guests s) : Taken history (g :: guests) s := by
  obtain ⟨before, g', rest, info, rfl, running, named, read, memory, compared⟩ := h
  refine ⟨g :: before, g', rest, info, rfl, running, named, read, memory, fun p => ?_⟩
  rw [List.flatMap_cons, ← List.append_assoc]
  exact compared p

/-- A guest that raises ends the round without samples. -/
theorem collect_raises (raises : g.raises = true) : collect p (g :: guests) = (false, p) := by
  revert raises
  unfold Guest.raises collect
  cases g.isActive with
  | none => exact fun _ => rfl
  | some running =>
    cases running with
    | false => exact fun raises => absurd raises Bool.false_ne_true
    | true =>
      cases g.uuidString with
      | none => exact fun _ => rfl
      | some uuid => exact fun raises => absurd raises Bool.false_ne_true

/-- One guest, if none of its methods raises that should not. -/
theorem collect_cons (guests : List Guest) (agrees : Agrees p.tracker history) (quiet : g.raises = false) :
    ∃ p', collect p (g :: guests) = collect p' guests ∧ p'.active = p.active ++ g.active ∧
      Agrees p'.tracker (history ++ g.seen) ∧ ∀ s ∈ p'.samples, s ∈ p.samples ∨ Taken history (g :: guests) s := by
  unfold Guest.raises at quiet
  split at quiet
  · cases quiet
  · next idle =>
    refine ⟨p, by simp only [collect, idle], by simp [Guest.active, idle], ?_, fun s mem => .inl mem⟩
    simpa [Guest.seen, idle] using agrees
  · next running =>
    obtain ⟨uuid, named⟩ := Option.isSome_iff_exists.mp (Option.isNone_eq_false_iff.mp quiet)
    cases read : g.info with
    | none =>
      refine ⟨{ p with active := p.active ++ [uuid] }, by simp only [collect, running, named, read],
        by simp [Guest.active, running, named], ?_, fun s mem => .inl mem⟩
      simpa [Guest.seen, running, named, read] using agrees
    | some info =>
      have seen : g.seen = [.read uuid ⟨info.cpuTimeNs, g.time⟩] := by simp only [Guest.seen, running, named, read]
      let reading : Reading := ⟨info.cpuTimeNs, g.time⟩
      let sample : Sample := ⟨uuid, (p.tracker.sample uuid reading info.nrVirtCpu).1, g.memoryUsedMb info⟩
      refine ⟨⟨(p.tracker.sample uuid reading info.nrVirtCpu).2, p.active ++ [uuid], p.samples ++ [sample]⟩,
        by simp only [collect, running, named, read, reading, sample], by simp [Guest.active, running, named], ?_,
        fun s mem => ?_⟩
      · rw [seen]
        exact agrees.sample uuid reading info.nrVirtCpu
      · refine (List.mem_append.mp mem).imp_right fun new => ?_
        obtain rfl := List.mem_singleton.mp new
        refine ⟨[], g, guests, info, rfl, running, named, read, rfl, fun percent => ?_⟩
        rw [List.flatMap_nil, List.append_nil]
        refine Option.bind_eq_some_iff.trans (exists_congr fun previous => and_congr_left fun _ => ?_)
        exact agrees uuid previous

/-- The loop, from any point. The induction is on the guests that are left. -/
theorem collect_spec (guests : List Guest) {p : Pass} {history : List Seen} (agrees : Agrees p.tracker history) :
    (collect p guests).1 = (guests.all fun g => ¬ g.raises) ∧
      ((collect p guests).1 = true → (collect p guests).2.active = p.active ++ guests.flatMap Guest.active) ∧
      Agrees (collect p guests).2.tracker (history ++ (reached guests).flatMap Guest.seen) ∧
      ∀ s ∈ (collect p guests).2.samples, s ∈ p.samples ∨ Taken history guests s := by
  induction guests generalizing p history with
  | nil =>
    refine ⟨rfl, fun _ => (List.append_nil _).symm, ?_, fun s mem => .inl mem⟩
    simpa [reached, collect] using agrees
  | cons g guests ih =>
    cases raises : g.raises with
    | true =>
      rw [collect_raises raises]
      refine ⟨by simp [raises], nofun, ?_, fun s mem => .inl mem⟩
      simpa [reached, raises] using agrees
    | false =>
      obtain ⟨p', next, active, agrees', samples⟩ := collect_cons guests agrees raises
      obtain ⟨through, all, tracked, taken⟩ := ih agrees'
      rw [next]
      refine ⟨by simp [through, raises], fun done => ?_, ?_, fun s mem => ?_⟩
      · rw [all done, active, List.flatMap_cons, List.append_assoc]
      · simpa [reached, raises] using tracked
      · rcases taken s mem with old | new
        · exact samples s old
        · exact .inr new.cons

/-- A round samples what it sees, from what was seen last. -/
theorem round_spec {last : Tracker} (agrees : Agrees last history) (listing : Listing) :
    Agrees (round last listing).2 (history ++ listing.seen) ∧
      ∀ s ∈ (round last listing).1, ∃ guests, listing = some guests ∧ Taken history guests s := by
  cases listing with
  | none => exact ⟨by simpa [round, collectSamples, Listing.seen] using agrees, nofun⟩
  | some guests =>
    have spec := collect_spec guests (p := { tracker := last }) agrees
    rcases result : collect { tracker := last } guests with ⟨through, p⟩
    simp only [result] at spec
    obtain ⟨all, active, tracked, taken⟩ := spec
    simp only [round, collectSamples, result]
    cases through with
    | false =>
      refine ⟨?_, fun s mem => absurd mem List.not_mem_nil⟩
      simpa only [Listing.seen, ← all, Bool.false_eq_true, if_false, List.append_nil] using tracked
    | true =>
      refine ⟨?_, fun s mem => ?_⟩
      · have forgotten := tracked.forgetMissing p.active
        rw [active rfl, List.nil_append, List.append_assoc] at forgotten
        simpa only [Listing.seen, ← all, if_true, active rfl, List.nil_append] using forgotten
      · exact ⟨guests, rfl, (taken s (List.mem_of_mem_filter mem)).resolve_left List.not_mem_nil⟩

end Rounds

/-! ## Percentages -/

section Percent

variable {previous current : Reading} {nrVirtCpu : Nat} {p : ℚ}

/-- Rounding stays between whole numbers. -/
theorem roundHalfEven_range {x : ℚ} {n : Int} (low : 0 ≤ x) (high : x ≤ n) :
    0 ≤ roundHalfEven x ∧ roundHalfEven x ≤ n := by
  have floor : 0 ≤ x.floor := Rat.le_floor_iff.mpr (by simpa using low)
  have below : (x.floor : ℚ) ≤ x := Rat.floor_le x
  have upper : x.floor ≤ n := by exact_mod_cast below.trans high
  have rounded : roundHalfEven x = x.floor ∨ roundHalfEven x = x.floor + 1 ∧ (x.floor : ℚ) < x := by
    unfold roundHalfEven
    dsimp only
    split
    · exact .inl rfl
    · next half =>
      have above : (x.floor : ℚ) < x := by linarith
      split
      · exact .inr ⟨rfl, above⟩
      · split
        · exact .inl rfl
        · exact .inr ⟨rfl, above⟩
  rcases rounded with same | ⟨up, above⟩
  · rw [same]
    exact ⟨floor, upper⟩
  · have less : x.floor < n := by exact_mod_cast above.trans_le high
    rw [up]
    omega

/-- A percentage stays one when it is rounded to tenths. -/
theorem roundTenth_range {x : ℚ} (low : 0 ≤ x) (high : x ≤ 100) : 0 ≤ roundTenth x ∧ roundTenth x ≤ 100 := by
  obtain ⟨atLeast, atMost⟩ := roundHalfEven_range (x := x * 10) (n := 1000) (by linarith) (by push_cast; linarith)
  have lower : (0 : ℚ) ≤ roundHalfEven (x * 10) := by exact_mod_cast atLeast
  have upper : (roundHalfEven (x * 10) : ℚ) ≤ 1000 := by exact_mod_cast atMost
  unfold roundTenth
  constructor <;> linarith

/-- There is a percentage where time has passed and the counter has not gone back. -/
theorem percent_eq_some : percent previous current nrVirtCpu = some p ↔
    previous.time < current.time ∧ previous.cpuTimeNs ≤ current.cpuTimeNs ∧
      p = roundTenth (min (utilization previous current nrVirtCpu) 100) := by
  unfold percent
  split
  · next stopped =>
    simp only [reduceCtorEq, false_iff, not_and]
    intro later
    linarith
  · next later =>
    split
    · next back =>
      simp only [reduceCtorEq, false_iff, not_and]
      omega
    · next forward =>
      rw [not_le, sub_pos] at later
      rw [not_lt] at forward
      simp only [Option.some.injEq, later, forward, true_and, eq_comm]

/-- A percentage is between 0 and 100. -/
theorem percent_range (h : percent previous current nrVirtCpu = some p) : 0 ≤ p ∧ p ≤ 100 := by
  obtain ⟨later, forward, rfl⟩ := percent_eq_some.mp h
  have used : (0 : ℚ) ≤ (current.cpuTimeNs : ℚ) - previous.cpuTimeNs := sub_nonneg.mpr (by exact_mod_cast forward)
  have passed : (0 : ℚ) ≤ current.time - previous.time := sub_nonneg.mpr later.le
  have share : 0 ≤ utilization previous current nrVirtCpu := by
    unfold utilization
    positivity
  exact roundTenth_range (le_min share (by norm_num)) (min_le_right _ _)

end Percent

end NodePilot.Agent.VmMetrics

namespace NodePilot.VmSamples

open Agent.VmMetrics

/-! ## Runs -/

/-- The rounds of the process that is the agent of a node. -/
def process (node : Nat) (events : List Event) : List Listing :=
  events.foldl (fun rounds e =>
    match e with
    | .round other listing => if other = node then rounds ++ [listing] else rounds
    | .restart other => if other = node then [] else rounds
    | _ => rounds) []

/-- What that process has seen. -/
def history (node : Nat) (events : List Event) : List Seen := (process node events).flatMap Listing.seen

section Runs

variable {repr : ℚ → String} {events : List Event}

/-- Events happen one after the other. -/
theorem after_snoc (e : Event) : after repr (events ++ [e]) = step repr (after repr events) e := List.foldl_concat ..

/-- A process sees its own rounds. -/
theorem process_snoc (node : Nat) (e : Event) : process node (events ++ [e]) =
    match e with
    | .round other listing => if other = node then process node events ++ [listing] else process node events
    | .restart other => if other = node then [] else process node events
    | _ => process node events := List.foldl_concat ..

/-- **Along every run, the tracker of a node's agent agrees with what its process has seen.** -/
theorem trackers_agree (repr : ℚ → String) (events : List Event) (node : Nat) :
    Agrees ((after repr events).trackers node) (history node events) := by
  induction events using List.reverseRecOn with
  | nil => exact agrees_fresh
  | append_singleton events e ih =>
    rw [after_snoc, history, process_snoc]
    cases e with
    | round other listing =>
      by_cases same : other = node
      · subst same
        have next := (round_spec ih listing).1
        simpa [step, history] using next
      · simpa [step, same, Ne.symm same, history] using ih
    | restart other =>
      by_cases same : other = node
      · subst same
        simpa [step] using agrees_fresh
      · simpa [step, same, Ne.symm same, history] using ih
    | deliver i =>
      simp only [step]
      split
      · exact ih
      · exact ih
    | lose i => exact ih
    | edit vms => exact ih

/-- A batch that is on its way was posted by a round. -/
theorem posted_by_round {node : Nat} {samples : List Sample} (mem : (node, samples) ∈ (after repr events).posted) :
    ∃ past listing rest, events = past ++ .round node listing :: rest ∧
      samples = (round ((after repr past).trackers node) listing).1 := by
  induction events using List.reverseRecOn with
  | nil => cases mem
  | append_singleton events e ih =>
    have older : (node, samples) ∈ (after repr events).posted →
        ∃ past listing rest, events ++ [e] = past ++ .round node listing :: rest ∧
          samples = (round ((after repr past).trackers node) listing).1 := by
      intro mem
      obtain ⟨past, listing, rest, rfl, same⟩ := ih mem
      exact ⟨past, listing, rest ++ [e], by simp, same⟩
    rw [after_snoc] at mem
    cases e with
    | round other listing =>
      simp only [step] at mem
      split at mem
      · exact older mem
      · rcases List.mem_append.mp mem with mem | new
        · exact older mem
        · obtain ⟨rfl, rfl⟩ := Prod.mk.inj (List.mem_singleton.mp new)
          exact ⟨events, listing, [], rfl, rfl⟩
    | restart other => exact older mem
    | deliver i =>
      simp only [step] at mem
      split at mem
      · exact older (List.mem_of_mem_eraseIdx mem)
      · exact older mem
    | lose i => exact older (List.mem_of_mem_eraseIdx mem)
    | edit vms => exact older mem

/-- What is recorded came with a batch that arrived. -/
theorem recorded_by_delivery {call : Metrics.Call} (mem : call ∈ (after repr events).recorded) :
    ∃ past i rest node samples, events = past ++ .deliver i :: rest ∧ (node, samples) ∈ (after repr past).posted ∧
      call ∈ recordVmMetricsBatch repr (after repr past).vms node samples := by
  induction events using List.reverseRecOn with
  | nil => cases mem
  | append_singleton events e ih =>
    have older : call ∈ (after repr events).recorded →
        ∃ past i rest node samples, events ++ [e] = past ++ .deliver i :: rest ∧
          (node, samples) ∈ (after repr past).posted ∧
            call ∈ recordVmMetricsBatch repr (after repr past).vms node samples := by
      intro mem
      obtain ⟨past, i, rest, node, samples, rfl, posted, made⟩ := ih mem
      exact ⟨past, i, rest ++ [e], node, samples, by simp, posted, made⟩
    rw [after_snoc] at mem
    cases e with
    | deliver i =>
      simp only [step] at mem
      split at mem
      · next node samples found =>
        rcases List.mem_append.mp mem with mem | new
        · exact older mem
        · exact ⟨events, i, [], node, samples, rfl, List.mem_of_getElem? found, new⟩
      · exact older mem
    | round | restart | lose | edit => exact older mem

theorem mem_recordVmMetricsBatch {vms : List VmRow} {node : Nat} {samples : List Sample} {call : Metrics.Call}
    (mem : call ∈ recordVmMetricsBatch repr vms node samples) :
    ∃ s ∈ samples, ∃ vm ∈ vms, vm.node = some node ∧ vm.domainUuid = s.domainUuid ∧ call = Sample.call repr vm s := by
  obtain ⟨s, there, made⟩ := List.mem_filterMap.mp mem
  obtain ⟨vm, found, rfl⟩ := Option.map_eq_some_iff.mp made
  have matched := List.find?_some found
  rw [Bool.and_eq_true, decide_eq_true_eq, decide_eq_true_eq] at matched
  exact ⟨s, there, vm, List.mem_reverse.mp (List.mem_of_find?_eq_some found), matched.1, matched.2, rfl⟩

/-- **Whatever is recorded for a machine was read by the agent of the node that the machine is on**, from the domain of
the machine, and its percentage compares that reading with the last one that counts. -/
theorem recorded_says {call : Metrics.Call} (mem : call ∈ (after repr events).recorded) :
    ∃ past node guests between i rest, events = past ++ .round node (some guests) :: between ++ .deliver i :: rest ∧
      ∃ s, Taken (history node past) guests s ∧ (∀ p, s.cpuPercent = some p → 0 ≤ p ∧ p ≤ 100) ∧
        ∃ vm ∈ (after repr (past ++ .round node (some guests) :: between)).vms, vm.node = some node ∧
          vm.domainUuid = s.domainUuid ∧ call = Sample.call repr vm s := by
  obtain ⟨arrived, i, rest, node, samples, rfl, posted, made⟩ := recorded_by_delivery mem
  obtain ⟨past, listing, between, rfl, rfl⟩ := posted_by_round posted
  obtain ⟨s, there, vm, row, onNode, ofDomain, rfl⟩ := mem_recordVmMetricsBatch made
  obtain ⟨guests, rfl, taken⟩ := (round_spec (trackers_agree repr past node) listing).2 s there
  refine ⟨past, node, guests, between, i, rest, rfl, s, taken, fun p compared => ?_, vm, row, onNode, ofDomain, rfl⟩
  obtain ⟨_, _, _, _, -, -, -, -, -, same⟩ := taken
  obtain ⟨previous, -, between⟩ := (same p).mp compared
  exact percent_range between

/-- A machine that used half of its two CPUs for ten seconds. -/
def halfUsed : List Event :=
  let vm : VmRow :=
    { pk := 1, uuid := ⟨1⟩, domainUuid := ⟨2⟩, organization := 1, project := 1, node := some 1, name := "half" }
  let guest (cpuTimeNs : Nat) (time : ℚ) : Guest :=
    { uuidString := some ⟨2⟩, info := some ⟨2097152, 2, cpuTimeNs⟩, time := time }
  [.edit [vm], .round 1 (some [guest 5000000000 100]), .round 1 none, .round 1 (some [guest 15000000000 110]),
    .deliver 1]

theorem recorded_says_halfUsed :
    ∃ past node guests between i rest,
      halfUsed = past ++ .round node (some guests) :: between ++ .deliver i :: rest ∧
      ∃ s, Taken (history node past) guests s ∧ (∀ p, s.cpuPercent = some p → 0 ≤ p ∧ p ≤ 100) ∧
        ∃ vm ∈ (after (fun _ => "50.0") (past ++ .round node (some guests) :: between)).vms, vm.node = some node ∧
          vm.domainUuid = s.domainUuid ∧
            Metrics.recordVmSample ⟨1⟩ (.float "50.0") (.int 2048) .null .null .null .null =
              Sample.call (fun _ => "50.0") vm s := by
  have half : percent ⟨5000000000, 100⟩ ⟨15000000000, 110⟩ 2 = some 50 := by decide +kernel
  have recorded : Metrics.recordVmSample ⟨1⟩ (.float "50.0") (.int 2048) .null .null .null .null ∈
      (after (fun _ => "50.0") halfUsed).recorded := by
    simp [halfUsed, after, step, Agent.VmMetrics.round, collectSamples, collect, Tracker.sample, Tracker.fresh,
      Tracker.forgetMissing, half, recordVmMetricsBatch, byDomain, Sample.call, Guest.memoryUsedMb]
  exact recorded_says recorded

end Runs

end NodePilot.VmSamples

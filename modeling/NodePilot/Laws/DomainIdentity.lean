import NodePilot.Agent.Hypervisor
import NodePilot.Lib.Prog
import NodePilot.Requests

/-!
# Which domain an operation finds

CREATE_VM defines a domain under `vm.domain_uuid`. The hot-plug operations carry that identifier in
their payload, and the agent looks the domain up by it. Every other operation on the domain is
looked up by the request's resource id, which the controller fills with `vm.uuid`. The two are
drawn independently, so these operations find the VM's domain only where they happen to agree.
-/

namespace NodePilot

open Agent Lib

/-! ## The `<uuid>` of a document -/

theorem mem_replaceChar {c x : Char} {by' text : Text} (h : x ∈ replaceChar c by' text) :
    x ∈ by' ∨ (x ∈ text ∧ x ≠ c) := by
  obtain ⟨y, hy, hx⟩ := List.mem_flatMap.mp h
  split at hx
  · exact .inl hx
  · next hne =>
    rw [List.mem_singleton] at hx
    subst hx
    exact .inr ⟨hy, hne⟩

/-- No tag starts inside an escaped value. -/
theorem lt_not_mem_escape (value : Text) : '<' ∉ escape value := by
  intro h
  have step : ∀ {c : Char} {by' text : Text}, '<' ∉ by' → '<' ∈ replaceChar c by' text → '<' ∈ text :=
    fun hby hmem => ((mem_replaceChar hmem).resolve_left hby).1
  have inner := step (by decide) (step (by decide) h)
  rcases mem_replaceChar inner with hby | ⟨-, hne⟩
  · revert hby
    decide
  · exact hne rfl

theorem lt_not_mem_uuid (u : Uuid) : '<' ∉ u.chars :=
  fun h => u.chars_forall (p := (· ≠ '<')) (by decide) (by decide) '<' h rfl

/-- A tag is not found in a text without `<`. -/
theorem afterTag_skip {tag xs ys : Text} (h : '<' ∉ xs) :
    afterTag ('<' :: tag) (xs ++ ys) = afterTag ('<' :: tag) ys := by
  induction xs with
  | nil => rfl
  | cons c cs ih =>
    rw [List.mem_cons, not_or] at h
    rw [List.cons_append, afterTag, if_neg (by simp [List.isPrefixOf, h.1]), ih h.2]

theorem takeWhile_append {xs ys : Text} (h : '<' ∉ xs) :
    (xs ++ '<' :: ys).takeWhile (· ≠ '<') = xs := by
  rw [List.takeWhile_append_of_pos]
  · simp
  · intro c hc
    simpa using fun e : c = '<' => h (e ▸ hc)

/-- Another tag is passed over, with the text after it. -/
theorem afterTag_other {c : Char} {xs ys : Text} (hc : c ≠ 'u') (h : '<' ∉ c :: xs) :
    afterTag ('<' :: "uuid>".toList) ('<' :: c :: xs ++ ys) =
      afterTag ('<' :: "uuid>".toList) ys := by
  have here : ('<' :: "uuid>".toList).isPrefixOf ('<' :: c :: (xs ++ ys)) = false := by
    have second : ('u' == c) = false := beq_eq_false_iff_ne.mpr (Ne.symm hc)
    simp [List.isPrefixOf, second]
  rw [List.cons_append, List.cons_append, afterTag, if_neg (Bool.eq_false_iff.mp here),
    ← List.cons_append]
  exact afterTag_skip h

/-- The element that `build_domain_xml` writes is the first of its name. -/
theorem uuidElement_document {name uuid rest : Text} (huuid : '<' ∉ uuid) :
    uuidElement ("<domain type=\"kvm\">".toList ++ "<name>".toList ++ escape name ++
      "</name>".toList ++ "<uuid>".toList ++ uuid ++ "</uuid>".toList ++ rest) = some uuid := by
  have scan : afterTag ('<' :: "uuid>".toList) ("<domain type=\"kvm\">".toList ++
      ("<name>".toList ++ (escape name ++ ("</name>".toList ++ ("<uuid>".toList ++
        (uuid ++ ("</uuid>".toList ++ rest))))))) = some (uuid ++ ("</uuid>".toList ++ rest)) := by
    calc afterTag ('<' :: "uuid>".toList) _
      _ = afterTag _ ("<name>".toList ++ (escape name ++ ("</name>".toList ++
            ("<uuid>".toList ++ (uuid ++ ("</uuid>".toList ++ rest)))))) :=
          afterTag_other (c := 'd') (by decide) (by decide)
      _ = afterTag _ (escape name ++ ("</name>".toList ++
            ("<uuid>".toList ++ (uuid ++ ("</uuid>".toList ++ rest))))) :=
          afterTag_other (c := 'n') (by decide) (by decide)
      _ = afterTag _ ("</name>".toList ++ ("<uuid>".toList ++ (uuid ++ ("</uuid>".toList ++ rest)))) :=
          afterTag_skip (lt_not_mem_escape name)
      _ = afterTag _ ("<uuid>".toList ++ (uuid ++ ("</uuid>".toList ++ rest))) :=
          afterTag_other (c := '/') (by decide) (by decide)
      _ = some (uuid ++ ("</uuid>".toList ++ rest)) := rfl
  unfold uuidElement
  simp only [List.append_assoc]
  rw [scan, Option.map_some]
  exact congrArg some (takeWhile_append huuid)

/-! ## Inverting the agent's handlers -/

/-- Every payload that holds a `domain_uuid` holds it first. -/
theorem requireStr_head (key : String) (u : Uuid) (rest : Dict) :
    requireStr ((key, .str u.str) :: rest) key = .ok u.chars := by
  rw [requireStr, Dict.get?, List.lookup_cons_self, Uuid.str]
  exact congrArg Except.ok String.toList_ofList

/-- The domain that CREATE_VM defines carries the VM's `domain_uuid`. -/
theorem createVm_uuidElement {workdir : Text} {vm : VmRow} {disks : List (DiskRow × PoolRow)}
    {nics : List (NicRow × NetworkRow)} {xml : Text}
    (h : libvirtCalls workdir (createVmRequest vm disks nics) = .ok [.defineDomain xml]) :
    uuidElement xml = some vm.domainUuid.chars := by
  obtain ⟨built, hbuilt, hcalls⟩ := bind_eq_ok h
  obtain rfl : built = xml := LibvirtCall.defineDomain.inj (List.cons.inj (Except.ok.inj hcalls)).1
  obtain ⟨name, -, hbuilt⟩ := bind_eq_ok hbuilt
  obtain ⟨uuid, huuid, hbuilt⟩ := bind_eq_ok hbuilt
  obtain ⟨memory, -, hbuilt⟩ := bind_eq_ok hbuilt
  obtain ⟨machine, -, hbuilt⟩ := bind_eq_ok hbuilt
  obtain ⟨firmware, -, hbuilt⟩ := bind_eq_ok hbuilt
  obtain ⟨disksText, -, hbuilt⟩ := bind_eq_ok hbuilt
  obtain ⟨nicsText, -, hbuilt⟩ := bind_eq_ok hbuilt
  obtain rfl : vm.domainUuid.chars = uuid :=
    Except.ok.inj ((requireStr_head "domain_uuid" vm.domainUuid _).symm.trans huuid)
  rw [← Except.ok.inj hbuilt]
  exact uuidElement_document (lt_not_mem_uuid vm.domainUuid)

/-! ## The operations on a defined domain -/

/-- The operations that a controller sends about a VM once its domain is defined. -/
inductive VmCall
  | start | stop | shutdown | reboot | reset | pause | resume
  | delete (deleteDisks : Bool)
  | generateCloudInit
  | createSnapshot (s : SnapshotRow)
  | deleteSnapshot (s : SnapshotRow)
  | rollbackSnapshot (s : SnapshotRow)
  | openConsole (sessionId : String)
  | attachDisk (d : DiskRow) (p : PoolRow)
  | detachDisk (d : DiskRow) (p : PoolRow)
  | attachNic (n : NicRow) (net : NetworkRow)
  | detachNic (n : NicRow) (net : NetworkRow)

namespace VmCall

/-- The request on the wire. -/
def request (vm : VmRow) : VmCall → AgentRequest
  | start => vmRequest vm .startVm
  | stop => vmRequest vm .stopVm
  | shutdown => vmRequest vm .shutdownVm
  | reboot => vmRequest vm .rebootVm
  | reset => vmRequest vm .resetVm
  | pause => vmRequest vm .pauseVm
  | resume => vmRequest vm .resumeVm
  | delete deleteDisks => deleteVmRequest vm deleteDisks
  | generateCloudInit => generateCloudInitRequest vm
  | createSnapshot s => createSnapshotRequest vm s
  | deleteSnapshot s => deleteSnapshotRequest vm s
  | rollbackSnapshot s => rollbackSnapshotRequest vm s
  | openConsole sessionId => openConsoleRequest vm sessionId
  | attachDisk d p => attachDiskRequest vm d p
  | detachDisk d p => detachDiskRequest vm d p
  | attachNic n net => attachNicRequest vm n net
  | detachNic n net => detachNicRequest vm n net

/-- The operations whose payload carries `domain_uuid`. -/
def hotPlug : VmCall → Bool
  | attachDisk _ _ | detachDisk _ _ | attachNic _ _ | detachNic _ _ => true
  | _ => false

/-- The identifier a call is looked up by. -/
def target (vm : VmRow) (call : VmCall) : Uuid := if call.hotPlug then vm.domainUuid else vm.uuid

/-- A handler makes one call, and looks the domain up by `target`. -/
theorem libvirtCalls_lookup {workdir : Text} {vm : VmRow} {call : VmCall}
    {calls : List LibvirtCall} (h : libvirtCalls workdir (call.request vm) = .ok calls) :
    ∃ c, calls = [c] ∧ c.lookup = some (call.target vm).chars := by
  have plug {build : Except AgentError Text} {find : Except AgentError Text}
      {make : Text → Text → LibvirtCall} (hfind : find = .ok vm.domainUuid.chars)
      (hmake : ∀ u xml, (make u xml).lookup = some u)
      (hcalls : (do let xml ← build; let u ← find; return [make u xml]) = Except.ok calls) :
      ∃ c, calls = [c] ∧ c.lookup = some vm.domainUuid.chars := by
    obtain ⟨xml, -, hcalls⟩ := bind_eq_ok hcalls
    obtain ⟨u, hu, hcalls⟩ := bind_eq_ok hcalls
    obtain rfl : vm.domainUuid.chars = u := Except.ok.inj (hfind.symm.trans hu)
    exact ⟨_, (Except.ok.inj hcalls).symm, hmake _ xml⟩
  have direct {c : LibvirtCall} (hlookup : c.lookup = some vm.uuid.str.toList)
      (hcalls : Except.ok [c] = (.ok calls : Except AgentError (List LibvirtCall))) :
      ∃ c, calls = [c] ∧ c.lookup = some vm.uuid.chars :=
    ⟨c, (Except.ok.inj hcalls).symm, hlookup.trans (congrArg some String.toList_ofList)⟩
  cases call with
  | attachDisk d p => exact plug (requireStr_head _ _ _) (fun _ _ => rfl) h
  | detachDisk d p => exact plug (requireStr_head _ _ _) (fun _ _ => rfl) h
  | attachNic n net => exact plug (requireStr_head _ _ _) (fun _ _ => rfl) h
  | detachNic n net => exact plug (requireStr_head _ _ _) (fun _ _ => rfl) h
  | openConsole sessionId =>
    obtain ⟨_, -, h⟩ := bind_eq_ok h
    exact direct rfl h
  | createSnapshot s =>
    obtain ⟨_, -, h⟩ := bind_eq_ok h
    exact direct rfl h
  | deleteSnapshot s =>
    obtain ⟨_, -, h⟩ := bind_eq_ok h
    exact direct rfl h
  | rollbackSnapshot s =>
    obtain ⟨_, -, h⟩ := bind_eq_ok h
    exact direct rfl h
  | _ => exact direct rfl h

end VmCall

/-- An operation finds the domain that CREATE_VM defined for its VM exactly when it is a hot-plug
operation or the VM's two identifiers agree. `later` is the row when the operation is sent. -/
theorem lookup_defined_domain_iff (workdir : Text) (vm later : VmRow)
    (disks : List (DiskRow × PoolRow)) (nics : List (NicRow × NetworkRow)) (call : VmCall)
    (xml : Text) (calls : List LibvirtCall)
    (same : later.uuid = vm.uuid ∧ later.domainUuid = vm.domainUuid)
    (created : libvirtCalls workdir (createVmRequest vm disks nics) = .ok [.defineDomain xml])
    (sent : libvirtCalls workdir (call.request later) = .ok calls) :
    (calls ≠ [] ∧ ∀ c ∈ calls, c.lookup = uuidElement xml) ↔
      call.hotPlug = true ∨ vm.uuid = vm.domainUuid := by
  obtain ⟨c, rfl, hlookup⟩ := VmCall.libvirtCalls_lookup sent
  have meets : (∀ c' ∈ [c], c'.lookup = uuidElement xml) ↔ call.target later = vm.domainUuid := by
    rw [List.forall_mem_singleton, hlookup, createVm_uuidElement created, Option.some_inj]
    exact ⟨Uuid.chars_injective, congrArg Uuid.chars⟩
  rw [meets, VmCall.target, same.1, same.2]
  cases call.hotPlug with
  | true => simp
  | false => simp

/-- A VM as `VirtualMachine.objects.create` makes it: two identifiers, each drawn for itself. -/
def drawnVm : VmRow :=
  { pk := 1, uuid := ⟨1⟩, domainUuid := ⟨2⟩, organization := 1, project := 1, node := some 1
    name := "web" }

theorem lookup_defined_domain_iff_drawnVm :
    ∃ xml calls, libvirtCalls [] (createVmRequest drawnVm [] []) = .ok [.defineDomain xml] ∧
      libvirtCalls [] (VmCall.start.request drawnVm) = .ok calls ∧
      ((calls ≠ [] ∧ ∀ c ∈ calls, c.lookup = uuidElement xml) ↔
        VmCall.start.hotPlug = true ∨ drawnVm.uuid = drawnVm.domainUuid) := by
  obtain ⟨xml, created⟩ : ∃ xml,
      libvirtCalls [] (createVmRequest drawnVm [] []) = .ok [.defineDomain xml] := ⟨_, rfl⟩
  exact ⟨xml, _, created, rfl,
    lookup_defined_domain_iff [] drawnVm drawnVm [] [] .start xml _ ⟨rfl, rfl⟩ created rfl⟩

/-- START_VM looks the VM up under an identifier that its domain does not have. -/
theorem drawnVm_start_misses :
    ∃ xml c, libvirtCalls [] (createVmRequest drawnVm [] []) = .ok [.defineDomain xml] ∧
      libvirtCalls [] (VmCall.start.request drawnVm) = .ok [c] ∧
      c.lookup = some "00000000-0000-0000-0000-000000000001".toList ∧
      uuidElement xml = some "00000000-0000-0000-0000-000000000002".toList ∧
      c.lookup ≠ uuidElement xml := by
  obtain ⟨xml, created⟩ : ∃ xml,
      libvirtCalls [] (createVmRequest drawnVm [] []) = .ok [.defineDomain xml] := ⟨_, rfl⟩
  have looked : (LibvirtCall.startDomain drawnVm.uuid.str.toList).lookup =
      some "00000000-0000-0000-0000-000000000001".toList := by decide
  have defined : uuidElement xml = some "00000000-0000-0000-0000-000000000002".toList := by
    rw [createVm_uuidElement created]
    decide
  refine ⟨xml, .startDomain drawnVm.uuid.str.toList, created, rfl, looked, defined, ?_⟩
  rw [looked, defined]
  decide

end NodePilot

import Mathlib
import NodePilot.Agent.LinkStates
import NodePilot.Laws.HostLinks
import NodePilot.Lib.Ends
import NodePilot.Lib.Separators

/-!
# What becomes of the links

What one command does to the states of the links, and what of that every call of `network.py` keeps wherever it is
cut. The names and the kinds change as they do without the states.
-/

namespace NodePilot.Agent

open Lib Lib.Script

namespace LinkStates

variable {d : LinkStates} {links : Links} {command : IpCommand} {name : Text} {x : LinkState} {f : LinkState → LinkState}
variable {shown : Bool}

/-! ## Names and kinds -/

theorem present_links : d.links.present name ↔ ∃ x ∈ d, x.name = name := by
  simp [Links.present, LinkStates.links]

theorem hasBridge_links : d.links.hasBridge name ↔ ∃ x ∈ d, x.name = name ∧ x.kind = .bridge := by
  simp [Links.hasBridge, LinkStates.links]

theorem mem_edit : x ∈ d.edit name f ↔ ∃ y ∈ d, (if y.name = name then f y else y) = x := by
  simp [edit]

theorem links_edit (name : Text) (same : ∀ x, (f x).name = x.name ∧ (f x).kind = x.kind) :
    (d.edit name f).links = d.links := by
  unfold LinkStates.links edit
  rw [List.map_map]
  refine List.map_congr_left fun x _ => ?_
  by_cases named : x.name = name
  · simp [named, same]
  · simp [named]

theorem links_remove (name : Text) : (d.remove name).links = d.links.remove name := by
  unfold remove Links.remove LinkStates.links
  simp only [List.map_map, List.filter_map]
  refine List.map_congr_left fun x _ => ?_
  simp only [Function.comp_apply]
  split <;> rfl

/-- What a command does to the states, it does to the links. -/
theorem links_change (h : d.links.ip command = some (shown, links)) : (d.change command).links = links := by
  cases command <;> simp only [Links.ip, Option.ite_none_right_eq_some, Option.ite_none_left_eq_some,
    Option.some.injEq, Prod.mk.injEq] at h
  case showBridge | showLink => exact h.2.2
  case addBridge name => simp [change, LinkStates.links, ← h.2.2]
  case addVlan parent name vlanId => simp [change, LinkStates.links, ← h.2.2]
  case deleteBridge name | deleteLink name => exact (links_remove name).trans h.2.2
  all_goals
    rw [change, links_edit]
    · exact h.2.2
    · exact fun _ => ⟨rfl, rfl⟩

/-- A run of `ip` that succeeds does so on the links, and changes the states. -/
theorem ip_some {d' : LinkStates} (h : d.ip command = some (shown, d')) :
    (∃ links, d.links.ip command = some (shown, links)) ∧ d' = d.change command := by
  unfold ip at h
  split at h
  · cases h
  · obtain ⟨r, done, same⟩ := Option.map_eq_some_iff.mp h
    obtain ⟨rfl, rfl⟩ := Prod.mk.inj same
    exact ⟨⟨r.2, done⟩, rfl⟩

/-- Only a link that is set up can be refused for the state of another. -/
theorem ip_eq (other : ∀ name, command ≠ .setUp name) :
    d.ip command = (d.links.ip command).map fun r => (r.1, d.change command) := by
  refine if_neg ?_
  cases command with
  | setUp name => exact absurd rfl (other name)
  | _ => exact Bool.false_ne_true

end LinkStates

namespace LinkHost

/-- The links of a host with states are what they were, or what a run of `ip` makes of them. -/
theorem handle_cases (command : IpCommand) (s : LinkHost) :
    (handle command s).2.states.links = s.states.links ∨
      ∃ shown, s.states.links.ip command = some (shown, (handle command s).2.states.links) := by
  have made : ∀ {shown : Bool} {d : LinkStates}, s.states.ip command = some (shown, d) →
      s.states.links.ip command = some (shown, d.links) := by
    intro shown d done
    obtain ⟨⟨links, run⟩, rfl⟩ := LinkStates.ip_some done
    rw [LinkStates.links_change run]
    exact run
  unfold handle
  dsimp only
  cases (s.script s.pos).timesOut with
  | some performed =>
    cases performed with
    | false => exact .inl rfl
    | true =>
      cases done : s.states.ip command with
      | none => exact .inl rfl
      | some r => exact .inr ⟨r.1, made done⟩
  | none =>
    by_cases fails : (s.script s.pos).fails
    · rw [if_pos fails]
      exact .inl rfl
    · rw [if_neg fails]
      cases done : s.states.ip command with
      | none => exact .inl rfl
      | some r => exact .inr ⟨r.1, made done⟩

end LinkHost

/-! ## The kind of an uplink -/

theorem toDigits_dotless (n : Nat) : '.' ∉ Nat.toDigits 10 n := fun dot =>
  absurd (Nat.isDigit_of_mem_toDigits (by decide) (by decide) dot) (by decide)

theorem decimal_dotless (n : Int) : '.' ∉ decimal n := by
  cases n with
  | ofNat n =>
    have digits : decimal (Int.ofNat n) = Nat.toDigits 10 n := by
      show (Nat.repr n).toList = Nat.toDigits 10 n
      simp [Nat.repr]
    rw [digits]
    exact toDigits_dotless n
  | negSucc n =>
    have digits : decimal (Int.negSucc n) = '-' :: Nat.toDigits 10 (n + 1) := by
      show ("-" ++ Nat.repr (n + 1)).toList = '-' :: Nat.toDigits 10 (n + 1)
      simp [Nat.repr, String.toList_append]
    rw [digits, List.mem_cons, not_or]
    exact ⟨by decide, toDigits_dotless (n + 1)⟩

/-- The name of an uplink tells the bridge and the VLAN: the last dot splits a text in one way only. -/
theorem uplinkName_injective {a b : Text} {m n : Int} (h : uplinkName a m = uplinkName b n) : a = b ∧ m = n := by
  have split : a ++ '.' :: decimal m = b ++ '.' :: decimal n := by simpa [uplinkName] using h
  obtain ⟨rfl, digits⟩ := append_last_sep_inj (decimal_dotless m) (decimal_dotless n) split
  exact ⟨rfl, Int.repr_injective (String.toList_inj.mp digits)⟩

/-- A link of the kind `vlan` is named after the link under it and the VLAN. -/
def Names (command : IpCommand) : Prop :=
  ∀ parent name vlanId, command = .addVlan parent name vlanId → name = uplinkName parent vlanId

/-- Whatever is called like the uplink is it, or is a bridge. -/
def Proper (parent : Text) (vlanId : Int) (links : Links) : Prop :=
  ∀ l ∈ links, l.name = uplinkName parent vlanId → l.kind = .bridge ∨ l.kind = .vlan parent vlanId

section Proper

variable {parent : Text} {vlanId : Int} {links links' : Links} {command : IpCommand} {shown : Bool}

theorem Proper.append {l : Link} (h : Proper parent vlanId links)
    (new : l.name = uplinkName parent vlanId → l.kind = .bridge ∨ l.kind = .vlan parent vlanId) :
    Proper parent vlanId (links ++ [l]) := by
  intro x hx
  rcases List.mem_append.mp hx with old | last
  · exact h x old
  · exact List.mem_singleton.mp last ▸ new

theorem Proper.ip (h : Proper parent vlanId links) (names : Names command)
    (done : links.ip command = some (shown, links')) : Proper parent vlanId links' := by
  cases command <;> simp only [Links.ip, Option.ite_none_right_eq_some, Option.ite_none_left_eq_some,
    Option.some.injEq, Prod.mk.injEq] at done
  case addBridge name => exact done.2.2 ▸ h.append fun _ => .inl rfl
  case addVlan under name tag =>
    refine done.2.2 ▸ h.append fun same => .inr ?_
    obtain ⟨rfl, rfl⟩ := uplinkName_injective ((names under name tag rfl).symm.trans same)
    rfl
  case deleteBridge name | deleteLink name =>
    exact done.2.2 ▸ fun l hl => h l (List.mem_filter.mp hl).1
  all_goals exact done.2.2 ▸ h

theorem Proper.handle {s : LinkHost} (h : Proper parent vlanId s.states.links) (names : Names command) :
    Proper parent vlanId (LinkHost.handle command s).2.states.links := by
  rcases LinkHost.handle_cases command s with same | ⟨shown, done⟩
  · rw [same]
    exact h
  · exact h.ip names done

theorem names_call (call : NetworkCall) : Obeys (fun _ _ => True) Names (fun _ => True) call.script := by
  cases call with
  | ensure parent vlanId =>
    refine Obeys.bind (obeys_ensureVlanNetwork ?_) fun _ _ => Obeys.pure trivial
    simp [ensureCommands, bridgeCommands, vlanCommands, Names, uplinkName]
  | teardown parent vlanId =>
    refine obeys_teardownVlanNetwork ?_
    simp [teardownCommands, Names]

/-- Wherever a call is cut. -/
theorem Proper.left {d : LinkStates} (h : Proper parent vlanId d.links) (a : Attempt) :
    Proper parent vlanId (a.left d).links :=
  Prog.Obeys.cut (I := fun s : LinkHost => Proper parent vlanId s.states.links) (names_call a.call ())
    (fun _ _ names kept => ⟨trivial, kept.handle names⟩) h

theorem Proper.leftBy {d : LinkStates} (h : Proper parent vlanId d.links) (attempts : List Attempt) :
    Proper parent vlanId (leftBy attempts d).links := by
  induction attempts generalizing d with
  | nil => exact h
  | cons a rest ih => exact ih (h.left a)

end Proper

/-! ## A run of `ip` that returns -/

theorem triple_runIp {d : LinkStates} {command : IpCommand} {check : Bool} :
    Triple LinkHost.handle (fun _ s => s.states = d) (runIp command check)
      (fun shown _ s => d.ip command = some (shown, s.states) ∨ check = false ∧ shown = false ∧ s.states = d)
      fun _ _ _ => True := by
  have asked : Triple LinkHost.handle (fun _ s => s.states = d) (Script.perform command : IpM IpAnswer)
      (fun answer _ s => (∃ shown, answer = .done shown ∧ d.ip command = some (shown, s.states)) ∨
        (∃ stderr, answer = .failed stderr ∧ s.states = d) ∨ answer = .timedOut) fun _ _ _ => True := by
    refine Triple.perform fun _ s same => ?_
    unfold LinkHost.handle
    dsimp only
    rw [same]
    cases (s.script s.pos).timesOut with
    | some performed => exact .inr (.inr rfl)
    | none =>
      by_cases fails : (s.script s.pos).fails
      · rw [if_pos fails]
        exact .inr (.inl ⟨_, rfl, rfl⟩)
      · rw [if_neg fails]
        cases done : d.ip command with
        | none => exact .inr (.inl ⟨_, rfl, rfl⟩)
        | some r => exact .inl ⟨_, rfl, rfl⟩
  refine Triple.bind asked fun answer l s given => ?_
  rcases given with ⟨shown, rfl, done⟩ | ⟨stderr, rfl, same⟩ | rfl
  · exact .inl done
  · cases check with
    | false => exact .inr ⟨rfl, rfl, same⟩
    | true => trivial
  · trivial

end NodePilot.Agent

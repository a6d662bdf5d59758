import Mathlib.Logic.Function.Basic

/-!
# Keys that expire

A store in which a key can be set only while it is free, stays set until its time is over, and is
deleted or extended only by the token that set it. Times are natural numbers on one clock; a key
set at `now` for `ttl` is held at every time before `now + ttl`.
-/

namespace NodePilot.Lib

/-- What a key that is set holds. -/
structure Lease (T : Type) where
  token : T
  expires : Nat

/-- A store of leases. -/
abbrev Leases (K T : Type) : Type := K → Option (Lease T)

namespace Leases

variable {K T : Type} [DecidableEq K]

/-- The lease that a key has at a time: one whose time is over counts as gone. -/
def at? (s : Leases K T) (now : Nat) (k : K) : Option (Lease T) :=
  (s k).filter fun lease => now < lease.expires

/-- `SET key token NX PX ttl` -/
def setNx (s : Leases K T) (now ttl : Nat) (k : K) (token : T) : Bool × Leases K T :=
  match s.at? now k with
  | some _ => (false, s)
  | none => (true, Function.update s k (some ⟨token, now + ttl⟩))

/-- `SET key token PX ttl` -/
def set (s : Leases K T) (now ttl : Nat) (k : K) (token : T) : Leases K T :=
  Function.update s k (some ⟨token, now + ttl⟩)

/-- `DEL key` -/
def del (s : Leases K T) (k : K) : Leases K T := Function.update s k none

/-- Deletes the key if it holds the token. -/
def release [DecidableEq T] (s : Leases K T) (now : Nat) (k : K) (token : T) : Leases K T :=
  if (s.at? now k).any fun lease => lease.token = token then Function.update s k none else s

/-- The key holds the token. -/
def holds [DecidableEq T] (s : Leases K T) (now : Nat) (k : K) (token : T) : Bool :=
  (s.at? now k).any fun lease => lease.token = token

/-- `PEXPIRE key ttl`: a key that is gone stays gone, and a time that is not positive deletes it. -/
def pexpire (s : Leases K T) (now : Nat) (ttl : Int) (k : K) : Leases K T :=
  match s.at? now k with
  | some lease =>
    Function.update s k (if 0 < ttl then some ⟨lease.token, now + ttl.toNat⟩ else none)
  | none => s

/-- Gives the key a new time if it holds the token. -/
def extend [DecidableEq T] (s : Leases K T) (now : Nat) (ttl : Int) (k : K) (token : T) :
    Leases K T :=
  if s.holds now k token then s.pexpire now ttl k else s

variable {s : Leases K T} {now ttl : Nat} {k k' : K} {token : T}

omit [DecidableEq K] in
theorem at?_eq_some {lease : Lease T} :
    s.at? now k = some lease ↔ s k = some lease ∧ now < lease.expires := by
  simp [at?, Option.filter_eq_some_iff]

omit [DecidableEq K] in
theorem holds_iff [DecidableEq T] :
    s.holds now k token = true ↔ ∃ expires, s.at? now k = some ⟨token, expires⟩ := by
  simp only [holds, Option.any_eq_true, decide_eq_true_eq]
  constructor
  · rintro ⟨⟨token', expires⟩, found, rfl⟩
    exact ⟨expires, found⟩
  · rintro ⟨expires, found⟩
    exact ⟨_, found, rfl⟩

/-- What a key has after another one, or itself, was rewritten. -/
theorem at?_update {lease : Option (Lease T)} :
    at? (Function.update s k lease) now k' =
      if k' = k then lease.filter (fun l => now < l.expires) else s.at? now k' := by
  by_cases same : k' = k
  · subst same
    simp [at?]
  · simp [at?, same]

theorem at?_set (positive : 0 < ttl) : (s.set now ttl k token).at? now k' =
    if k' = k then some ⟨token, now + ttl⟩ else s.at? now k' := by
  rw [set, at?_update]
  by_cases same : k' = k <;> simp [same, positive]

@[simp]
theorem at?_del : (s.del k).at? now k' = if k' = k then none else s.at? now k' := by
  rw [del, at?_update]
  rfl

/-- A key that is set has a new time after a `PEXPIRE`, and a key that is not stays so. -/
theorem at?_pexpire {time : Int} (positive : 0 < time) : (s.pexpire now time k).at? now k' =
    if k' = k then (s.at? now k).map fun l => ⟨l.token, now + time.toNat⟩ else s.at? now k' := by
  unfold pexpire
  cases found : s.at? now k with
  | none =>
    by_cases same : k' = k
    · simp [same, found]
    · simp [same]
  | some l =>
    have later : now < now + time.toNat := by omega
    simp only [at?_update]
    by_cases same : k' = k <;> simp [same, positive, later]

omit [DecidableEq K] in
/-- A key that is set later on was set before. -/
theorem at?_of_later {later : Nat} {lease : Lease T} (h : s.at? later k = some lease)
    (le : now ≤ later) : s.at? now k = some lease := by
  rw [at?_eq_some] at h ⊢
  exact ⟨h.1, by omega⟩

/-- A key that can be set was free, and no other key has changed. -/
theorem setNx_true {s' : Leases K T} (h : s.setNx now ttl k token = (true, s')) :
    s.at? now k = none ∧ s' = Function.update s k (some ⟨token, now + ttl⟩) := by
  unfold setNx at h
  split at h
  · cases h
  · next free => exact ⟨free, (Prod.mk.inj h).2.symm⟩

theorem setNx_false {s' : Leases K T} (h : s.setNx now ttl k token = (false, s')) : s' = s := by
  unfold setNx at h
  split at h
  · exact (Prod.mk.inj h).2.symm
  · cases h

theorem release_ne [DecidableEq T] (h : k' ≠ k) : s.release now k token k' = s k' := by
  unfold release
  split
  · exact Function.update_of_ne h _ _
  · rfl

/-- A lease of another token outlives the release. -/
theorem release_other [DecidableEq T] {lease : Lease T} (h : s k = some lease) (live : now < lease.expires)
    (other : lease.token ≠ token) : s.release now k token k = some lease := by
  have held : s.at? now k = some lease := by simp [at?, h, live]
  unfold release
  rw [if_neg (by simp [held, other])]
  exact h

end Leases

end NodePilot.Lib

import NodePilot.Locks

/-!
# What a Redis lock promises

From its successful `acquire` until it releases the lock or the time lapses, an object is the only
one that can have it; and whoever does not have the lock cannot shorten, extend or end it. The key
in Redis and what each object may conclude from its own calls are kept in step by `Agreement`.
-/

namespace NodePilot

open Lib

namespace RedisLock

/-- **The invariant**: the key holds an object's token exactly while the object has the lock by its
own calls, and for as long. -/
def Agreement (locks : List RedisLock) (s : Clients) : Prop :=
  ∀ i lock, locks[i]? = some lock → ∀ expires,
    s.store.at? s.now lock.key = some ⟨lock.token, expires⟩ ↔
      heldUntil i s.returned = some expires ∧ s.now < expires

section Agreement

variable {locks : List RedisLock} {s : Clients} {i j : Nat} {lock other : RedisLock}

theorem Agreement.holds_iff (h : Agreement locks s) (hi : locks[i]? = some lock) :
    s.store.holds s.now lock.key lock.token = true ↔ s.Holds i := by
  rw [Leases.holds_iff]
  exact exists_congr fun expires => h i lock hi expires

/-- Distinct tokens: a key that holds the token of one object does not hold that of another. -/
theorem token_ne (distinct : (locks.map token).Nodup) (hi : locks[i]? = some lock)
    (hj : locks[j]? = some other) (hne : i ≠ j) : lock.token ≠ other.token := by
  intro same
  have hi' : (locks.map token)[i]? = some lock.token := by simp [hi]
  have hj' : (locks.map token)[j]? = some lock.token := by simp [hj, same]
  obtain ⟨hlt, -⟩ := List.getElem?_eq_some_iff.mp hi'
  exact hne ((List.getElem?_inj hlt distinct).mp (hi'.trans hj'.symm))

theorem heldUntil_other {r : Returned} {earlier : List Returned} (h : r.object ≠ i) :
    heldUntil i (r :: earlier) = heldUntil i earlier := if_neg fun both => h both.1

theorem heldUntil_false {r : Returned} {earlier : List Returned} (h : r.result = false) :
    heldUntil i (r :: earlier) = heldUntil i earlier :=
  if_neg fun both => by rw [h] at both; cases both.2

/-- Calls that return no new success and write nothing. -/
theorem Agreement.of_returned {s' : Clients} (h : Agreement locks s) (now : s'.now = s.now)
    (store : s'.store = s.store)
    (returned : ∀ i, heldUntil i s'.returned = heldUntil i s.returned) : Agreement locks s' := by
  intro i lock hi expires
  rw [now, store, returned i]
  exact h i lock hi expires

/-- A step of `j` that rewrites its key, from a moment at which nobody else has the key. -/
theorem Agreement.rewritten {s' : Clients} {lease : Option (Lease String)} {r : Returned}
    (distinct : (locks.map token).Nodup) (h : Agreement locks s) (hj : locks[j]? = some lock)
    (now : s'.now = s.now) (store : s'.store = Function.update s.store lock.key lease)
    (returned : s'.returned = r :: s.returned) (author : r.object = j)
    (free : ∀ l, s.store.at? s.now lock.key = some l → l.token = lock.token)
    (mine : ∀ l, lease = some l → l.token = lock.token)
    (own : ∀ expires, lease = some ⟨lock.token, expires⟩ ∧ s.now < expires ↔
      heldUntil j (r :: s.returned) = some expires ∧ s.now < expires) : Agreement locks s' := by
  intro i other hi expires
  rw [now, store, returned, Leases.at?_eq_some]
  by_cases same : i = j
  · subst same
    obtain rfl : lock = other := Option.some.inj (hj.symm.trans hi)
    rw [Function.update_self]
    exact own expires
  · have apart := token_ne distinct hi hj same
    rw [heldUntil_other fun e => same (e.symm.trans author), ← h i other hi expires]
    by_cases key : other.key = lock.key
    · -- neither before nor after does the key hold the token of the other object
      rw [key, Function.update_self]
      constructor
      · intro found
        exact absurd (mine _ found.1) apart
      · intro found
        exact absurd (free _ found) apart
    · rw [Function.update_of_ne key, Leases.at?_eq_some]

/-! ## Steps -/

theorem Agreement.tick (h : Agreement locks s) (milliseconds : Nat) :
    Agreement locks { s with now := s.now + milliseconds } := by
  intro i lock hi expires
  have before := h i lock hi expires
  rw [Leases.at?_eq_some] at before ⊢
  constructor
  · rintro ⟨found, live⟩
    have live : s.now + milliseconds < expires := live
    obtain ⟨held, -⟩ := before.mp ⟨found, show s.now < expires by omega⟩
    exact ⟨held, live⟩
  · rintro ⟨held, live⟩
    have live : s.now + milliseconds < expires := live
    obtain ⟨found, -⟩ := before.mpr ⟨held, by omega⟩
    exact ⟨found, live⟩

/-- A round of `acquire` that does not succeed leaves the store and every earlier success alone. -/
theorem Agreement.attempt {blocking : Bool} {deadline : Nat} (distinct : (locks.map token).Nodup)
    (h : Agreement locks s) (hj : locks[j]? = some lock) :
    Agreement locks (s.attempt j lock blocking deadline) := by
  unfold Clients.attempt
  split
  · next positive =>
    split
    · next store hset =>
      obtain ⟨free, rfl⟩ := Leases.setNx_true hset
      refine Agreement.rewritten distinct h hj rfl rfl rfl rfl ?_ ?_ ?_
      · intro l found
        rw [free] at found
        cases found
      · intro l same
        cases same
        rfl
      · intro expires
        simp [heldUntil, Clients.leave]
    · split
      · exact h.of_returned rfl rfl fun i => heldUntil_false rfl
      · exact h
  · exact h.of_returned rfl rfl fun _ => rfl

/-- An object that does not have the lock neither extends nor releases it. -/
theorem Agreement.refused (h : Agreement locks s) (j : Nat) (call : Call)
    (away : s.store.holds s.now lock.key lock.token = false) :
    Agreement locks (s.answer j call (s.store.holds s.now lock.key lock.token)) :=
  h.of_returned rfl rfl fun _ => heldUntil_false away

theorem Agreement.extend {ttl : Int} (distinct : (locks.map token).Nodup)
    (h : Agreement locks s) (hj : locks[j]? = some lock) :
    Agreement locks (s.extend j lock ttl) := by
  unfold Clients.extend Leases.extend
  cases held : s.store.holds s.now lock.key lock.token with
  | false =>
    have refused := h.refused j (.extend ttl) held
    rw [held] at refused
    exact refused
  | true =>
    obtain ⟨before, found⟩ := Leases.holds_iff.mp held
    rw [if_pos rfl, Leases.pexpire, found]
    refine Agreement.rewritten distinct h hj rfl rfl rfl rfl ?_ ?_ ?_
    · intro l found'
      rw [found] at found'
      cases found'
      rfl
    · intro l same
      split at same
      · cases same
        rfl
      · cases same
    · intro expires
      simp only [heldUntil, and_self, if_true]
      split
      · simp
      · next lapsed =>
        have zero : ttl.toNat = 0 := by omega
        simp only [reduceCtorEq, false_and, zero, Nat.add_zero, Option.some.injEq, false_iff]
        omega

theorem Agreement.release (distinct : (locks.map token).Nodup) (h : Agreement locks s)
    (hj : locks[j]? = some lock) : Agreement locks (s.release j lock) := by
  unfold Clients.release
  cases held : s.store.holds s.now lock.key lock.token with
  | false =>
    have refused := h.refused j .release held
    rw [held] at refused
    have same : s.store.release s.now lock.key lock.token = s.store :=
      if_neg fun taken => by rw [← Leases.holds, held] at taken; cases taken
    rw [same]
    exact refused
  | true =>
    obtain ⟨before, found⟩ := Leases.holds_iff.mp held
    have gone : s.store.release s.now lock.key lock.token = Function.update s.store lock.key none :=
      if_pos held
    rw [gone]
    refine Agreement.rewritten distinct h hj rfl rfl rfl rfl ?_ ?_ ?_
    · intro l found'
      rw [found] at found'
      cases found'
      rfl
    · intro l same
      cases same
    · intro expires
      simp [heldUntil]

theorem Agreement.step {l : Step} {s' : Clients} (distinct : (locks.map token).Nodup)
    (h : Agreement locks s) (hstep : Clients.step locks l s = some s') : Agreement locks s' := by
  cases l with
  | tick milliseconds =>
    cases hstep
    exact h.tick milliseconds
  | acquire object blocking timeoutMs =>
    simp only [Clients.step] at hstep
    split at hstep
    · cases hstep
      exact h.of_returned rfl rfl fun _ => rfl
    · cases hstep
  | attempt object =>
    obtain ⟨lock, hlock, rest⟩ := Option.bind_eq_some_iff.mp hstep
    obtain ⟨⟨blocking, deadline⟩, -, same⟩ := Option.bind_eq_some_iff.mp rest
    cases same
    exact h.attempt distinct hlock
  | extend object additional =>
    obtain ⟨lock, hlock, same⟩ := Option.bind_eq_some_iff.mp hstep
    cases same
    exact h.extend distinct hlock
  | release object =>
    obtain ⟨lock, hlock, same⟩ := Option.bind_eq_some_iff.mp hstep
    cases same
    exact h.release distinct hlock

theorem agreement_run {ls : List Step} (distinct : (locks.map token).Nodup)
    (run : runFrom (Clients.step locks) ls {} = some s) : Agreement locks s := by
  have first : Agreement locks {} := by
    intro i lock _ expires
    simp [Leases.at?_eq_some, heldUntil]
  exact runFrom_keeps (C := fun _ _ => True) (fun _ _ _ h _ hs => h.step distinct hs) first
    (Along.of_forall (fun _ _ _ => trivial) _) run

end Agreement

/-! ## The promise -/

/-- An `acquire` of the object returns `True` in a step. -/
def Acquires (object : Nat) (s s' : Clients) : Prop :=
  ∃ ttl, s'.returned = ⟨object, .acquire ttl, s.now, true⟩ :: s.returned

/-- An `extend` or a `release` of the object returns `False` in a step and leaves Redis alone. -/
def Refused (object : Nat) (s s' : Clients) : Prop :=
  (∃ call, s'.returned = ⟨object, call, s.now, false⟩ :: s.returned) ∧ s'.store = s.store

/-- The steps by which an object may end or extend a lock. -/
def Step.renews (object : Nat) : Step → Prop
  | .extend i _ | .release i => i = object
  | _ => False

/-- An `acquire` succeeds on a key that is free. -/
theorem free_of_acquires {locks : List RedisLock} {l : Step} {s s' : Clients} {j : Nat}
    {lock : RedisLock} (hstep : Clients.step locks l s = some s') (hj : locks[j]? = some lock)
    (got : Acquires j s s') : s.store.at? s.now lock.key = none := by
  obtain ⟨ttl, got⟩ := got
  have grown : s'.returned ≠ s.returned := by
    rw [got]
    exact List.cons_ne_self _ _
  cases l with
  | tick milliseconds =>
    cases hstep
    exact absurd rfl grown
  | acquire object blocking timeoutMs =>
    simp only [Clients.step] at hstep
    split at hstep
    · cases hstep
      exact absurd rfl grown
    · cases hstep
  | attempt object =>
    obtain ⟨lock', hlock, rest⟩ := Option.bind_eq_some_iff.mp hstep
    obtain ⟨⟨blocking, deadline⟩, -, same⟩ := Option.bind_eq_some_iff.mp rest
    cases same
    unfold Clients.attempt at got grown
    split at got
    · split at got
      · next store hset =>
        obtain rfl : object = j := congrArg Returned.object (List.cons.inj got).1
        obtain rfl : lock' = lock := Option.some.inj (hlock.symm.trans hj)
        exact (Leases.setNx_true hset).1
      · split at got
        · cases congrArg Returned.result (List.cons.inj got).1
        · exact absurd got.symm (List.cons_ne_self _ _)
    · exact absurd got.symm (List.cons_ne_self _ _)
  | extend object additional =>
    obtain ⟨lock', hlock, same⟩ := Option.bind_eq_some_iff.mp hstep
    cases same
    cases congrArg Returned.call (List.cons.inj got).1
  | release object =>
    obtain ⟨lock', hlock, same⟩ := Option.bind_eq_some_iff.mp hstep
    cases same
    cases congrArg Returned.call (List.cons.inj got).1

/-- **A Redis lock is safe.** For any number of lock objects with distinct tokens, after any run of
their steps and of the clock: an object that has the lock, from its successful `acquire` until it
releases it or its time lapses, as it has last extended it itself, keeps every other object on the
key from acquiring it; and an object that does not have the lock gets `False` from `extend` and
`release`, which leave the key and its time as they are. -/
theorem redisLock_safe (locks : List RedisLock) (distinct : (locks.map token).Nodup)
    (ls : List Step) (s : Clients) (run : runFrom (Clients.step locks) ls {} = some s) (l : Step)
    (s' : Clients) (hstep : Clients.step locks l s = some s') :
    (∀ i j lock other, locks[i]? = some lock → locks[j]? = some other → i ≠ j →
      lock.key = other.key → s.Holds i → ¬ Acquires j s s') ∧
    ∀ i, l.renews i → ¬ s.Holds i → Refused i s s' := by
  have agreement := agreement_run distinct run
  constructor
  · intro i j lock other hi hj _ same held got
    obtain ⟨expires, until_, live⟩ := held
    have found := (agreement i lock hi expires).mpr ⟨until_, live⟩
    rw [same, free_of_acquires hstep hj got] at found
    cases found
  · intro i renews away
    cases l with
    | tick | acquire | attempt => exact renews.elim
    | extend object additional =>
      obtain rfl : object = i := renews
      obtain ⟨lock, hlock, same⟩ := Option.bind_eq_some_iff.mp hstep
      cases same
      have free : s.store.holds s.now lock.key lock.token = false :=
        Bool.eq_false_iff.mpr fun held => away ((agreement.holds_iff hlock).mp held)
      simp [Refused, Clients.extend, Clients.answer, Leases.extend, free]
    | release object =>
      obtain rfl : object = i := renews
      obtain ⟨lock, hlock, same⟩ := Option.bind_eq_some_iff.mp hstep
      cases same
      have free : s.store.holds s.now lock.key lock.token = false :=
        Bool.eq_false_iff.mpr fun held => away ((agreement.holds_iff hlock).mp held)
      have kept : s.store.release s.now lock.key lock.token = s.store :=
        if_neg fun taken => by rw [← Leases.holds, free] at taken; cases taken
      exact ⟨⟨.release, by simp [Clients.release, Clients.answer, free]⟩, kept⟩

/-- Two objects on the lock of one VM. -/
def twoLocks : List RedisLock :=
  [{ key := "nodepilot:lock:vm:1:lifecycle", ttlSeconds := 120, token := "a" },
    { key := "nodepilot:lock:vm:1:lifecycle", ttlSeconds := 120, token := "b" }]

/-- The first object acquires the lock and extends it by a minute, and the second calls
`acquire` while it has it. -/
def extended : List Step :=
  [.acquire 0 true 10000, .attempt 0, .tick 119000, .extend 0 (some 60), .tick 59999,
    .acquire 1 false 0]

theorem redisLock_safe_extended :
    ∃ s, runFrom (Clients.step twoLocks) extended {} = some s ∧ s.Holds 0 ∧ ¬ s.Holds 1 ∧
      (∃ s', Clients.step twoLocks (.attempt 1) s = some s' ∧ ¬ Acquires 1 s s') ∧
      ∃ s', Clients.step twoLocks (.release 1) s = some s' ∧ Refused 1 s s' := by
  have distinct : (twoLocks.map token).Nodup := by decide
  refine ⟨_, rfl, ⟨179000, rfl, by decide⟩, ?_, ⟨_, rfl, ?_⟩, ⟨_, rfl, ?_⟩⟩
  · rintro ⟨expires, held, -⟩
    cases held
  · exact (redisLock_safe twoLocks distinct extended _ rfl (.attempt 1) _ rfl).1 0 1 _ _ rfl rfl
      (by decide) rfl ⟨179000, rfl, by decide⟩
  · refine (redisLock_safe twoLocks distinct extended _ rfl (.release 1) _ rfl).2 1 rfl ?_
    rintro ⟨expires, held, -⟩
    cases held

end RedisLock

end NodePilot

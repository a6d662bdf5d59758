import Mathlib.Algebra.Order.Group.Int
import Mathlib.Data.List.DropRight
import Mathlib.Data.List.Sort
import Mathlib.Logic.Function.Basic
import Mathlib.Order.WithBot

/-!
# Sorted sets under keys that expire

A sorted set holds each of its members once, with a score, and lists them by score and those of one score by
themselves. Members go by a range of scores or a range of ranks, a negative rank counted from the end. A store
keeps sorted sets under keys: a key whose time is over has none, and a set that has lost its last member is
gone with its key.
-/

namespace NodePilot.Lib

/-- The lower score comes first, and the lower member where two have one score. -/
def ByScore {S M : Type} [LinearOrder S] [LinearOrder M] (a b : S × M) : Prop :=
  a.1 < b.1 ∨ a.1 = b.1 ∧ a.2 ≤ b.2

section ByScore

variable {S M : Type} [LinearOrder S] [LinearOrder M]

instance : DecidableRel (ByScore (S := S) (M := M)) := fun a b =>
  inferInstanceAs (Decidable (a.1 < b.1 ∨ a.1 = b.1 ∧ a.2 ≤ b.2))

instance : IsTrans (S × M) ByScore where
  trans := by
    rintro a b c (less | ⟨same, le⟩) (less' | ⟨same', le'⟩)
    · exact .inl (less.trans less')
    · exact .inl (same' ▸ less)
    · exact .inl (same ▸ less')
    · exact .inr ⟨same.trans same', le.trans le'⟩

instance : Std.Total (ByScore (S := S) (M := M)) where
  total a b := by
    rcases lt_trichotomy a.1 b.1 with less | same | more
    · exact .inl (.inl less)
    · rcases le_total a.2 b.2 with le | ge
      · exact .inl (.inr ⟨same, le⟩)
      · exact .inr (.inr ⟨same.symm, ge⟩)
    · exact .inr (.inl more)

end ByScore

/-- A sorted set: its members with their scores, in order. -/
structure SortedSet (S M : Type) [LinearOrder S] [LinearOrder M] where
  entries : List (S × M)
  sorted : entries.Pairwise ByScore
  single : (entries.map Prod.snd).Nodup

namespace SortedSet

variable {S M : Type} [LinearOrder S] [LinearOrder M]

def empty : SortedSet S M := ⟨[], .nil, .nil⟩

/-- What a sublist of the entries makes. -/
def restrict (s : SortedSet S M) (entries : List (S × M)) (sub : entries.Sublist s.entries) : SortedSet S M :=
  ⟨entries, s.sorted.sublist sub, s.single.sublist (sub.map _)⟩

/-- `ZADD key score member`: a member that is there gets the score. -/
def add (s : SortedSet S M) (score : S) (member : M) : SortedSet S M where
  entries := (s.entries.filter fun e => e.2 ≠ member).orderedInsert ByScore (score, member)
  sorted := (s.sorted.filter _).orderedInsert _ _
  single := by
    rw [((List.perm_orderedInsert ByScore _ _).map Prod.snd).nodup_iff, List.map_cons, List.nodup_cons]
    constructor
    · intro there
      obtain ⟨e, kept, same⟩ := List.mem_map.mp there
      simp [same] at kept
    · exact s.single.sublist (List.filter_sublist.map _)

/-- `ZREMRANGEBYSCORE key lo hi` -/
def removeByScore (s : SortedSet S M) (lo hi : S) : SortedSet S M :=
  s.restrict (s.entries.filter fun e => ¬(lo ≤ e.1 ∧ e.1 ≤ hi)) List.filter_sublist

/-- A rank that is negative counts from the end. -/
def rank (n : Nat) (i : Int) : Int := if i < 0 then n + i else i

/-- `ZREMRANGEBYRANK key start stop` -/
def removeByRank (s : SortedSet S M) (start stop : Int) : SortedSet S M :=
  let first := (rank s.entries.length start).toNat
  s.restrict (s.entries.take first ++ s.entries.drop (max first (rank s.entries.length stop + 1).toNat)) (by
    have rest : (s.entries.drop (max first (rank s.entries.length stop + 1).toNat)).Sublist (s.entries.drop first) :=
      List.drop_sublist_drop_left _ (le_max_left _ _)
    simpa using (List.Sublist.refl (s.entries.take first)).append rest)

/-- `ZRANGEBYSCORE key lo hi`, where nothing is below `⊥`. -/
def rangeByScore (s : SortedSet S M) (lo : WithBot S) (hi : S) : List M :=
  (s.entries.filter fun e => lo ≤ (e.1 : WithBot S) ∧ e.1 ≤ hi).map Prod.snd

variable {s : SortedSet S M} {score lo hi : S} {member : M}

/-- A new member with a score above all others goes to the end. -/
theorem add_last (fresh : ∀ e ∈ s.entries, e.2 ≠ member) (above : ∀ e ∈ s.entries, e.1 < score) :
    (s.add score member).entries = s.entries ++ [(score, member)] := by
  have all : s.entries.filter (fun e => e.2 ≠ member) = s.entries :=
    List.filter_eq_self.mpr fun e there => decide_eq_true (fresh e there)
  have goes : ∀ entries : List (S × M), (∀ e ∈ entries, e.1 < score) →
      entries.orderedInsert ByScore (score, member) = entries ++ [(score, member)] := by
    intro entries below
    induction entries with
    | nil => rfl
    | cons e entries ih =>
      have less := below e (by simp)
      have after : ¬ByScore (score, member) e := by
        rintro (more | ⟨same, -⟩)
        · exact lt_asymm less more
        · exact less.ne' same
      rw [List.orderedInsert_of_not_le _ _ after, ih fun e' there => below e' (by simp [there])]
      rfl
  calc (s.add score member).entries
      = (s.entries.filter fun e => e.2 ≠ member).orderedInsert ByScore (score, member) := rfl
    _ = s.entries.orderedInsert ByScore (score, member) := by rw [all]
    _ = s.entries ++ [(score, member)] := goes _ above

/-- The ranks up to `-(n + 1)` are all but the last `n`. -/
theorem removeByRank_last (n : Nat) : (s.removeByRank 0 (-(n + 1))).entries = s.entries.rtake n := by
  have first : (rank s.entries.length 0).toNat = 0 := rfl
  have stop : (rank s.entries.length (-(n + 1)) + 1).toNat = s.entries.length - n := by
    unfold rank
    split_ifs <;> omega
  simp only [removeByRank, restrict, first, stop, List.take_zero, List.nil_append, Nat.zero_max, List.rtake]

end SortedSet

/-! ## Keys -/

/-- What a key that is set holds, and until when. -/
structure SortedSetKey (T S M : Type) [LinearOrder S] [LinearOrder M] where
  value : SortedSet S M
  expires : Option T

/-- A store of sorted sets. -/
abbrev SortedSets (K T S M : Type) [LinearOrder S] [LinearOrder M] : Type := K → Option (SortedSetKey T S M)

namespace SortedSets

variable {K T S M : Type} [DecidableEq K] [LinearOrder T] [LinearOrder S] [LinearOrder M]

/-- What a key has at a time: one whose time is over counts as gone. -/
def at? (store : SortedSets K T S M) (now : T) (k : K) : Option (SortedSetKey T S M) :=
  (store k).filter fun key => key.expires.all fun expires => now < expires

/-- The entries under a key at a time. -/
def entriesAt (store : SortedSets K T S M) (now : T) (k : K) : List (S × M) :=
  ((store.at? now k).map fun key => key.value.entries).getD []

/-- `ZADD key score member`: a key that is not there is set, with no time. -/
def zadd (store : SortedSets K T S M) (now : T) (k : K) (score : S) (member : M) : SortedSets K T S M :=
  let key := (store.at? now k).getD ⟨.empty, none⟩
  Function.update store k (some { key with value := key.value.add score member })

/-- What is left under a key: nothing is left of a set that is empty. -/
def leave (store : SortedSets K T S M) (now : T) (k : K) (left : SortedSet S M → SortedSet S M) :
    SortedSets K T S M :=
  Function.update store k <| (store.at? now k).bind fun key =>
    if (left key.value).entries = [] then none else some { key with value := left key.value }

/-- `ZREMRANGEBYSCORE key lo hi` -/
def zremrangebyscore (store : SortedSets K T S M) (now : T) (k : K) (lo hi : S) : SortedSets K T S M :=
  store.leave now k fun s => s.removeByScore lo hi

/-- `ZREMRANGEBYRANK key start stop` -/
def zremrangebyrank (store : SortedSets K T S M) (now : T) (k : K) (start stop : Int) : SortedSets K T S M :=
  store.leave now k fun s => s.removeByRank start stop

/-- `EXPIRE key`, until a time: one that is over deletes the key. -/
def expireAt (store : SortedSets K T S M) (now : T) (k : K) (expires : T) : SortedSets K T S M :=
  Function.update store k <| (store.at? now k).bind fun key =>
    if now < expires then some { key with expires := some expires } else none

/-- `ZRANGEBYSCORE key lo hi` -/
def zrangebyscore (store : SortedSets K T S M) (now : T) (k : K) (lo : WithBot S) (hi : S) : List M :=
  ((store.at? now k).map fun key => key.value.rangeByScore lo hi).getD []

variable {store : SortedSets K T S M} {now expires : T} {k k' : K} {score lo hi : S} {member : M}
  {key : SortedSetKey T S M} {left : SortedSet S M → SortedSet S M}

omit [DecidableEq K] in
theorem at?_eq_some : store.at? now k = some key ↔ store k = some key ∧ ∀ e ∈ key.expires, now < e := by
  simp [at?, Option.filter_eq_some_iff, Option.all_eq_true]

omit [DecidableEq K] in
theorem at?_of_over {set : SortedSet S M} (h : store k = some ⟨set, some expires⟩) (expired : expires ≤ now) :
    store.at? now k = none := by
  rw [Option.eq_none_iff_forall_ne_some]
  intro key there
  obtain ⟨same, live⟩ := at?_eq_some.mp there
  rw [h] at same
  cases same
  exact expired.not_gt (live expires rfl)

/-- The set under a key has the member, and the key the time it had. -/
theorem at?_zadd_free (free : store.at? now k = none) :
    (store.zadd now k score member).at? now k = some ⟨SortedSet.empty.add score member, none⟩ := by
  simp [at?_eq_some, zadd, free]

theorem at?_zadd (there : store.at? now k = some key) :
    (store.zadd now k score member).at? now k = some { key with value := key.value.add score member } := by
  have live := (at?_eq_some.mp there).2
  rw [at?_eq_some, zadd, there]
  exact ⟨Function.update_self _ _ _, live⟩

theorem at?_leave (there : store.at? now k = some key) (some_left : (left key.value).entries ≠ []) :
    (store.leave now k left).at? now k = some { key with value := left key.value } := by
  have live := (at?_eq_some.mp there).2
  rw [at?_eq_some, leave, there]
  refine ⟨?_, live⟩
  simp [some_left]

theorem expireAt_self (there : store.at? now k = some key) (later : now < expires) :
    store.expireAt now k expires k = some { key with expires := some expires } := by
  simp [expireAt, there, later]

theorem entries_removeByScore_ne_nil {set : SortedSet S M} {start stop : Int}
    (left : ((set.removeByScore lo hi).removeByRank start stop).entries ≠ []) :
    (set.removeByScore lo hi).entries ≠ [] := by
  intro nothing
  apply left
  simp only [SortedSet.removeByRank, SortedSet.restrict, nothing, List.take_nil, List.drop_nil, List.append_nil]

/-- A set that is trimmed by scores and by ranks and keeps some member, and has a new time then. -/
theorem trim_self {start stop : Int} (there : store.at? now k = some key)
    (some_left : ((key.value.removeByScore lo hi).removeByRank start stop).entries ≠ []) (later : now < expires) :
    ((store.zremrangebyscore now k lo hi).zremrangebyrank now k start stop).expireAt now k expires k =
      some ⟨(key.value.removeByScore lo hi).removeByRank start stop, some expires⟩ := by
  have young : (store.zremrangebyscore now k lo hi).at? now k =
      some { key with value := key.value.removeByScore lo hi } :=
    at?_leave there (entries_removeByScore_ne_nil some_left)
  exact expireAt_self (at?_leave young some_left) later

@[simp]
theorem zadd_of_ne (other : k' ≠ k) : store.zadd now k score member k' = store k' := by
  simp [zadd, other]

@[simp]
theorem leave_of_ne (other : k' ≠ k) : store.leave now k left k' = store k' := by
  simp [leave, other]

@[simp]
theorem expireAt_of_ne (other : k' ≠ k) : store.expireAt now k expires k' = store k' := by
  simp [expireAt, other]

end SortedSets

end NodePilot.Lib

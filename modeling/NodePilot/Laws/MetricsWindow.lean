import Mathlib.Data.Rat.Cast.Order
import Mathlib.Tactic.Linarith
import NodePilot.Laws.JsonText
import NodePilot.Metrics

/-!
# The window of a key's samples

What `record` leaves under a key are the last samples of those that are young enough, and `query` returns the ones
it is asked for. The invariant is on one key's samples: its set holds the window of the last record, until the
retention is over.
-/

namespace NodePilot.Metrics

open Lib

/-! ## The last ones from a point on -/

section Lists

variable {α : Type} {p : α → Bool} {l : List α}

theorem rtake_rtake (l : List α) (m n : Nat) : (l.rtake n).rtake m = l.rtake (min m n) := by
  simp [List.rtake_eq_reverse_take_reverse, List.take_take]

/-- The last ones of the ones from a point on are the ones from that point on of the last ones. -/
theorem filter_rtake (up : l.Pairwise fun a b => p a → p b) (n : Nat) :
    (l.rtake n).filter p = (l.filter p).rtake n := by
  induction l using List.reverseRecOn generalizing n with
  | nil => simp
  | append_singleton l x ih =>
    obtain ⟨before, -, last⟩ := List.pairwise_append.mp up
    cases n with
    | zero => simp
    | succ n =>
      rw [List.rtake_concat_succ, List.filter_append, ih before, List.filter_append]
      by_cases holds : p x
      · simp [holds, List.rtake_concat_succ]
      · have nothing : l.filter p = [] :=
          List.filter_eq_nil_iff.mpr fun a there passes => holds (last a there x (by simp) passes)
        simp [holds, nothing]

/-- The last ones are the same when all but the last ones were dropped before one more came. -/
theorem rtake_after_drop (l : List α) (x : α) (n : Nat) : (l.rtake n ++ [x]).rtake n = (l ++ [x]).rtake n := by
  cases n with
  | zero => simp
  | succ m =>
    have kept : (l.rtake (m + 1)).rtake m = l.rtake m := by
      rw [rtake_rtake]
      congr
      omega
    simp only [List.rtake_concat_succ, kept]

end Lists

/-! ## Samples -/

/-- A sample, and when it was recorded. -/
structure Sample where
  now : Time
  fields : Dict

/-- The samples that were recorded under a key. -/
def recorded (key : String) (events : List Event) : List Sample :=
  events.filterMap fun event =>
    match event.call with
    | .record k sample => if k = key then some ⟨event.now, sample⟩ else none
    | .query _ _ => none

/-- Those that are not older than the retention, and of these no more than there may be. -/
def window (settings : Settings) (now : Time) (samples : List Sample) : List Sample :=
  (samples.filter fun s => (now - settings.retentionSeconds : Rat) < s.now).rtake settings.sampleMaxPoints.toNat

/-- What is stored at a time: the window of the last record, until the retention is over. -/
def stored (settings : Settings) (now : Time) (samples : List Sample) : List Sample :=
  match samples.getLast? with
  | some last => if (now : Rat) < last.now + settings.retentionSeconds then window settings last.now samples else []
  | none => []

/-- What a query returns of a sample. -/
def Sample.json (repr : Time → String) (s : Sample) : Json := .obj (stamped repr s.now s.fields)

/-- What the sorted set holds of a sample. -/
def Sample.entry (repr : Time → String) (s : Sample) : Rat × String := (s.now, Json.dumps (s.json repr))

/-- The text of a float is a number in JSON, and no other float has it. -/
structure FloatRepr (repr : Time → String) : Prop where
  text : ∀ now, Json.FloatText (repr now)
  injective : Function.Injective repr

/-- A dictionary of values of Python's, that leaves the time to the store. -/
structure Stampable (sample : Dict) : Prop where
  plain : Json.Plain (.obj sample)
  free : "ts" ∉ sample.map Prod.fst

section Samples

variable {settings : Settings} {repr : Time → String} {now : Time} {samples : List Sample} {s s' : Sample}

/-- The samples of a node or a VM are under a key of their own. -/
theorem Subject.key_injective {subject subject' : Subject} (same : subject.key = subject'.key) :
    subject = subject' := by
  have chars := congrArg String.toList same
  cases subject with
  | node uuid =>
    cases subject' with
    | node uuid' =>
      simp only [key, String.toList_append, List.append_cancel_left_eq, String.toList_inj] at chars
      rw [Uuid.str_injective chars]
    | vm uuid' => simp [key, nodeKeyPrefix, vmKeyPrefix] at chars
  | vm uuid =>
    cases subject' with
    | node uuid' => simp [key, nodeKeyPrefix, vmKeyPrefix] at chars
    | vm uuid' =>
      simp only [key, String.toList_append, List.append_cancel_left_eq, String.toList_inj] at chars
      rw [Uuid.str_injective chars]

/-- The samples of the callers leave the time to the store. -/
theorem vmSample_free (values : Json × Json × Json × Json × Json × Json) :
    "ts" ∉ (vmSample values.1 values.2.1 values.2.2.1 values.2.2.2.1 values.2.2.2.2.1
      values.2.2.2.2.2).map Prod.fst := by
  simp [vmSample]

theorem nodeSample_free {minus : Json → Json → Option Json} {cpu memory storage sample : Dict}
    (h : nodeSample minus cpu memory storage = some sample) : "ts" ∉ sample.map Prod.fst := by
  simp only [nodeSample, Option.bind_eq_bind, Option.bind_eq_some_iff, Option.pure_def, Option.some.injEq] at h
  obtain ⟨memoryUsed, -, storageUsed, -, rfl⟩ := h
  simp

/-- A sample is stamped with the time. -/
theorem stamped_eq {sample : Dict} (stampable : Stampable sample) :
    stamped repr now sample = ("ts", .float (repr now)) :: sample := by
  have distinct : ((("ts", Json.float (repr now)) :: sample).map Prod.fst).Nodup :=
    List.nodup_cons.mpr ⟨stampable.free, stampable.plain.1⟩
  exact Json.foldl_setField sample [("ts", .float (repr now))] distinct

/-- An entry is read back as its sample with the time. -/
theorem loads_entry (float : FloatRepr repr) (stampable : Stampable s.fields) :
    Json.loads (s.entry repr).2 = some (s.json repr) := by
  apply Json.loads_dumps
  rw [Sample.json, stamped_eq stampable]
  exact ⟨List.nodup_cons.mpr ⟨stampable.free, stampable.plain.1⟩, float.text s.now, stampable.plain.2⟩

/-- Samples of different times have different texts. -/
theorem entry_ne (float : FloatRepr repr) (stampable : Stampable s.fields) (stampable' : Stampable s'.fields)
    (ne : s.now ≠ s'.now) : (s.entry repr).2 ≠ (s'.entry repr).2 := by
  intro same
  have read := loads_entry float stampable
  rw [same, loads_entry float stampable', Sample.json, Sample.json, stamped_eq stampable, stamped_eq stampable'] at read
  simp only [Option.some.injEq, Json.obj.injEq, List.cons.injEq, Prod.mk.injEq, Json.float.injEq] at read
  exact ne (float.injective read.1.2.symm)

/-- What is in the window was recorded. -/
theorem mem_window (h : s ∈ window settings now samples) : s ∈ samples :=
  List.mem_of_mem_filter (List.mem_of_mem_drop h)

/-- What is stored was recorded. -/
theorem mem_stored (h : s ∈ stored settings now samples) : s ∈ samples := by
  unfold stored at h
  split at h
  · split_ifs at h
    · exact mem_window h
    · cases h
  · cases h

/-- What is stored keeps its order. -/
theorem stored_sublist : (stored settings now samples).Sublist samples := by
  unfold stored
  split
  · split_ifs
    · exact (List.drop_sublist _ _).trans List.filter_sublist
    · exact List.nil_sublist _
  · exact List.nil_sublist _

/-- Nobody is younger than the last one. -/
theorem le_last {last : Sample} (increasing : samples.Pairwise fun a b => a.now < b.now)
    (h : samples.getLast? = some last) : ∀ s ∈ samples, s.now ≤ last.now := by
  obtain ⟨before, rfl⟩ := List.getLast?_eq_some_iff.mp h
  intro s there
  rcases List.mem_append.mp there with there | there
  · exact ((List.pairwise_append.mp increasing).2.2 s there last (by simp)).le
  · rw [List.mem_singleton.mp there]

/-- Of those that are young enough, what was stored before has the last ones. -/
theorem filter_stored (increasing : samples.Pairwise fun a b => a.now < b.now)
    (later : ∀ s ∈ samples, s.now ≤ now) :
    (stored settings now samples).filter (fun s => (now - settings.retentionSeconds : Rat) < s.now) =
      (samples.filter fun s => (now - settings.retentionSeconds : Rat) < s.now).rtake
        settings.sampleMaxPoints.toNat := by
  unfold stored
  cases ended : samples.getLast? with
  | none => simp [List.getLast?_eq_none_iff.mp ended]
  | some last =>
    have before : ∀ s ∈ samples, (s.now : Rat) ≤ last.now := fun s there => by
      exact_mod_cast le_last increasing ended s there
    have passed : (last.now : Rat) ≤ now := by exact_mod_cast later last (List.mem_of_getLast? ended)
    by_cases live : (now : Rat) < last.now + settings.retentionSeconds
    · have up : (samples.filter fun s => (last.now - settings.retentionSeconds : Rat) < s.now).Pairwise
          fun a b => decide ((now - settings.retentionSeconds : Rat) < a.now) →
            decide ((now - settings.retentionSeconds : Rat) < b.now) := by
        apply (increasing.filter _).imp
        intro a b less
        have less : (a.now : Rat) < b.now := by exact_mod_cast less
        simp only [decide_eq_true_eq]
        intro young
        linarith
      simp only [if_pos live, window]
      rw [filter_rtake up, List.filter_filter]
      congr 1
      apply List.filter_congr
      intro s _
      simp only [Bool.and_eq_left_iff_imp, decide_eq_true_eq]
      intro young
      linarith
    · have old : samples.filter (fun s => (now - settings.retentionSeconds : Rat) < s.now) = [] := by
        rw [List.filter_eq_nil_iff]
        intro s there young
        have le := before s there
        simp only [decide_eq_true_eq] at young
        linarith
      simp [live, old]

/-- The window moves with the time: nothing comes back that was dropped before. -/
theorem window_append (increasing : samples.Pairwise fun a b => a.now < b.now)
    (later : ∀ s ∈ samples, s.now ≤ now) (fields : Dict) :
    window settings now (stored settings now samples ++ [⟨now, fields⟩]) =
      window settings now (samples ++ [⟨now, fields⟩]) := by
  by_cases positive : (now - settings.retentionSeconds : Rat) < now
  · simp only [window, List.filter_append, filter_stored increasing later, List.filter_cons, positive, decide_true,
      if_true, List.filter_nil]
    exact rtake_after_drop _ _ _
  · simp only [window, List.filter_append, filter_stored increasing later, List.filter_cons, positive, decide_false,
      Bool.false_eq_true, if_false, List.filter_nil, List.append_nil]
    rw [rtake_rtake, Nat.min_self]

end Samples

/-! ## The invariant -/

/-- Nothing is under the key before the first record, and then the window of the last one, until its retention is
over. -/
def Holds (settings : Settings) (repr : Time → String) (redis : Redis) (key : String) (samples : List Sample) : Prop :=
  match samples.getLast? with
  | none => redis key = none
  | some last => ∃ set, redis key = some ⟨set, some (last.now + settings.retentionSeconds)⟩ ∧
      set.entries = (window settings last.now samples).map (Sample.entry repr)

section Invariant

variable {settings : Settings} {repr : Time → String} {redis : Redis} {now : Time} {key : String}
  {samples : List Sample}

/-- The entries are those of what is stored. -/
theorem entriesAt_of_holds (holds : Holds settings repr redis key samples) :
    redis.entriesAt now key = (stored settings now samples).map (Sample.entry repr) := by
  unfold Holds at holds
  unfold stored
  cases ended : samples.getLast? with
  | none =>
    rw [ended] at holds
    simp [SortedSets.entriesAt, SortedSets.at?, holds]
  | some last =>
    rw [ended] at holds
    obtain ⟨set, under, entries⟩ := holds
    by_cases live : (now : Rat) < last.now + settings.retentionSeconds
    · have there := SortedSets.at?_eq_some.mpr ⟨under, by simpa using live⟩
      simp [SortedSets.entriesAt, there, live, entries]
    · have gone := SortedSets.at?_of_over under (not_lt.mp live)
      simp [SortedSets.entriesAt, gone, live]

/-- The new sample goes to the end of what is stored. -/
theorem zadd_entries {score : Rat} {member : String} (fresh : ∀ e ∈ redis.entriesAt now key, e.2 ≠ member)
    (above : ∀ e ∈ redis.entriesAt now key, e.1 < score) :
    ∃ set, (redis.zadd now key score member).at? now key = some set ∧
      set.value.entries = redis.entriesAt now key ++ [(score, member)] := by
  unfold SortedSets.entriesAt at fresh above ⊢
  cases there : redis.at? now key with
  | none => exact ⟨_, SortedSets.at?_zadd_free there, rfl⟩
  | some set =>
    rw [there] at fresh above
    exact ⟨_, SortedSets.at?_zadd there, SortedSet.add_last fresh above⟩

/-- The entries that are old enough go, and of the rest all but the last ones. -/
theorem trimmed_entries {set : SortedSet Rat String} {n : Nat} {lo : Rat} {kept : List Sample}
    (entries : set.entries = kept.map (Sample.entry repr)) :
    ((set.removeByScore 0 lo).removeByRank 0 (-(n + 1))).entries =
      ((kept.filter fun s => lo < s.now).rtake n).map (Sample.entry repr) := by
  have old : (set.removeByScore 0 lo).entries = (kept.filter fun s => lo < s.now).map (Sample.entry repr) := by
    simp only [SortedSet.removeByScore, SortedSet.restrict, entries, List.filter_map]
    congr 1
    apply List.filter_congr
    intro s _
    have positive : (0 : Rat) ≤ s.now := s.now.2
    rw [Function.comp_apply, decide_eq_decide, not_and, not_le]
    exact ⟨fun young => young positive, fun young _ => young⟩
  rw [SortedSet.removeByRank_last, old]
  simp [List.rtake]

/-- **One record keeps the invariant.** -/
theorem record_holds (float : FloatRepr repr) (retention : 0 < settings.retentionSeconds)
    (points : 1 ≤ settings.sampleMaxPoints) (holds : Holds settings repr redis key samples)
    (increasing : samples.Pairwise fun a b => a.now < b.now) {sample : Dict}
    (later : ∀ s ∈ samples, s.now < now) (plain : ∀ s ∈ samples, Stampable s.fields) (stampable : Stampable sample) :
    Holds settings repr (record settings repr redis now key sample) key (samples ++ [⟨now, sample⟩]) := by
  let new : Sample := ⟨now, sample⟩
  have before : redis.entriesAt now key = _ := entriesAt_of_holds holds
  have fresh : ∀ e ∈ redis.entriesAt now key, e.2 ≠ (new.entry repr).2 := by
    rw [before]
    intro e there
    obtain ⟨s, kept, rfl⟩ := List.mem_map.mp there
    have member := mem_stored kept
    exact entry_ne float (plain s member) stampable (later s member).ne
  have above : ∀ e ∈ redis.entriesAt now key, e.1 < (now : Rat) := by
    rw [before]
    intro e there
    obtain ⟨s, kept, rfl⟩ := List.mem_map.mp there
    exact_mod_cast later s (mem_stored kept)
  obtain ⟨⟨set, expires⟩, added, entries⟩ := zadd_entries fresh above
  have entries : set.entries = (stored settings now samples ++ [new]).map (Sample.entry repr) := by
    rw [entries, before, List.map_append]
    rfl
  obtain ⟨n, most⟩ : ∃ n : Nat, settings.sampleMaxPoints = (n + 1 : Nat) :=
    ⟨(settings.sampleMaxPoints - 1).toNat, by omega⟩
  have young : (now - settings.retentionSeconds : Rat) < now := by
    have positive : (0 : Rat) < settings.retentionSeconds := by exact_mod_cast retention
    linarith
  have left : ((set.removeByScore 0 (now - settings.retentionSeconds)).removeByRank 0
      (-(settings.sampleMaxPoints + 1))).entries =
      (window settings now (samples ++ [new])).map (Sample.entry repr) := by
    have last : window settings now _ = _ := window_append increasing (fun s there => (later s there).le) sample
    rw [← last, window, most, Int.toNat_natCast]
    exact trimmed_entries entries
  have some_left : (window settings now (samples ++ [new])).map (Sample.entry repr) ≠ [] := by
    rw [window, most, Int.toNat_natCast, List.filter_append]
    simp [new, young, List.rtake_concat_succ]
  have until_then : (now : Rat) < now + settings.retentionSeconds := by linarith
  have after := SortedSets.trim_self added (left ▸ some_left) until_then
  rw [Holds, List.getLast?_append, List.getLast?_singleton, Option.some_or]
  exact ⟨_, after, left⟩

/-- A sample of another series leaves this one. -/
theorem record_of_ne {other : String} (ne : key ≠ other) {sample : Dict} :
    record settings repr redis now other sample key = redis key := by
  simp [record, SortedSets.zremrangebyscore, SortedSets.zremrangebyrank, ne]

/-- What no call of the key's is does not matter to it. -/
theorem Holds.of_same {redis' : Redis} (holds : Holds settings repr redis key samples) (same : redis' key = redis key) :
    Holds settings repr redis' key samples := by
  unfold Holds at holds ⊢
  rw [same]
  exact holds

/-- What was recorded is recorded in the order of the events. -/
theorem recorded_append (before : List Event) (event : Event) :
    recorded key (before ++ [event]) = recorded key before ++ recorded key [event] :=
  List.filterMap_append

/-- **A run of the store keeps the invariant.** -/
theorem run_holds (float : FloatRepr repr) (retention : 0 < settings.retentionSeconds)
    (points : 1 ≤ settings.sampleMaxPoints) (events : List Event)
    (plain : ∀ s ∈ recorded key events, Stampable s.fields)
    (increasing : (recorded key events).Pairwise fun a b => a.now < b.now) :
    Holds settings repr (run settings repr events) key (recorded key events) := by
  induction events using List.reverseRecOn with
  | nil => rfl
  | append_singleton before event ih =>
    rw [recorded_append] at plain increasing ⊢
    obtain ⟨before_increasing, -, later⟩ := List.pairwise_append.mp increasing
    have holds := ih (fun s there => plain s (List.mem_append_left _ there)) before_increasing
    have after : run settings repr (before ++ [event]) = step settings repr (run settings repr before) event := by
      simp [run]
    rw [after]
    obtain ⟨now, call⟩ := event
    cases call with
    | query => simpa [recorded, step] using holds
    | record k sample =>
      by_cases same : k = key
      · subst same
        have one : recorded k [⟨now, .record k sample⟩] = [⟨now, sample⟩] := by simp [recorded]
        rw [one] at plain later ⊢
        exact record_holds float retention points holds before_increasing
          (fun s there => later s there _ (List.mem_singleton_self _))
          (fun s there => plain s (List.mem_append_left _ there))
          (plain _ (List.mem_append_right _ (List.mem_singleton_self _)))
      · have none_more : recorded key [⟨now, .record k sample⟩] = [] := by simp [recorded, same]
        rw [none_more, List.append_nil]
        exact holds.of_same (record_of_ne (Ne.symm same))

end Invariant

/-! ## Queries -/

section Queries

variable {settings : Settings} {repr : Time → String} {redis : Redis} {now : Time} {key : String}
  {samples : List Sample}

/-- All entries are read back. -/
theorem mapM_loads (float : FloatRepr repr) {kept : List Sample} (plain : ∀ s ∈ kept, Stampable s.fields) :
    (kept.map fun s => (s.entry repr).2).mapM Json.loads = some (kept.map (Sample.json repr)) := by
  induction kept with
  | nil => rfl
  | cons s kept ih =>
    rw [List.map_cons, List.mapM_cons, loads_entry float (plain s (by simp)),
      ih fun s' there => plain s' (by simp [there])]
    rfl

/-- The range of a key, as a part of its entries. -/
theorem zrangebyscore_eq (lo : WithBot Rat) (hi : Rat) :
    redis.zrangebyscore now key lo hi =
      ((redis.entriesAt now key).filter fun e => lo ≤ (e.1 : WithBot Rat) ∧ e.1 ≤ hi).map Prod.snd := by
  unfold SortedSets.zrangebyscore SortedSets.entriesAt
  cases redis.at? now key with
  | none => rfl
  | some set => rfl

/-- A query returns those of what is stored that it asks for. -/
theorem query_of_entries (float : FloatRepr repr) {kept : List Sample}
    (entries : redis.entriesAt now key = kept.map (Sample.entry repr)) (plain : ∀ s ∈ kept, Stampable s.fields)
    (past : ∀ s ∈ kept, s.now ≤ now) (since : Option Int) :
    query redis now key since =
      some ((kept.filter fun s => minScore now since ≤ ((s.now : Rat) : WithBot Rat)).map (Sample.json repr)) := by
  have range : redis.zrangebyscore now key (minScore now since) now =
      (kept.filter fun s => minScore now since ≤ ((s.now : Rat) : WithBot Rat)).map fun s => (s.entry repr).2 := by
    rw [zrangebyscore_eq, entries, List.filter_map, List.map_map]
    congr 1
    apply List.filter_congr
    intro s there
    have le : (s.now : Rat) ≤ now := by exact_mod_cast past s there
    rw [Function.comp_apply, decide_eq_decide]
    exact ⟨fun both => both.1, fun from_then => ⟨from_then, le⟩⟩
  rw [query, range, mapM_loads float fun s there => plain s (List.mem_of_mem_filter there)]

/-- Nothing is stored once the retention of every sample is over. -/
theorem stored_over (expired : ∀ s ∈ samples, (s.now + settings.retentionSeconds : Rat) ≤ now) :
    stored settings now samples = [] := by
  unfold stored
  split
  · next last ended => rw [if_neg (not_lt.mpr (expired last (List.mem_of_getLast? ended)))]
  · rfl

/-- A new sample is stored, and what is out of time or too much is dropped. -/
theorem stored_record (retention : 0 < settings.retentionSeconds) (sample : Dict) :
    stored settings now (samples ++ [⟨now, sample⟩]) = window settings now (samples ++ [⟨now, sample⟩]) := by
  have positive : (0 : Rat) < settings.retentionSeconds := by exact_mod_cast retention
  simp [stored, positive]

end Queries

/-! ## A clock of whole seconds -/

/-- The text of a float, as Python writes a whole number. -/
def wholeRepr (now : Time) : String :=
  String.ofList (Nat.toDigits 10 now.num ++ if now.den = 1 then ['.', '0'] else 'e' :: Nat.toDigits 10 now.den)

/-- Digits end where none follows. -/
theorem span_digits (n : Nat) {rest : List Char} (ends : ∀ c ∈ rest.head?, c.isDigit = false) :
    (Nat.toDigits 10 n ++ rest).takeWhile Char.isDigit = Nat.toDigits 10 n ∧
      (Nat.toDigits 10 n ++ rest).dropWhile Char.isDigit = rest := by
  have digits := Json.toDigits_isDigit n
  rw [List.takeWhile_append_of_pos digits, List.dropWhile_append_of_pos digits]
  cases rest with
  | nil => simp
  | cons c rest =>
    have stops : c.isDigit = false := ends c rfl
    simp [stops]

/-- What stands after the whole part. -/
def afterWhole (den : Nat) : List Char := if den = 1 then ['.', '0'] else 'e' :: Nat.toDigits 10 den

theorem afterWhole_ends (den : Nat) : ∀ c ∈ (afterWhole den).head?, c.isDigit = false := by
  unfold afterWhole
  split_ifs <;> simp

theorem afterWhole_injective {den den' : Nat} (h : afterWhole den = afterWhole den') : den = den' := by
  unfold afterWhole at h
  split_ifs at h with one one' one'
  · exact one.trans one'.symm
  · cases h
  · cases h
  · have same := congrArg (fun digits => Nat.ofDigitChars 10 digits 0) (List.cons.inj h).2
    simpa [Nat.ofDigitChars_ten_toDigits] using same

theorem unsigned_toDigits (n : Nat) (rest : List Char) :
    Json.unsigned (Nat.toDigits 10 n ++ rest) = Nat.toDigits 10 n ++ rest := by
  obtain ⟨c, cs, written, digit⟩ := Json.head_isDigit Nat.toDigits_ne_nil (Json.toDigits_isDigit n)
  rw [written, List.cons_append]
  unfold Json.unsigned
  split
  · next same =>
    rw [(List.cons.inj same).1] at digit
    exact absurd digit (by decide)
  · rfl

theorem isExponent_toDigits (n : Nat) : Json.isExponent ('e' :: Nat.toDigits 10 n) := by
  have digits := Json.toDigits_isDigit n
  have all : (Nat.toDigits 10 n).all Char.isDigit := List.all_eq_true.mpr digits
  simp only [Json.isExponent]
  split
  · next same => exact absurd (digits '-' (by simp [same])) (by decide)
  · next same => exact absurd (digits '+' (by simp [same])) (by decide)
  · simp [all]

/-- Whole seconds are written as floats. -/
theorem wholeRepr_float : FloatRepr wholeRepr where
  text now := by
    right
    obtain ⟨whole, fraction⟩ := span_digits now.num (afterWhole_ends now.den)
    have text : (wholeRepr now).toList = Nat.toDigits 10 now.num ++ afterWhole now.den := by
      simp [wholeRepr, afterWhole]
    rw [text, Json.isFloat, unsigned_toDigits, whole, fraction, Json.isWhole_toDigits, Bool.true_and]
    unfold afterWhole
    split_ifs
    · decide
    · exact isExponent_toDigits now.den
  injective := by
    intro now later same
    have text : Nat.toDigits 10 now.num ++ afterWhole now.den = Nat.toDigits 10 later.num ++ afterWhole later.den :=
      String.ofList_injective same
    obtain ⟨whole, fraction⟩ := span_digits now.num (afterWhole_ends now.den)
    obtain ⟨whole', fraction'⟩ := span_digits later.num (afterWhole_ends later.den)
    rw [text, whole'] at whole
    rw [text, fraction'] at fraction
    have num := congrArg (fun digits => Nat.ofDigitChars 10 digits 0) whole
    simp only [Nat.ofDigitChars_ten_toDigits] at num
    exact NNRat.ext_num_den num.symm (afterWhole_injective fraction).symm

/-! ## The window -/

/-- **The window of a key's samples.** After a record at a time what is stored are the last of the samples that are
younger than the retention, as many as there may be. A query for so many seconds returns those of what is stored
that are not older, in the order of their times. When the retention is over since the last record nothing is
returned. -/
theorem metrics_window {settings : Settings} {repr : Time → String} (float : FloatRepr repr)
    (retention : 0 < settings.retentionSeconds) (points : 1 ≤ settings.sampleMaxPoints) {key : String}
    {events : List Event} (plain : ∀ s ∈ recorded key events, Stampable s.fields)
    (increasing : (recorded key events).Pairwise fun a b => a.now < b.now) :
    (∀ before (now : Time) sample, events = before ++ [⟨now, .record key sample⟩] →
      (run settings repr events).entriesAt now key =
        (window settings now (recorded key events)).map (Sample.entry repr)) ∧
    (∀ now : Time, (∀ s ∈ recorded key events, s.now ≤ now) →
      (run settings repr events).entriesAt now key =
        (stored settings now (recorded key events)).map (Sample.entry repr) ∧
      (stored settings now (recorded key events)).Pairwise (fun a b => a.now < b.now) ∧
      ∀ since : Int, 0 < since → query (run settings repr events) now key (some since) =
        some (((stored settings now (recorded key events)).filter fun s => (now - since : Rat) ≤ s.now).map
          (Sample.json repr))) ∧
    ∀ now : Time, (∀ s ∈ recorded key events, (s.now + settings.retentionSeconds : Rat) ≤ now) →
      ∀ since, query (run settings repr events) now key since = some [] := by
  have holds := run_holds float retention points events plain increasing
  refine ⟨?recorded, ?asked, ?expired⟩
  case recorded =>
    rintro before now sample rfl
    rw [entriesAt_of_holds holds, recorded_append]
    have one : recorded key [⟨now, .record key sample⟩] = [⟨now, sample⟩] := by simp [recorded]
    rw [one, stored_record retention]
  case asked =>
    intro now past
    have entries := @entriesAt_of_holds settings repr _ now key _ holds
    refine ⟨entries, increasing.sublist stored_sublist, fun since positive => ?_⟩
    rw [query_of_entries float entries (fun s there => plain s (mem_stored there))
      (fun s there => past s (mem_stored there))]
    simp only [minScore, ne_eq, positive.ne', not_false_eq_true, if_true, WithBot.coe_le_coe]
  case expired =>
    intro now expired since
    have entries := @entriesAt_of_holds settings repr _ now key _ holds
    rw [stored_over expired] at entries
    exact query_of_entries float entries (by simp) (by simp) since

/-- Three samples, a second apart. -/
def threeRecords : List Event :=
  [⟨1, .record "k" []⟩, ⟨2, .record "k" []⟩, ⟨3, .record "k" []⟩]

theorem metrics_window_two_points : query (run ⟨10, 2⟩ wholeRepr threeRecords) 4 "k" (some 5) =
    some [.obj [("ts", .float "2.0")], .obj [("ts", .float "3.0")]] := by
  have samples : recorded "k" threeRecords = [⟨1, []⟩, ⟨2, []⟩, ⟨3, []⟩] := rfl
  have plain : ∀ s ∈ recorded "k" threeRecords, Stampable s.fields := by
    intro s there
    simp only [samples, List.mem_cons, List.not_mem_nil, or_false] at there
    rcases there with rfl | rfl | rfl <;> exact ⟨⟨List.nodup_nil, trivial⟩, List.not_mem_nil⟩
  have all := @metrics_window ⟨10, 2⟩ wholeRepr wholeRepr_float (by decide) (by decide) _ _ plain
    (by rw [samples]; simp; decide)
  have asked := (all.2.1 4 (by rw [samples]; simp; decide)).2.2 5 (by decide)
  have kept : stored ⟨10, 2⟩ 4 (recorded "k" threeRecords) = [⟨2, []⟩, ⟨3, []⟩] := by
    rw [samples]
    norm_num [stored, window, List.rtake]
    rfl
  rw [asked, kept]
  norm_num
  simp [Sample.json, stamped]
  constructor <;> rfl

end NodePilot.Metrics

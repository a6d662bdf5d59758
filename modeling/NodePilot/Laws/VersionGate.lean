import NodePilot.AgentVersions
import NodePilot.Lib.Padding
import NodePilot.Lib.Traversal
import Mathlib.Order.Nat

/-!
# The version gate

`check_agent_version_compatible` compares tuples as they are, so it takes `1.0` for older than `1.0.0`; and it raises a
`ValueError` on every text in which `int` cannot convert what `isdigit` has let through. But for these it orders
dotted decimals by their components.
-/

namespace NodePilot.AgentVersions

open Lib

/-! ## What is read -/

/-- `int` can convert the digits of every chunk. -/
def Readable (version : String) : Prop :=
  ∀ chunk ∈ version.toList.splitOn '.', (chunk.filter isdigit).length ≤ maxStrDigits ∧
    ∀ c ∈ chunk, isdigit c = true → (decimal c).isSome

theorem isSome_int_iff {digits : List Char} :
    (int digits).isSome ↔ digits.length ≤ maxStrDigits ∧ ∀ c ∈ digits, (decimal c).isSome := by
  rw [int]
  split
  · next long => simp [Nat.not_le.mpr long]
  · next short => simp [Nat.not_lt.mp short, isSome_mapM_iff]

theorem isSome_part_iff {chunk : List Char} :
    (part chunk).isSome ↔ (chunk.filter isdigit).length ≤ maxStrDigits ∧
      ∀ c ∈ chunk, isdigit c = true → (decimal c).isSome := by
  have digits : (∀ c ∈ chunk.filter isdigit, (decimal c).isSome) ↔
      ∀ c ∈ chunk, isdigit c = true → (decimal c).isSome := by
    simp [List.mem_filter]
  rw [part, ← digits]
  split
  · next none => simp [none]
  · exact isSome_int_iff

/-- **A version is read exactly if it is readable.** -/
theorem isSome_versionTuple_iff {version : String} : (versionTuple version).isSome ↔ Readable version := by
  have parts : ((version.toList.splitOn '.').mapM part).isSome ↔ Readable version := by
    rw [isSome_mapM_iff]
    exact forall₂_congr fun chunk _ => isSome_part_iff
  rw [← parts, versionTuple]
  cases (version.toList.splitOn '.').mapM part <;> rfl

/-! ## Dotted decimals -/

/-- One or more numbers in decimal, with dots between them. -/
structure DottedDecimal where
  groups : List (List Char)
  nonempty : groups ≠ []
  digits : ∀ group ∈ groups, group ≠ [] ∧ ∀ c ∈ group, c.isDigit = true

namespace DottedDecimal

variable (version : DottedDecimal)

def text : String := String.ofList (['.'].intercalate version.groups)

/-- The numbers. -/
def components : List Nat := version.groups.map fun group => Nat.ofDigitChars 10 group 0

end DottedDecimal

/-- A decimal digit of ASCII has its own value. -/
theorem decimal_of_isDigit {c : Char} (digit : c.isDigit = true) : decimal c = some (c.toNat - '0'.toNat) := by
  obtain ⟨low, high⟩ : 0x30 ≤ c.toNat ∧ c.toNat < 0x30 + 10 := by
    have bounds : '0'.val ≤ c.val ∧ c.val ≤ '9'.val := by simpa [Char.isDigit] using digit
    exact ⟨bounds.1, Nat.lt_succ_of_le bounds.2⟩
  rw [decimal, decimalZeros, List.find?_cons_of_pos (by simp only [low, high, and_self, decide_true]), Option.map_some]
  rfl

theorem isdigit_of_isDigit {c : Char} (digit : c.isDigit = true) : isdigit c = true := by
  simp [isdigit, decimal_of_isDigit digit]

theorem int_of_isDigit {digits : List Char} (short : digits.length ≤ maxStrDigits)
    (ascii : ∀ c ∈ digits, c.isDigit = true) : int digits = some (Nat.ofDigitChars 10 digits 0) := by
  rw [int, if_neg (Nat.not_lt.mpr short), mapM_eq_some_map fun c mem => decimal_of_isDigit (ascii c mem),
    Nat.ofDigitChars_eq_foldl, Option.map_some, List.foldl_map]

theorem filter_isdigit {group : List Char} (ascii : ∀ c ∈ group, c.isDigit = true) : group.filter isdigit = group :=
  List.filter_eq_self.mpr fun c mem => isdigit_of_isDigit (ascii c mem)

theorem part_of_isDigit {group : List Char} (short : group.length ≤ maxStrDigits) (nonempty : group ≠ [])
    (ascii : ∀ c ∈ group, c.isDigit = true) : part group = some (Nat.ofDigitChars 10 group 0) := by
  rw [part, filter_isdigit ascii, if_neg nonempty, int_of_isDigit short ascii]

namespace DottedDecimal

variable {version : DottedDecimal}

/-- The chunks of a dotted decimal are its numbers. -/
theorem splitOn_text : version.text.toList.splitOn '.' = version.groups := by
  rw [text, String.toList_ofList]
  apply List.splitOn_intercalate
  · intro group mem dot
    have digit := (version.digits group mem).2 '.' dot
    cases digit
  · exact version.nonempty

theorem versionTuple_text (readable : Readable version.text) : versionTuple version.text = some version.components := by
  have parts : version.groups.mapM part = some version.components := by
    apply mapM_eq_some_map
    intro group mem
    obtain ⟨nonempty, ascii⟩ := version.digits group mem
    have short := (readable group (by rwa [splitOn_text])).1
    rw [filter_isdigit ascii] at short
    exact part_of_isDigit short nonempty ascii
  have nonempty : version.components ≠ [] := by
    rw [components, Ne, List.map_eq_nil_iff]
    exact version.nonempty
  rw [versionTuple, splitOn_text, parts]
  exact congrArg some (if_neg nonempty)

end DottedDecimal

/-! ## The order of versions -/

/-- The components, padded with zeros to equal length, are at least the others. -/
def AtLeast (components least : List Nat) : Prop :=
  least.rightpad (max components.length least.length) 0 ≤ components.rightpad (max components.length least.length) 0

theorem atLeast_iff {components least : List Nat} : AtLeast components least ↔
    ¬ components.rightpad (max components.length least.length) ⊥ <
      least.rightpad (max components.length least.length) ⊥ := by
  rw [AtLeast, ← not_lt, Nat.bot_eq_zero]

/-- **Where the gate errs**: of tuples as they are, one is not before the other exactly if it is at least the other one
and does not lack zeros of it. -/
theorem not_lt_iff_atLeast (components least : List Nat) :
    ¬ components < least ↔ AtLeast components least ∧ ∀ k, least ≠ components ++ List.replicate (k + 1) 0 := by
  rw [not_lt_iff_rightpad (Nat.le_max_left _ _) (Nat.le_max_right _ _), ← atLeast_iff, Nat.bot_eq_zero]

/-- A version that lacks only zeros is at least the other one. -/
theorem atLeast_of_lacks {components least : List Nat} {k : Nat}
    (lacks : least = components ++ List.replicate (k + 1) 0) : AtLeast components least := by
  rw [← Nat.bot_eq_zero] at lacks
  subst lacks
  rw [atLeast_iff, rightpad_append_replicate (Nat.le_max_right _ _)]
  exact lt_irrefl _

/-- What the gate does, where both versions are read. -/
theorem checkAgentVersionCompatible_eq {minimum agentVersion : String} {version least : List Nat}
    (agent : versionTuple agentVersion = some version) (asked : versionTuple minimum = some least) :
    checkAgentVersionCompatible minimum agentVersion =
      if version < least then .error (.agentVersionUnsupported agentVersion minimum) else .ok () := by
  rw [checkAgentVersionCompatible, agent, asked]

/-- The gate fails in no other way than it is meant to exactly if both versions are readable. -/
theorem ne_valueError_iff {minimum agentVersion : String} :
    checkAgentVersionCompatible minimum agentVersion ≠ .error .valueError ↔
      Readable agentVersion ∧ Readable minimum := by
  rw [← isSome_versionTuple_iff, ← isSome_versionTuple_iff]
  cases agent : versionTuple agentVersion with
  | none => simp [checkAgentVersionCompatible, agent]
  | some version =>
    cases asked : versionTuple minimum with
    | none => simp [checkAgentVersionCompatible, agent, asked]
    | some least =>
      rw [checkAgentVersionCompatible_eq agent asked]
      split <;> simp

/-- **The gate**: it returns or raises `AgentVersionUnsupported`, and of dotted decimals it lets those pass that are at
least the minimum. -/
structure Gates (minimum agentVersion : String) : Prop where
  answers : checkAgentVersionCompatible minimum agentVersion ≠ .error .valueError
  orders : ∀ version least : DottedDecimal, agentVersion = version.text → minimum = least.text →
    (checkAgentVersionCompatible minimum agentVersion = .ok () ↔ AtLeast version.components least.components)

/-- The gate lets pass what is not before the minimum. -/
theorem ok_iff_not_lt {version least : DottedDecimal} (agent : Readable version.text) (asked : Readable least.text) :
    checkAgentVersionCompatible least.text version.text = .ok () ↔ ¬ version.components < least.components := by
  rw [checkAgentVersionCompatible_eq (DottedDecimal.versionTuple_text agent) (DottedDecimal.versionTuple_text asked)]
  split <;> simp [*]

/-- **When the gate is right**: both texts are readable, and what the minimum has and the version has not is not only
zeros. -/
theorem gates_iff (minimum agentVersion : String) :
    Gates minimum agentVersion ↔ Readable agentVersion ∧ Readable minimum ∧
      ∀ version least : DottedDecimal, agentVersion = version.text → minimum = least.text →
        ∀ k, least.components ≠ version.components ++ List.replicate (k + 1) 0 := by
  constructor
  · intro gates
    obtain ⟨agent, asked⟩ := ne_valueError_iff.mp gates.answers
    refine ⟨agent, asked, ?_⟩
    rintro version least rfl rfl k lacks
    have passes := (ok_iff_not_lt agent asked).mp
      ((gates.orders version least rfl rfl).mpr (atLeast_of_lacks lacks))
    exact ((not_lt_iff_atLeast _ _).mp passes).2 k lacks
  · rintro ⟨agent, asked, lacks⟩
    refine ⟨ne_valueError_iff.mpr ⟨agent, asked⟩, ?_⟩
    rintro version least rfl rfl
    rw [ok_iff_not_lt agent asked, not_lt_iff_atLeast]
    exact and_iff_left (lacks version least rfl rfl)

/-- The minimum that is configured is `1.0.0`. The version `1.0` is equal to it and refused; and where a digit is a
superscript, `int` raises. -/
theorem gate_errs : ¬ Gates "1.0.0" "1.0" ∧ ¬ Gates "1.0.0" "1.0²" := by
  constructor
  · intro gates
    let version : DottedDecimal := ⟨[['1'], ['0']], by simp, by simp⟩
    let least : DottedDecimal := ⟨[['1'], ['0'], ['0']], by simp, by simp⟩
    have equal : AtLeast version.components least.components := @atLeast_of_lacks _ _ 0 rfl
    have passes := (gates.orders version least rfl rfl).mpr equal
    exact absurd passes (by decide)
  · intro gates
    exact gates.answers (by decide)

/-- Ten is more than nine. -/
example : checkAgentVersionCompatible "1.9.0" "v1.10" = .ok () := by decide

end NodePilot.AgentVersions

/-!
# The versions of agents

`_version_tuple` and `check_agent_version_compatible` of `apps/nodes/services.py`, with what `str.isdigit` and `int`
make of a character in Python 3.12 (Unicode 15.0). Not every character that is a digit is one of a number: `int`
raises on the superscripts and on the digits in circles, and on more digits than it is allowed to convert.
-/

namespace NodePilot.AgentVersions

/-! ## Digits -/

/-- The zeros of the decimal digits. The other nine come behind each. -/
def decimalZeros : List Nat :=
  [0x30, 0x660, 0x6f0, 0x7c0, 0x966, 0x9e6, 0xa66, 0xae6, 0xb66, 0xbe6, 0xc66, 0xce6, 0xd66, 0xde6, 0xe50, 0xed0, 0xf20,
    0x1040, 0x1090, 0x17e0, 0x1810, 0x1946, 0x19d0, 0x1a80, 0x1a90, 0x1b50, 0x1bb0, 0x1c40, 0x1c50, 0xa620, 0xa8d0,
    0xa900, 0xa9d0, 0xa9f0, 0xaa50, 0xabf0, 0xff10, 0x104a0, 0x10d30, 0x11066, 0x110f0, 0x11136, 0x111d0, 0x112f0,
    0x11450, 0x114d0, 0x11650, 0x116c0, 0x11730, 0x118e0, 0x11950, 0x11c50, 0x11d50, 0x11da0, 0x11f50, 0x16a60, 0x16ac0,
    0x16b50, 0x1d7ce, 0x1d7d8, 0x1d7e2, 0x1d7ec, 0x1d7f6, 0x1e140, 0x1e2f0, 0x1e4f0, 0x1e950, 0x1fbf0]

/-- The digits that are not decimal, from the first to the last of each block. -/
def otherDigits : List (Nat × Nat) :=
  [(0xb2, 0xb3), (0xb9, 0xb9), (0x1369, 0x1371), (0x19da, 0x19da), (0x2070, 0x2070), (0x2074, 0x2079), (0x2080, 0x2089),
    (0x2460, 0x2468), (0x2474, 0x247c), (0x2488, 0x2490), (0x24ea, 0x24ea), (0x24f5, 0x24fd), (0x24ff, 0x24ff),
    (0x2776, 0x277e), (0x2780, 0x2788), (0x278a, 0x2792), (0x10a40, 0x10a43), (0x10e60, 0x10e68), (0x11052, 0x1105a),
    (0x1f100, 0x1f10a)]

/-- The value of a decimal digit. -/
def decimal (c : Char) : Option Nat :=
  (decimalZeros.find? fun first => first ≤ c.toNat ∧ c.toNat < first + 10).map (c.toNat - ·)

/-- `str.isdigit` of a character -/
def isdigit (c : Char) : Bool :=
  (decimal c).isSome ∨ otherDigits.any fun block => block.1 ≤ c.toNat ∧ c.toNat ≤ block.2

/-- `sys.int_info.default_max_str_digits` -/
def maxStrDigits : Nat := 4300

/-- `int(digits)` of digits; `none` is a `ValueError`. -/
def int (digits : List Char) : Option Nat :=
  if maxStrDigits < digits.length then none
  else (digits.mapM decimal).map fun values => values.foldl (fun n d => 10 * n + d) 0

/-! ## The gate -/

/-- A round of the loop of `_version_tuple`. -/
def part (chunk : List Char) : Option Nat :=
  let digits := chunk.filter isdigit
  if digits = [] then some 0 else int digits

/-- `_version_tuple`; `none` is a `ValueError`. -/
def versionTuple (version : String) : Option (List Nat) := do
  let parts ← (version.toList.splitOn '.').mapM part
  return if parts = [] then [0] else parts

inductive GateError
  /-- `AgentVersionUnsupported`: `Agent version {agent_version} is older than the minimum supported version {minimum}.`,
  with both as details. -/
  | agentVersionUnsupported (agentVersion minimum : String)
  | valueError
deriving DecidableEq

/-- `check_agent_version_compatible`, where `minimum` is `settings.NODEPILOT["MIN_SUPPORTED_AGENT_VERSION"]`. -/
def checkAgentVersionCompatible (minimum agentVersion : String) : Except GateError Unit :=
  match versionTuple agentVersion, versionTuple minimum with
  | some version, some least =>
    if version < least then .error (.agentVersionUnsupported agentVersion minimum) else .ok ()
  | _, _ => .error .valueError

end NodePilot.AgentVersions

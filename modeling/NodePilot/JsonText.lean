import NodePilot.Protocol

/-!
# JSON text

Python's `json.dumps` and `json.loads` with their defaults: `, ` and `: ` between the parts, nothing but ASCII, and
an object's last value for a key that it has twice. A float is kept as it is written. There is no limit on the depth
of a value or on the digits of a number here, and a text with an unpaired surrogate is refused, as it is no text of
Lean's.
-/

namespace NodePilot.Json

/-! ## Writing -/

/-- `'\\u{0:04x}'.format(n)` -/
def unicodeEscape (n : Nat) : List Char := '\\' :: 'u' :: hex 4 n

/-- `py_encode_basestring_ascii`, on one character. -/
def escapeChar (c : Char) : List Char :=
  if c = '"' then ['\\', '"']
  else if c = '\\' then ['\\', '\\']
  else if c = '\n' then ['\\', 'n']
  else if c = '\r' then ['\\', 'r']
  else if c = '\t' then ['\\', 't']
  else if c.toNat = 8 then ['\\', 'b']
  else if c.toNat = 12 then ['\\', 'f']
  else if 32 ≤ c.toNat ∧ c.toNat ≤ 126 then [c]
  else if c.toNat < 65536 then unicodeEscape c.toNat
  else unicodeEscape (55296 + (c.toNat - 65536) / 1024) ++ unicodeEscape (56320 + (c.toNat - 65536) % 1024)

def dumpsString (s : String) : List Char := '"' :: (s.toList.flatMap escapeChar ++ ['"'])

def dumpsInt : Int → List Char
  | .ofNat n => Nat.toDigits 10 n
  | .negSucc n => '-' :: Nat.toDigits 10 (n + 1)

mutual

def dumpsChars : Json → List Char
  | .null => "null".toList
  | .bool true => "true".toList
  | .bool false => "false".toList
  | .int n => dumpsInt n
  | .float text => text.toList
  | .str s => dumpsString s
  | .arr [] => ['[', ']']
  | .arr (x :: xs) => '[' :: (dumpsChars x ++ dumpsElements xs)
  | .obj [] => ['{', '}']
  | .obj ((key, value) :: fields) =>
    '{' :: (dumpsString key ++ ':' :: ' ' :: (dumpsChars value ++ dumpsFields fields))

/-- The further elements of a list, and its end. -/
def dumpsElements : List Json → List Char
  | [] => [']']
  | x :: xs => ',' :: ' ' :: (dumpsChars x ++ dumpsElements xs)

/-- The further fields of an object, and its end. -/
def dumpsFields : List (String × Json) → List Char
  | [] => ['}']
  | (key, value) :: fields =>
    ',' :: ' ' :: (dumpsString key ++ ':' :: ' ' :: (dumpsChars value ++ dumpsFields fields))

end

/-- `json.dumps` -/
def dumps (value : Json) : String := String.ofList (dumpsChars value)

/-! ## Reading -/

/-- `[ \t\n\r]*` -/
def skip (cs : List Char) : List Char := cs.dropWhile fun c => c ∈ [' ', '\t', '\n', '\r']

def hexValue (c : Char) : Option Nat :=
  if '0' ≤ c ∧ c ≤ '9' then some (c.toNat - 48)
  else if 'a' ≤ c ∧ c ≤ 'f' then some (c.toNat - 87)
  else if 'A' ≤ c ∧ c ≤ 'F' then some (c.toNat - 55)
  else none

/-- Four hexadecimal digits. -/
def hex4 : List Char → Option (Nat × List Char)
  | a :: b :: c :: d :: rest => do
    return ((((← hexValue a) * 16 + (← hexValue b)) * 16 + (← hexValue c)) * 16 + (← hexValue d), rest)
  | _ => none

/-- The second half of a surrogate pair. -/
def lowSurrogate (high : Nat) : List Char → Option (Char × List Char)
  | '\\' :: 'u' :: rest => do
    let (low, rest) ← hex4 rest
    if 56320 ≤ low ∧ low < 57344 then some (.ofNat (65536 + (high - 55296) * 1024 + (low - 56320)), rest) else none
  | _ => none

/-- What follows a backslash. -/
def unescape : List Char → Option (Char × List Char)
  | '"' :: rest => some ('"', rest)
  | '\\' :: rest => some ('\\', rest)
  | '/' :: rest => some ('/', rest)
  | 'b' :: rest => some (.ofNat 8, rest)
  | 'f' :: rest => some (.ofNat 12, rest)
  | 'n' :: rest => some ('\n', rest)
  | 'r' :: rest => some ('\r', rest)
  | 't' :: rest => some ('\t', rest)
  | 'u' :: rest => do
    let (n, rest) ← hex4 rest
    if 55296 ≤ n ∧ n < 56320 then lowSurrogate n rest
    else if 56320 ≤ n ∧ n < 57344 then none
    else some (.ofNat n, rest)
  | _ => none

/-- A string after its quote, of so many characters at most. -/
def parseChars : Nat → List Char → Option (List Char × List Char)
  | 0, _ => none
  | _ + 1, [] => none
  | fuel + 1, c :: rest =>
    if c = '"' then some ([], rest)
    else if c = '\\' then do
      let (c, rest) ← unescape rest
      let (cs, rest) ← parseChars fuel rest
      return (c :: cs, rest)
    else if c.toNat < 32 then none
    else do
      let (cs, rest) ← parseChars fuel rest
      return (c :: cs, rest)

/-- `scanstring`, after the quote. -/
def parseString (cs : List Char) : Option (String × List Char) := do
  let (s, rest) ← parseChars cs.length cs
  return (String.ofList s, rest)

/-- `0|[1-9]\d*` -/
def isWhole : List Char → Bool
  | [] => false
  | '0' :: rest => rest.isEmpty
  | digits => digits.all Char.isDigit

/-- The digits after an optional sign. -/
def unsigned : List Char → List Char
  | '-' :: digits => digits
  | digits => digits

def intLiteral (token : List Char) : Option Int :=
  if isWhole (unsigned token) then
    let n : Nat := Nat.ofDigitChars 10 (unsigned token) 0
    some (if token.head? = some '-' then -n else n)
  else none

/-- `[eE][-+]?\d+` -/
def isExponent : List Char → Bool
  | 'e' :: rest | 'E' :: rest =>
    let digits := match rest with
      | '-' :: digits | '+' :: digits => digits
      | digits => digits
    !digits.isEmpty && digits.all Char.isDigit
  | _ => false

/-- A number that has a fraction or an exponent. -/
def isFloat (token : List Char) : Bool :=
  isWhole ((unsigned token).takeWhile Char.isDigit) &&
    match (unsigned token).dropWhile Char.isDigit with
    | '.' :: rest =>
      !(rest.takeWhile Char.isDigit).isEmpty &&
        ((rest.dropWhile Char.isDigit).isEmpty || isExponent (rest.dropWhile Char.isDigit))
    | rest => isExponent rest

def isNumberChar (c : Char) : Bool := c.isDigit || c ∈ ['-', '+', '.', 'e', 'E']

def parseNumber (cs : List Char) : Option (Json × List Char) :=
  let token := cs.takeWhile isNumberChar
  match intLiteral token with
  | some n => some (.int n, cs.dropWhile isNumberChar)
  | none =>
    if isFloat token then some (.float (String.ofList token), cs.dropWhile isNumberChar) else none

/-- The floats that have names. -/
def namedFloats : List String := ["NaN", "Infinity", "-Infinity"]

def names : List (String × Json) :=
  [("null", .null), ("true", .bool true), ("false", .bool false)] ++ namedFloats.map fun text => (text, .float text)

def parseName (cs : List Char) : Option (Json × List Char) :=
  names.findSome? fun name =>
    if name.1.toList.isPrefixOf cs then some (name.2, cs.drop name.1.toList.length) else none

/-- `d[key] = value`, on a `dict` that keeps the order of its keys. -/
def setField (fields : Dict) (field : String × Json) : Dict :=
  if fields.any (·.1 = field.1) then fields.map fun f => if f.1 = field.1 then field else f else fields ++ [field]

/-- `dict(pairs)` -/
def dictOf (pairs : List (String × Json)) : Dict := pairs.foldl setField []

mutual

/-- `scan_once`, in so many steps at most. -/
def parseValue : Nat → List Char → Option (Json × List Char)
  | 0, _ => none
  | fuel + 1, cs =>
    match cs with
    | '"' :: rest => do
      let (s, rest) ← parseString rest
      return (.str s, rest)
    | '[' :: rest =>
      match skip rest with
      | ']' :: rest => some (.arr [], rest)
      | rest => do
        let (x, rest) ← parseValue fuel rest
        let (xs, rest) ← parseElements fuel rest
        return (.arr (x :: xs), rest)
    | '{' :: rest =>
      match skip rest with
      | '}' :: rest => some (.obj [], rest)
      | rest => do
        let (field, rest) ← parseField fuel rest
        let (fields, rest) ← parseFields fuel rest
        return (.obj (dictOf (field :: fields)), rest)
    | cs => (parseName cs).or (parseNumber cs)

def parseElements : Nat → List Char → Option (List Json × List Char)
  | 0, _ => none
  | fuel + 1, cs =>
    match skip cs with
    | ']' :: rest => some ([], rest)
    | ',' :: rest => do
      let (x, rest) ← parseValue fuel (skip rest)
      let (xs, rest) ← parseElements fuel rest
      return (x :: xs, rest)
    | _ => none

def parseField : Nat → List Char → Option ((String × Json) × List Char)
  | 0, _ => none
  | fuel + 1, cs =>
    match cs with
    | '"' :: rest => do
      let (key, rest) ← parseString rest
      match skip rest with
      | ':' :: rest => do
        let (value, rest) ← parseValue fuel (skip rest)
        return ((key, value), rest)
      | _ => none
    | _ => none

def parseFields : Nat → List Char → Option (List (String × Json) × List Char)
  | 0, _ => none
  | fuel + 1, cs =>
    match skip cs with
    | '}' :: rest => some ([], rest)
    | ',' :: rest => do
      let (field, rest) ← parseField fuel (skip rest)
      let (fields, rest) ← parseFields fuel rest
      return (field :: fields, rest)
    | _ => none

end

def parse (cs : List Char) : Option Json :=
  match parseValue (cs.length + 1) (skip cs) with
  | some (value, rest) => if skip rest = [] then some value else none
  | none => none

/-- `json.loads`, `none` where it raises a `JSONDecodeError`. -/
def loads (text : String) : Option Json := parse text.toList

example : (loads "[1, -2.5e3, \"\\u00e9\\n\", \x7b\"a\": null, \"a\": true\x7d]").map dumps =
    some "[1, -2.5e3, \"\\u00e9\\n\", \x7b\"a\": true\x7d]" := by decide +kernel

end NodePilot.Json

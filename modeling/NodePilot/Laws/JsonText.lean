import NodePilot.JsonText
import Mathlib.Data.List.TakeWhile

/-!
# What is written is read

`json.loads` reads back every value that `json.dumps` writes. The induction is on the value; what follows it in the
text begins with none of the characters of a number.
-/

namespace NodePilot.Json

/-! ## Values -/

/-- The text is one that a float is written as. -/
def FloatText (text : String) : Prop := text ∈ namedFloats ∨ isFloat text.toList

mutual

/-- A value of Python's: no key twice in an object, and floats as they are written. -/
def Plain : Json → Prop
  | .float text => FloatText text
  | .arr xs => PlainElements xs
  | .obj fields => (fields.map Prod.fst).Nodup ∧ PlainFields fields
  | _ => True

/-- Every entry of a list is plain. -/
def PlainElements : List Json → Prop
  | [] => True
  | x :: xs => Plain x ∧ PlainElements xs

/-- Every value of an object is plain. -/
def PlainFields : List (String × Json) → Prop
  | [] => True
  | (_, value) :: fields => Plain value ∧ PlainFields fields

end

mutual

/-- Whether a value is plain. -/
def decidePlain : (value : Json) → Decidable (Plain value)
  | .float text => inferInstanceAs (Decidable (text ∈ namedFloats ∨ isFloat text.toList))
  | .arr xs => decideElements xs
  | .obj fields => @instDecidableAnd _ _ (inferInstance : Decidable (fields.map Prod.fst).Nodup) (decideFields fields)
  | .null | .bool _ | .int _ | .str _ => isTrue trivial

/-- Whether every entry is plain. -/
def decideElements : (xs : List Json) → Decidable (PlainElements xs)
  | [] => isTrue trivial
  | x :: xs => @instDecidableAnd _ _ (decidePlain x) (decideElements xs)

/-- Whether every value of an object is plain. -/
def decideFields : (fields : List (String × Json)) → Decidable (PlainFields fields)
  | [] => isTrue trivial
  | (_, value) :: fields => @instDecidableAnd _ _ (decidePlain value) (decideFields fields)

end

instance (value : Json) : Decidable (Plain value) := decidePlain value

/-! ## Characters -/

section Characters

/-- A hexadecimal digit is read back. -/
theorem hexValue_hexDigit (n : Nat) (h : n < 16) : hexValue (hexDigit n) = some n := by
  have all : ∀ i : Fin 16, hexValue (hexDigit i) = some i.val := by decide
  exact all ⟨n, h⟩

/-- Four hexadecimal digits are read back. -/
theorem hex4_hex (n : Nat) (h : n < 65536) (rest : List Char) : hex4 (hex 4 n ++ rest) = some (n, rest) := by
  simp only [hex, List.nil_append, List.cons_append, hex4]
  rw [hexValue_hexDigit _ (by omega), hexValue_hexDigit _ (by omega), hexValue_hexDigit _ (by omega),
    hexValue_hexDigit _ (by omega)]
  simp only [Option.bind_eq_bind, Option.bind_some, Option.pure_def]
  congr 2
  omega

/-- A character is no surrogate. -/
theorem toNat_valid (c : Char) : c.toNat < 55296 ∨ 57343 < c.toNat ∧ c.toNat < 1114112 := c.valid

/-- A character of the basic plane is read back from its escape. -/
theorem unescape_unicodeEscape (c : Char) (h : c.toNat < 65536) (rest : List Char) :
    unescape ('u' :: (hex 4 c.toNat ++ rest)) = some (c, rest) := by
  have valid := toNat_valid c
  simp only [unescape, hex4_hex c.toNat h rest, Option.bind_eq_bind, Option.bind_some]
  rw [if_neg (by omega), if_neg (by omega), Char.ofNat_toNat]

/-- Any other character is read back from two surrogates. -/
theorem unescape_surrogates (c : Char) (h : 65536 ≤ c.toNat) (rest : List Char) :
    unescape ('u' :: (hex 4 (55296 + (c.toNat - 65536) / 1024) ++
      '\\' :: 'u' :: (hex 4 (56320 + (c.toNat - 65536) % 1024) ++ rest))) = some (c, rest) := by
  have valid := toNat_valid c
  simp only [unescape, lowSurrogate, Option.bind_eq_bind]
  rw [hex4_hex _ (by omega), Option.bind_some]
  simp only
  rw [if_pos (by omega), hex4_hex _ (by omega), Option.bind_some]
  simp only
  rw [if_pos (by omega), show 65536 + (55296 + (c.toNat - 65536) / 1024 - 55296) * 1024 +
    (56320 + (c.toNat - 65536) % 1024 - 56320) = c.toNat by omega, Char.ofNat_toNat]

/-- A character after a backslash. -/
theorem parseChars_escaped {fuel : Nat} {c : Char} {escaped rest : List Char}
    (read : unescape escaped = some (c, rest)) :
    parseChars (fuel + 1) ('\\' :: escaped) = (parseChars fuel rest).map fun p => (c :: p.1, p.2) := by
  rw [parseChars, if_neg (by decide), if_pos rfl, read]
  cases here : parseChars fuel rest <;> simp [here]

/-- One character is read back. -/
theorem parseChars_escapeChar (fuel : Nat) (c : Char) (rest : List Char) :
    parseChars (fuel + 1) (escapeChar c ++ rest) = (parseChars fuel rest).map fun p => (c :: p.1, p.2) := by
  unfold escapeChar
  split_ifs with quote backslash newline return' tab backspace formFeed printable basic
  · subst quote
    exact parseChars_escaped rfl
  · subst backslash
    exact parseChars_escaped rfl
  · subst newline
    exact parseChars_escaped rfl
  · subst return'
    exact parseChars_escaped rfl
  · subst tab
    exact parseChars_escaped rfl
  · refine parseChars_escaped ?_
    rw [← Char.ofNat_toNat c, backspace]
    rfl
  · refine parseChars_escaped ?_
    rw [← Char.ofNat_toNat c, formFeed]
    rfl
  · rw [List.singleton_append, parseChars, if_neg quote, if_neg backslash, if_neg (by omega)]
    cases parseChars fuel rest <;> rfl
  · exact parseChars_escaped (unescape_unicodeEscape c basic rest)
  · simp only [unicodeEscape, List.cons_append, List.append_assoc]
    exact parseChars_escaped (unescape_surrogates c (by omega) rest)

theorem escapeChar_ne_nil (c : Char) : 1 ≤ (escapeChar c).length := by
  unfold escapeChar
  split_ifs <;> simp [unicodeEscape]

/-- The characters of a text are read back, given as much fuel as there are. -/
theorem parseChars_flatMap (cs rest : List Char) (fuel : Nat) (enough : cs.length < fuel) :
    parseChars fuel (cs.flatMap escapeChar ++ '"' :: rest) = some (cs, rest) := by
  induction cs generalizing fuel with
  | nil =>
    obtain ⟨fuel, rfl⟩ := Nat.exists_eq_add_of_lt enough
    rfl
  | cons c cs ih =>
    cases fuel with
    | zero => cases enough
    | succ fuel =>
      rw [List.flatMap_cons, List.append_assoc, parseChars_escapeChar, ih fuel (by simpa using enough)]
      rfl

theorem length_flatMap_escapeChar (cs : List Char) : cs.length ≤ (cs.flatMap escapeChar).length := by
  induction cs with
  | nil => exact Nat.le_refl _
  | cons c cs ih =>
    have first := escapeChar_ne_nil c
    simp only [List.flatMap_cons, List.length_append, List.length_cons]
    omega

/-- A string is read back, after its quote. -/
theorem parseString_dumpsString (s : String) (rest : List Char) :
    ∃ cs, dumpsString s ++ rest = '"' :: cs ∧ parseString cs = some (s, rest) := by
  refine ⟨s.toList.flatMap escapeChar ++ '"' :: rest, by simp [dumpsString], ?_⟩
  have enough := length_flatMap_escapeChar s.toList
  unfold parseString
  rw [parseChars_flatMap _ _ _ (by simp only [List.length_append, List.length_cons]; omega)]
  simp

end Characters

/-! ## Numbers -/

section Numbers

/-- No number goes on in what follows. -/
def NumberEnds (rest : List Char) : Prop := ∀ c ∈ rest.head?, isNumberChar c = false

/-- A number ends where no character of a number follows. -/
theorem span_number {token rest : List Char} (number : ∀ c ∈ token, isNumberChar c) (ends : NumberEnds rest) :
    (token ++ rest).takeWhile isNumberChar = token ∧ (token ++ rest).dropWhile isNumberChar = rest := by
  rw [List.takeWhile_append_of_pos number, List.dropWhile_append_of_pos number]
  cases rest with
  | nil => simp
  | cons c rest =>
    have stops : isNumberChar c = false := ends c rfl
    simp [stops]

theorem isNumberChar_digit {c : Char} (h : c.isDigit) : isNumberChar c := by simp [isNumberChar, h]

theorem toDigits_isDigit (n : Nat) : ∀ c ∈ Nat.toDigits 10 n, c.isDigit :=
  fun _ member => Nat.isDigit_of_mem_toDigits (by decide) (by decide) member

/-- Only zero is written as zero. -/
theorem digitChar_ne_zero {d : Nat} (positive : 0 < d) (below : d < 10) : d.digitChar ≠ '0' := by
  have all : ∀ d < 10, 0 < d → d.digitChar ≠ '0' := by decide
  exact all d below positive

/-- Decimal digits have no zero in front of other ones. -/
theorem head_toDigits (n : Nat) (positive : 0 < n) : (Nat.toDigits 10 n).head? ≠ some '0' := by
  induction n using Nat.strongRecOn with
  | ind n ih =>
    rw [Nat.toDigits_eq_if (by decide)]
    split_ifs with below
    · simpa using digitChar_ne_zero positive below
    · have shorter := ih (n / 10) (by omega) (by omega)
      rw [List.head?_append]
      cases first : (Nat.toDigits 10 (n / 10)).head? with
      | none => exact absurd (List.head?_eq_none_iff.mp first) Nat.toDigits_ne_nil
      | some c => simpa [first] using shorter

/-- Digits without a leading zero are a whole number. -/
theorem isWhole_of_digits {token : List Char} (ne : token ≠ []) (digits : ∀ c ∈ token, c.isDigit)
    (head : token.head? ≠ some '0') : isWhole token := by
  unfold isWhole
  split
  · exact absurd rfl ne
  · exact absurd rfl head
  · exact List.all_eq_true.mpr digits

/-- A natural number is written as a whole number. -/
theorem isWhole_toDigits (n : Nat) : isWhole (Nat.toDigits 10 n) := by
  rcases Nat.eq_zero_or_pos n with rfl | positive
  · decide
  · exact isWhole_of_digits Nat.toDigits_ne_nil (toDigits_isDigit n) (head_toDigits n positive)

theorem head_isDigit {token : List Char} (ne : token ≠ []) (digits : ∀ c ∈ token, c.isDigit) :
    ∃ c cs, token = c :: cs ∧ c.isDigit := by
  cases token with
  | nil => exact absurd rfl ne
  | cons c cs => exact ⟨c, cs, rfl, digits c (by simp)⟩

theorem unsigned_digits {token : List Char} (digits : ∀ c ∈ token, c.isDigit) : unsigned token = token := by
  unfold unsigned
  split
  · next rest => exact absurd (digits '-' (by simp)) (by decide)
  · rfl

/-- An integer is read back from what is written for it. -/
theorem intLiteral_dumpsInt (n : Int) : intLiteral (dumpsInt n) = some n := by
  cases n with
  | ofNat n =>
    obtain ⟨c, cs, written, digit⟩ := head_isDigit Nat.toDigits_ne_nil (toDigits_isDigit n)
    have plus : (Nat.toDigits 10 n).head? ≠ some '-' := by
      rw [written]
      rintro ⟨⟩
      exact absurd digit (by decide)
    simp [intLiteral, dumpsInt, unsigned_digits (toDigits_isDigit n), isWhole_toDigits, plus,
      Nat.ofDigitChars_ten_toDigits]
  | negSucc n =>
    have minus : unsigned (dumpsInt (.negSucc n)) = Nat.toDigits 10 (n + 1) := rfl
    rw [intLiteral, minus, if_pos (isWhole_toDigits _)]
    simp only [dumpsInt, List.head?_cons, if_true, Nat.ofDigitChars_ten_toDigits, Option.some.injEq]
    rfl

/-- An integer is written with characters of numbers. -/
theorem dumpsInt_number (n : Int) : ∀ c ∈ dumpsInt n, isNumberChar c := by
  intro c member
  cases n with
  | ofNat n => exact isNumberChar_digit (toDigits_isDigit n c member)
  | negSucc n =>
    rcases List.mem_cons.mp member with rfl | digit
    · decide
    · exact isNumberChar_digit (toDigits_isDigit _ c digit)

/-- An integer is read back where a number may stand. -/
theorem parseNumber_dumpsInt (n : Int) {rest : List Char} (ends : NumberEnds rest) :
    parseNumber (dumpsInt n ++ rest) = some (.int n, rest) := by
  obtain ⟨token, left⟩ := span_number (dumpsInt_number n) ends
  simp [parseNumber, token, left, intLiteral_dumpsInt]

theorem all_number {digits : List Char} (h : digits.all Char.isDigit) : ∀ c ∈ digits, isNumberChar c :=
  fun c member => isNumberChar_digit (List.all_eq_true.mp h c member)

/-- An exponent after its letter: an optional sign, and digits. -/
theorem exponentDigits_number {cs : List Char}
    (h : (match cs with | '-' :: digits | '+' :: digits => digits | digits => digits).all Char.isDigit) :
    ∀ c ∈ cs, isNumberChar c := by
  intro c member
  split at h
  · rcases List.mem_cons.mp member with rfl | digit
    · decide
    · exact all_number h c digit
  · rcases List.mem_cons.mp member with rfl | digit
    · decide
    · exact all_number h c digit
  · exact all_number h c member

theorem isExponent_number {cs : List Char} (h : isExponent cs) : ∀ c ∈ cs, isNumberChar c := by
  intro c member
  unfold isExponent at h
  split at h
  · next rest =>
    rcases List.mem_cons.mp member with rfl | digit
    · decide
    · exact exponentDigits_number (Bool.and_eq_true_iff.mp h).2 c digit
  · next rest =>
    rcases List.mem_cons.mp member with rfl | digit
    · decide
    · exact exponentDigits_number (Bool.and_eq_true_iff.mp h).2 c digit
  · cases h

theorem isWhole_digits {cs : List Char} (h : isWhole cs) : ∀ c ∈ cs, c.isDigit := by
  intro c member
  unfold isWhole at h
  split at h
  · cases h
  · next rest =>
    rw [List.isEmpty_iff] at h
    subst h
    rw [List.mem_singleton.mp member]
    decide
  · exact List.all_eq_true.mp h c member

theorem mem_unsigned {token : List Char} {c : Char} (member : c ∈ token) : c = '-' ∨ c ∈ unsigned token := by
  unfold unsigned
  split
  · exact List.mem_cons.mp member
  · exact .inr member

/-- A fraction or an exponent stands after the digits of a float, and nothing that is not of a number. -/
theorem fraction_number {rest : List Char} (h : (match rest with
      | '.' :: rest => !(rest.takeWhile Char.isDigit).isEmpty &&
        ((rest.dropWhile Char.isDigit).isEmpty || isExponent (rest.dropWhile Char.isDigit))
      | rest => isExponent rest) = true) : rest ≠ [] ∧ ∀ c ∈ rest, isNumberChar c := by
  split at h
  · next rest =>
    refine ⟨List.cons_ne_nil _ _, fun c member => ?_⟩
    rcases List.mem_cons.mp member with rfl | member
    · decide
    · rw [← List.takeWhile_append_dropWhile (p := Char.isDigit) (l := rest), List.mem_append] at member
      rcases member with digit | later
      · exact isNumberChar_digit (List.mem_takeWhile_imp digit)
      · rcases Bool.or_eq_true_iff.mp (Bool.and_eq_true_iff.mp h).2 with none | exponent
        · rw [List.isEmpty_iff.mp none] at later
          cases later
        · exact isExponent_number exponent c later
  · refine ⟨?_, isExponent_number h⟩
    rintro rfl
    cases h

/-- A float has the characters of a number and is no integer. -/
theorem isFloat_number {token : List Char} (h : isFloat token) :
    (∀ c ∈ token, isNumberChar c) ∧ intLiteral token = none := by
  obtain ⟨whole, fraction⟩ := Bool.and_eq_true_iff.mp h
  obtain ⟨more, number⟩ := fraction_number fraction
  constructor
  · intro c member
    rcases mem_unsigned member with rfl | member
    · decide
    · rw [← List.takeWhile_append_dropWhile (p := Char.isDigit) (l := unsigned token), List.mem_append] at member
      rcases member with digit | later
      · exact isNumberChar_digit (List.mem_takeWhile_imp digit)
      · exact number c later
  · rw [intLiteral, if_neg]
    intro all
    exact more (List.dropWhile_eq_nil_iff.mpr (isWhole_digits all))

/-- A float is read back where a number may stand. -/
theorem parseNumber_float {text : String} (float : isFloat text.toList) {rest : List Char} (ends : NumberEnds rest) :
    parseNumber (text.toList ++ rest) = some (.float text, rest) := by
  obtain ⟨number, whole⟩ := isFloat_number float
  obtain ⟨token, left⟩ := span_number number ends
  simp [parseNumber, token, left, whole, float]

end Numbers
/-! ## What is written, read -/

section Values

/-- The characters a value can begin with. -/
def Begins (cs : List Char) : Prop :=
  ∃ c rest, cs = c :: rest ∧ c ∉ [' ', '\t', '\n', '\r'] ∧ c ≠ ']' ∧ c ≠ '}'

theorem Begins.append {cs : List Char} (begins : Begins cs) (rest : List Char) : Begins (cs ++ rest) := by
  obtain ⟨c, more, rfl, free⟩ := begins
  exact ⟨c, more ++ rest, rfl, free⟩

/-- No blank is skipped before a value. -/
theorem Begins.skip {cs : List Char} (begins : Begins cs) : Json.skip cs = cs := by
  obtain ⟨c, rest, rfl, free, -⟩ := begins
  exact List.dropWhile_cons_of_neg (by simpa using free)

theorem Begins.skip_space {cs : List Char} (begins : Begins cs) : Json.skip (' ' :: cs) = cs := by
  have rest := begins.skip
  unfold Json.skip at rest ⊢
  rw [List.dropWhile_cons_of_pos (by decide), rest]

/-- A number begins like no other value. -/
theorem isNumberChar_begins {c : Char} (number : isNumberChar c) :
    c ∉ [' ', '\t', '\n', '\r'] ∧ c ≠ ']' ∧ c ≠ '}' ∧ c ≠ '"' ∧ c ≠ '[' ∧ c ≠ '{' := by
  refine ⟨?_, ?_, ?_, ?_, ?_, ?_⟩
  · intro member
    simp only [List.mem_cons, List.not_mem_nil, or_false] at member
    rcases member with rfl | rfl | rfl | rfl <;> revert number <;> decide
  all_goals
    rintro rfl
    revert number
    decide

theorem begins_number {token : List Char} (ne : token ≠ []) (number : ∀ c ∈ token, isNumberChar c) : Begins token := by
  cases token with
  | nil => exact absurd rfl ne
  | cons c rest =>
    obtain ⟨free, closing, brace, -⟩ := isNumberChar_begins (number c (by simp))
    exact ⟨c, rest, rfl, free, closing, brace⟩

theorem dumpsInt_ne_nil (n : Int) : dumpsInt n ≠ [] := by
  cases n with
  | ofNat n => exact Nat.toDigits_ne_nil
  | negSucc n => exact List.cons_ne_nil _ _

theorem isFloat_ne_nil {token : List Char} (float : isFloat token) : token ≠ [] := by
  rintro rfl
  revert float
  decide

/-- What is written for a value begins like a value. -/
theorem begins_dumpsChars (value : Json) (plain : Plain value) : Begins (dumpsChars value) := by
  match value with
  | .null | .bool true | .bool false => exact ⟨_, _, rfl, by decide⟩
  | .str s => exact ⟨_, _, rfl, by decide⟩
  | .arr [] | .arr (_ :: _) => exact ⟨_, _, rfl, by decide⟩
  | .obj [] | .obj (_ :: _) => exact ⟨_, _, rfl, by decide⟩
  | .int n => exact begins_number (dumpsInt_ne_nil n) (dumpsInt_number n)
  | .float text =>
    rcases plain with named | float
    · simp only [namedFloats, List.mem_cons, List.not_mem_nil, or_false] at named
      rcases named with rfl | rfl | rfl <;> exact ⟨_, _, rfl, by decide⟩
    · exact begins_number (isFloat_ne_nil float) (isFloat_number float).1

theorem begins_dumpsString (s : String) : Begins (dumpsString s) := ⟨_, _, rfl, by decide⟩

/-- A digit, maybe after a sign, comes first. -/
def Numeral (cs : List Char) : Prop :=
  (∃ d rest, cs = d :: rest ∧ d.isDigit) ∨ ∃ d rest, cs = '-' :: d :: rest ∧ d.isDigit

theorem Numeral.append {cs : List Char} (numeral : Numeral cs) (rest : List Char) : Numeral (cs ++ rest) := by
  rcases numeral with ⟨d, more, rfl, digit⟩ | ⟨d, more, rfl, digit⟩
  · exact .inl ⟨d, more ++ rest, rfl, digit⟩
  · exact .inr ⟨d, more ++ rest, rfl, digit⟩

/-- A whole number begins like a number. -/
theorem numeral_of_whole {token : List Char} (h : isWhole ((unsigned token).takeWhile Char.isDigit)) :
    Numeral token := by
  have first : ∃ d rest, unsigned token = d :: rest ∧ d.isDigit := by
    cases digits : unsigned token with
    | nil => simp [digits, isWhole] at h
    | cons d rest =>
      by_cases digit : d.isDigit
      · exact ⟨d, rest, rfl, digit⟩
      · simp [digits, digit, isWhole] at h
  obtain ⟨d, rest, digits, digit⟩ := first
  unfold unsigned at digits
  split at digits
  · exact .inr ⟨d, rest, by rw [digits], digit⟩
  · exact .inl ⟨d, rest, digits, digit⟩

/-- An integer begins like a number. -/
theorem numeral_dumpsInt (n : Int) : Numeral (dumpsInt n) := by
  cases n with
  | ofNat n => exact .inl (head_isDigit Nat.toDigits_ne_nil (toDigits_isDigit n))
  | negSucc n =>
    obtain ⟨d, rest, digits, digit⟩ := head_isDigit Nat.toDigits_ne_nil (toDigits_isDigit (n + 1))
    exact .inr ⟨d, rest, by rw [dumpsInt, digits], digit⟩

/-- No name begins with a digit, or with a sign before a digit. -/
theorem parseName_numeral {cs : List Char} (numeral : Numeral cs) : parseName cs = none := by
  have no : ∀ d : Char, d.isDigit → 'n' ≠ d ∧ 't' ≠ d ∧ 'f' ≠ d ∧ 'N' ≠ d ∧ 'I' ≠ d ∧ '-' ≠ d := by
    intro d digit
    refine ⟨?_, ?_, ?_, ?_, ?_, ?_⟩ <;> rintro rfl <;> revert digit <;> decide
  rcases numeral with ⟨d, rest, rfl, digit⟩ | ⟨d, rest, rfl, digit⟩
  · obtain ⟨n, t, f, capital, infinite, sign⟩ := no d digit
    simp [parseName, names, namedFloats, n, t, f, capital, infinite, sign]
  · obtain ⟨-, -, -, -, infinite, -⟩ := no d digit
    simp [parseName, names, namedFloats, infinite]

/-- What is no string, list or object is a name or a number. -/
theorem parseValue_scalar {cs : List Char} (fuel : Nat)
    (h : ∀ c ∈ cs.head?, c ≠ '"' ∧ c ≠ '[' ∧ c ≠ '{') :
    parseValue (fuel + 1) cs = (parseName cs).or (parseNumber cs) := by
  rw [parseValue]
  · rintro rest rfl
    exact (h '"' rfl).1 rfl
  · rintro rest rfl
    exact (h '[' rfl).2.1 rfl
  · rintro rest rfl
    exact (h '{' rfl).2.2 rfl

/-- What begins like a number is no text, list or object. -/
theorem Numeral.head {cs : List Char} (numeral : Numeral cs) : ∀ c ∈ cs.head?, c ≠ '"' ∧ c ≠ '[' ∧ c ≠ '{' := by
  intro c member
  have number : isNumberChar c := by
    rcases numeral with ⟨d, rest, rfl, digit⟩ | ⟨d, rest, rfl, digit⟩
    · cases member
      exact isNumberChar_digit digit
    · cases member
      decide
  exact (isNumberChar_begins number).2.2.2

/-- An integer is read back. -/
theorem parseValue_int (n : Int) (fuel : Nat) {rest : List Char} (ends : NumberEnds rest) :
    parseValue (fuel + 1) (dumpsInt n ++ rest) = some (.int n, rest) := by
  have numeral := (numeral_dumpsInt n).append rest
  rw [parseValue_scalar fuel numeral.head, parseName_numeral numeral, Option.none_or, parseNumber_dumpsInt n ends]

/-- A float is read back. -/
theorem parseValue_float {text : String} (float : FloatText text) (fuel : Nat) {rest : List Char}
    (ends : NumberEnds rest) : parseValue (fuel + 1) (text.toList ++ rest) = some (.float text, rest) := by
  rcases float with named | float
  · simp only [namedFloats, List.mem_cons, List.not_mem_nil, or_false] at named
    rcases named with rfl | rfl | rfl <;> rfl
  · have numeral := (numeral_of_whole (Bool.and_eq_true_iff.mp float).1).append rest
    rw [parseValue_scalar fuel numeral.head, parseName_numeral numeral, Option.none_or, parseNumber_float float ends]

/-- A text is read back. -/
theorem parseValue_string (s : String) (fuel : Nat) (rest : List Char) :
    parseValue (fuel + 1) (dumpsString s ++ rest) = some (.str s, rest) := by
  obtain ⟨cs, written, read⟩ := parseString_dumpsString s rest
  rw [written, parseValue, read]
  rfl

/-- Keys that are not there yet are put at the end. -/
theorem foldl_setField (fields read : Dict) (distinct : ((read ++ fields).map Prod.fst).Nodup) :
    fields.foldl setField read = read ++ fields := by
  induction fields generalizing read with
  | nil => simp
  | cons field fields ih =>
    have fresh : read.any (·.1 = field.1) = false := by
      rw [List.map_append, List.map_cons, List.nodup_append] at distinct
      rw [List.any_eq_false]
      intro f member same
      exact distinct.2.2 f.1 (List.mem_map_of_mem member) field.1 (by simp) (by simpa using same)
    rw [List.foldl_cons, setField, fresh, if_neg (by decide), ih _ (by simpa using distinct)]
    simp

/-- An object whose keys differ keeps all its fields. -/
theorem dictOf_nodup {fields : Dict} (distinct : (fields.map Prod.fst).Nodup) : dictOf fields = fields :=
  foldl_setField fields [] distinct

theorem numberEnds_cons {c : Char} {rest : List Char} (h : isNumberChar c = false) : NumberEnds (c :: rest) := by
  intro c' member
  cases member
  exact h

/-- A number ends where the next entry begins. -/
theorem numberEnds_elements (xs : List Json) (rest : List Char) : NumberEnds (dumpsElements xs ++ rest) := by
  cases xs with
  | nil => exact numberEnds_cons (by decide)
  | cons x xs => exact numberEnds_cons (by decide)

/-- A number ends where the next field begins. -/
theorem numberEnds_fields (fields : List (String × Json)) (rest : List Char) :
    NumberEnds (dumpsFields fields ++ rest) := by
  cases fields with
  | nil => exact numberEnds_cons (by decide)
  | cons field fields => exact numberEnds_cons (by decide)

/-- A list that does not end at once has an element. -/
theorem parseValue_list {cs : List Char} (begins : Begins cs) (fuel : Nat) :
    parseValue (fuel + 1) ('[' :: cs) = (do
      let (x, rest) ← parseValue fuel cs
      let (xs, rest) ← parseElements fuel rest
      return (.arr (x :: xs), rest)) := by
  rw [parseValue, begins.skip]
  obtain ⟨c, rest, rfl, -, closing, -⟩ := begins
  split
  · next same => exact absurd (List.cons.inj same).1 closing
  · rfl

/-- An object that does not end at once has a field. -/
theorem parseValue_object {cs : List Char} (begins : Begins cs) (fuel : Nat) :
    parseValue (fuel + 1) ('{' :: cs) = (do
      let (field, rest) ← parseField fuel cs
      let (fields, rest) ← parseFields fuel rest
      return (.obj (dictOf (field :: fields)), rest)) := by
  rw [parseValue, begins.skip]
  obtain ⟨c, rest, rfl, -, -, brace⟩ := begins
  split
  · next same => exact absurd (List.cons.inj same).1 brace
  · rfl

/-- After a comma the next entry is read. -/
theorem parseElements_comma {cs : List Char} (begins : Begins cs) (fuel : Nat) :
    parseElements (fuel + 1) (',' :: ' ' :: cs) = (do
      let (x, rest) ← parseValue fuel cs
      let (xs, rest) ← parseElements fuel rest
      return (x :: xs, rest)) := by
  have comma : skip (',' :: ' ' :: cs) = ',' :: ' ' :: cs := rfl
  rw [parseElements, comma]
  simp only [begins.skip_space]

/-- After a comma the next field is read. -/
theorem parseFields_comma {cs : List Char} (begins : Begins cs) (fuel : Nat) :
    parseFields (fuel + 1) (',' :: ' ' :: cs) = (do
      let (field, rest) ← parseField fuel cs
      let (fields, rest) ← parseFields fuel rest
      return (field :: fields, rest)) := by
  have comma : skip (',' :: ' ' :: cs) = ',' :: ' ' :: cs := rfl
  rw [parseFields, comma]
  simp only [begins.skip_space]

/-- A key, a colon, and the value after it. -/
theorem parseField_key (key : String) {cs : List Char} (begins : Begins cs) (fuel : Nat) :
    parseField (fuel + 1) (dumpsString key ++ ':' :: ' ' :: cs) = (do
      let (value, rest) ← parseValue fuel cs
      return ((key, value), rest)) := by
  obtain ⟨text, written, read⟩ := parseString_dumpsString key (':' :: ' ' :: cs)
  have colon : skip (':' :: ' ' :: cs) = ':' :: ' ' :: cs := rfl
  rw [written, parseField, read]
  simp only [Option.bind_eq_bind, Option.bind_some, colon, begins.skip_space]

mutual

/-- A plain value is read back, given as much fuel as it has characters. -/
theorem parseValue_dumpsChars (value : Json) (plain : Plain value) (fuel : Nat) (rest : List Char)
    (enough : (dumpsChars value).length ≤ fuel) (ends : NumberEnds rest) :
    parseValue fuel (dumpsChars value ++ rest) = some (value, rest) := by
  obtain ⟨fuel, rfl⟩ : ∃ f, fuel = f + 1 := by
    obtain ⟨c, cs, written, -⟩ := begins_dumpsChars value plain
    rw [written, List.length_cons] at enough
    exact ⟨fuel - 1, by omega⟩
  match value with
  | .null | .bool true | .bool false => rfl
  | .int n => exact parseValue_int n fuel ends
  | .float text => exact parseValue_float plain fuel ends
  | .str s => exact parseValue_string s fuel rest
  | .arr [] => rfl
  | .arr (x :: xs) =>
    obtain ⟨first, further⟩ := plain
    simp only [dumpsChars, List.cons_append, List.append_assoc, List.length_cons, List.length_append] at enough ⊢
    rw [parseValue_list ((begins_dumpsChars x first).append _),
      parseValue_dumpsChars x first fuel _ (by omega) (numberEnds_elements xs rest)]
    simp only [Option.bind_eq_bind, Option.bind_some]
    rw [parseElements_dumpsElements xs further fuel rest (by omega)]
    rfl
  | .obj [] => rfl
  | .obj ((key, value) :: fields) =>
    obtain ⟨distinct, first, further⟩ := plain
    simp only [dumpsChars, List.cons_append, List.append_assoc, List.length_cons, List.length_append] at enough ⊢
    rw [parseValue_object ((begins_dumpsString key).append _)]
    obtain ⟨fuel, rfl⟩ : ∃ f, fuel = f + 1 := ⟨fuel - 1, by omega⟩
    rw [parseField_key key ((begins_dumpsChars value first).append _),
      parseValue_dumpsChars value first fuel _ (by omega) (numberEnds_fields fields rest)]
    simp only [Option.bind_eq_bind, Option.bind_some, Option.pure_def]
    rw [parseFields_dumpsFields fields further (fuel + 1) rest (by omega)]
    simp only [Option.bind_some, dictOf_nodup distinct]

/-- A plain list is read back. -/
theorem parseElements_dumpsElements (xs : List Json) (plain : PlainElements xs) (fuel : Nat) (rest : List Char)
    (enough : (dumpsElements xs).length ≤ fuel) :
    parseElements fuel (dumpsElements xs ++ rest) = some (xs, rest) := by
  match xs with
  | [] =>
    obtain ⟨fuel, rfl⟩ : ∃ f, fuel = f + 1 := ⟨fuel - 1, by simp [dumpsElements] at enough; omega⟩
    rfl
  | x :: xs =>
    obtain ⟨first, further⟩ := plain
    simp only [dumpsElements, List.cons_append, List.append_assoc, List.length_cons, List.length_append] at enough ⊢
    obtain ⟨fuel, rfl⟩ : ∃ f, fuel = f + 1 := ⟨fuel - 1, by omega⟩
    rw [parseElements_comma ((begins_dumpsChars x first).append _),
      parseValue_dumpsChars x first fuel _ (by omega) (numberEnds_elements xs rest)]
    simp only [Option.bind_eq_bind, Option.bind_some]
    rw [parseElements_dumpsElements xs further fuel rest (by omega)]
    rfl

/-- A plain object is read back. -/
theorem parseFields_dumpsFields (fields : List (String × Json)) (plain : PlainFields fields) (fuel : Nat)
    (rest : List Char) (enough : (dumpsFields fields).length ≤ fuel) :
    parseFields fuel (dumpsFields fields ++ rest) = some (fields, rest) := by
  match fields with
  | [] =>
    obtain ⟨fuel, rfl⟩ : ∃ f, fuel = f + 1 := ⟨fuel - 1, by simp [dumpsFields] at enough; omega⟩
    rfl
  | (key, value) :: fields =>
    obtain ⟨first, further⟩ := plain
    simp only [dumpsFields, List.cons_append, List.append_assoc, List.length_cons, List.length_append] at enough ⊢
    obtain ⟨fuel, rfl⟩ : ∃ f, fuel = f + 2 := ⟨fuel - 2, by omega⟩
    rw [parseFields_comma ((begins_dumpsString key).append _),
      parseField_key key ((begins_dumpsChars value first).append _),
      parseValue_dumpsChars value first fuel _ (by omega) (numberEnds_fields fields rest)]
    simp only [Option.bind_eq_bind, Option.bind_some, Option.pure_def]
    rw [parseFields_dumpsFields fields further (fuel + 1) rest (by omega)]
    rfl

end

/-- Every value of Python's is read back from its text. -/
theorem loads_dumps {value : Json} (plain : Plain value) : loads (dumps value) = some value := by
  have begins := begins_dumpsChars value plain
  have atEnd : NumberEnds [] := fun _ member => by cases member
  have read := parseValue_dumpsChars value plain ((dumpsChars value).length + 1) [] (by omega) atEnd
  rw [List.append_nil] at read
  have nothing : skip [] = [] := rfl
  simp only [loads, dumps, String.toList_ofList, parse, begins.skip, read, nothing, if_true]

end Values
end NodePilot.Json

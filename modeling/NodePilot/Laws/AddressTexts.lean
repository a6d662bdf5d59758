import NodePilot.AddressTexts
import NodePilot.Laws.JsonText
import NodePilot.Lib.Traversal

/-!
# Texts of addresses are read back

What `str` writes of an address `ip_address` reads as that address. The hextets of an IPv6 address are cut out where the
longest run of zeros is, and as many zeros are read as are missing.
-/

namespace NodePilot.Urls

open Lib

/-! ## Cutting at a character -/

section Cutting

variable {c d : Char} {s t : List Char} {parts : List (List Char)}

/-- A text without the character is one part. -/
theorem splitAll_of_not_mem (absent : c ∉ s) : splitAll c s = [s] := by
  induction s with
  | nil => rfl
  | cons d s ih =>
    rw [List.mem_cons, not_or] at absent
    rw [splitAll, if_neg (Ne.symm absent.1), ih absent.2]

/-- The part before the character is cut off. -/
theorem splitAll_append (absent : c ∉ s) : splitAll c (s ++ c :: t) = s :: splitAll c t := by
  induction s with
  | nil => exact if_pos rfl
  | cons d s ih =>
    rw [List.mem_cons, not_or] at absent
    rw [List.cons_append, splitAll, if_neg (Ne.symm absent.1), ih absent.2]

/-- Parts that are joined by a character are cut apart at it again. -/
theorem splitAll_intercalate (nonempty : parts ≠ []) (absent : ∀ part ∈ parts, c ∉ part) :
    splitAll c ([c].intercalate parts) = parts := by
  induction parts with
  | nil => exact absurd rfl nonempty
  | cons part parts ih =>
    obtain ⟨first, rest⟩ := List.forall_mem_cons.mp absent
    cases parts with
    | nil => rw [List.intercalate_singleton, splitAll_of_not_mem first]
    | cons next parts =>
      have joined : [c].intercalate (part :: next :: parts) = part ++ c :: [c].intercalate (next :: parts) := by
        simp [List.intercalate_cons_cons]
      rw [joined, splitAll_append first, ih (List.cons_ne_nil _ _) rest]

/-- Another character is in one of the parts. -/
theorem exists_part (mem : d ∈ s) (other : d ≠ c) : ∃ part ∈ splitAll c s, d ∈ part := by
  induction s with
  | nil => cases mem
  | cons e s ih =>
    rw [splitAll]
    by_cases cut : e = c
    · rw [if_pos cut]
      obtain ⟨part, there, inside⟩ := ih ((List.mem_cons.mp mem).resolve_left (fun same => other (same.trans cut)))
      exact ⟨part, List.mem_cons_of_mem _ there, inside⟩
    · rw [if_neg cut]
      cases rest : splitAll c s with
      | nil =>
        rcases List.mem_cons.mp mem with rfl | later
        · exact ⟨[d], List.mem_singleton_self _, List.mem_singleton_self _⟩
        · obtain ⟨part, there, -⟩ := ih later
          rw [rest] at there
          cases there
      | cons part parts =>
        rcases List.mem_cons.mp mem with rfl | later
        · exact ⟨d :: part, List.mem_cons_self, List.mem_cons_self⟩
        · obtain ⟨other, there, inside⟩ := ih later
          rw [rest] at there
          rcases List.mem_cons.mp there with rfl | there
          · exact ⟨e :: other, List.mem_cons_self, List.mem_cons_of_mem _ inside⟩
          · exact ⟨other, List.mem_cons_of_mem _ there, inside⟩

end Cutting

/-! ## IPv4 -/

/-- A byte is read back from its decimal digits. -/
theorem parseOctet_toDigits {n : Nat} (small : n < 256) : parseOctet (Nat.toDigits 10 n) = some n := by
  have digits : (Nat.toDigits 10 n).all Char.isDigit = true := List.all_eq_true.mpr (Json.toDigits_isDigit n)
  have short : (Nat.toDigits 10 n).length ≤ 3 := (Nat.length_toDigits_le_iff (by decide) (by decide)).mpr (by omega)
  have unpadded : ¬ (Nat.toDigits 10 n ≠ ['0'] ∧ (Nat.toDigits 10 n).head? = some '0') := by
    rintro ⟨notZero, padded⟩
    rcases Nat.eq_zero_or_pos n with rfl | positive
    · exact notZero rfl
    · exact Json.head_toDigits n positive padded
  have value : (Nat.toDigits 10 n).foldl (fun n c => 10 * n + (c.toNat - '0'.toNat)) 0 = n := by
    rw [← Nat.ofDigitChars_eq_foldl, Nat.ofDigitChars_ten_toDigits]
  rw [parseOctet, if_neg, if_neg unpadded, value]
  · exact if_neg (by omega)
  · rw [digits]
    simp only [Nat.toDigits_ne_nil, not_true_eq_false, false_or]
    omega

/-- An IPv4 address is read back from its text. -/
theorem parseV4_v4Text (ip : BitVec 32) : parseV4 (v4Text ip) = some ip := by
  have octets : splitAll '.' (v4Text ip) = (positions 256 4 ip.toNat).map (Nat.toDigits 10) := by
    apply splitAll_intercalate
    · intro none
      have four := congrArg List.length none
      rw [List.length_map, length_positions] at four
      cases four
    · intro part mem dot
      obtain ⟨n, -, rfl⟩ := List.mem_map.mp mem
      exact absurd (Json.toDigits_isDigit n _ dot) (by decide)
  have read : ((positions 256 4 ip.toNat).map (Nat.toDigits 10)).mapM parseOctet = some (positions 256 4 ip.toNat) :=
    mapM_map_of_read fun n mem => parseOctet_toDigits (lt_of_mem_positions (by decide) mem)
  have value : (positions 256 4 ip.toNat).foldl (fun n o => 256 * n + o) 0 = ip.toNat :=
    horner_positions.trans (Nat.mod_eq_of_lt ip.isLt)
  rw [parseV4, octets, read]
  simp [value]

/-- What has a colon is no IPv4 address. -/
theorem parseV4_of_colon {s : List Char} (colon : ':' ∈ s) : parseV4 s = none := by
  obtain ⟨part, there, inside⟩ := @exists_part '.' ':' s colon (by decide)
  have refused : parseOctet part = none := by
    refine if_pos (.inr (.inl fun digits => ?_))
    exact absurd (List.all_eq_true.mp digits _ inside) (by decide)
  have unread : (splitAll '.' s).mapM parseOctet = none := by
    rw [← Option.not_isSome_iff_eq_none, isSome_mapM_iff]
    intro all
    have read := all part there
    rw [refused] at read
    cases read
  rw [parseV4, unread]
  rfl

/-! ## Hexadecimal digits -/

/-- A hexadecimal digit is read back. -/
theorem hexDigit_digitChar {d : Nat} (small : d < 16) : hexDigit d.digitChar = some d := by
  have all : ∀ d < 16, hexDigit d.digitChar = some d := by decide
  exact all d small

/-- What is written in hexadecimal is read back. The induction follows the digits. -/
theorem read_toDigits (n : Nat) : ∃ ds, (Nat.toDigits 16 n).mapM hexDigit = some ds ∧ horner 16 ds = n := by
  induction n using Nat.strongRecOn with
  | ind n ih =>
    rcases Nat.lt_or_ge n 16 with small | large
    · refine ⟨[n], ?_, by simp [horner]⟩
      rw [Nat.toDigits_of_lt_base small, List.mapM_cons, hexDigit_digitChar small]
      rfl
    · obtain ⟨ds, read, value⟩ := ih (n / 16) (by omega)
      refine ⟨ds ++ [n % 16], ?_, ?_⟩
      · rw [Nat.toDigits_of_base_le (by decide) large, List.mapM_append, read, List.mapM_cons,
          hexDigit_digitChar (Nat.mod_lt n (by decide))]
        rfl
      · rw [horner_append_singleton, value, Nat.div_add_mod]

/-- A hextet is written with hexadecimal digits. -/
theorem hexDigit_of_mem {c : Char} {n : Nat} (mem : c ∈ Nat.toDigits 16 n) : (hexDigit c).isSome := by
  obtain ⟨ds, read, -⟩ := read_toDigits n
  have all : ((Nat.toDigits 16 n).mapM hexDigit).isSome := by
    rw [read]
    rfl
  exact isSome_mapM_iff.mp all c mem

/-- A hextet is read back. -/
theorem parseHextet_toDigits {n : Nat} (small : n < 65536) : parseHextet (Nat.toDigits 16 n) = some n := by
  obtain ⟨ds, read, value⟩ := read_toDigits n
  have short : (Nat.toDigits 16 n).length ≤ 4 := (Nat.length_toDigits_le_iff (by decide) (by decide)).mpr small
  have folded : ds.foldl (fun n d => 16 * n + d) 0 = n := value
  rw [parseHextet, read]
  simp [short, folded]

/-! ## The run of zeros that is cut out -/

section Runs

variable {hextets before behind : List (List Char)} {values : List Nat}

/-- The invariant of the loop: the longest run of zeros and the one that ends here are where they are said to be. -/
structure ZeroRuns.Sound (runs : ZeroRuns) (seen : List (List Char)) : Prop where
  best : ∃ before behind, seen = before ++ List.replicate runs.bestLen ['0'] ++ behind ∧ before.length = runs.bestStart
  current : ∃ before, seen = before ++ List.replicate runs.len ['0'] ∧ runs.start.getD seen.length = before.length

/-- One more hextet keeps the longest run of zeros. -/
theorem ZeroRuns.Sound.step {runs : ZeroRuns} {seen : List (List Char)} (sound : runs.Sound seen) (hextet : List Char) :
    (runs.step (hextet, seen.length)).Sound (seen ++ [hextet]) := by
  obtain ⟨⟨before, behind, best, bestStart⟩, ⟨before', current, start⟩⟩ := sound
  have kept : ∃ before behind, seen ++ [hextet] = before ++ List.replicate runs.bestLen ['0'] ++ behind ∧
      before.length = runs.bestStart :=
    ⟨before, behind ++ [hextet], by rw [← List.append_assoc, ← best], bestStart⟩
  unfold ZeroRuns.step
  by_cases zero : hextet = ['0']
  · subst zero
    have longer : seen ++ [['0']] = before' ++ List.replicate (runs.len + 1) ['0'] := by
      rw [List.replicate_succ', ← List.append_assoc, ← current]
    have here : ∃ before, seen ++ [['0']] = before ++ List.replicate (runs.len + 1) ['0'] ∧
        runs.start.getD seen.length = before.length := ⟨before', longer, start⟩
    rw [if_pos rfl]
    dsimp only
    split
    · exact ⟨⟨before', [], by rw [longer, List.append_nil], start.symm⟩, here⟩
    · exact ⟨kept, here⟩
  · rw [if_neg zero]
    exact ⟨kept, seen ++ [hextet], by simp, rfl⟩

/-- So do all hextets. -/
theorem ZeroRuns.Sound.foldl {runs : ZeroRuns} {seen : List (List Char)} (sound : runs.Sound seen) :
    ((hextets.zipIdx seen.length).foldl ZeroRuns.step runs).Sound (seen ++ hextets) := by
  induction hextets generalizing runs seen with
  | nil => rwa [List.append_nil]
  | cons hextet hextets ih =>
    have rest := ih (sound.step hextet)
    rwa [List.length_append, List.length_singleton, List.append_assoc] at rest

/-- The parts on one side of the run that is cut out: an empty part stands for none. -/
def side (parts : List (List Char)) : List (List Char) := if parts = [] then [[]] else parts

@[simp]
theorem side_nil : side [] = [[]] := rfl

@[simp]
theorem side_cons {part : List Char} {parts : List (List Char)} : side (part :: parts) = part :: parts :=
  if_neg (List.cons_ne_nil _ _)

theorem ite_append_empty (whole : hextets = before ++ behind) :
    (if before.length = hextets.length then hextets ++ [[]] else hextets) = before ++ side behind := by
  subst whole
  cases behind with
  | nil => simp
  | cons part parts => simp

/-- **The compression** leaves the hextets as they are, or cuts out a run of zeros. -/
theorem compressHextets_cases (hextets : List (List Char)) : compressHextets hextets = hextets ∨
    ∃ before n behind, hextets = before ++ List.replicate (n + 2) ['0'] ++ behind ∧
      compressHextets hextets = side before ++ [] :: side behind := by
  have start : ZeroRuns.Sound {} [] := ⟨⟨[], [], rfl, rfl⟩, ⟨[], rfl, rfl⟩⟩
  have sound : (hextets.zipIdx.foldl ZeroRuns.step {}).Sound hextets := start.foldl
  obtain ⟨before, behind, whole, first⟩ := sound.best
  rw [compressHextets]
  generalize hextets.zipIdx.foldl ZeroRuns.step {} = runs at whole first ⊢
  by_cases run : 1 < runs.bestLen
  · obtain ⟨n, len⟩ : ∃ n, runs.bestLen = n + 2 := ⟨runs.bestLen - 2, by omega⟩
    refine .inr ⟨before, n, behind, by rw [whole, len], ?_⟩
    have bestEnd : runs.bestStart + runs.bestLen = (before ++ List.replicate runs.bestLen ['0']).length := by
      rw [List.length_append, List.length_replicate, first]
    simp only [if_pos run]
    rw [bestEnd, ite_append_empty whole, List.drop_left' rfl, List.append_assoc before, List.take_left' first]
    cases before with
    | nil => simp [← first]
    | cons part parts => simp [← first]
  · exact .inl (if_neg run)

/-- The parts that are written are empty or hextets. -/
theorem mem_compressHextets {part : List Char} (mem : part ∈ compressHextets hextets) : part = [] ∨ part ∈ hextets := by
  rcases compressHextets_cases hextets with same | ⟨before, n, behind, whole, cut⟩
  · exact .inr (same ▸ mem)
  · have side_mem (parts : List (List Char)) (inside : part ∈ side parts) : part = [] ∨ part ∈ parts := by
      cases parts with
      | nil => exact .inl (List.mem_singleton.mp inside)
      | cons first parts => exact .inr (by rwa [side_cons] at inside)
    rw [cut, List.mem_append, List.mem_cons] at mem
    rw [whole, List.mem_append, List.mem_append]
    rcases mem with left | rfl | right
    · exact (side_mem before left).imp_right fun inside => .inl (.inl inside)
    · exact .inl rfl
    · exact (side_mem behind right).imp_right .inr

end Runs

/-! ## Reading the hextets -/

section Hextets

variable {before behind : List (List Char)}

/-- A side of the cut is read back. -/
theorem sideOf_side (full : [] ∉ before) : sideOf (side before) = some before := by
  cases before with
  | nil => rfl
  | cons part parts =>
    rw [side_cons]
    exact if_pos full

/-- No part is empty where nothing was cut out. -/
theorem findIdxs_nil_of_full {parts : List (List Char)} (full : [] ∉ parts) {start : Nat} :
    parts.findIdxs (· = []) start = [] := by
  rw [List.findIdxs_eq_nil_iff]
  intro part mem
  exact decide_eq_false fun empty => full (empty ▸ mem)

theorem side_eq_cons (full : [] ∉ before) : ∃ part parts, side before = part :: parts ∧ [] ∉ parts := by
  cases before with
  | nil => exact ⟨[], [], rfl, List.not_mem_nil⟩
  | cons part parts => exact ⟨part, parts, side_cons, fun mem => full (List.mem_cons_of_mem _ mem)⟩

theorem side_eq_append (full : [] ∉ before) : ∃ parts part, side before = parts ++ [part] ∧ [] ∉ parts := by
  rcases List.eq_nil_or_concat' before with rfl | ⟨parts, part, rfl⟩
  · exact ⟨[], [], rfl, List.not_mem_nil⟩
  · refine ⟨parts, part, if_neg (by simp), fun mem => full (List.mem_append_left _ mem)⟩

/-- The part that is cut out is found. -/
theorem findIdxs_cut (hi : [] ∉ before) (lo : [] ∉ behind) : ∃ k, (side before).length = k + 1 ∧
    ((side before ++ [] :: side behind).drop 1).dropLast.findIdxs (· = []) = [k] := by
  obtain ⟨first, inner, left, fullLeft⟩ := side_eq_cons hi
  obtain ⟨inner', last, right, fullRight⟩ := side_eq_append lo
  refine ⟨inner.length, by rw [left, List.length_cons], ?_⟩
  have parts : ((side before ++ [] :: side behind).drop 1).dropLast = inner ++ [] :: inner' := by
    rw [left, right, List.cons_append, List.drop_one, List.tail_cons, ← List.cons_append, ← List.append_assoc,
      List.dropLast_concat]
  rw [parts, List.findIdxs_append, findIdxs_nil_of_full fullLeft, List.findIdxs_cons, findIdxs_nil_of_full fullRight]
  simp

/-- The hextets around the part that is cut out. -/
theorem hextets_cut {hi lo : List Nat} (full : [] ∉ before) (full' : [] ∉ behind)
    (left : before.mapM parseHextet = some hi) (right : behind.mapM parseHextet = some lo)
    (short : before.length + behind.length ≤ 7) : hextets (side before ++ [] :: side behind) =
      some (hi ++ List.replicate (8 - (before.length + behind.length)) 0 ++ lo) := by
  obtain ⟨k, len, found⟩ := findIdxs_cut full full'
  have upTo : (side before ++ [] :: side behind).take (k + 1) = side before := List.take_left' len
  have since : (side before ++ [] :: side behind).drop (k + 2) = side behind := by
    rw [List.append_cons, List.drop_left' (by rw [List.length_append, len, List.length_singleton])]
  rw [hextets, found]
  dsimp only
  rw [upTo, since, sideOf_side full, sideOf_side full']
  simp [Nat.not_lt.mpr short, left, right]

/-- Hextets that are not compressed. -/
theorem hextets_full {parts : List (List Char)} (full : [] ∉ parts) (eight : parts.length = 8) :
    hextets parts = parts.mapM parseHextet := by
  have inner : ((parts.drop 1).dropLast).findIdxs (· = []) = [] :=
    findIdxs_nil_of_full fun mem => full (List.mem_of_mem_drop (List.dropLast_subset _ mem))
  rw [hextets, inner]
  exact if_pos eight

/-- Only zero is written as zero. -/
theorem eq_zero_of_toDigits {n : Nat} (zero : Nat.toDigits 16 n = ['0']) : n = 0 := by
  obtain ⟨ds, read, value⟩ := read_toDigits n
  rw [zero] at read
  cases read
  exact value.symm

/-- **The hextets are read back.** -/
theorem hextets_compressHextets {values : List Nat} (eight : values.length = 8) (small : ∀ n ∈ values, n < 65536) :
    hextets (compressHextets (values.map (Nat.toDigits 16))) = some values := by
  have read (ns : List Nat) (mem : ∀ n ∈ ns, n ∈ values) :
      (ns.map (Nat.toDigits 16)).mapM parseHextet = some ns :=
    mapM_map_of_read fun n inside => parseHextet_toDigits (small n (mem n inside))
  have full (ns : List Nat) : [] ∉ ns.map (Nat.toDigits 16) := by
    intro mem
    obtain ⟨n, -, none⟩ := List.mem_map.mp mem
    exact Nat.toDigits_ne_nil none
  rcases compressHextets_cases (values.map (Nat.toDigits 16)) with same | ⟨before, n, behind, whole, cut⟩
  · rw [same, hextets_full (full values) (by rw [List.length_map, eight]), read values fun _ => id]
  · obtain ⟨rest, lo, rfl, most, rfl⟩ := List.map_eq_append_iff.mp whole
    obtain ⟨hi, run, rfl, rfl, zeros⟩ := List.map_eq_append_iff.mp most
    have allZero : run = List.replicate (n + 2) 0 := by
      have len : run.length = n + 2 := by rw [← List.length_map (f := Nat.toDigits 16), zeros, List.length_replicate]
      rw [← len]
      refine List.eq_replicate_of_mem fun d mem => eq_zero_of_toDigits ?_
      have there : Nat.toDigits 16 d ∈ run.map (Nat.toDigits 16) := List.mem_map_of_mem mem
      rw [zeros] at there
      exact List.eq_of_mem_replicate there
    subst allZero
    have lengths : hi.length + (n + 2 + lo.length) = 8 := by simpa using eight
    rw [cut, hextets_cut (full hi) (full lo) (read hi (by simp +contextual)) (read lo (by simp +contextual))
      (by simp only [List.length_map]; omega)]
    simp only [List.length_map]
    have missing : 8 - (hi.length + lo.length) = n + 2 := by omega
    rw [missing]

end Hextets

/-! ## IPv6 -/

section V6

variable {ip : BitVec 128} {c : Char}

/-- The hextets of an address, written out. -/
def written (ip : BitVec 128) : List (List Char) := (positions 65536 8 ip.toNat).map (Nat.toDigits 16)

/-- The parts of an address have hexadecimal digits only. -/
theorem hexDigit_of_part {part : List Char} (there : part ∈ compressHextets (written ip)) (inside : c ∈ part) :
    (hexDigit c).isSome := by
  rcases mem_compressHextets there with rfl | mem
  · cases inside
  · obtain ⟨n, -, rfl⟩ := List.mem_map.mp mem
    exact hexDigit_of_mem inside

/-- There are three parts at least. -/
theorem three_le_length_compressHextets : 3 ≤ (compressHextets (written ip)).length := by
  rcases compressHextets_cases (written ip) with same | ⟨before, n, behind, -, cut⟩
  · rw [same, written, List.length_map, length_positions]
    decide
  · have side_pos (parts : List (List Char)) : 0 < (side parts).length := by cases parts <;> simp
    have left := side_pos before
    have right := side_pos behind
    rw [cut, List.length_append, List.length_cons]
    omega

/-- The parts of the text are those it was joined from. -/
theorem splitAll_v6Text : splitAll ':' (v6Text ip) = compressHextets (written ip) := by
  have long := @three_le_length_compressHextets ip
  apply splitAll_intercalate
  · intro empty
    have shorter : (compressHextets (written ip)).length = 0 := congrArg List.length empty
    omega
  · intro part there colon
    exact absurd (hexDigit_of_part there colon) (by decide)

/-- The text of an IPv6 address has a colon. -/
theorem colon_mem_v6Text (ip : BitVec 128) : ':' ∈ v6Text ip := by
  by_contra absent
  have long := @three_le_length_compressHextets ip
  rw [← splitAll_v6Text, splitAll_of_not_mem absent] at long
  cases long with
  | step long => cases long

/-- It has colons and hexadecimal digits only. -/
theorem mem_v6Text (mem : c ∈ v6Text ip) : c = ':' ∨ (hexDigit c).isSome := by
  by_cases colon : c = ':'
  · exact .inl colon
  · obtain ⟨part, there, inside⟩ := exists_part mem colon
    rw [splitAll_v6Text] at there
    exact .inr (hexDigit_of_part there inside)

theorem not_mem_v6Text (other : c ≠ ':') (noDigit : hexDigit c = none) : c ∉ v6Text ip := by
  intro mem
  rcases mem_v6Text mem with colon | digit
  · exact other colon
  · rw [noDigit] at digit
    cases digit

/-- An IPv6 address is read back from its text. -/
theorem parseV6Int_v6Text (ip : BitVec 128) : parseV6Int (v6Text ip) = some ip := by
  have undotted : '.' ∉ (compressHextets (written ip)).getLast?.getD [] := by
    cases last : (compressHextets (written ip)).getLast? with
    | none => exact List.not_mem_nil
    | some part =>
      intro dot
      exact absurd (hexDigit_of_part (List.mem_of_getLast? last) dot) (by decide)
  have words : hextets (compressHextets (written ip)) = some (positions 65536 8 ip.toNat) :=
    hextets_compressHextets length_positions fun n mem => lt_of_mem_positions (by decide) mem
  have value : (positions 65536 8 ip.toNat).foldl (fun n w => 65536 * n + w) 0 = ip.toNat :=
    horner_positions.trans (Nat.mod_eq_of_lt ip.isLt)
  rw [parseV6Int, splitAll_v6Text]
  simp [Nat.not_lt.mpr three_le_length_compressHextets, undotted, words, value]

end V6

/-! ## Addresses -/

/-- A scope that an address can have. -/
def IpAddress.WellFormed : IpAddress → Prop
  | v6 _ (some scopeId) => scopeId ≠ [] ∧ '%' ∉ scopeId ∧ '/' ∉ scopeId
  | _ => True

/-- **The text of an address is read back.** -/
theorem ipAddress_str {a : IpAddress} (wellFormed : a.WellFormed) : ipAddress a.str = some a := by
  cases a with
  | v4 ip =>
    rw [ipAddress, IpAddress.str, parseV4_v4Text]
    rfl
  | v6 ip scope =>
    have slash : '/' ∉ v6Text ip := not_mem_v6Text (by decide) (by decide)
    have percent : '%' ∉ v6Text ip := not_mem_v6Text (by decide) (by decide)
    cases scope with
    | none =>
      rw [ipAddress, IpAddress.str, parseV4_of_colon (colon_mem_v6Text ip), parseV6, if_neg slash,
        partition_of_not_mem percent]
      simp [parseV6Int_v6Text]
    | some scopeId =>
      obtain ⟨nonempty, single, unslashed⟩ := wellFormed
      have colon : ':' ∈ v6Text ip ++ '%' :: scopeId := List.mem_append_left _ (colon_mem_v6Text ip)
      have noSlash : '/' ∉ v6Text ip ++ '%' :: scopeId := by simp [slash, unslashed]
      rw [ipAddress, IpAddress.str, parseV4_of_colon colon, parseV6, if_neg noSlash, partition_append percent]
      simp [nonempty, single, parseV6Int_v6Text]

/-- Two addresses that are read have different texts. -/
theorem str_injective {a b : IpAddress} (left : a.WellFormed) (right : b.WellFormed) (same : a.str = b.str) : a = b := by
  have read := ipAddress_str left
  rw [same, ipAddress_str right] at read
  exact (Option.some.inj read).symm

end NodePilot.Urls

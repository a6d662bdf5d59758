import NodePilot.Agent.DomainXml
import NodePilot.Lib.Xml
import Mathlib.Data.List.Infix

/-!
# Escaped texts

`escape` replaces one character after the other in the whole text. The `&` comes first, so no replacement touches
what an earlier one has put in, and the text is escaped character by character (`escape_cons`). From that follows
what a reader makes of it: the text itself.
-/

namespace NodePilot.Agent

open Lib

/-! ## Character by character -/

/-- What `escape` makes of one character. -/
def escapeChar (c : Char) : Text :=
  if c = '&' then "&amp;".toList
  else if c = '>' then "&gt;".toList
  else if c = '<' then "&lt;".toList
  else if c = '"' then "&quot;".toList
  else if c = '\'' then "&apos;".toList
  else [c]

theorem replaceChar_append {c : Char} {by' xs ys : Text} :
    replaceChar c by' (xs ++ ys) = replaceChar c by' xs ++ replaceChar c by' ys := List.flatMap_append

theorem escape_append {xs ys : Text} : escape (xs ++ ys) = escape xs ++ escape ys := by
  simp only [escape, replaceChar_append]

theorem replaceChar_of_ne {c x : Char} {by' : Text} (h : x ≠ c) : replaceChar c by' [x] = [x] := by
  simp [replaceChar, h]

theorem escape_singleton (c : Char) : escape [c] = escapeChar c := by
  unfold escapeChar
  split_ifs with amp greater less quote apostrophe
  · rw [amp]
    decide
  · rw [greater]
    decide
  · rw [less]
    decide
  · rw [quote]
    decide
  · rw [apostrophe]
    decide
  · rw [escape, replaceChar_of_ne amp, replaceChar_of_ne greater, replaceChar_of_ne less, replaceChar_of_ne quote,
      replaceChar_of_ne apostrophe]

theorem escape_nil : escape [] = [] := rfl

theorem escape_cons (c : Char) (text : Text) : escape (c :: text) = escapeChar c ++ escape text := by
  rw [← escape_singleton, ← escape_append]
  rfl

/-! ## Reading it back -/

/-- The characters that cannot stand in an attribute value, and the two that may end one. -/
def isDelimiter (c : Char) : Bool := c = '<' ∨ c = '>' ∨ c = '"' ∨ c = '\''

/-- The five entities and their characters. -/
def entities : List (Text × Char) :=
  [("&amp;".toList, '&'), ("&gt;".toList, '>'), ("&lt;".toList, '<'), ("&quot;".toList, '"'), ("&apos;".toList, '\'')]

/-- The text with every reference to one of the entities replaced, from left to right. -/
def unescape : Text → Text
  | '&' :: 'a' :: 'm' :: 'p' :: ';' :: rest => '&' :: unescape rest
  | '&' :: 'g' :: 't' :: ';' :: rest => '>' :: unescape rest
  | '&' :: 'l' :: 't' :: ';' :: rest => '<' :: unescape rest
  | '&' :: 'q' :: 'u' :: 'o' :: 't' :: ';' :: rest => '"' :: unescape rest
  | '&' :: 'a' :: 'p' :: 'o' :: 's' :: ';' :: rest => '\'' :: unescape rest
  | c :: rest => c :: unescape rest
  | [] => []

theorem unescape_cons {c : Char} (plain : c ≠ '&') (rest : Text) : unescape (c :: rest) = c :: unescape rest := by
  simp [unescape, plain]

theorem unescape_escapeChar (c : Char) (rest : Text) : unescape (escapeChar c ++ rest) = c :: unescape rest := by
  unfold escapeChar
  split_ifs with amp greater less quote apostrophe
  · rw [amp]
    rfl
  · rw [greater]
    rfl
  · rw [less]
    rfl
  · rw [quote]
    rfl
  · rw [apostrophe]
    rfl
  · exact unescape_cons amp rest

theorem unescape_escape (text : Text) : unescape (escape text) = text := by
  induction text with
  | nil => rfl
  | cons c text ih => rw [escape_cons, unescape_escapeChar, ih]

theorem mem_entities_escapeChar (c : Char) :
    (escapeChar c, c) ∈ entities ∨ escapeChar c = [c] ∧ c ≠ '&' ∧ isDelimiter c = false := by
  unfold escapeChar
  split_ifs with amp greater less quote apostrophe
  · rw [amp]
    exact .inl (by decide)
  · rw [greater]
    exact .inl (by decide)
  · rw [less]
    exact .inl (by decide)
  · rw [quote]
    exact .inl (by decide)
  · rw [apostrophe]
    exact .inl (by decide)
  · exact .inr ⟨rfl, amp, by simp [isDelimiter, greater, less, quote, apostrophe]⟩

theorem isDelimiter_escape (text : Text) : ∀ x ∈ escape text, isDelimiter x = false := by
  induction text with
  | nil => exact List.forall_mem_nil _
  | cons c text ih =>
    have entity : ∀ e ∈ entities, ∀ x ∈ e.1, isDelimiter x = false := by
      simp [entities, isDelimiter]
    rw [escape_cons, List.forall_mem_append]
    rcases mem_entities_escapeChar c with escaped | ⟨same, -, plain⟩
    · exact ⟨entity _ escaped, ih⟩
    · rw [same, List.forall_mem_singleton]
      exact ⟨plain, ih⟩

/-- The `&` of an escaped character is the first of one of the entities. -/
theorem entity_of_escapeChar {c : Char} {rest : Text} (h : '&' :: rest <:+ escapeChar c) :
    ∃ e ∈ entities, e.1 = '&' :: rest := by
  have whole : ∀ e ∈ entities, ∀ t ∈ e.1.tails, t.head? = some '&' → t = e.1 := by decide
  rcases mem_entities_escapeChar c with escaped | ⟨same, plain, -⟩
  · exact ⟨_, escaped, (whole _ escaped _ ((List.mem_tails _ _).mpr h) rfl).symm⟩
  · rw [same] at h
    have first : '&' ∈ [c] := h.subset List.mem_cons_self
    exact absurd (List.mem_singleton.mp first).symm plain

theorem entity_of_escape {text rest : Text} (h : '&' :: rest <:+ escape text) :
    ∃ e ∈ entities, e.1 <+: '&' :: rest := by
  induction text with
  | nil => cases List.suffix_nil.mp h
  | cons c text ih =>
    obtain ⟨before, same⟩ := h
    rw [escape_cons] at same
    -- the `&` is in what `c` becomes, or after it
    rcases List.append_eq_append_iff.mp same with ⟨inside, own, later⟩ | ⟨between, -, later⟩
    · cases inside with
      | nil => exact ih (later ▸ List.suffix_refl _)
      | cons x inside =>
        obtain ⟨rfl, rfl⟩ := List.cons.inj later
        obtain ⟨e, known, entity⟩ := entity_of_escapeChar ⟨before, own.symm⟩
        exact ⟨e, known, entity ▸ List.prefix_append _ _⟩
    · exact ih ⟨between, later.symm⟩

/-! ## In a document -/

theorem spells_escapeChar {c : Char} (legal : Xml.isChar c = true) : Xml.Spells (escapeChar c) [Xml.blank c] := by
  unfold escapeChar
  split_ifs with amp greater less quote apostrophe
  · rw [amp]
    exact (Xml.spells_reference rfl rfl : Xml.Spells ('&' :: "amp".toList ++ [';']) ['&'])
  · rw [greater]
    exact (Xml.spells_reference rfl rfl : Xml.Spells ('&' :: "gt".toList ++ [';']) ['>'])
  · rw [less]
    exact (Xml.spells_reference rfl rfl : Xml.Spells ('&' :: "lt".toList ++ [';']) ['<'])
  · rw [quote]
    exact (Xml.spells_reference rfl rfl : Xml.Spells ('&' :: "quot".toList ++ [';']) ['"'])
  · rw [apostrophe]
    exact (Xml.spells_reference rfl rfl : Xml.Spells ('&' :: "apos".toList ++ [';']) ['\''])
  · exact Xml.spells_quotable (List.forall_mem_singleton.mpr ⟨legal, by simp [Xml.isQuotable, amp, less, quote]⟩)

/-- An escaped text is read back. -/
theorem spells_escape {text : Text} (legal : ∀ c ∈ text, Xml.isChar c = true) :
    Xml.Spells (escape text) (text.map Xml.blank) := by
  induction text with
  | nil => exact escape_nil ▸ Xml.Spells.nil
  | cons c text ih =>
    obtain ⟨hc, legal⟩ := List.forall_mem_cons.mp legal
    rw [escape_cons]
    exact (spells_escapeChar hc).append (ih legal)

theorem isChar_of_escape {text : Text} (h : ∀ c ∈ escape text, Xml.isChar c = true) :
    ∀ c ∈ text, Xml.isChar c = true := by
  induction text with
  | nil => exact List.forall_mem_nil _
  | cons c text ih =>
    rw [escape_cons, List.forall_mem_append] at h
    refine List.forall_mem_cons.mpr ⟨?_, ih h.2⟩
    have first := h.1
    unfold escapeChar at first
    split_ifs at first with amp greater less quote apostrophe
    · rw [amp]
      rfl
    · rw [greater]
      rfl
    · rw [less]
      rfl
    · rw [quote]
      rfl
    · rw [apostrophe]
      rfl
    · exact first c (List.mem_singleton_self c)

/-! ## The law -/

/-- **Escaping is faithful.** An escaped text reads as the text itself, has no delimiter, and every `&` in it begins
one of the five entities; so different texts stay different. -/
theorem escape_faithful : (∀ text : Text, unescape (escape text) = text ∧
    (∀ c ∈ escape text, c ≠ '<' ∧ c ≠ '>' ∧ c ≠ '"' ∧ c ≠ '\'') ∧
    ∀ rest, '&' :: rest <:+ escape text → ∃ e ∈ entities, e.1 <+: '&' :: rest) ∧
    Function.Injective escape := by
  constructor
  · intro text
    refine ⟨unescape_escape text, fun c hc => ?_, fun rest => entity_of_escape⟩
    simpa [isDelimiter] using isDelimiter_escape text c hc
  · exact Function.LeftInverse.injective unescape_escape

end NodePilot.Agent

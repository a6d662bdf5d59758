import Mathlib.Data.List.Basic

/-!
# Reading XML

A reader of documents that are made of elements, attributes and character data. It takes one character after
the other, and its state holds the elements that are open. Comments, processing instructions, CDATA sections
and declarations are not read: a document that has one is refused.

A text that is put together from pieces is read piece by piece: `Reads` is closed under appending, and
`Writes` has one rule for each way to write an element. What has been read stays: `Leads` says what the states
of a reading have in common with the document it ends with.
-/

namespace NodePilot.Lib.Xml

/-- A node of a document: an element, or the text between elements. -/
inductive Node
  | element (name : List Char) (attributes : List (List Char × List Char)) (children : List Node)
  | text (data : List Char)

/-! ## Asking for parts -/

namespace Node

/-- The name of an element. -/
def name : Node → List Char
  | .element name _ _ => name
  | .text _ => []

/-- The attributes of an element, in the order of the document. -/
def attributes : Node → List (List Char × List Char)
  | .element _ attributes _ => attributes
  | .text _ => []

/-- What stands between the tags of an element. -/
def children : Node → List Node
  | .element _ _ children => children
  | .text _ => []

/-- The value of an attribute. -/
def get (n : Node) (name : List Char) : Option (List Char) := (n.attributes.find? (·.1 = name)).map (·.2)

/-- The first child with a name. -/
def find (n : Node) (name : List Char) : Option Node := n.children.find? (·.name = name)

/-- The character data an element begins with. -/
def data (n : Node) : List Char :=
  match n.children with
  | .text data :: _ => data
  | _ => []

/-- The value of an attribute of the first child with a name. -/
def getIn (n : Node) (child name : List Char) : Option (List Char) := (n.find child).bind (·.get name)

variable {name name' child attr value : List Char} {attributes attributes' : List (List Char × List Char)}
  {kids inner : List Node}

theorem name_element : (element name attributes kids).name = name := by rw [Node.name]

theorem get_nil : (element name [] kids).get child = none := by
  simp [get, Node.attributes]

theorem get_cons : (element name ((name', value) :: attributes) kids).get child =
    if name' = child then some value else (element name attributes kids).get child := by
  show (((name', value) :: attributes).find? (·.1 = child)).map Prod.snd = _
  rw [List.find?_cons]
  by_cases here : name' = child
  · simp [here]
  · simp only [here, decide_false, if_false]
    rfl

theorem find_cons : (element name attributes (element name' attributes' inner :: kids)).find child =
    if name' = child then some (element name' attributes' inner) else (element name attributes kids).find child := by
  show (element name' attributes' inner :: kids).find? (·.name = child) = _
  rw [List.find?_cons]
  by_cases here : name' = child
  · simp [Node.name, here]
  · simp only [Node.name, here, decide_false, if_false]
    rfl

theorem getIn_cons : (element name attributes (element name' attributes' inner :: kids)).getIn child attr =
    if name' = child then (element name' attributes' inner).get attr
    else (element name attributes kids).getIn child attr := by
  unfold getIn
  rw [find_cons]
  split <;> rfl

end Node

/-! ## Characters -/

/-- `Char`. -/
def isChar (c : Char) : Bool :=
  c = '\t' ∨ c = '\n' ∨ c = '\r' ∨ (0x20 ≤ c.toNat ∧ c.toNat ≠ 0xfffe ∧ c.toNat ≠ 0xffff)

/-- `S`. -/
def isSpace (c : Char) : Bool := c = ' ' ∨ c = '\t' ∨ c = '\n' ∨ c = '\r'

/-- What a character of a value is read as. -/
def blank (c : Char) : Char := if isSpace c then ' ' else c

/-- `NameStartChar` -/
def nameStarts : List (Nat × Nat) :=
  [(0x3a, 0x3a), (0x41, 0x5a), (0x5f, 0x5f), (0x61, 0x7a), (0xc0, 0xd6), (0xd8, 0xf6), (0xf8, 0x2ff), (0x370, 0x37d),
    (0x37f, 0x1fff), (0x200c, 0x200d), (0x2070, 0x218f), (0x2c00, 0x2fef), (0x3001, 0xd7ff), (0xf900, 0xfdcf),
    (0xfdf0, 0xfffd), (0x10000, 0xeffff)]

/-- The character may begin a name. -/
def isNameStart (c : Char) : Bool := nameStarts.any fun r => r.1 ≤ c.toNat ∧ c.toNat ≤ r.2

/-- `NameChar` -/
def isNameChar (c : Char) : Bool :=
  isNameStart c ∨ c = '-' ∨ c = '.' ∨ c.isDigit ∨ c.toNat = 0xb7 ∨ (0x300 ≤ c.toNat ∧ c.toNat ≤ 0x36f) ∨
    (0x203f ≤ c.toNat ∧ c.toNat ≤ 0x2040)

/-- A digit of a character reference. -/
def digitOf (base : Nat) (c : Char) : Option Nat :=
  let value :=
    if c.isDigit then c.toNat - '0'.toNat
    else if 'a' ≤ c ∧ c ≤ 'f' then c.toNat - 'a'.toNat + 10
    else if 'A' ≤ c ∧ c ≤ 'F' then c.toNat - 'A'.toNat + 10
    else base
  if value < base then some value else none

/-- The character with a number. -/
def charOf (n : Nat) : Option Char :=
  if n.isValidChar ∧ isChar (Char.ofNat n) then some (Char.ofNat n) else none

/-- The character of a numeric reference. -/
def numbered (base : Nat) (digits : List Char) : Option Char :=
  if digits = [] then none
  else (digits.foldlM (fun n c => (digitOf base c).map (base * n + ·)) 0).bind charOf

/-- What stands for the text between `&` and `;`. -/
def reference : List Char → Option Char
  | ['l', 't'] => some '<'
  | ['g', 't'] => some '>'
  | ['a', 'm', 'p'] => some '&'
  | ['a', 'p', 'o', 's'] => some '\''
  | ['q', 'u', 'o', 't'] => some '"'
  | '#' :: 'x' :: digits => numbered 16 digits
  | '#' :: digits => numbered 10 digits
  | _ => none

/-! ## The reader -/

/-- An element that is open. -/
structure Frame where
  name : List Char
  attributes : List (List Char × List Char) := []
  children : List Node := []

/-- The element of an open frame, once it is closed. -/
def Frame.node (f : Frame) : Node := .element f.name f.attributes f.children

/-- What is being read. -/
inductive Mode
  /-- Character data. -/
  | data (read : List Char)
  | dataReference (read ref : List Char)
  /-- After `<`. -/
  | markup
  | startName (name : List Char)
  /-- In a start tag, after blank space or not. -/
  | tag (spaced : Bool)
  | attributeName (name : List Char)
  | beforeEqual (name : List Char)
  | afterEqual (name : List Char)
  | value (name : List Char) (quote : Char) (read : List Char)
  | valueReference (name : List Char) (quote : Char) (read ref : List Char)
  /-- After the `/` of an empty element. -/
  | emptyElement
  /-- After `</`. -/
  | endMark
  | endName (name : List Char)
  | endSpace (name : List Char)

/-- What the reader has read so far. -/
structure State where
  /-- The elements that are open, innermost first. -/
  frames : List Frame := []
  root : Option Node := none
  mode : Mode := .data []

namespace State

/-- The same state in another mode. -/
def into (s : State) (mode : Mode) : State := { s with mode := mode }

/-- A start tag. There is one root. -/
def push (s : State) (name : List Char) (mode : Mode) : Option State :=
  if s.frames = [] ∧ s.root.isSome then none
  else some { s with frames := { name := name } :: s.frames, mode := mode }

/-- A node is complete. -/
def addNode (s : State) (node : Node) : State :=
  match s.frames with
  | [] => { s with root := some node }
  | f :: fs => { s with frames := { f with children := f.children ++ [node] } :: fs }

/-- The character data before a tag; around the root it is blank. -/
def flush (s : State) (read : List Char) : Option State :=
  if read = [] then some s
  else if s.frames = [] then if read.all isSpace then some s else none
  else some (s.addNode (.text read))

/-- An attribute is complete. No two of an element have one name. -/
def addAttribute (s : State) (name value : List Char) : Option State :=
  match s.frames with
  | [] => none
  | f :: fs =>
    if f.attributes.any (·.1 = name) then none
    else some { s with frames := { f with attributes := f.attributes ++ [(name, value)] } :: fs, mode := .tag false }

/-- The innermost element is complete. -/
def close (s : State) : Option State :=
  match s.frames with
  | [] => none
  | f :: fs => some ({ s with frames := fs, mode := .data [] }.addNode f.node)

/-- An end tag. -/
def closeNamed (s : State) (name : List Char) : Option State :=
  if (s.frames.head?.map (·.name)) = some name then s.close else none

/-- A character that is an `isChar`. -/
def step (s : State) (c : Char) : Option State :=
  if ¬ isChar c then none
  else match s.mode with
  | .data read =>
    if c = '<' then (s.flush read).map (·.into .markup)
    else if c = '&' then some (s.into (.dataReference read []))
    else if c = '>' ∧ [']', ']'].isSuffixOf read then none
    else some (s.into (.data (read ++ [c])))
  | .dataReference read ref =>
    if c = ';' then (reference ref).map fun d => s.into (.data (read ++ [d]))
    else some (s.into (.dataReference read (ref ++ [c])))
  | .markup =>
    if c = '/' then some (s.into .endMark)
    else if isNameStart c then some (s.into (.startName [c])) else none
  | .startName name =>
    if isNameChar c then some (s.into (.startName (name ++ [c])))
    else if isSpace c then s.push name (.tag true)
    else if c = '/' then s.push name .emptyElement
    else if c = '>' then s.push name (.data []) else none
  | .tag spaced =>
    if isSpace c then some (s.into (.tag true))
    else if c = '/' then some (s.into .emptyElement)
    else if c = '>' then some (s.into (.data []))
    else if spaced ∧ isNameStart c then some (s.into (.attributeName [c])) else none
  | .attributeName name =>
    if isNameChar c then some (s.into (.attributeName (name ++ [c])))
    else if c = '=' then some (s.into (.afterEqual name))
    else if isSpace c then some (s.into (.beforeEqual name)) else none
  | .beforeEqual name =>
    if c = '=' then some (s.into (.afterEqual name))
    else if isSpace c then some s else none
  | .afterEqual name =>
    if c = '"' ∨ c = '\'' then some (s.into (.value name c []))
    else if isSpace c then some s else none
  | .value name quote read =>
    if c = quote then s.addAttribute name read
    else if c = '<' then none
    else if c = '&' then some (s.into (.valueReference name quote read []))
    else some (s.into (.value name quote (read ++ [blank c])))
  | .valueReference name quote read ref =>
    if c = ';' then (reference ref).map fun d => s.into (.value name quote (read ++ [d]))
    else some (s.into (.valueReference name quote read (ref ++ [c])))
  | .emptyElement => if c = '>' then s.close else none
  | .endMark => if isNameStart c then some (s.into (.endName [c])) else none
  | .endName name =>
    if isNameChar c then some (s.into (.endName (name ++ [c])))
    else if c = '>' then s.closeNamed name
    else if isSpace c then some (s.into (.endSpace name)) else none
  | .endSpace name =>
    if c = '>' then s.closeNamed name
    else if isSpace c then some s else none

/-- The document that has been read. -/
def finish (s : State) : Option Node :=
  match s.mode with
  | .data read => if s.frames = [] ∧ read.all isSpace then s.root else none
  | _ => none

end State

/-- The root of a well-formed document. -/
def parse (text : List Char) : Option Node := (text.foldlM State.step {}).bind State.finish

/-! ## Reading piece by piece -/

/-- A piece of a text leads from one state to another. -/
def Reads (text : List Char) (s s' : State) : Prop := text.foldlM State.step s = some s'

theorem Reads.nil {s : State} : Reads [] s s := rfl

/-- Texts are read one after the other. -/
theorem Reads.append {text text' : List Char} {s s' s'' : State} (h : Reads text s s') (h' : Reads text' s' s'') :
    Reads (text ++ text') s s'' := by
  unfold Reads at *
  rw [List.foldlM_append, h]
  exact h'

/-- A text is read character by character. -/
theorem Reads.cons {c : Char} {text : List Char} {s s' s'' : State} (h : s.step c = some s') (h' : Reads text s' s'') :
    Reads (c :: text) s s'' := by
  unfold Reads at *
  rw [List.foldlM_cons, h]
  exact h'

theorem Reads.char {c : Char} {s s' : State} (h : s.step c = some s') : Reads [c] s s' := Reads.cons h .nil

/-- Whoever reads two texts reads the second from where the first ends. -/
theorem reads_append_iff {text text' : List Char} {s s' : State} :
    Reads (text ++ text') s s' ↔ ∃ t, Reads text s t ∧ Reads text' t s' := by
  simp only [Reads, List.foldlM_append, Option.bind_eq_bind, Option.bind_eq_some_iff]

/-- The reader is deterministic. -/
theorem Reads.unique {text : List Char} {s t t' : State} (h : Reads text s t) (h' : Reads text s t') : t = t' :=
  Option.some.inj (h.symm.trans h')

/-- A mode that collects what it reads. -/
theorem reads_while {s : State} {mode : List Char → Mode} {P : Char → Prop}
    (step : ∀ read c, P c → (s.into (mode read)).step c = some (s.into (mode (read ++ [c]))))
    {text : List Char} (all : ∀ c ∈ text, P c) (read : List Char) :
    Reads text (s.into (mode read)) (s.into (mode (read ++ text))) := by
  induction text generalizing read with
  | nil =>
    rw [List.append_nil]
    exact .nil
  | cons c text ih =>
    obtain ⟨hc, all⟩ := List.forall_mem_cons.mp all
    have rest := ih all (read ++ [c])
    rw [List.append_assoc] at rest
    exact .cons (step read c hc) rest

/-! ## Names -/

/-- The text is a name. -/
def isName : List Char → Bool
  | [] => false
  | c :: rest => isNameStart c && (c :: rest).all fun d => isChar d && isNameChar d

theorem ne_of_isNameStart {c d : Char} (h : isNameStart c = true) (hd : isNameStart d = false) : c ≠ d := by
  rintro rfl
  rw [h] at hd
  cases hd

variable {name : List Char} {s : State}

/-- A name is a first character and others. -/
theorem isName_cons (h : isName name = true) : ∃ c rest, name = c :: rest ∧ isNameStart c = true ∧ isChar c = true ∧
    ∀ d ∈ rest, isChar d = true ∧ isNameChar d = true := by
  cases name with
  | nil => cases h
  | cons c rest =>
    simp only [isName, List.all_cons, Bool.and_eq_true, List.all_eq_true] at h
    exact ⟨c, rest, rfl, h.1, h.2.1.1, h.2.2⟩

/-- A name is read after the opening bracket. -/
theorem reads_startName (h : isName name = true) : Reads name (s.into .markup) (s.into (.startName name)) := by
  obtain ⟨c, rest, rfl, start, legal, all⟩ := isName_cons h
  have first : (s.into .markup).step c = some (s.into (.startName [c])) := by
    simp [State.step, State.into, legal, start, ne_of_isNameStart start (d := '/') (by decide)]
  exact .cons first (reads_while (fun read d hd => by simp [State.step, State.into, hd.1, hd.2]) all [c])

/-- A name is read where an attribute may stand. -/
theorem reads_attributeName (h : isName name = true) :
    Reads name (s.into (.tag true)) (s.into (.attributeName name)) := by
  obtain ⟨c, rest, rfl, start, legal, all⟩ := isName_cons h
  have blank : isSpace c = false := by
    simp [isSpace, ne_of_isNameStart start (d := ' ') (by decide), ne_of_isNameStart start (d := '\t') (by decide),
      ne_of_isNameStart start (d := '\n') (by decide), ne_of_isNameStart start (d := '\r') (by decide)]
  have first : (s.into (.tag true)).step c = some (s.into (.attributeName [c])) := by
    simp [State.step, State.into, legal, start, blank, ne_of_isNameStart start (d := '/') (by decide),
      ne_of_isNameStart start (d := '>') (by decide)]
  exact .cons first (reads_while (fun read d hd => by simp [State.step, State.into, hd.1, hd.2]) all [c])

/-- A name is read in a closing tag. -/
theorem reads_endName (h : isName name = true) : Reads name (s.into .endMark) (s.into (.endName name)) := by
  obtain ⟨c, rest, rfl, start, legal, all⟩ := isName_cons h
  have first : (s.into .endMark).step c = some (s.into (.endName [c])) := by
    simp [State.step, State.into, legal, start]
  exact .cons first (reads_while (fun read d hd => by simp [State.step, State.into, hd.1, hd.2]) all [c])

/-! ## Spellings -/

/-- A way to write the value of an attribute between double quotes. -/
def Spells (raw value : List Char) : Prop :=
  ∀ (s : State) (name read : List Char),
    Reads raw (s.into (.value name '"' read)) (s.into (.value name '"' (read ++ value)))

/-- A way to write character data. -/
def SpellsData (raw data : List Char) : Prop :=
  ∀ (s : State) (read : List Char), Reads raw (s.into (.data read)) (s.into (.data (read ++ data)))

/-- A character that may be in a value as it stands. -/
def isQuotable (c : Char) : Bool := c ∉ ['"', '<', '&']

/-- A character that stands for itself in character data. -/
def isPlainData (c : Char) : Bool := isChar c ∧ c ∉ ['<', '>', '&']

/-- The text between `&` and `;` -/
def isReference (ref : List Char) : Bool := ref.all fun c => isChar c ∧ c ≠ ';'

theorem Spells.nil : Spells [] [] := by
  intro s name read
  rw [List.append_nil]
  exact .nil

/-- Spellings of values follow each other. -/
theorem Spells.append {raw raw' value value' : List Char} (h : Spells raw value) (h' : Spells raw' value') :
    Spells (raw ++ raw') (value ++ value') := by
  intro s name read
  rw [← List.append_assoc]
  exact (h s name read).append (h' s name _)

/-- Spellings of data follow each other. -/
theorem SpellsData.append {raw raw' data data' : List Char} (h : SpellsData raw data) (h' : SpellsData raw' data') :
    SpellsData (raw ++ raw') (data ++ data') := by
  intro s read
  rw [← List.append_assoc]
  exact (h s read).append (h' s _)

/-- What needs no escaping in an attribute spells itself, blanks aside. -/
theorem spells_quotable {raw : List Char} (h : ∀ c ∈ raw, isChar c = true ∧ isQuotable c = true) :
    Spells raw (raw.map blank) := by
  intro s name read
  induction raw generalizing read with
  | nil =>
    rw [List.map_nil, List.append_nil]
    exact .nil
  | cons c raw ih =>
    obtain ⟨⟨legal, hc⟩, h⟩ := List.forall_mem_cons.mp h
    simp only [isQuotable, decide_eq_true_eq, List.mem_cons, List.not_mem_nil, or_false, not_or] at hc
    have first : (s.into (.value name '"' read)).step c = some (s.into (.value name '"' (read ++ [blank c]))) := by
      simp [State.step, State.into, legal, hc]
    have rest := ih h (read ++ [blank c])
    rw [← List.append_cons] at rest
    exact .cons first rest

/-- A text without blank space but the space. -/
theorem map_blank {text : List Char} (h : ∀ c ∈ text, c ≠ '\t' ∧ c ≠ '\n' ∧ c ≠ '\r') : text.map blank = text := by
  refine (List.map_congr_left fun c hc => ?_).trans (List.map_id text)
  by_cases space : c = ' '
  · rw [space]
    rfl
  · simp [blank, isSpace, space, h c hc]

/-- What needs no escaping between tags spells itself. -/
theorem spellsData_plain {data : List Char} (h : data.all isPlainData = true) : SpellsData data data := by
  intro s read
  refine reads_while (P := fun c => isPlainData c = true) (fun read c hc => ?_) (List.all_eq_true.mp h) read
  simp only [isPlainData, decide_eq_true_eq, List.mem_cons, List.not_mem_nil, or_false, not_or] at hc
  obtain ⟨legal, less, greater, amp⟩ := hc
  simp [State.step, State.into, legal, less, greater, amp]

section

variable {ref : List Char} {d : Char} (named : reference ref = some d) (h : isReference ref = true)

include h in
/-- The characters of a reference are collected one by one. -/
theorem reads_reference {mode : List Char → Mode}
    (step : ∀ read c, isChar c = true ∧ c ≠ ';' → (s.into (mode read)).step c = some (s.into (mode (read ++ [c])))) :
    Reads ref (s.into (mode [])) (s.into (mode ref)) := by
  have read := reads_while (P := fun c => isChar c = true ∧ c ≠ ';') step
    (fun c hc => by simpa using List.all_eq_true.mp h c hc) []
  exact read

include named h

/-- A reference in a value. -/
theorem spells_reference : Spells ('&' :: ref ++ [';']) [d] := by
  intro s name read
  have inside : Reads ref (s.into (.valueReference name '"' read [])) (s.into (.valueReference name '"' read ref)) :=
    reads_reference h fun read c hc => by simp [State.step, State.into, hc.1, hc.2]
  have last : (s.into (.valueReference name '"' read ref)).step ';' =
      some (s.into (.value name '"' (read ++ [d]))) := by
    simp [State.step, State.into, named, show isChar ';' = true by decide]
  exact .cons rfl (inside.append (.char last))

/-- A reference in character data. -/
theorem spellsData_reference : SpellsData ('&' :: ref ++ [';']) [d] := by
  intro s read
  have inside : Reads ref (s.into (.dataReference read [])) (s.into (.dataReference read ref)) :=
    reads_reference h fun read c hc => by simp [State.step, State.into, hc.1, hc.2]
  have last : (s.into (.dataReference read ref)).step ';' = some (s.into (.data (read ++ [d]))) := by
    simp [State.step, State.into, named, show isChar ';' = true by decide]
  exact .cons rfl (inside.append (.char last))

end

/-! ## Elements -/

/-- An attribute as it is written, with what it means. -/
structure Attribute where
  name : List Char
  raw : List Char
  value : List Char

namespace Attribute

/-- An attribute as it stands in a tag. -/
def text (a : Attribute) : List Char := ' ' :: a.name ++ '=' :: '"' :: a.raw ++ ['"']

/-- An attribute as the reader keeps it. -/
def pair (a : Attribute) : List Char × List Char := (a.name, a.value)

/-- The attribute has a name, and its text spells its value. -/
structure Legal (a : Attribute) : Prop where
  name : isName a.name = true
  spells : Spells a.raw a.value

end Attribute

/-- A start tag without its end. -/
def startTag (name : List Char) (attributes : List Attribute) : List Char :=
  '<' :: name ++ attributes.flatMap Attribute.text

/-- The closing tag. -/
def endTag (name : List Char) : List Char := '<' :: '/' :: name ++ ['>']

/-- An element around inner text. -/
def element (name : List Char) (attributes : List Attribute) (inner : List Char) : List Char :=
  startTag name attributes ++ '>' :: inner ++ endTag name

/-- An element that is closed at once. -/
def emptyElement (name : List Char) (attributes : List Attribute) : List Char :=
  startTag name attributes ++ ['/', '>']

/-- An element is its opening tag, what it holds and its closing tag. -/
theorem element_eq {name : List Char} {attributes : List Attribute} {inner o c : List Char}
    (opened : startTag name attributes ++ ['>'] = o) (closed : endTag name = c) :
    element name attributes inner = o ++ inner ++ c := by
  rw [← opened, ← closed, element]
  simp

/-- A text that adds nodes to the element it stands in. -/
def Writes (text : List Char) (nodes : List Node) : Prop :=
  ∀ f fs root, Reads text ⟨f :: fs, root, .data []⟩ ⟨{ f with children := f.children ++ nodes } :: fs, root, .data []⟩

theorem Writes.nil : Writes [] [] := by
  intro f fs root
  rw [List.append_nil]
  exact .nil

/-- Nodes are written one after the other. -/
theorem Writes.append {text text' : List Char} {nodes nodes' : List Node} (h : Writes text nodes)
    (h' : Writes text' nodes') : Writes (text ++ text') (nodes ++ nodes') := by
  intro f fs root
  rw [← List.append_assoc]
  exact (h f fs root).append (h' _ fs root)

/-- A list is written as its entries are. -/
theorem Writes.flatMap {ι : Type} {text : ι → List Char} {node : ι → Node} :
    ∀ {xs : List ι}, (∀ x ∈ xs, Writes (text x) [node x]) → Writes (xs.flatMap text) (xs.map node) := by
  intro xs h
  induction xs with
  | nil => exact .nil
  | cons x xs ih =>
    obtain ⟨hx, h⟩ := List.forall_mem_cons.mp h
    exact hx.append (ih h)

section

variable {f : Frame} {fs frames : List Frame} {root : Option Node} {attributes : List Attribute}

/-- A legal attribute whose name is fresh is added to the open tag. -/
theorem reads_attribute {a : Attribute} (legal : a.Legal) (fresh : a.name ∉ f.attributes.map Prod.fst) (spaced : Bool) :
    Reads a.text ⟨f :: fs, root, .tag spaced⟩
      ⟨{ f with attributes := f.attributes ++ [a.pair] } :: fs, root, .tag false⟩ := by
  have equal (s : State) : (s.into (.attributeName a.name)).step '=' = some (s.into (.afterEqual a.name)) := by
    simp [State.step, State.into, show isChar '=' = true by decide, show isNameChar '=' = false by decide]
  have last : State.step ⟨f :: fs, root, .value a.name '"' a.value⟩ '"' =
      some ⟨{ f with attributes := f.attributes ++ [a.pair] } :: fs, root, .tag false⟩ := by
    have free : f.attributes.any (·.1 = a.name) = false := by
      rw [List.any_eq_false]
      intro b hb same
      exact fresh (of_decide_eq_true same ▸ List.mem_map_of_mem hb)
    simp [State.step, State.addAttribute, free, show isChar '"' = true by decide, Attribute.pair]
  let s : State := ⟨f :: fs, root, .data []⟩
  have named : Reads a.name (s.into (.tag true)) (s.into (.attributeName a.name)) := reads_attributeName legal.name
  have blank : State.step ⟨f :: fs, root, .tag spaced⟩ ' ' = some (s.into (.tag true)) := rfl
  exact .append (.cons blank (named.append (.cons (equal s) (.cons rfl (legal.spells s a.name []))))) (.char last)

/-- Legal attributes with different names are all added to the open tag. -/
theorem reads_attributes (legal : ∀ a ∈ attributes, a.Legal)
    (fresh : (f.attributes.map Prod.fst ++ attributes.map (·.name)).Nodup) (spaced : Bool) :
    ∃ spaced', Reads (attributes.flatMap Attribute.text) ⟨f :: fs, root, .tag spaced⟩
      ⟨{ f with attributes := f.attributes ++ attributes.map Attribute.pair } :: fs, root, .tag spaced'⟩ := by
  induction attributes generalizing f spaced with
  | nil =>
    refine ⟨spaced, ?_⟩
    rw [List.map_nil, List.append_nil]
    exact .nil
  | cons a rest ih =>
    obtain ⟨ha, legal⟩ := List.forall_mem_cons.mp legal
    have own : a.name ∉ f.attributes.map Prod.fst := fun mem =>
      (List.nodup_append.mp fresh).2.2 a.name mem a.name List.mem_cons_self rfl
    obtain ⟨spaced', reads⟩ := ih (f := { f with attributes := f.attributes ++ [a.pair] }) legal
      (by simpa [Attribute.pair] using fresh) false
    have gathered : f.attributes ++ (a :: rest).map Attribute.pair =
        f.attributes ++ [a.pair] ++ rest.map Attribute.pair := by simp
    rw [gathered]
    exact ⟨spaced', (reads_attribute ha own spaced).append reads⟩

/-- A start tag opens an element. -/
theorem reads_open {c : Char} {mode : Mode} (named : isName name = true) (legal : ∀ a ∈ attributes, a.Legal)
    (distinct : (attributes.map (·.name)).Nodup) (room : frames ≠ [] ∨ root = none)
    (afterName : State.step ⟨frames, root, .startName name⟩ c = (State.push ⟨frames, root, .startName name⟩ name mode))
    (inTag : ∀ fs spaced, State.step ⟨fs, root, .tag spaced⟩ c = some ⟨fs, root, mode⟩) :
    Reads (startTag name attributes ++ [c]) ⟨frames, root, .data []⟩
      ⟨⟨name, attributes.map Attribute.pair, []⟩ :: frames, root, mode⟩ := by
  have pushed (m m' : Mode) : State.push ⟨frames, root, m⟩ name m' = some ⟨{ name := name } :: frames, root, m'⟩ := by
    rcases room with room | rfl
    · simp [State.push, room]
    · simp [State.push]
  have begun : Reads ('<' :: name) ⟨frames, root, .data []⟩ ⟨frames, root, .startName name⟩ :=
    .cons rfl (reads_startName (s := ⟨frames, root, .data []⟩) named)
  cases attributes with
  | nil =>
    rw [pushed] at afterName
    rw [startTag, List.flatMap_nil, List.append_nil]
    exact begun.append (.char afterName)
  | cons a rest =>
    let opened : Frame := { name := name }
    obtain ⟨spaced, read⟩ := @reads_attributes opened frames root _ legal distinct true
    have blank : State.step ⟨frames, root, .startName name⟩ ' ' =
        some ⟨{ name := name } :: frames, root, .tag true⟩ := by
      rw [← pushed (.startName name)]
      simp [State.step, show isChar ' ' = true by decide, show isNameChar ' ' = false by decide,
        show isSpace ' ' = true by decide]
    have spacedOnce : Reads ((a :: rest).flatMap Attribute.text) ⟨frames, root, .startName name⟩
        ⟨⟨name, (a :: rest).map Attribute.pair, []⟩ :: frames, root, .tag spaced⟩ := by
      obtain ⟨t, first, more⟩ := reads_append_iff.mp (show Reads ([' '] ++ _) _ _ from read)
      have spaced : Reads [' '] ⟨opened :: frames, root, .tag true⟩ ⟨opened :: frames, root, .tag true⟩ := .char rfl
      cases first.unique spaced
      exact .cons blank more
    exact (begun.append spacedOnce).append (.char (inTag _ _))

end

/-- A start tag up to the value of its next attribute. -/
theorem reads_beginValue {attr : List Char} (named : isName name = true) (legal : ∀ a ∈ attributes, a.Legal)
    (distinct : (attributes.map (·.name)).Nodup) (room : frames ≠ [] ∨ root = none) (attrNamed : isName attr = true) :
    Reads (startTag name attributes ++ ' ' :: attr ++ ['=', '"']) ⟨frames, root, .data []⟩
      ⟨⟨name, attributes.map Attribute.pair, []⟩ :: frames, root, .value attr '"' []⟩ := by
  let s : State := ⟨⟨name, attributes.map Attribute.pair, []⟩ :: frames, root, .data []⟩
  have begun : Reads (startTag name attributes ++ [' ']) ⟨frames, root, .data []⟩ (s.into (.tag true)) := by
    refine reads_open named legal distinct room ?_ fun _ _ => rfl
    simp [State.step, show isChar ' ' = true by decide, show isNameChar ' ' = false by decide,
      show isSpace ' ' = true by decide]
  have equal : (s.into (.attributeName attr)).step '=' = some (s.into (.afterEqual attr)) := by
    simp [State.step, State.into, show isChar '=' = true by decide, show isNameChar '=' = false by decide]
  have quote : (s.into (.afterEqual attr)).step '"' = some (s.into (.value attr '"' [])) := rfl
  have split : startTag name attributes ++ ' ' :: attr ++ ['=', '"'] =
      startTag name attributes ++ [' '] ++ attr ++ ['=', '"'] := by simp
  rw [split]
  exact (begun.append (reads_attributeName attrNamed)).append (.cons equal (.char quote))

/-! ### Ways to write an element -/

variable {attributes : List Attribute} {inner : List Char} {nodes : List Node}

section

variable (named : isName name = true) (legal : ∀ a ∈ attributes, a.Legal)
  (distinct : (attributes.map (·.name)).Nodup)

include named

/-- The closing tag of the innermost element hands it to the one around it. -/
theorem reads_endTag {f : Frame} {fs : List Frame} {root : Option Node} (same : f.name = name) (read : List Char) :
    Reads (endTag name) ⟨f :: fs, root, .data read⟩
      ((State.mk fs root (.data [])).addNode
        { f with children := f.children ++ if read = [] then [] else [Node.text read] }.node) := by
  subst same
  let g : Frame := { f with children := f.children ++ if read = [] then [] else [Node.text read] }
  let t : State := ⟨g :: fs, root, .data []⟩
  have flushed : State.step ⟨f :: fs, root, .data read⟩ '<' = some (t.into .markup) := by
    by_cases none : read = []
    · subst none
      simp [State.step, State.flush, State.into, t, g, show isChar '<' = true by decide]
    · simp [State.step, State.flush, State.into, State.addNode, t, g, none, show isChar '<' = true by decide]
  have last : (t.into (.endName f.name)).step '>' = t.close := by
    simp [State.step, State.into, State.closeNamed, State.close, t, g, show isChar '>' = true by decide,
      show isNameChar '>' = false by decide]
  have slash : (t.into .markup).step '/' = some (t.into .endMark) := rfl
  exact .append (.cons flushed (.cons slash (reads_endName named))) (.char last)

include legal distinct

/-- An opening tag opens an element. -/
theorem reads_startElement (frames : List Frame) (root : Option Node) (room : frames ≠ [] ∨ root = none) :
    Reads (startTag name attributes ++ ['>']) ⟨frames, root, .data []⟩
      ⟨⟨name, attributes.map Attribute.pair, []⟩ :: frames, root, .data []⟩ := by
  refine reads_open named legal distinct room ?_ fun _ _ => rfl
  simp [State.step, show isChar '>' = true by decide, show isNameChar '>' = false by decide,
    show isSpace '>' = false by decide]

/-- An empty element is open until its last bracket. -/
theorem reads_startEmpty (frames : List Frame) (root : Option Node) (room : frames ≠ [] ∨ root = none) :
    Reads (startTag name attributes ++ ['/']) ⟨frames, root, .data []⟩
      ⟨⟨name, attributes.map Attribute.pair, []⟩ :: frames, root, .emptyElement⟩ := by
  refine reads_open named legal distinct room ?_ fun _ _ => rfl
  simp [State.step, show isChar '/' = true by decide, show isNameChar '/' = false by decide,
    show isSpace '/' = false by decide]

/-- An element is written by its tags around what writes its children. -/
theorem writes_element (h : Writes inner nodes) :
    Writes (element name attributes inner) [.element name (attributes.map Attribute.pair) nodes] := by
  intro f fs root
  have opened := reads_startElement named legal distinct (f :: fs) root (.inl (List.cons_ne_nil f fs))
  have read := (opened.append (h _ _ _)).append (reads_endTag named rfl [])
  simpa [element, State.addNode, Frame.node] using read

/-- An element that holds character data. -/
theorem writes_textElement {data : List Char} (h : SpellsData inner data) :
    Writes (element name attributes inner)
      [.element name (attributes.map Attribute.pair) (if data = [] then [] else [.text data])] := by
  intro f fs root
  have opened := reads_startElement named legal distinct (f :: fs) root (.inl (List.cons_ne_nil f fs))
  have read := (opened.append (h ⟨_, root, .data []⟩ [])).append (reads_endTag named rfl data)
  simpa [element, State.addNode, Frame.node] using read

/-- An element without children is written by one tag. -/
theorem writes_emptyElement :
    Writes (emptyElement name attributes) [.element name (attributes.map Attribute.pair) []] := by
  intro f fs root
  have opened := reads_startEmpty named legal distinct (f :: fs) root (.inl (List.cons_ne_nil f fs))
  have read := opened.append (.char (c := '>') rfl)
  simpa [emptyElement, State.addNode, Frame.node] using read

/-- A document is read back. -/
theorem parse_element (h : Writes inner nodes) :
    parse (element name attributes inner) = some (.element name (attributes.map Attribute.pair) nodes) := by
  have opened := reads_startElement named legal distinct [] none (.inr rfl)
  have read := (opened.append (h _ _ _)).append (reads_endTag named rfl [])
  have whole : (element name attributes inner).foldlM State.step {} =
      some ⟨[], some (.element name (attributes.map Attribute.pair) nodes), .data []⟩ := by
    simpa [element, State.addNode, Frame.node, Reads] using read
  rw [parse, whole]
  rfl

omit nodes in
/-- One empty element is a document. -/
theorem parse_emptyElement :
    parse (emptyElement name attributes) = some (.element name (attributes.map Attribute.pair) []) := by
  have opened := reads_startEmpty named legal distinct [] none (.inr rfl)
  have read := opened.append (.char (c := '>') rfl)
  have whole : (emptyElement name attributes).foldlM State.step {} =
      some ⟨[], some (.element name (attributes.map Attribute.pair) []), .data []⟩ := by
    simpa [emptyElement, State.addNode, Frame.node, Reads] using read
  rw [parse, whole]
  rfl

end

/-! ## What has been read stays -/

/-- What one character does to the elements that are open. -/
inductive Moves (s : State) : State → Prop
  | stays {mode : Mode} : Moves s (s.into mode)
  | opens {name : List Char} {mode : Mode} (room : s.frames = [] → s.root = none) :
    Moves s { s with frames := ⟨name, [], []⟩ :: s.frames, mode := mode }
  | sets {f : Frame} {fs : List Frame} {a : List Char × List Char} {mode : Mode} (top : s.frames = f :: fs) :
    Moves s { s with frames := { f with attributes := f.attributes ++ [a] } :: fs, mode := mode }
  | child {f : Frame} {fs : List Frame} {n : Node} {mode : Mode} (top : s.frames = f :: fs) :
    Moves s { s with frames := { f with children := f.children ++ [n] } :: fs, mode := mode }
  | closes {f g : Frame} {fs : List Frame} {mode : Mode} (top : s.frames = f :: g :: fs) :
    Moves s { s with frames := { g with children := g.children ++ [f.node] } :: fs, mode := mode }
  | ends {f : Frame} {mode : Mode} (top : s.frames = [f]) :
    Moves s { s with frames := [], root := some f.node, mode := mode }

section

variable {s' : State}

/-- Opening a tag keeps what was read. -/
theorem moves_push {mode : Mode} (h : s.push name mode = some s') : Moves s s' := by
  unfold State.push at h
  split at h
  · cases h
  · next room =>
    cases h
    refine .opens fun none => ?_
    rw [← Option.not_isSome_iff_eq_none]
    exact fun some => room ⟨none, some⟩

/-- Keeping the text read so far keeps the rest. -/
theorem moves_flush {read : List Char} {mode : Mode} (h : (s.flush read).map (·.into mode) = some s') : Moves s s' := by
  obtain ⟨t, flushed, rfl⟩ := Option.map_eq_some_iff.mp h
  unfold State.flush at flushed
  split at flushed
  · cases flushed
    exact .stays
  · split at flushed
    · split at flushed
      · cases flushed
        exact .stays
      · cases flushed
    · next _ open' =>
      cases flushed
      obtain ⟨f, fs, top⟩ := List.exists_cons_of_ne_nil open'
      simp only [State.addNode, top, State.into]
      exact .child top

/-- An attribute is added to the innermost element only. -/
theorem moves_addAttribute {value : List Char} (h : s.addAttribute name value = some s') : Moves s s' := by
  unfold State.addAttribute at h
  split at h
  · cases h
  · next f fs top =>
    split at h
    · cases h
    · cases h
      exact .sets top

/-- A closed element goes to the one around it. -/
theorem moves_close (h : s.close = some s') : Moves s s' := by
  unfold State.close at h
  split at h
  · cases h
  · next f fs top =>
    cases h
    cases fs with
    | nil => exact .ends top
    | cons g fs => exact .closes top

/-- A closing tag closes only the element it names. -/
theorem moves_closeNamed (h : s.closeNamed name = some s') : Moves s s' := by
  unfold State.closeNamed at h
  split at h
  · exact moves_close h
  · cases h

/-- A change of mode keeps what was read. -/
theorem moves_same {mode : Mode} (h : some (s.into mode) = some s') : Moves s s' := by
  cases h
  exact .stays

/-- A reference changes the mode only. -/
theorem moves_reference {ref : List Char} {mode : Char → Mode}
    (h : (reference ref).map (fun d => s.into (mode d)) = some s') : Moves s s' := by
  obtain ⟨d, -, rfl⟩ := Option.map_eq_some_iff.mp h
  exact .stays

/-- One character opens, extends or closes the innermost element, and nothing else. -/
theorem step_moves {c : Char} (h : s.step c = some s') : Moves s s' := by
  unfold State.step at h
  split at h
  · cases h
  · split at h <;> split_ifs at h
    all_goals first
      | exact moves_same h
      | exact moves_push h
      | exact moves_flush h
      | exact moves_addAttribute h
      | exact moves_close h
      | exact moves_closeNamed h
      | exact moves_reference h

end

/-- The node that the outermost of the open elements becomes, the others being under way in it. -/
def Becomes : List Frame → Node → Prop
  | [], _ => True
  | f :: inner, n => ∃ attributes children,
    n = .element f.name (f.attributes ++ attributes) (f.children ++ children) ∧
      (inner ≠ [] → ∃ m rest, children = m :: rest ∧ Becomes inner m)

/-- What an inner element becomes decides what the outer one does. -/
theorem Becomes.mono {outer inner inner' : List Frame} {n : Node} (under : inner' ≠ [])
    (imp : ∀ n, Becomes inner' n → Becomes inner n) (h : Becomes (outer ++ inner') n) : Becomes (outer ++ inner) n := by
  induction outer generalizing n with
  | nil => exact imp n h
  | cons f outer ih =>
    obtain ⟨attributes, children, rfl, more⟩ := h
    refine ⟨attributes, children, rfl, fun _ => ?_⟩
    obtain ⟨m, rest, rfl, hm⟩ := more (List.append_ne_nil_of_right_ne_nil outer under)
    exact ⟨m, rest, rfl, ih hm⟩

/-- The document that a reading may end with. -/
def State.Leads (s : State) (n : Node) : Prop :=
  if s.frames = [] then ∀ r, s.root = some r → r = n else Becomes s.frames.reverse n

/-- What a later state leads to, an earlier one leads to. -/
theorem Moves.leads {s' : State} {n : Node} (h : Moves s s') (leads : s'.Leads n) : s.Leads n := by
  unfold State.Leads at *
  cases h with
  | stays => exact leads
  | opens room =>
    rw [if_neg (List.cons_ne_nil _ _), List.reverse_cons] at leads
    split
    · next none =>
      rw [room none]
      exact fun r h => nomatch h
    · have below : Becomes (s.frames.reverse ++ []) n :=
        Becomes.mono (List.cons_ne_nil _ _) (fun _ _ => trivial) leads
      rwa [List.append_nil] at below
  | @sets f fs a mode top =>
    rw [if_neg (List.cons_ne_nil _ _), List.reverse_cons] at leads
    rw [top, if_neg (List.cons_ne_nil _ _), List.reverse_cons]
    refine Becomes.mono (List.cons_ne_nil _ _) ?_ leads
    rintro n ⟨attributes, children, rfl, -⟩
    exact ⟨a :: attributes, children, by simp, fun h => absurd rfl h⟩
  | @child f fs m mode top =>
    rw [if_neg (List.cons_ne_nil _ _), List.reverse_cons] at leads
    rw [top, if_neg (List.cons_ne_nil _ _), List.reverse_cons]
    refine Becomes.mono (List.cons_ne_nil _ _) ?_ leads
    rintro n ⟨attributes, children, rfl, -⟩
    exact ⟨attributes, m :: children, by simp, fun h => absurd rfl h⟩
  | @closes f g fs mode top =>
    rw [if_neg (List.cons_ne_nil _ _), List.reverse_cons] at leads
    rw [top, if_neg (List.cons_ne_nil _ _), List.reverse_cons, List.reverse_cons, List.append_assoc]
    refine Becomes.mono (List.cons_ne_nil _ _) ?_ leads
    rintro n ⟨attributes, children, rfl, -⟩
    refine ⟨attributes, f.node :: children, by simp, fun _ => ⟨f.node, children, rfl, [], [], ?_, ?_⟩⟩
    swap
    · exact fun h => absurd rfl h
    simp [Frame.node]
  | @ends f mode top =>
    rw [if_pos rfl] at leads
    cases leads _ rfl
    rw [top, if_neg (List.cons_ne_nil _ _)]
    exact ⟨[], [], by simp [Frame.node], fun h => absurd rfl h⟩

/-- What is led to after a text is led to before it. -/
theorem Reads.leads {text : List Char} {s s' : State} {n : Node} (h : Reads text s s') (leads : s'.Leads n) :
    s.Leads n := by
  induction text generalizing s with
  | nil =>
    cases h
    exact leads
  | cons c text ih =>
    obtain ⟨t, first, rest⟩ := reads_append_iff.mp (show Reads ([c] ++ text) s s' from h)
    have step : s.step c = some t := by simpa [Reads] using first
    exact (step_moves step).leads (ih rest)

/-- The document that is returned is one the state leads to. -/
theorem finish_leads {s : State} {n : Node} (h : s.finish = some n) : s.Leads n := by
  unfold State.finish at h
  split at h
  · split at h
    · next closed =>
      rw [State.Leads, if_pos closed.1, h]
      exact fun r same => (Option.some.inj same).symm
    · cases h
  · cases h

/-- A document and the state after a part of its text. -/
theorem leads_of_parse {text : List Char} {s : State} {n : Node} (h : Reads text {} s) {rest : List Char}
    (parsed : parse (text ++ rest) = some n) : ∃ s', Reads rest s s' ∧ s'.finish = some n := by
  obtain ⟨s', whole, finished⟩ := Option.bind_eq_some_iff.mp parsed
  obtain ⟨t, first, more⟩ := reads_append_iff.mp (show Reads (text ++ rest) {} s' from whole)
  rw [h.unique first]
  exact ⟨s', more, finished⟩

/-! ## Values that are not spelled -/

/-- A number is read from digits only. -/
theorem digits_of_foldlM {base start n : Nat} {digits : List Char}
    (h : digits.foldlM (fun n c => (digitOf base c).map (base * n + ·)) start = some n) :
    ∀ c ∈ digits, (digitOf base c).isSome = true := by
  induction digits generalizing start with
  | nil => exact List.forall_mem_nil _
  | cons c digits ih =>
    rw [List.foldlM_cons] at h
    obtain ⟨m, first, rest⟩ := Option.bind_eq_some_iff.mp h
    obtain ⟨v, hv, -⟩ := Option.map_eq_some_iff.mp first
    exact List.forall_mem_cons.mpr ⟨Option.isSome_of_eq_some hv, ih rest⟩

/-- A numeric reference has digits only. -/
theorem digits_of_numbered {base : Nat} {digits : List Char} {d : Char} (h : numbered base digits = some d) :
    ∀ c ∈ digits, (digitOf base c).isSome = true := by
  unfold numbered at h
  split at h
  · cases h
  · obtain ⟨n, folded, -⟩ := Option.bind_eq_some_iff.mp h
    exact digits_of_foldlM folded

/-- A reference has nothing in it that ends a value or may not be in one. -/
theorem not_mem_reference {ref : List Char} {d : Char} (h : reference ref = some d) {c : Char}
    (hc : c = '"' ∨ c = '<') : c ∉ ref := by
  unfold reference at h
  split at h
  case h_8 => cases h
  all_goals intro mem
  case h_6 =>
    have digits := digits_of_numbered h
    rcases hc with rfl | rfl <;>
      exact absurd (digits _ (by simpa using mem)) (by decide)
  case h_7 =>
    have digits := digits_of_numbered h
    rcases hc with rfl | rfl <;>
      exact absurd (digits _ (by simpa using mem)) (by decide)
  all_goals rcases hc with rfl | rfl <;> simp at mem

/-- What the reader makes of the rest of a reference. -/
theorem reads_valueReference {u : List Char} {s s' : State} {quote : Char} {read ref : List Char} {n : Node}
    (h : Reads u (s.into (.valueReference name quote read ref)) s') (finished : s'.finish = some n) :
    ∃ more d rest, u = more ++ ';' :: rest ∧ reference (ref ++ more) = some d ∧
      Reads rest (s.into (.value name quote (read ++ [d]))) s' := by
  induction u generalizing ref with
  | nil =>
    cases h
    cases finished
  | cons c u ih =>
    obtain ⟨t, first, rest⟩ := reads_append_iff.mp (show Reads ([c] ++ u) _ s' from h)
    have step : (s.into (.valueReference name quote read ref)).step c = some t := by simpa [Reads] using first
    unfold State.step at step
    split at step
    · cases step
    · simp only [State.into] at step
      split at step
      · next semicolon =>
        obtain ⟨d, named, rfl⟩ := Option.map_eq_some_iff.mp step
        exact ⟨[], d, u, by rw [semicolon]; rfl, by rwa [List.append_nil], rest⟩
      · cases step
        obtain ⟨more, d, rest', rfl, named, reads⟩ := ih rest
        exact ⟨c :: more, d, rest', rfl, by rwa [← List.append_cons] at named, reads⟩

/-- A value is read up to the next double quote. A reference is longer than what it stands for. -/
structure Ends (u raw value rest : List Char) : Prop where
  cut : u = raw ++ '"' :: rest
  quote : '"' ∉ raw
  less : '<' ∉ raw
  length : value.length ≤ raw.length
  amp : '&' ∈ raw → value.length < raw.length

/-- A value that is begun in a readable document ends in it. -/
theorem reads_value {u : List Char} {s s' : State} {read : List Char} {n : Node}
    (h : Reads u (s.into (.value name '"' read)) s') (finished : s'.finish = some n) :
    ∃ raw value rest t, Ends u raw value rest ∧ s.addAttribute name (read ++ value) = some t ∧ Reads rest t s' := by
  induction hu : u.length using Nat.strongRecOn generalizing u read with
  | _ k ih =>
  cases u with
  | nil =>
    cases h
    cases finished
  | cons c u =>
    obtain ⟨t, first, more⟩ := reads_append_iff.mp (show Reads ([c] ++ u) _ s' from h)
    have step : (s.into (.value name '"' read)).step c = some t := by simpa [Reads] using first
    unfold State.step at step
    split at step
    · cases step
    · simp only [State.into] at step
      split at step
      · next quote =>
        subst quote
        refine ⟨[], [], u, t, ⟨rfl, List.not_mem_nil, List.not_mem_nil, Nat.le_refl 0, nofun⟩, ?_, more⟩
        rw [List.append_nil, ← step]
        rfl
      · next quote =>
        split at step
        · cases step
        · next less =>
          split at step
          · next amp =>
            cases step
            obtain ⟨ref, d, rest, rfl, named, reads⟩ := reads_valueReference more finished
            obtain ⟨raw, value, rest', t, ends, added, reads⟩ := ih _ (by simp at hu; omega) reads rfl
            have free (x : Char) (hx : x = '"' ∨ x = '<') : x ∉ ref := not_mem_reference named hx
            refine ⟨c :: ref ++ ';' :: raw, d :: value, rest', t, ⟨?_, ?_, ?_, ?_, ?_⟩, ?_, reads⟩
            · simp [ends.cut]
            · simp [amp, ends.quote, free '"' (.inl rfl)]
            · simp [amp, ends.less, free '<' (.inr rfl)]
            · have := ends.length
              simp
              omega
            · intro _
              have := ends.length
              simp
              omega
            · rwa [List.append_cons]
          · next amp =>
            cases step
            obtain ⟨raw, value, rest', t, ends, added, reads⟩ := ih _ (by simp at hu; omega) more rfl
            refine ⟨c :: raw, blank c :: value, rest', t, ⟨?_, ?_, ?_, ?_, ?_⟩, ?_, reads⟩
            · rw [ends.cut]
              rfl
            · exact List.not_mem_cons_of_ne_of_not_mem (Ne.symm quote) ends.quote
            · exact List.not_mem_cons_of_ne_of_not_mem (Ne.symm less) ends.less
            · exact Nat.succ_le_succ ends.length
            · intro mem
              exact Nat.succ_lt_succ (ends.amp ((List.mem_cons.mp mem).resolve_left (Ne.symm amp)))
            · rwa [List.append_cons]

/-- A text with a character that may not stand in a value is read as something shorter. -/
theorem Ends.short {u raw value rest text : List Char} (h : Ends (text ++ '"' :: u) raw value rest)
    (bad : ¬ ∀ c ∈ text, isQuotable c = true) : value.length < text.length := by
  have unquoted {xs ys xs' ys' : List Char} (same : xs ++ '"' :: ys = xs' ++ '"' :: ys') (hx : '"' ∉ xs)
      (hx' : '"' ∉ xs') : xs = xs' := by
    have upTo (zs ws : List Char) (hz : '"' ∉ zs) : (zs ++ '"' :: ws).takeWhile (· ≠ '"') = zs := by
      have plain : ∀ c ∈ zs, decide (c ≠ '"') = true := fun c hc => decide_eq_true fun is => hz (is ▸ hc)
      rw [List.takeWhile_append_of_pos plain]
      simp
    rw [← upTo xs ys hx, same, upTo xs' ys' hx']
  by_cases quote : '"' ∈ text
  · obtain ⟨before, after, rfl, first⟩ := List.eq_append_cons_of_mem quote
    have same : raw = before := unquoted (h.cut.symm.trans (List.append_assoc _ _ _)) h.quote first
    have := h.length
    rw [same] at this
    simp
    omega
  · have same : raw = text := unquoted h.cut.symm h.quote quote
    subst same
    simp only [not_forall] at bad
    obtain ⟨c, mem, hc⟩ := bad
    have either : c = '<' ∨ c = '&' := by
      simp [isQuotable] at hc
      grind
    rcases either with rfl | rfl
    · exact absurd mem h.less
    · exact h.amp mem

/-- The reading goes on after a value; a text in its place that is not quotable is read as something shorter. -/
theorem leads_value {before text after : List Char} {f : Frame} {fs : List Frame} {root : Option Node} {n : Node}
    (h : Reads before {} ⟨f :: fs, root, .value name '"' []⟩)
    (parsed : parse (before ++ (text ++ '"' :: after)) = some n) :
    ∃ value, State.Leads ⟨{ f with attributes := f.attributes ++ [(name, value)] } :: fs, root, .tag false⟩ n ∧
      ((∀ c ∈ text, isQuotable c = true) ∨ value.length < text.length) := by
  obtain ⟨s', more, finished⟩ := leads_of_parse h parsed
  obtain ⟨raw, value, rest, t, ends, added, reads⟩ :=
    reads_value (s := ⟨f :: fs, root, .data []⟩) more finished
  refine ⟨value, ?_, or_iff_not_imp_left.mpr ends.short⟩
  have leads := reads.leads (finish_leads finished)
  unfold State.addAttribute at added
  simp only [List.nil_append] at added
  split at added
  · cases added
  · cases added
    exact leads

/-- Only characters of XML are read. -/
theorem reads_isChar {text : List Char} {s s' : State} (h : Reads text s s') : ∀ c ∈ text, isChar c = true := by
  induction text generalizing s with
  | nil => exact List.forall_mem_nil _
  | cons c text ih =>
    obtain ⟨t, first, rest⟩ := reads_append_iff.mp (show Reads ([c] ++ text) s s' from h)
    refine List.forall_mem_cons.mpr ⟨?_, ih rest⟩
    have step : s.step c = some t := by simpa [Reads] using first
    unfold State.step at step
    split at step
    · cases step
    · next legal => exact Decidable.not_not.mp legal

/-- A readable document has characters of XML only. -/
theorem isChar_of_parse {text : List Char} {n : Node} (h : parse text = some n) : ∀ c ∈ text, isChar c = true := by
  obtain ⟨s, whole, -⟩ := Option.bind_eq_some_iff.mp h
  exact reads_isChar whole

/-! ## Parts of a document -/

/-- An open element becomes a child of the one around it. -/
theorem Becomes.child {outer inner : List Frame} {f : Frame} {n : Node} (under : inner ≠ [])
    (h : Becomes (outer ++ f :: inner) n) :
    ∃ m, Becomes inner m ∧ Becomes (outer ++ [{ f with children := f.children ++ [m] }]) n := by
  induction outer generalizing n with
  | nil =>
    obtain ⟨attributes, children, rfl, more⟩ := h
    obtain ⟨m, rest, rfl, hm⟩ := more under
    exact ⟨m, hm, attributes, rest, by simp, fun h => absurd rfl h⟩
  | cons g outer ih =>
    obtain ⟨attributes, children, rfl, more⟩ := h
    obtain ⟨k, rest, rfl, hk⟩ := more (List.append_ne_nil_of_right_ne_nil outer (List.cons_ne_nil f inner))
    obtain ⟨m, hm, hk⟩ := ih hk
    exact ⟨m, hm, attributes, k :: rest, rfl, fun _ => ⟨k, rest, rfl, hk⟩⟩

/-- The first child of its name is the one that is under way. -/
theorem Becomes.find {f g : Frame} {m : Node} (h : Becomes [f, g] m) (fresh : ∀ k ∈ f.children, k.name ≠ g.name) :
    m.name = f.name ∧
      ∃ attributes children, m.find g.name = some (.element g.name (g.attributes ++ attributes)
        (g.children ++ children)) := by
  obtain ⟨attributes, children, rfl, more⟩ := h
  obtain ⟨k, rest, rfl, attributes', children', rfl, -⟩ := more (List.cons_ne_nil g [])
  refine ⟨rfl, attributes', children', ?_⟩
  have none : f.children.find? (·.name = g.name) = none :=
    List.find?_eq_none.mpr fun k hk same => fresh k hk (of_decide_eq_true same)
  show (f.children ++ Node.element g.name _ _ :: rest).find? (·.name = g.name) = _
  rw [List.find?_append, none]
  simp [Node.name]

/-- What is asked of the first child of a name is answered by it. -/
theorem Becomes.getIn {f g : Frame} {m : Node} {attr value : List Char} (h : Becomes [f, g] m)
    (fresh : ∀ k ∈ f.children, k.name ≠ g.name)
    (here : (g.attributes.find? (·.1 = attr)).map (·.2) = some value) :
    m.getIn g.name attr = some value := by
  obtain ⟨-, attributes, children, found⟩ := h.find fresh
  obtain ⟨a, ha, rfl⟩ := Option.map_eq_some_iff.mp here
  simp [Node.getIn, found, Node.get, Node.attributes, List.find?_append, ha]

/-- A text that adds a child to the element it stands in, in every document that is read. -/
def AddsChild (text : List Char) (P : Node → Prop) : Prop :=
  ∀ (before after : List Char) (f : Frame) (fs : List Frame) (n : Node),
    Reads before {} ⟨f :: fs, none, .data []⟩ → parse (before ++ (text ++ after)) = some n →
      ∃ m, P m ∧ State.Leads ⟨{ f with children := f.children ++ [m] } :: fs, none, .data []⟩ n

/-- A weaker property is shown by the same child. -/
theorem AddsChild.mono {text : List Char} {P Q : Node → Prop} (h : AddsChild text P) (imp : ∀ m, P m → Q m) :
    AddsChild text Q := by
  intro before after f fs n read parsed
  obtain ⟨m, hm, leads⟩ := h before after f fs n read parsed
  exact ⟨m, imp m hm, leads⟩

/-- A text that no document has. -/
theorem addsChild_of_not_isChar {text : List Char} {c : Char} (mem : c ∈ text) (illegal : isChar c = false)
    {P : Node → Prop} : AddsChild text P := by
  intro before after f fs n _ parsed
  obtain ⟨s, whole, -⟩ := Option.bind_eq_some_iff.mp parsed
  have legal : isChar c = true := reads_isChar whole c (by simp [mem])
  rw [illegal] at legal
  cases legal

section

variable {child : List Char} {attributes before after : List Attribute} {a : Attribute} {inner rest : List Char}
  {kids : List Node}

/-- An element is read at least as far as the value of an attribute of one of its children. -/
theorem addsChild_value (named : isName name = true) (legal : ∀ a ∈ attributes, a.Legal)
    (distinct : (attributes.map (·.name)).Nodup) (written : Writes inner kids) (childNamed : isName child = true)
    (legal' : ∀ a ∈ before, a.Legal) (distinct' : (before.map (·.name)).Nodup) (attrNamed : isName a.name = true) :
    AddsChild (element name attributes (inner ++ emptyElement child (before ++ a :: after) ++ rest)) fun m =>
      ∃ value, Becomes [⟨name, attributes.map Attribute.pair, kids⟩,
          ⟨child, before.map Attribute.pair ++ [(a.name, value)], []⟩] m ∧
        ((∀ c ∈ a.raw, isQuotable c = true) ∨ value.length < a.raw.length) := by
  intro above below f fs n read parsed
  have opened := reads_startElement named legal distinct (f :: fs) none (.inl (List.cons_ne_nil f fs))
  have room : (⟨name, attributes.map Attribute.pair, kids⟩ :: f :: fs : List Frame) ≠ [] ∨
      none = (none : Option Node) := .inl (List.cons_ne_nil _ _)
  have begun := reads_beginValue childNamed legal' distinct' room attrNamed
  have upTo := read.append ((opened.append (written _ _ _)).append begun)
  have split :
      above ++ (element name attributes (inner ++ emptyElement child (before ++ a :: after) ++ rest) ++ below) =
      above ++ (startTag name attributes ++ ['>'] ++ inner ++
          (startTag child before ++ ' ' :: a.name ++ ['=', '"'])) ++
        (a.raw ++ '"' :: (after.flatMap Attribute.text ++ ['/', '>'] ++ rest ++ endTag name ++ below)) := by
    simp [element, emptyElement, startTag, Attribute.text]
  rw [split] at parsed
  obtain ⟨value, leads, short⟩ := leads_value upTo parsed
  rw [State.Leads, if_neg (List.cons_ne_nil _ _), List.reverse_cons, List.reverse_cons, List.reverse_cons,
    List.append_assoc, List.append_assoc] at leads
  obtain ⟨m, inside, leads⟩ := Becomes.child (List.cons_ne_nil _ _) leads
  refine ⟨m, ⟨value, inside, short⟩, ?_⟩
  rwa [State.Leads, if_neg (List.cons_ne_nil _ _), List.reverse_cons]

end

/-! ## Single values -/

/-- What a text means as the value of an attribute. -/
def Quotes (raw value : List Char) : Prop :=
  parse (emptyElement ['a'] [⟨['a'], raw, value⟩]) = some (.element ['a'] [(['a'], value)] [])

/-- A text between quotes has one value. -/
theorem Quotes.unique {raw value value' : List Char} (h : Quotes raw value) (h' : Quotes raw value') :
    value = value' := by
  have same : parse (emptyElement ['a'] [⟨['a'], raw, value⟩]) =
      parse (emptyElement ['a'] [⟨['a'], raw, value'⟩]) := rfl
  rw [h, h'] at same
  cases same
  rfl

/-- A spelling stands between quotes. -/
theorem Spells.quotes {raw value : List Char} (h : Spells raw value) : Quotes raw value := by
  have legal : ∀ a ∈ [(⟨['a'], raw, value⟩ : Attribute)], a.Legal :=
    List.forall_mem_singleton.mpr ⟨rfl, h⟩
  exact parse_emptyElement rfl legal (by simp)

/-- What stands between quotes are characters of XML. -/
theorem Quotes.isChar {raw value : List Char} (h : Quotes raw value) : ∀ c ∈ raw, Xml.isChar c = true := by
  refine fun c hc => isChar_of_parse h c ?_
  simp [emptyElement, startTag, Attribute.text, hc]

/-- What stands for itself is all that is read without a loss. -/
theorem Quotes.quotable {raw value : List Char} (h : Quotes raw value) (length : raw.length ≤ value.length) :
    ∀ c ∈ raw, isQuotable c = true := by
  have begun : Reads ['<', 'a', ' ', 'a', '=', '"'] {} ⟨[⟨['a'], [], []⟩], none, .value ['a'] '"' []⟩ := rfl
  have text : emptyElement ['a'] [⟨['a'], raw, value⟩] =
      ['<', 'a', ' ', 'a', '=', '"'] ++ (raw ++ '"' :: ['/', '>']) := by
    simp [emptyElement, startTag, Attribute.text]
  unfold Quotes at h
  rw [text] at h
  obtain ⟨value', leads, quotable | short⟩ := leads_value begun h
  · exact quotable
  · obtain ⟨attributes, children, same, -⟩ := leads
    cases same
    omega

end NodePilot.Lib.Xml

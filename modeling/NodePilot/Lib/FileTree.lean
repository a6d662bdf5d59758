import Mathlib.Data.List.Basic

/-!
# Where a path leads

A path is followed part by part: `.` stays, `..` goes up, and a symbolic link is replaced by the text it holds. A path
that runs into too many links leads nowhere. The place that is reached has no link on the way to it.
-/

namespace NodePilot.Lib

/-! ## Parts of a path -/

/-- What stands between the slashes of a path. -/
def parts (path : List Char) : List (List Char) := (path.splitOn '/').filter (· ≠ [])

/-- A part, as it may stand in a directory. -/
def IsPart (part : List Char) : Prop := part ≠ [] ∧ '/' ∉ part

/-- The path of a place. -/
def spell (place : List (List Char)) : List Char := '/' :: List.intercalate ['/'] place

theorem parts_nil : parts [] = [] := rfl

/-- The parts of a path are those before a slash and those after it. -/
theorem parts_append {path rest : List Char} : parts (path ++ '/' :: rest) = parts path ++ parts rest := by
  rw [parts, List.splitOn_append_cons_self, List.filter_append]
  rfl

/-- A leading slash adds no part. -/
theorem parts_slash {rest : List Char} : parts ('/' :: rest) = parts rest := by
  have whole : parts ([] ++ '/' :: rest) = parts [] ++ parts rest := parts_append
  exact whole

theorem parts_singleton {part : List Char} (h : IsPart part) : parts part = [part] := by
  rw [parts, List.splitOn_eq_singleton h.2]
  simp [h.1]

theorem slash_notMem_of_mem_splitOn {path part : List Char} (h : part ∈ path.splitOn '/') : '/' ∉ part := by
  induction path generalizing part with
  | nil =>
    rw [List.splitOn_nil, List.mem_singleton] at h
    rw [h]
    exact List.not_mem_nil
  | cons c path ih =>
    rw [List.splitOn_cons_eq_if_modifyHead] at h
    split_ifs at h with slash
    · rcases List.mem_cons.mp h with rfl | h
      · exact List.not_mem_nil
      · exact ih h
    · obtain ⟨first, others, split⟩ := List.exists_cons_of_ne_nil (List.splitOn_ne_nil '/' path)
      rw [split] at h ih
      rcases List.mem_cons.mp h with rfl | h
      · have other : '/' ≠ c := fun same => slash (beq_iff_eq.mpr same.symm)
        exact List.not_mem_cons_of_ne_of_not_mem other (ih List.mem_cons_self)
      · exact ih (List.mem_cons_of_mem first h)

/-- The parts of a path are parts. -/
theorem isPart_of_mem_parts {path part : List Char} (h : part ∈ parts path) : IsPart part := by
  obtain ⟨mem, nonempty⟩ := List.mem_filter.mp h
  exact ⟨by simpa using nonempty, slash_notMem_of_mem_splitOn mem⟩

/-- The path of a place is followed back to it. -/
theorem parts_spell {place : List (List Char)} (h : ∀ part ∈ place, IsPart part) : parts (spell place) = place := by
  rw [spell, parts_slash]
  cases place with
  | nil => rfl
  | cons part place =>
    rw [parts, List.splitOn_intercalate '/' (fun part hp => (h part hp).2) (List.cons_ne_nil part place)]
    exact List.filter_eq_self.mpr fun part hp => by simpa using (h part hp).1

/-! ## Links -/

/-- The symbolic links of a machine, each with the text it holds. -/
structure FileTree where
  readlink : List (List Char) → Option (List Char)

namespace FileTree

variable (t : FileTree)

/-- Where a path is followed from. -/
def origin (place : List (List Char)) (path : List Char) : List (List Char) :=
  if path.head? = some '/' then [] else place

/-- Where the parts lead from a place, with so many links at most. -/
def follow : Nat → List (List Char) → List (List Char) → Option (List (List Char))
  | _, place, [] => some place
  | links, place, part :: rest =>
    if part = ['.'] then follow links place rest
    else if part = ['.', '.'] then follow links place.dropLast rest
    else
      match t.readlink (place ++ [part]), links with
      | none, links => follow links (place ++ [part]) rest
      | some _, 0 => none
      | some target, links + 1 => follow links (origin place target) (parts target ++ rest)
termination_by links _ rest => (links, rest.length)

/-- Where a path leads a process in that directory. -/
def resolve (directory : List (List Char)) (path : List Char) : Option (List (List Char)) :=
  t.follow 40 (origin directory path) (parts path)

section Steps

variable {t} {links : Nat} {place rest : List (List Char)} {part target : List Char}

theorem follow_nil : t.follow links place [] = some place := by
  unfold follow
  rfl

/-- A dot stays where it is. -/
theorem follow_here : t.follow links place (['.'] :: rest) = t.follow links place rest := by
  conv => lhs; unfold follow
  exact if_pos rfl

/-- Two dots go up. -/
theorem follow_up : t.follow links place (['.', '.'] :: rest) = t.follow links place.dropLast rest := by
  conv => lhs; unfold follow
  exact (if_neg (by decide)).trans (if_pos rfl)

/-- A name that is no link goes down. -/
theorem follow_plain (here : part ≠ ['.']) (up : part ≠ ['.', '.']) (free : t.readlink (place ++ [part]) = none) :
    t.follow links place (part :: rest) = t.follow links (place ++ [part]) rest := by
  conv => lhs; unfold follow
  rw [if_neg here, if_neg up, free]

/-- A link is followed. -/
theorem follow_link (here : part ≠ ['.']) (up : part ≠ ['.', '.'])
    (link : t.readlink (place ++ [part]) = some target) :
    t.follow (links + 1) place (part :: rest) = t.follow links (origin place target) (parts target ++ rest) := by
  conv => lhs; unfold follow
  rw [if_neg here, if_neg up, link]

end Steps

/-- A place that no link leads on from. -/
structure Real (place : List (List Char)) : Prop where
  named : ∀ part ∈ place, IsPart part
  free : ∀ front, front <+: place → front ≠ [] → t.readlink front = none

variable {t} {place : List (List Char)} {part : List Char}

theorem Real.nil : t.Real [] where
  named := List.forall_mem_nil _
  free _ front nonempty := absurd (List.prefix_nil.mp front) nonempty

/-- What is above a real place is real. -/
theorem Real.dropLast (h : t.Real place) : t.Real place.dropLast where
  named part mem := h.named part (List.dropLast_subset place mem)
  free front before := h.free front (before.trans (List.dropLast_prefix place))

/-- A name that is no link leads from a real place to a real one. -/
theorem Real.push (h : t.Real place) (named : IsPart part) (free : t.readlink (place ++ [part]) = none) :
    t.Real (place ++ [part]) where
  named := by
    intro part' mem
    rcases List.mem_append.mp mem with mem | mem
    · exact h.named part' mem
    · exact List.mem_singleton.mp mem ▸ named
  free front before nonempty := by
    rcases List.prefix_concat_iff.mp before with rfl | before
    · exact free
    · exact h.free front before nonempty

/-- A path starts at a real place. -/
theorem Real.origin {path : List Char} (h : t.Real place) : t.Real (origin place path) := by
  unfold FileTree.origin
  split_ifs
  · exact Real.nil
  · exact h

/-- A real place is no link. -/
theorem Real.last (h : t.Real (place ++ [part])) : t.readlink (place ++ [part]) = none :=
  h.free _ (List.prefix_refl _) (by simp)

/-- What is reached from a real place is real. -/
theorem follow_real {links : Nat} {rest reached : List (List Char)} (h : t.Real place) (named : ∀ p ∈ rest, IsPart p)
    (found : t.follow links place rest = some reached) : t.Real reached := by
  fun_induction FileTree.follow t links place rest with
  | case1 => exact Option.some.inj found ▸ h
  | case2 _ _ _ ih => exact ih h (List.forall_mem_of_forall_mem_cons named) found
  | case3 _ _ _ _ ih => exact ih h.dropLast (List.forall_mem_of_forall_mem_cons named) found
  | case4 place part _ _ _ links free ih =>
    exact ih (h.push (named part List.mem_cons_self) free) (List.forall_mem_of_forall_mem_cons named) found
  | case5 => cases found
  | case6 place part rest _ _ target links link ih =>
    refine ih h.origin (List.forall_mem_append.mpr ⟨fun _ => isPart_of_mem_parts, ?_⟩) found
    exact List.forall_mem_of_forall_mem_cons named

/-- A last part that is no link is one step further. -/
theorem follow_concat {links : Nat} {rest reached : List (List Char)} (found : t.follow links place rest = some reached)
    (here : part ≠ ['.']) (up : part ≠ ['.', '.']) (free : t.readlink (reached ++ [part]) = none) :
    t.follow links place (rest ++ [part]) = some (reached ++ [part]) := by
  fun_induction FileTree.follow t links place rest with
  | case1 =>
    cases found
    exact (follow_plain here up free).trans follow_nil
  | case2 _ _ _ ih => exact follow_here.trans (ih found)
  | case3 _ _ _ _ ih => exact follow_up.trans (ih found)
  | case4 _ _ _ here' up' _ plain ih => exact (follow_plain here' up' plain).trans (ih found)
  | case5 => cases found
  | case6 _ _ _ here' up' _ _ link ih =>
    have further := ih found
    rw [List.append_assoc] at further
    exact (follow_link here' up' link).trans further

/-- Whatever a path resolves to is real. -/
theorem resolve_real {directory reached : List (List Char)} {path : List Char} (h : t.Real directory)
    (found : t.resolve directory path = some reached) : t.Real reached :=
  follow_real h.origin (fun _ => isPart_of_mem_parts) found

/-- `os.path.realpath`, in that directory. -/
def realpath (t : FileTree) (directory : List (List Char)) (path : List Char) : List Char :=
  (t.resolve directory path).elim path spell

theorem parts_realpath {directory reached : List (List Char)} {path : List Char} (h : t.Real directory)
    (found : t.resolve directory path = some reached) : parts (t.realpath directory path) = reached := by
  rw [realpath, found]
  exact parts_spell (resolve_real h found).named

end FileTree

end NodePilot.Lib

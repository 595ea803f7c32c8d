import Mathlib.Data.List.Basic

/-!
# Lexical paths

The components of a Unix path as `std::path` sees them: empty segments and single dots are
passed over, except for a dot at the very front of a relative path. Joining puts the name after
the base, unless the name is absolute.
-/

namespace Stitch.Foundation.PathComponents

inductive Component where
  | root
  | curDir
  | parentDir
  | normal (name : List Char)
  deriving DecidableEq

def segments (path : List Char) : List (List Char) := path.splitOnP (fun char => char == '/')

def component? (segment : List Char) : Option Component :=
  if segment = [] ∨ segment = ['.'] then none
  else if segment = ['.', '.'] then some .parentDir
  else some (.normal segment)

def steps (path : List Char) : List Component := (segments path).filterMap component?

def lead (path : List Char) : List Component :=
  if path.head? = some '/' then [.root]
  else if (segments path).head? = some ['.'] then [.curDir]
  else []

def components (path : List Char) : List Component := lead path ++ steps path

def join (base name : List Char) : List Char :=
  if name.head? = some '/' then name
  else if base = [] ∨ base.getLast? = some '/' then base ++ name
  else base ++ '/' :: name

/-- The path has one name more than the directory. -/
def DirectChild (dir path : List Char) : Prop :=
  ∃ name, components path = components dir ++ [.normal name]

section

theorem segments_append (front back : List Char) :
    segments (front ++ '/' :: back) = segments front ++ segments back :=
  List.splitOnP_append_cons front back rfl

theorem segments_plain {path : List Char} (plain : '/' ∉ path) : segments path = [path] := by
  apply List.splitOnP_eq_singleton
  intro char member
  rw [beq_eq_false_iff_ne]
  intro same
  exact plain (same ▸ member)

theorem segments_ne_nil (path : List Char) : segments path ≠ [] :=
  List.splitOnP_ne_nil _ path

theorem segments_slash (rest : List Char) : segments ('/' :: rest) = [] :: segments rest :=
  segments_append [] rest

theorem segments_cons {char : Char} (plain : char ≠ '/') (rest : List Char) :
    segments (char :: rest) = (segments rest).modifyHead (List.cons char) := by
  rw [segments, List.splitOnP_cons_eq_if_modifyHead, if_neg (by simpa using plain)]
  rfl

theorem segments_last (path : List Char) :
    ∃ inits last, segments path = inits ++ [last] ∧
      ∀ tail, '/' ∉ tail → segments (path ++ tail) = inits ++ [last ++ tail] := by
  induction path with
  | nil => exact ⟨[], [], rfl, fun tail plain => segments_plain plain⟩
  | cons char rest ih =>
    obtain ⟨inits, last, whole, longer⟩ := ih
    by_cases slash : char = '/'
    · subst slash
      refine ⟨[] :: inits, last, ?_, ?_⟩
      · rw [segments_slash, whole]
        rfl
      · intro tail plain
        rw [List.cons_append, segments_slash, longer tail plain]
        rfl
    · cases inits with
      | nil =>
        refine ⟨[], char :: last, ?_, ?_⟩
        · rw [segments_cons slash, whole]
          rfl
        · intro tail plain
          rw [List.cons_append, segments_cons slash, longer tail plain]
          rfl
      | cons first inits =>
        refine ⟨(char :: first) :: inits, last, ?_, ?_⟩
        · rw [segments_cons slash, whole]
          rfl
        · intro tail plain
          rw [List.cons_append, segments_cons slash, longer tail plain]
          rfl

end

section

variable {base name : List Char}

theorem steps_append (front back : List Char) :
    steps (front ++ '/' :: back) = steps front ++ steps back := by
  rw [steps, segments_append, List.filterMap_append]
  rfl

variable {front : List Char}

theorem lead_append (nonempty : front ≠ []) (back : List Char) :
    lead (front ++ '/' :: back) = lead front := by
  have head : (front ++ '/' :: back).head? = front.head? := by
    cases front with
    | nil => exact absurd rfl nonempty
    | cons char rest => rfl
  have first : (segments (front ++ '/' :: back)).head? = (segments front).head? := by
    rw [segments_append]
    cases split : segments front with
    | nil => exact absurd split (segments_ne_nil front)
    | cons segment rest => rfl
  rw [lead, head, first]
  rfl

theorem components_append (nonempty : front ≠ []) (back : List Char) :
    components (front ++ '/' :: back) = components front ++ steps back := by
  rw [components, lead_append nonempty, steps_append, ← List.append_assoc]
  rfl

theorem steps_nil : steps [] = [] := rfl

theorem components_join (relative : name.head? ≠ some '/') (nonempty : base ≠ []) :
    components (join base name) = components base ++ steps name := by
  rw [join, if_neg relative]
  by_cases ends : base.getLast? = some '/'
  · rw [if_pos (Or.inr ends)]
    obtain ⟨front, whole⟩ := List.getLast?_eq_some_iff.mp ends
    subst whole
    rw [List.append_assoc, List.singleton_append]
    cases front with
    | nil =>
      change components ('/' :: name) = components ['/'] ++ steps name
      have slash : steps ('/' :: name) = steps name := steps_append [] name
      rw [components, slash]
      rfl
    | cons char rest =>
      rw [components_append (List.cons_ne_nil char rest),
        components_append (List.cons_ne_nil char rest), steps_nil, List.append_nil]
  · rw [if_neg (fun or => or.elim nonempty ends), components_append nonempty]

theorem join_absolute (absolute : name.head? = some '/') : join base name = name :=
  if_pos absolute

theorem join_empty (relative : name.head? ≠ some '/') : join [] name = name := by
  rw [join, if_neg relative, if_pos (Or.inl rfl), List.nil_append]

end

section

variable {dir name segment : List Char}

theorem component_normal {leaf : List Char} (read : component? segment = some (.normal leaf)) :
    leaf = segment := by
  unfold component? at read
  split_ifs at read
  · cases read
  · cases read
    rfl

theorem component_long (long : 2 < segment.length) :
    component? segment = some (.normal segment) := by
  unfold component?
  rw [if_neg, if_neg]
  · intro same
    rw [same] at long
    exact absurd long (by decide)
  · intro short
    rcases short with same | same
    · rw [same] at long
      exact absurd long (by decide)
    · rw [same] at long
      exact absurd long (by decide)

theorem lead_not_normal (path leaf : List Char) : Component.normal leaf ∉ lead path := by
  unfold lead
  split_ifs
  · simp
  · simp
  · simp

theorem child_steps (relative : name.head? ≠ some '/') (child : DirectChild dir (join dir name)) :
    ∃ leaf, steps name = [.normal leaf] := by
  obtain ⟨leaf, whole⟩ := child
  refine ⟨leaf, ?_⟩
  by_cases empty : dir = []
  · subst empty
    rw [join_empty relative] at whole
    rcases List.append_eq_singleton_iff.mp whole with only | lone
    · exact only.2
    · exact absurd (lone.1 ▸ List.mem_singleton_self _) (lead_not_normal name leaf)
  · rw [components_join relative empty] at whole
    exact List.append_cancel_left whole

theorem plain_child_iff (plain : '/' ∉ name) :
    DirectChild dir (join dir name) ↔ component? name = some (.normal name) := by
  have relative : name.head? ≠ some '/' := fun head => plain (List.mem_of_head? head)
  have single : steps name = (component? name).toList := by
    rw [steps, segments_plain plain]
    cases read : component? name with
    | none => rw [List.filterMap_cons_none read]; rfl
    | some step => rw [List.filterMap_cons_some read]; rfl
  constructor
  · intro child
    obtain ⟨leaf, whole⟩ := child_steps relative child
    rw [single] at whole
    have read : component? name = some (.normal leaf) := by simpa using whole
    rw [read, component_normal read]
  · intro read
    rw [read] at single
    refine ⟨name, ?_⟩
    by_cases empty : dir = []
    · subst empty
      have front : lead name = [] := by
        rw [lead, if_neg relative, segments_plain plain, if_neg]
        intro dot
        rw [Option.some.inj dot] at read
        cases read
      rw [join_empty relative, components, front, single]
      rfl
    · rw [components_join relative empty, single]
      rfl

end

end Stitch.Foundation.PathComponents

import Mathlib.Data.List.Basic

/-! `PurePosixPath` and `Path` of pathlib: a root and the parts behind it. Empty parts and dots are dropped when a path
is read, two dots are kept. -/
namespace NxReverse.Tools

abbrev Name := List Char

structure PurePosixPath where
  root : List Char
  parts : List Name
  deriving DecidableEq, Repr

namespace PurePosixPath

/-- Two slashes are a root of their own, three or more are one. -/
def rootOf : List Char → List Char
  | '/' :: '/' :: '/' :: _ => ['/']
  | '/' :: '/' :: _ => ['/','/']
  | '/' :: _ => ['/']
  | _ => []

def ofText (text : List Char) : PurePosixPath :=
  ⟨rootOf text,(text.splitOn '/').filter fun part => part ≠ [] ∧ part ≠ ['.']⟩

def isAbsolute (path : PurePosixPath) : Bool := path.root ≠ []

/-- `path / entry`. -/
def join (path entry : PurePosixPath) : PurePosixPath :=
  if entry.isAbsolute then entry else ⟨path.root,path.parts ++ entry.parts⟩

def name (path : PurePosixPath) : Name := path.parts.getLast?.getD []

def parent (path : PurePosixPath) : PurePosixPath := ⟨path.root,path.parts.dropLast⟩

/-- `with_name`, which refuses a path without a name. -/
def withName (path : PurePosixPath) (name : Name) : Option PurePosixPath :=
  if path.name = [] then none else some ⟨path.root,path.parts.dropLast ++ [name]⟩

def below (path : PurePosixPath) (names : List Name) : PurePosixPath := ⟨path.root,path.parts ++ names⟩

@[simp] theorem below_nil (path : PurePosixPath) : path.below [] = path := by simp [below]

theorem below_inj {path : PurePosixPath} {names others : List Name} :
    path.below names = path.below others ↔ names = others := by simp [below]

end PurePosixPath

/-- The names that a directory can list. -/
def IsName (name : Name) : Prop := name ≠ [] ∧ name ≠ ['.'] ∧ name ≠ ['.','.'] ∧ '/' ∉ name

open PurePosixPath

/-- The parts that a path is read into. -/
def IsPart (part : Name) : Prop := part ≠ [] ∧ part ≠ ['.'] ∧ '/' ∉ part

theorem IsName.isPart {name : Name} (proper : IsName name) : IsPart name := ⟨proper.1,proper.2.1,proper.2.2.2⟩

theorem rootOf_part {part : Name} (proper : IsPart part) : rootOf part = [] := by
  cases part with
  | nil => rfl
  | cons c rest =>
    have first : c ≠ '/' := by
      rintro rfl
      exact proper.2.2 List.mem_cons_self
    rw [rootOf]
    all_goals
      intros
      simp_all

theorem ofText_part {part : Name} (proper : IsPart part) : ofText part = ⟨[],[part]⟩ := by
  rw [ofText,rootOf_part proper,List.splitOn_eq_singleton proper.2.2]
  simp [proper.1,proper.2.1]

theorem ofText_name {name : Name} (proper : IsName name) : ofText name = ⟨[],[name]⟩ := ofText_part proper.isPart

theorem not_mem_of_mem_splitOn {separator : Char} {text word : List Char} (member : word ∈ text.splitOn separator) :
    separator ∉ word := by
  induction text generalizing word with
  | nil =>
    rw [List.splitOn_nil,List.mem_singleton] at member
    simp [member]
  | cons c text ih =>
    rw [List.splitOn_cons_eq_if_modifyHead] at member
    obtain ⟨first,words,split⟩ := List.exists_cons_of_ne_nil (List.splitOn_ne_nil separator text)
    rw [split] at ih member
    split at member
    next =>
      rcases List.mem_cons.mp member with rfl | later
      · exact List.not_mem_nil
      · exact ih later
    next other =>
      rw [List.modifyHead_cons] at member
      rcases List.mem_cons.mp member with rfl | later
      · have apart : separator ≠ c := fun same => other (by simp [same])
        simpa [apart] using ih List.mem_cons_self
      · exact ih (List.mem_cons_of_mem _ later)

theorem isPart_of_mem {text : List Char} {part : Name} (member : part ∈ (ofText text).parts) : IsPart part := by
  obtain ⟨word,proper⟩ := List.mem_filter.mp member
  simp only [ne_eq,decide_eq_true_eq] at proper
  exact ⟨proper.1,proper.2,not_mem_of_mem_splitOn word⟩

/-- What is joined as a name leaves a path with a name. -/
theorem join_named {path : PurePosixPath} (named : path.name ≠ []) {name : Name} (proper : name = [] ∨ IsPart name) :
    (path.join (ofText name)).name ≠ [] := by
  rcases proper with rfl | proper
  · have nothing : path.join (ofText []) = path := by
      simp [ofText,rootOf,join,isAbsolute,List.splitOn_nil]
    rwa [nothing]
  · have joined : path.join (ofText name) = path.below ([] ++ [name]) := by
      rw [ofText_part proper]
      rfl
    rw [joined]
    simpa [below,PurePosixPath.name] using proper.1

theorem join_name (path : PurePosixPath) {name : Name} (proper : IsName name) :
    path.join (ofText name) = path.below [name] := by
  rw [ofText_name proper]
  rfl

@[simp] theorem name_below (path : PurePosixPath) (rel : List Name) (name : Name) :
    (path.below (rel ++ [name])).name = name := by
  simp [below,PurePosixPath.name,← List.append_assoc]

theorem withName_below (path : PurePosixPath) (rel : List Name) {name : Name} (some_ : name ≠ []) (other : Name) :
    (path.below (rel ++ [name])).withName other = some (path.below (rel ++ [other])) := by
  rw [withName,name_below,if_neg some_]
  simp [below,← List.append_assoc]

end NxReverse.Tools

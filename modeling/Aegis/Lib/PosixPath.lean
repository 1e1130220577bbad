import Mathlib.Data.List.Basic
import Mathlib.Logic.Function.Basic

/-!
# POSIX paths

`pathlib` on a file system without symbolic links: the parts of a path text, its `name` and its
`suffix`, and `resolve` for a place.  A place is the list of names that lead to it from the root.

`name` never has a slash in it (`slash_notMem_name`), but it may be `..`.  A folder does not
matter to the name of a file in it (`name_append_slash`).
-/

namespace Aegis.Lib.PosixPath

/-- The parts of a path; empty ones and `.` do not count. -/
def parts (path : List Char) : List (List Char) :=
  (path.splitOnP (· == '/')).filter fun part => part ≠ [] ∧ part ≠ ['.']

/-- `Path(path).name`. -/
def nameOf (path : List Char) : List Char := (parts path).getLast?.getD []

def name (path : String) : String := String.ofList (nameOf path.toList)

/-- `Path(path).suffix`: from the last dot on, unless it is at either end. -/
def suffix (path : String) : String :=
  let whole := nameOf path.toList
  let after := whole.reverse.takeWhile (· ≠ '.')
  if after = [] ∨ whole.length ≤ after.length + 1 then ""
  else String.ofList ('.' :: after.reverse)

/-- `(place / part).resolve()`. -/
def resolveChild (place : List String) (part : String) : List String :=
  if part = "" then place else if part = ".." then place.dropLast else place ++ [part]

/-- The characters of `str(place)`. -/
def chars (place : List String) : List Char :=
  if place = [] then ['/'] else place.flatMap fun part => '/' :: part.toList

theorem slash_notMem_of_mem_splitOnP {path part : List Char}
    (member : part ∈ path.splitOnP (· == '/')) : '/' ∉ part := by
  induction path generalizing part with
  | nil =>
      rw [List.splitOnP_nil] at member
      rw [List.mem_singleton.mp member]
      exact List.not_mem_nil
  | cons c rest ih =>
      rw [List.splitOnP_cons_eq_if_modifyHead] at member
      split at member
      · rcases List.mem_cons.mp member with rfl | later
        · exact List.not_mem_nil
        · exact ih later
      next other =>
        obtain ⟨first, more, split⟩ :=
          List.exists_cons_of_ne_nil (List.splitOnP_ne_nil (· == '/') rest)
        rw [split, List.modifyHead_cons] at member
        rcases List.mem_cons.mp member with rfl | later
        · have slashless : '/' ∉ first := ih (split ▸ List.mem_cons_self)
          intro slash
          rcases List.mem_cons.mp slash with same | inner
          · rw [← same] at other
            exact other rfl
          · exact slashless inner
        · exact ih (split ▸ List.mem_cons_of_mem _ later)

theorem slash_notMem_nameOf (path : List Char) : '/' ∉ nameOf path := by
  unfold nameOf
  cases last : (parts path).getLast? with
  | none => exact List.not_mem_nil
  | some part =>
      have member := List.mem_of_getLast? last
      exact slash_notMem_of_mem_splitOnP (List.mem_of_mem_filter member)

theorem slash_notMem_name (path : String) : '/' ∉ (name path).toList := by
  rw [name, String.toList_ofList]
  exact slash_notMem_nameOf path.toList

/-- **The name of a file.** -/
theorem name_append_slash {folder file : String} (slashless : '/' ∉ file.toList)
    (nonempty : file ≠ "") (undotted : file ≠ ".") : name (folder ++ "/" ++ file) = file := by
  have joined : (folder ++ "/" ++ file).toList = folder.toList ++ '/' :: file.toList := by
    simp
  have single : file.toList.splitOnP (· == '/') = [file.toList] :=
    List.splitOnP_eq_singleton fun c member => by
      simp only [beq_eq_false_iff_ne]
      intro same
      rcases same with rfl
      exact slashless member
  have kept : file.toList ≠ [] ∧ file.toList ≠ ['.'] := by
    constructor
    · intro empty
      exact nonempty (String.toList_inj.mp empty)
    · intro dot
      exact undotted (String.toList_inj.mp dot)
  rw [name, joined, nameOf, parts, List.splitOnP_append_cons _ _ (by rfl), single,
    List.filter_append, List.filter_singleton, decide_eq_true kept, cond_true,
    List.getLast?_append, List.getLast?_singleton]
  exact String.ofList_toList

/-! ## Places -/

theorem chars_append_prefix (place : List String) (part : String) (nonempty : place ≠ []) :
    chars place <+: chars (place ++ [part]) := by
  rw [chars, chars, if_neg nonempty, if_neg (List.append_ne_nil_of_left_ne_nil nonempty _),
    List.flatMap_append]
  exact List.prefix_append _ _

/-- A place does not begin like one inside it. -/
theorem not_chars_append_prefix {place : List String} {part : String} (nonempty : part ≠ "") :
    ¬ chars (place ++ [part]) <+: chars place := by
  intro before
  have short := before.length_le
  have positive : 0 < part.toList.length :=
    List.length_pos_iff.mpr fun empty => nonempty (String.toList_inj.mp empty)
  rw [chars, if_neg (by simp), List.flatMap_append, List.length_append, List.flatMap_singleton,
    List.length_cons] at short
  by_cases root : place = []
  · rw [chars, if_pos root, root, List.flatMap_nil, List.length_nil, List.length_singleton] at short
    omega
  · rw [chars, if_neg root] at short
    omega

end Aegis.Lib.PosixPath

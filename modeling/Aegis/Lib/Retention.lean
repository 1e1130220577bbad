import Mathlib.Data.List.Perm.Basic
import Mathlib.Order.Lattice
import Aegis.Lib.Run

/-!
# Logs that are cleared of old rows

Rows with times are added to a table, and the rows before a cutoff are deleted from it.
`filter_exec` is for readers that look back to some time, `exec_eq_kept` for those that read it
all: it says which rows are still there.

`Newest` is what `ORDER BY time DESC LIMIT n` may answer; rows of one time come in any order.
Deleting old rows does nothing to such answers but delete these rows from them
(`newest_filter_iff`).
-/

namespace Aegis.Lib

variable {α T : Type*} [LinearOrder T]

inductive LogEvent (α T : Type*) where
  | record (row : α)
  | purge (cutoff : T)

namespace LogEvent

def row : LogEvent α T → Option α
  | record row => some row
  | purge _ => none

def cutoff : LogEvent α T → Option T
  | record _ => none
  | purge cutoff => some cutoff

end LogEvent

variable (time : α → T)

def logStep (rows : List α) : LogEvent α T → List α
  | .record row => rows ++ [row]
  | .purge cutoff => rows.filter fun row => cutoff ≤ time row

variable {time} {rows : List α} {events : List (LogEvent α T)} {since : T}

/-- **Looking back.**  Who looks no further than the cutoffs does not notice them. -/
theorem filter_exec (early : ∀ event ∈ events, ∀ cutoff, event.cutoff = some cutoff →
    cutoff ≤ since) :
    (exec (logStep time) rows events).filter (fun row => since ≤ time row) =
      (rows ++ events.filterMap LogEvent.row).filter (fun row => since ≤ time row) := by
  induction events generalizing rows with
  | nil => rw [List.filterMap_nil, List.append_nil, exec, List.foldl_nil]
  | cons event rest ih =>
      obtain ⟨first, early⟩ := List.forall_mem_cons.mp early
      have next := @ih (logStep time rows event) early
      rw [exec, List.foldl_cons, ← exec, next]
      cases event with
      | record row =>
          rw [logStep, List.append_assoc]
          rfl
      | purge cutoff =>
          have before := first cutoff rfl
          have inner : (rows.filter fun row => cutoff ≤ time row).filter
              (fun row => since ≤ time row) = rows.filter fun row => since ≤ time row := by
            rw [List.filter_filter]
            refine List.filter_congr fun row _ => ?_
            simpa using fun late => before.trans late
          rw [logStep, List.filter_append, inner, ← List.filter_append]
          rfl

/-- The row is not older than any of the cutoffs. -/
def Kept (time : α → T) (events : List (LogEvent α T)) (row : α) : Prop :=
  ∀ cutoff ∈ events.filterMap LogEvent.cutoff, cutoff ≤ time row

instance (row : α) : Decidable (Kept time events row) :=
  inferInstanceAs (Decidable (∀ _ ∈ _, _))

/-- A cutoff is not past the time of any row that comes after it. -/
def Timely (time : α → T) : List (LogEvent α T) → Prop
  | [] => True
  | event :: rest => (∀ row ∈ rest.filterMap LogEvent.row, ∀ cutoff, event.cutoff = some cutoff →
      cutoff ≤ time row) ∧ Timely time rest

/-- **What is there.** -/
theorem exec_eq_kept (timely : Timely time events) :
    exec (logStep time) rows events =
      (rows ++ events.filterMap LogEvent.row).filter fun row => Kept time events row := by
  induction events generalizing rows with
  | nil => simp [exec, Kept]
  | cons event rest ih =>
      obtain ⟨after, timely⟩ := timely
      have next := @ih (logStep time rows event) timely
      rw [exec, List.foldl_cons, ← exec, next]
      cases event with
      | record row =>
          rw [logStep, List.append_assoc]
          rfl
      | purge cutoff =>
          have split (row : α) : Kept time (.purge cutoff :: rest) row ↔
              cutoff ≤ time row ∧ Kept time rest row := List.forall_mem_cons
          have old : rows.filter (fun row => Kept time (.purge cutoff :: rest) row) =
              (rows.filter fun row => cutoff ≤ time row).filter
                (fun row => Kept time rest row) := by
            rw [List.filter_filter]
            refine List.filter_congr fun row _ => ?_
            rw [← Bool.decide_and, decide_eq_decide, split, and_comm]
          have new : (rest.filterMap LogEvent.row).filter
                (fun row => Kept time (.purge cutoff :: rest) row) =
              (rest.filterMap LogEvent.row).filter (fun row => Kept time rest row) := by
            refine List.filter_congr fun row member => ?_
            rw [decide_eq_decide, split]
            exact and_iff_right (after row member cutoff rfl)
          have same : (LogEvent.purge cutoff :: rest).filterMap LogEvent.row =
              rest.filterMap LogEvent.row := rfl
          rw [logStep, same, List.filter_append, List.filter_append, old, new]

/-! ## The newest rows -/

/-- What a query for the newest rows may answer. -/
def Newest (time : α → T) (limit : ℕ) (rows answer : List α) : Prop :=
  ∃ sorted : List α, sorted.Perm rows ∧ sorted.Pairwise (fun a b => time b ≤ time a) ∧
    answer = sorted.take limit

variable {limit : ℕ} {answer : List α} {keep : α → Bool}

/-- In a sorted list the kept rows come first. -/
theorem filter_take (upward : ∀ a b, keep b → time b ≤ time a → keep a) {sorted : List α}
    (ordered : sorted.Pairwise fun a b => time b ≤ time a) :
    (sorted.take limit).filter keep = (sorted.filter keep).take limit := by
  induction sorted generalizing limit with
  | nil => simp
  | cons first rest ih =>
      obtain ⟨below, ordered⟩ := List.pairwise_cons.mp ordered
      cases limit with
      | zero => simp
      | succ limit =>
          rw [List.take_succ_cons]
          by_cases kept : keep first
          · rw [List.filter_cons_of_pos kept, List.filter_cons_of_pos kept, List.take_succ_cons,
              ih ordered]
          · have none : ∀ row ∈ rest, ¬ keep row := fun row member keepRow =>
              kept (upward first row keepRow (below row member))
            rw [List.filter_cons_of_neg kept, List.filter_cons_of_neg kept,
              List.filter_eq_nil_iff.mpr fun row member => none row (List.mem_of_mem_take member),
              List.filter_eq_nil_iff.mpr none, List.take_nil]

/-- **Newest rows.**  To keep the rows from some time on is to keep them in the answers. -/
theorem newest_filter_iff (upward : ∀ a b, keep b → time b ≤ time a → keep a) :
    Newest time limit (rows.filter keep) answer ↔
      ∃ whole, Newest time limit rows whole ∧ answer = whole.filter keep := by
  constructor
  · intro held
    rcases held with ⟨sorted, perm, ordered, rfl⟩
    -- The other rows are all older, and may come after them.
    let newer (a b : α) : Bool := time b ≤ time a
    let older := (rows.filter fun row => !keep row).mergeSort newer
    have olderPerm : older.Perm (rows.filter fun row => !keep row) := List.mergeSort_perm _ _
    have olderOrdered : older.Pairwise fun a b => time b ≤ time a := by
      have transitive (a b c : α) (first : newer a b) (second : newer b c) : newer a c :=
        decide_eq_true ((of_decide_eq_true second).trans (of_decide_eq_true first))
      have total (a b : α) : newer a b || newer b a := by
        simpa [newer] using le_total (time b) (time a)
      exact (List.pairwise_mergeSort transitive total _).imp of_decide_eq_true
    have kept (row : α) (member : row ∈ sorted) : keep row = true :=
      (List.mem_filter.mp (perm.subset member)).2
    have dropped (row : α) (member : row ∈ older) : keep row = false := by
      simpa using (List.mem_filter.mp (olderPerm.subset member)).2
    have whole : (sorted ++ older).Pairwise fun a b => time b ≤ time a := by
      refine List.pairwise_append.mpr ⟨ordered, olderOrdered, fun a keepA b dropB => ?_⟩
      by_contra later
      have keepB := upward b a (kept a keepA) (not_le.mp later).le
      rw [dropped b dropB] at keepB
      cases keepB
    refine ⟨(sorted ++ older).take limit,
      ⟨sorted ++ older, (perm.append olderPerm).trans (List.filter_append_perm _ _), whole, rfl⟩,
      ?_⟩
    rw [filter_take upward whole, List.filter_append, List.filter_eq_self.mpr kept,
      List.filter_eq_nil_iff.mpr fun row member => by simp [dropped row member], List.append_nil]
  · intro held
    rcases held with ⟨_, ⟨sorted, perm, ordered, rfl⟩, rfl⟩
    exact ⟨sorted.filter keep, perm.filter keep, ordered.filter keep, filter_take upward ordered⟩

end Aegis.Lib

import Mathlib.Data.List.Basic

/-!
# Queues

`LPUSH` adds at the head and `BRPOP` takes from the end, so what comes in first goes out
first: `waiting` is the content in the order in which it goes out.

`enqueue` is for queues that have only so much room.  `drain` takes a few entries at once and
stops at the first that does not pass: `eq_dropWhile_of_drained` says what is left in the end.
-/

namespace Aegis.Lib.Fifo

variable {α : Type*}

/-- `LPUSH`. -/
def lpush (value : α) (list : List α) : List α := value :: list

/-- `BRPOP` on a list: the value and what stays, nothing for a missing key. -/
def brpop (list : List α) : Option (α × List α) :=
  list.getLast?.map fun value => (value, list.dropLast)

/-- What `BLPOP` leaves of a list; Redis keeps no empty lists. -/
def blpopRest : List α → Option (List α)
  | _ :: next :: rest => some (next :: rest)
  | _ => none

/-- The values in the order in which `brpop` takes them. -/
def waiting (list : List α) : List α := list.reverse

theorem brpop_eq_some {list rest : List α} {value : α} :
    brpop list = some (value, rest) ↔ list = rest ++ [value] := by
  unfold brpop
  constructor
  · intro popped
    obtain ⟨last, found, same⟩ := Option.map_eq_some_iff.mp popped
    cases same
    obtain ⟨early, rfl⟩ := List.getLast?_eq_some_iff.mp found
    rw [List.dropLast_concat]
  · intro same
    rcases same with rfl
    rw [List.getLast?_concat, List.dropLast_concat]
    rfl

theorem waiting_lpush (value : α) (list : List α) :
    waiting (lpush value list) = waiting list ++ [value] := List.reverse_cons

/-- `brpop` takes the head of what waits. -/
theorem waiting_of_brpop {list rest : List α} {value : α}
    (popped : brpop list = some (value, rest)) : waiting list = value :: waiting rest := by
  rw [brpop_eq_some.mp popped]
  exact List.reverse_append

theorem mem_lpush {value other : α} {list : List α} :
    other ∈ lpush value list ↔ other = value ∨ other ∈ list := List.mem_cons

theorem mem_of_brpop {list rest : List α} {value other : α}
    (popped : brpop list = some (value, rest)) :
    other ∈ list ↔ other = value ∨ other ∈ rest := by
  rw [brpop_eq_some.mp popped, List.mem_append, List.mem_singleton, or_comm]

theorem mem_of_blpopRest {list rest : List α} {value : α} (left : blpopRest list = some rest)
    (member : value ∈ rest) : value ∈ list := by
  unfold blpopRest at left
  split at left
  · cases left
    exact List.mem_cons_of_mem _ member
  · cases left

/-! ## Queues with a capacity -/

/-- What comes in when the queue is full takes the place of the oldest. -/
def enqueue (capacity : ℕ) (queue : List α) (entry : α) : List α :=
  (if queue.length < capacity then queue else queue.tail) ++ [entry]

variable {capacity : ℕ} {queue : List α} {entry : α}

theorem length_enqueue_le (positive : 0 < capacity) (bounded : queue.length ≤ capacity) :
    (enqueue capacity queue entry).length ≤ capacity := by
  unfold enqueue
  rw [List.length_append, List.length_singleton]
  split
  · next room => exact room
  · rw [List.length_tail]
    omega

theorem enqueue_sublist : (enqueue capacity queue entry).Sublist (queue ++ [entry]) := by
  unfold enqueue
  split
  · exact List.Sublist.refl _
  · exact (List.tail_sublist queue).append_right [entry]

/-! ## Queues drained in batches -/

/-- Entries that pass go, as many as the limit; the first that does not pass stays, with all
behind it. -/
def drain (passes : α → Bool) : ℕ → List α → List α
  | 0, queue => queue
  | _ + 1, [] => []
  | limit + 1, entry :: rest => if passes entry then drain passes limit rest else entry :: rest

variable {passes : α → Bool} {limit : ℕ}

theorem dropWhile_drain : (drain passes limit queue).dropWhile passes = queue.dropWhile passes := by
  induction limit generalizing queue with
  | zero => rfl
  | succ limit ih =>
      cases queue with
      | nil => rfl
      | cons entry rest =>
          unfold drain
          split
          next goes => rw [ih, List.dropWhile_cons_of_pos goes]
          · rfl

theorem length_takeWhile_drain : ((drain passes limit queue).takeWhile passes).length =
    (queue.takeWhile passes).length - limit := by
  induction limit generalizing queue with
  | zero => rfl
  | succ limit ih =>
      cases queue with
      | nil => exact (Nat.zero_sub _).symm
      | cons entry rest =>
          unfold drain
          split
          next goes =>
            rw [ih, List.takeWhile_cons_of_pos goes, List.length_cons, Nat.add_sub_add_right]
          next stays =>
            rw [List.takeWhile_cons_of_neg stays, List.length_nil, Nat.zero_sub]

/-- When none is left that could go, what stays is what no draining removes. -/
theorem eq_dropWhile_of_drained {rest : List α}
    (same : rest.dropWhile passes = queue.dropWhile passes)
    (drained : (rest.takeWhile passes).length = 0) : rest = queue.dropWhile passes := by
  calc rest = rest.takeWhile passes ++ rest.dropWhile passes :=
        List.takeWhile_append_dropWhile.symm
    _ = rest.dropWhile passes := by rw [List.length_eq_zero_iff.mp drained, List.nil_append]
    _ = queue.dropWhile passes := same

/-- Where stopping is followed by nothing good, nothing good is left. -/
theorem pairwise_iff_dropWhile {good : α → Prop} (goodPasses : ∀ entry, good entry → passes entry) :
    queue.Pairwise (fun entry later => passes entry = false → ¬ good later) ↔
      ∀ entry ∈ queue.dropWhile passes, ¬ good entry := by
  induction queue with
  | nil => simp
  | cons entry rest ih =>
      rw [List.pairwise_cons]
      by_cases goes : passes entry = true
      · rw [List.dropWhile_cons_of_pos goes, ih]
        refine and_iff_right fun later _ stays => ?_
        rw [goes] at stays
        cases stays
      · rw [List.dropWhile_cons_of_neg goes, List.forall_mem_cons]
        have stays : passes entry = false := Bool.eq_false_iff.mpr goes
        constructor
        · intro apart
          exact ⟨fun good => goes (goodPasses entry good), fun later member =>
            apart.1 later member stays⟩
        · intro none
          refine ⟨fun later member _ => none.2 later member, ih.mpr fun later member => ?_⟩
          exact none.2 later ((List.dropWhile_sublist passes).subset member)

end Aegis.Lib.Fifo

import Aegis.Mobile.Cache

/-!
# Draining the cache

`drainCache` sends the screenshots that wait, the oldest first and a few in each run, and takes
every answer but a success for a lost connection.  `unblocked_iff` says when all that the server
would accept is sent in the end.
-/

namespace Aegis.Mobile

open Aegis.Lib Aegis.Lib.Kotlin

/-- `MAX_DRAIN_PER_CYCLE`. -/
def maxDrainPerCycle : ℕ := 5

/-- A server that can be reached answers each file with one status, whenever it is sent; the
arguments are those of `trySendOnce`. -/
def Server : Type := String → String → ℤ → ℕ

/-- `response.isSuccessful`. -/
def isSuccessful (code : ℕ) : Bool := 200 ≤ code && code < 300

def trySendOnce (server : Server) (file accountId : String) (capturedAtMs : ℤ) : Bool :=
  isSuccessful (server file accountId capturedAtMs)

def trySend (server : Server) (file accountId : String) (capturedAtMs : ℤ) : Bool :=
  (List.range 2).any fun _ => trySendOnce server file accountId capturedAtMs

/-- The loop of `drainCache`. -/
def drainFiles (server : Server) : List String → List String → List String
  | [], cacheDir => cacheDir
  | file :: rest, cacheDir =>
      match parse file with
      | none => drainFiles server rest (remove cacheDir file)
      | some (capturedAtMs, accountId) =>
          if trySend server file accountId capturedAtMs then
            drainFiles server rest (remove cacheDir file)
          else cacheDir

def drainCache (server : Server) (cacheDir : List String) : List String :=
  let pending := listPendingOldestFirst cacheDir
  if pending.isEmpty then cacheDir
  else drainFiles server (pending.take maxDrainPerCycle) cacheDir

/-- The directory after so many runs, in any order after each. -/
inductive Drained (server : Server) (cacheDir : List String) : ℕ → List String → Prop
  | start {after : List String} (listed : after.Perm cacheDir) : Drained server cacheDir 0 after
  | run {n : ℕ} {before after : List String} (drained : Drained server cacheDir n before)
      (listed : after.Perm (drainCache server before)) : Drained server cacheDir (n + 1) after

/-- What the server thinks of a file; nothing is sent of one whose name cannot be read. -/
def verdict (server : Server) (file : String) : Option Bool :=
  (parse file).map fun (capturedAtMs, accountId) =>
    isSuccessful (server file accountId capturedAtMs)

/-- After as many runs as there are files, none is pending that the server accepts. -/
def Unblocked (server : Server) (cacheDir : List String) : Prop :=
  ∀ after, Drained server cacheDir (listPendingOldestFirst cacheDir).length after →
    ∀ file ∈ listPendingOldestFirst after, verdict server file ≠ some true

/-- The file goes when its turn comes. -/
def goes (server : Server) (file : String) : Bool := verdict server file ≠ some false

section Run

variable {server : Server} {cacheDir after : List String} {file : String} {files : List String}
  {n : ℕ}

theorem listPending_congr (listed : after.Perm cacheDir) :
    listPendingOldestFirst after = listPendingOldestFirst cacheDir :=
  sorted_congr (listed.filter _)

/-- Without its oldest file. -/
theorem listPending_remove (pending : listPendingOldestFirst cacheDir = file :: files) :
    listPendingOldestFirst (remove cacheDir file) = files := by
  have order := pairwise_sorted (cacheDir.filter fun name => ".jpg".toList <:+ name.toList)
  have perm : (listPendingOldestFirst cacheDir).Perm
      (cacheDir.filter fun name => ".jpg".toList <:+ name.toList) := List.mergeSort_perm _ _
  change (listPendingOldestFirst cacheDir).Pairwise _ at order
  rw [pending] at order perm
  have erased := perm.symm.erase file
  rw [List.erase_filter, List.erase_cons_head] at erased
  exact sorted_eq_of_le erased (List.pairwise_cons.mp order).2

/-- The second attempt is answered as the first one was. -/
theorem trySend_eq (server : Server) (file accountId : String) (capturedAtMs : ℤ) :
    trySend server file accountId capturedAtMs =
      isSuccessful (server file accountId capturedAtMs) := by
  change (_ || (_ || false)) = _
  rw [Bool.or_false, Bool.or_self]
  rfl

/-- A run takes the oldest files that go, up to the limit. -/
theorem listPending_drainFiles (limit : ℕ) (pending : listPendingOldestFirst cacheDir = files) :
    listPendingOldestFirst (drainFiles server (files.take limit) cacheDir) =
      Fifo.drain (goes server) limit files := by
  induction limit generalizing cacheDir files with
  | zero => exact pending
  | succ limit ih =>
      cases files with
      | nil => exact pending
      | cons file rest =>
          have removed := ih (listPending_remove pending)
          rw [List.take_succ_cons, drainFiles, Fifo.drain, goes, verdict]
          cases name : parse file with
          | none => exact removed
          | some parts =>
              dsimp only
              rw [trySend_eq, Option.map_some]
              cases isSuccessful (server file parts.2 parts.1) with
              | true => exact removed
              | false => exact pending

theorem listPending_drainCache : listPendingOldestFirst (drainCache server cacheDir) =
    Fifo.drain (goes server) maxDrainPerCycle (listPendingOldestFirst cacheDir) := by
  unfold drainCache
  dsimp only
  split
  next none =>
    rw [List.isEmpty_iff.mp none]
    rfl
  · exact listPending_drainFiles _ rfl

/-- Each run takes a file that goes, while there is one at the front. -/
theorem Drained.listPending (drained : Drained server cacheDir n after) :
    (listPendingOldestFirst after).dropWhile (goes server) =
        (listPendingOldestFirst cacheDir).dropWhile (goes server) ∧
      ((listPendingOldestFirst after).takeWhile (goes server)).length =
        ((listPendingOldestFirst cacheDir).takeWhile (goes server)).length -
          n * maxDrainPerCycle := by
  induction drained with
  | start listed =>
      rw [listPending_congr listed, Nat.zero_mul]
      exact ⟨rfl, rfl⟩
  | run _ listed ih =>
      rw [listPending_congr listed, listPending_drainCache, Fifo.dropWhile_drain,
        Fifo.length_takeWhile_drain, ih.2, Nat.succ_mul, Nat.sub_sub]
      exact ⟨ih.1, rfl⟩

/-- What is left in the end is what stood behind the first file that did not go. -/
theorem Drained.eq_dropWhile
    (drained : Drained server cacheDir (listPendingOldestFirst cacheDir).length after) :
    listPendingOldestFirst after = (listPendingOldestFirst cacheDir).dropWhile (goes server) := by
  obtain ⟨behind, front⟩ := drained.listPending
  refine Fifo.eq_dropWhile_of_drained behind (front.trans (Nat.sub_eq_zero_of_le ?_))
  have few := (List.takeWhile_sublist (l := listPendingOldestFirst cacheDir)
    (goes server)).length_le
  unfold maxDrainPerCycle
  omega

/-- Runs are possible. -/
theorem exists_drained (server : Server) (cacheDir : List String) (n : ℕ) :
    ∃ after, Drained server cacheDir n after := by
  induction n with
  | zero => exact ⟨cacheDir, .start (List.Perm.refl _)⟩
  | succ n ih =>
      obtain ⟨before, drained⟩ := ih
      exact ⟨_, .run drained (List.Perm.refl _)⟩

end Run

/-- **The backlog.**  All that the server accepts is sent in the end exactly when no file that
it refuses is older than one that it accepts. -/
theorem unblocked_iff (server : Server) (cacheDir : List String) :
    Unblocked server cacheDir ↔ (listPendingOldestFirst cacheDir).Pairwise fun older newer =>
      verdict server older = some false → verdict server newer ≠ some true := by
  have refused : ∀ file, goes server file = false ↔ verdict server file = some false := by
    intro file
    rw [goes, decide_eq_false_iff_not, not_not]
  have accepted : ∀ file, verdict server file = some true → goes server file = true := by
    intro file good
    rw [goes, good]
    rfl
  have left : (listPendingOldestFirst cacheDir).Pairwise _ ↔ _ :=
    Fifo.pairwise_iff_dropWhile accepted
  simp only [refused] at left
  rw [left]
  constructor
  · intro unblocked file member
    obtain ⟨after, drained⟩ :=
      exists_drained server cacheDir (listPendingOldestFirst cacheDir).length
    rw [← drained.eq_dropWhile] at member
    exact unblocked after drained file member
  · intro none after drained file member
    rw [drained.eq_dropWhile] at member
    exact none file member

/-- A server that refuses one file. -/
def refusing (refused : String) : Server := fun file _ _ => if file = refused then 413 else 200

/-- The second file waits behind the first, which is refused every time. -/
theorem not_unblocked_refused :
    ¬ Unblocked (refusing "1000_a.jpg") ["1000_a.jpg", "1001_a.jpg"] := by
  intro unblocked
  obtain ⟨after, drained⟩ := exists_drained (refusing "1000_a.jpg") ["1000_a.jpg", "1001_a.jpg"]
    (listPendingOldestFirst ["1000_a.jpg", "1001_a.jpg"]).length
  have pending : listPendingOldestFirst ["1000_a.jpg", "1001_a.jpg"] =
      ["1000_a.jpg", "1001_a.jpg"] :=
    sorted_eq_of_le (List.Perm.of_eq (by decide +kernel)) (by decide +kernel)
  have stays : ["1000_a.jpg", "1001_a.jpg"].dropWhile (goes (refusing "1000_a.jpg")) =
      ["1000_a.jpg", "1001_a.jpg"] := by
    decide +kernel
  have left : listPendingOldestFirst after = ["1000_a.jpg", "1001_a.jpg"] := by
    rw [drained.eq_dropWhile, pending, stays]
  have second : "1001_a.jpg" ∈ listPendingOldestFirst after := by
    rw [left]
    decide
  exact unblocked after drained "1001_a.jpg" second (by decide +kernel)

end Aegis.Mobile

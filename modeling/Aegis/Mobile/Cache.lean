import Aegis.Lib.Fifo
import Aegis.Lib.Kotlin
import Aegis.Lib.Run

/-!
# The screenshots that wait

`ScreenshotCacheManager` keeps a file for each screenshot that could not be sent, and the name of
the file is all that it knows of it.  `cacheDir_refines` says that the directory is a queue with a
capacity, as long as the times are of a clock that runs forward and gains no digit.

A directory is the names of its files as `listFiles` gives them, which is in any order.
-/

namespace Aegis.Mobile

open Aegis.Lib Aegis.Lib.Kotlin

/-- `MAX_CACHED_FILES`. -/
def maxCachedFiles : ℕ := 200

/-- The name of the file of `fileFor`. -/
def fileFor (capturedAtMs : ℤ) (accountId : String) : String :=
  toString capturedAtMs ++ "_" ++ accountId ++ ".jpg"

/-- The same, of a screenshot. -/
def fileOf (capture : ℤ × String) : String := fileFor capture.1 capture.2

/-- `remove`, or `delete` of the file. -/
def remove (cacheDir : List String) (file : String) : List String := cacheDir.erase file

def listPendingOldestFirst (cacheDir : List String) : List String :=
  sorted (cacheDir.filter fun name => ".jpg".toList <:+ name.toList)

def enforceCapBeforeInsert (cacheDir : List String) : List String :=
  let files := listPendingOldestFirst cacheDir
  if files.length ≥ maxCachedFiles then
    let toDrop := files.length - maxCachedFiles + 1
    (files.take toDrop).foldl remove cacheDir
  else cacheDir

/-- `cache`, on a file system that `opens` files for output or raises.  A name with a separator is
a path into a directory that is not there. -/
def cache (opens : String → Bool) (cacheDir : List String) (capturedAtMs : ℤ)
    (accountId : String) : List String :=
  let kept := enforceCapBeforeInsert cacheDir
  let file := fileFor capturedAtMs accountId
  if '/' ∉ file.toList ∧ opens file then kept.insert file else kept

def parse (file : String) : Option (ℤ × String) :=
  let name := substringBeforeLast '.' file
  match splitInTwo '_' name with
  | [ts, accountId] => (toLongOrNull ts).map (·, accountId)
  | _ => none

inductive CacheCall where
  | cache (capturedAtMs : ℤ) (accountId : String)
  | remove (file : String)

namespace CacheCall

def run (opens : String → Bool) (cacheDir : List String) : CacheCall → List String
  | cache capturedAtMs accountId => Mobile.cache opens cacheDir capturedAtMs accountId
  | remove file => Mobile.remove cacheDir file

/-- What the call does to the queue that the directory stands for. -/
def onQueue (queue : List (ℤ × String)) : CacheCall → List (ℤ × String)
  | cache capturedAtMs accountId => Fifo.enqueue maxCachedFiles queue (capturedAtMs, accountId)
  | remove file => queue.filter fun entry => fileOf entry ≠ file

def captured : CacheCall → Option (ℤ × String)
  | cache capturedAtMs accountId => some (capturedAtMs, accountId)
  | remove _ => none

end CacheCall

/-- The directory after the calls, in any order after each. -/
inductive Reaches (opens : String → Bool) : List CacheCall → List String → Prop
  | start : Reaches opens [] []
  | call {calls : List CacheCall} {cacheDir after : List String} (call : CacheCall)
      (reached : Reaches opens calls cacheDir) (listed : after.Perm (call.run opens cacheDir)) :
      Reaches opens (calls ++ [call]) after

/-- The queue after the calls. -/
def queued (calls : List CacheCall) : List (ℤ × String) := exec CacheCall.onQueue [] calls

/-- The screenshots that the calls of `cache` are for. -/
def captured (calls : List CacheCall) : List (ℤ × String) := calls.filterMap CacheCall.captured

/-- Screenshots of a clock that runs forward and gains no digit, of accounts without a separator,
whose files can be opened. -/
structure Chronicle (opens : String → Bool) (captures : List (ℤ × String)) : Prop where
  forward : captures.Pairwise fun earlier later => earlier.1 < later.1
  clock : ∀ capture ∈ captures, 0 ≤ capture.1 ∧ IsLong capture.1
  digits : ∀ capture ∈ captures, ∀ other ∈ captures,
    (toString capture.1).length = (toString other.1).length
  plain : ∀ capture ∈ captures, '/' ∉ capture.2.toList
  opened : ∀ capture ∈ captures, opens (fileOf capture) = true

section Names

variable {capturedAtMs : ℤ} {accountId : String}

theorem toList_fileFor :
    (fileFor capturedAtMs accountId).toList =
      (toString capturedAtMs ++ "_" ++ accountId).toList ++ '.' :: "jpg".toList := by
  rw [fileFor, String.toList_append]
  rfl

theorem toList_toString_nonneg (n : ℕ) : (toString (n : ℤ)).toList = Nat.toDigits 10 n :=
  Nat.toList_repr

/-- **Decoding.**  The name of a file says which screenshot it is. -/
theorem parse_fileFor (clock : 0 ≤ capturedAtMs ∧ IsLong capturedAtMs) :
    parse (fileFor capturedAtMs accountId) = some (capturedAtMs, accountId) := by
  have stem : substringBeforeLast '.' (fileFor capturedAtMs accountId) =
      toString capturedAtMs ++ "_" ++ accountId := by
    rw [substringBeforeLast_of_split toList_fileFor (by decide), String.ofList_toList]
  have parts : (toString capturedAtMs ++ "_" ++ accountId).toList =
      (toString capturedAtMs).toList ++ '_' :: accountId.toList := by
    rw [String.toList_append, String.toList_append, List.append_assoc]
    rfl
  have plain : '_' ∉ (toString capturedAtMs).toList := by
    obtain ⟨n, rfl⟩ := Int.eq_ofNat_of_zero_le clock.1
    rw [toList_toString_nonneg]
    exact Nat.underscore_not_in_toDigits
  unfold parse
  dsimp only
  rw [stem, splitInTwo_of_split parts plain, String.ofList_toList, String.ofList_toList]
  dsimp only
  rw [toLongOrNull_toString clock.2]
  rfl

theorem parse_fileOf {capture : ℤ × String} (clock : 0 ≤ capture.1 ∧ IsLong capture.1) :
    parse (fileOf capture) = some capture := by
  rw [fileOf, parse_fileFor clock]

theorem separator_fileFor (clock : 0 ≤ capturedAtMs) (plain : '/' ∉ accountId.toList) :
    '/' ∉ (fileFor capturedAtMs accountId).toList := by
  obtain ⟨n, rfl⟩ := Int.eq_ofNat_of_zero_le clock
  rw [fileFor, String.toList_append, String.toList_append, String.toList_append,
    toList_toString_nonneg, List.mem_append, List.mem_append, List.mem_append]
  intro either
  rcases either with ((digit | underscore) | account) | extension
  · exact absurd (isDigit_toDigits n _ digit) (by decide)
  · exact absurd underscore (by decide)
  · exact plain account
  · exact absurd extension (by decide)

/-- **Order.**  The names are in the order of their times. -/
theorem utf16_fileFor_lt {later : ℤ} {otherId : String} (clock : 0 ≤ capturedAtMs)
    (less : capturedAtMs < later)
    (digits : (toString capturedAtMs).length = (toString later).length) :
    utf16 (fileFor capturedAtMs accountId) < utf16 (fileFor later otherId) := by
  obtain ⟨m, rfl⟩ := Int.eq_ofNat_of_zero_le clock
  obtain ⟨n, rfl⟩ := Int.eq_ofNat_of_zero_le (Int.le_trans clock (Int.le_of_lt less))
  have template (n : ℕ) (accountId : String) : utf16 (fileFor n accountId) =
      (Nat.toDigits 10 n).flatMap codeUnits ++ utf16 ("_" ++ accountId ++ ".jpg") := by
    rw [utf16, fileFor, String.append_assoc, String.append_assoc, String.toList_append,
      List.flatMap_append, toList_toString_nonneg, utf16, String.append_assoc]
  rw [template, template]
  refine utf16_numeral_lt (by omega) ?_ _ _
  rw [← toList_toString_nonneg, ← toList_toString_nonneg, String.length_toList,
    String.length_toList]
  exact digits

end Names

/-! ## The queue -/

section Queue

variable {opens : String → Bool} {calls : List CacheCall} {capturedAtMs : ℤ}
  {accountId : String} {entries captures : List (ℤ × String)} {cacheDir : List String}

theorem queued_sublist : (queued calls).Sublist (captured calls) := by
  induction calls using List.reverseRecOn with
  | nil => exact List.Sublist.refl []
  | append_singleton calls call ih =>
      rw [queued, exec_concat, captured, List.filterMap_append]
      cases call with
      | cache capturedAtMs accountId =>
          exact Fifo.enqueue_sublist.trans (ih.append_right _)
      | remove file =>
          exact (List.filter_sublist.trans ih).trans (List.sublist_append_left _ _)

theorem length_queued_le : (queued calls).length ≤ maxCachedFiles := by
  refine exec_inv (I := fun queue : List (ℤ × String) => queue.length ≤ maxCachedFiles)
    (Nat.zero_le _) (fun queue call bounded => ?_) calls
  cases call with
  | cache capturedAtMs accountId => exact Fifo.length_enqueue_le (by decide) bounded
  | remove file => exact (List.length_filter_le _ _).trans bounded

namespace Chronicle

theorem sublist (chronicle : Chronicle opens captures) (part : entries.Sublist captures) :
    Chronicle opens entries where
  forward := chronicle.forward.sublist part
  clock capture member := chronicle.clock capture (part.subset member)
  digits capture member other also :=
    chronicle.digits capture (part.subset member) other (part.subset also)
  plain capture member := chronicle.plain capture (part.subset member)
  opened capture member := chronicle.opened capture (part.subset member)

/-- Names in the order of the screenshots. -/
theorem names (chronicle : Chronicle opens entries) :
    (entries.map fileOf).Pairwise
      fun first second => utf16 first < utf16 second := by
  rw [List.pairwise_map]
  refine chronicle.forward.imp_of_mem fun member also less => ?_
  exact utf16_fileFor_lt (chronicle.clock _ member).1 less (chronicle.digits _ member _ also)

theorem nodup (chronicle : Chronicle opens entries) :
    (entries.map fileOf).Nodup := by
  refine chronicle.names.imp fun less same => ?_
  rw [same] at less
  exact lt_irrefl _ less

theorem listPending (chronicle : Chronicle opens entries)
    (listed : cacheDir.Perm (entries.map fileOf)) :
    listPendingOldestFirst cacheDir = entries.map fileOf := by
  have all : cacheDir.filter (fun name => ".jpg".toList <:+ name.toList) = cacheDir := by
    refine List.filter_eq_self.mpr fun name member => decide_eq_true ?_
    obtain ⟨entry, _, rfl⟩ := List.mem_map.mp (listed.subset member)
    rw [fileOf, toList_fileFor]
    exact List.suffix_append _ _
  rw [listPendingOldestFirst, all]
  exact sorted_eq listed chronicle.names

theorem enforceCap (chronicle : Chronicle opens entries) (bounded : entries.length ≤ maxCachedFiles)
    (listed : cacheDir.Perm (entries.map fileOf)) :
    (enforceCapBeforeInsert cacheDir).Perm
      ((if entries.length < maxCachedFiles then entries else entries.tail).map fileOf) := by
  unfold enforceCapBeforeInsert
  rw [chronicle.listPending listed]
  dsimp only
  rw [List.length_map]
  by_cases room : entries.length < maxCachedFiles
  · rw [if_neg (not_le.mpr room), if_pos room]
    exact listed
  · have one : entries.length - maxCachedFiles + 1 = 1 := by omega
    rw [if_pos (not_lt.mp room), if_neg room, one]
    cases entries with
    | nil => exact absurd (by decide) room
    | cons oldest rest =>
        have dropped := listed.erase (fileOf oldest)
        rw [List.map_cons, List.erase_cons_head] at dropped
        exact dropped

theorem cache (chronicle : Chronicle opens (entries ++ [(capturedAtMs, accountId)]))
    (bounded : entries.length ≤ maxCachedFiles)
    (listed : cacheDir.Perm (entries.map fileOf)) :
    (Mobile.cache opens cacheDir capturedAtMs accountId).Perm
      ((Fifo.enqueue maxCachedFiles entries (capturedAtMs, accountId)).map fileOf) := by
  have kept := (chronicle.sublist (List.sublist_append_left _ _)).enforceCap bounded listed
  have part : (if entries.length < maxCachedFiles then entries else entries.tail).Sublist
      entries := by
    split
    · exact List.Sublist.refl _
    · exact List.tail_sublist _
  have fresh : fileFor capturedAtMs accountId ∉ enforceCapBeforeInsert cacheDir := by
    have apart := chronicle.nodup
    rw [List.map_append] at apart
    intro member
    have old := (part.map fileOf).subset (kept.subset member)
    exact (List.nodup_append.mp apart).2.2 _ old _ List.mem_cons_self rfl
  have last : (capturedAtMs, accountId) ∈ entries ++ [(capturedAtMs, accountId)] :=
    List.mem_append_right _ List.mem_cons_self
  have plain := separator_fileFor (chronicle.clock _ last).1 (chronicle.plain _ last)
  have opened : opens (fileFor capturedAtMs accountId) = true :=
    chronicle.opened (capturedAtMs, accountId) last
  unfold Mobile.cache
  dsimp only
  rw [if_pos ⟨plain, opened⟩, List.insert_of_not_mem fresh, Fifo.enqueue, List.map_append]
  exact (kept.cons _).trans (List.perm_append_singleton _ _).symm

theorem remove (chronicle : Chronicle opens entries) (file : String)
    (listed : cacheDir.Perm (entries.map fileOf)) :
    (Mobile.remove cacheDir file).Perm
      ((entries.filter fun entry => fileOf entry ≠ file).map fileOf) := by
  have erased := listed.erase file
  rw [chronicle.nodup.erase_eq_filter, List.filter_map] at erased
  refine erased.trans (List.Perm.of_eq (congrArg (List.map fileOf) ?_))
  refine List.filter_congr fun entry _ => ?_
  rw [Function.comp_apply, Bool.eq_iff_iff, bne_iff_ne, decide_eq_true_iff]

end Chronicle

/-- The directory lists the queue. -/
theorem Reaches.listed (reached : Reaches opens calls cacheDir)
    (chronicle : Chronicle opens (captured calls)) : cacheDir.Perm ((queued calls).map fileOf) := by
  induction reached with
  | start => exact List.Perm.refl []
  | @call calls cacheDir after call _ listed ih =>
      rw [captured, List.filterMap_append] at chronicle
      have earlier := chronicle.sublist (List.sublist_append_left (captured calls) _)
      have before := ih earlier
      have entries := earlier.sublist queued_sublist
      refine listed.trans ?_
      rw [queued, exec_concat]
      cases call with
      | cache capturedAtMs accountId =>
          have next := chronicle.sublist (queued_sublist.append_right [(capturedAtMs, accountId)])
          exact next.cache length_queued_le before
      | remove file => exact entries.remove file before

end Queue

/-- **The cache directory is a queue** of at most `MAX_CACHED_FILES` screenshots, from which the
oldest goes when one comes in and it is full. -/
theorem cacheDir_refines {opens : String → Bool} {calls : List CacheCall} {cacheDir : List String}
    (reached : Reaches opens calls cacheDir) (chronicle : Chronicle opens (captured calls)) :
    (listPendingOldestFirst cacheDir).map parse = (queued calls).map some ∧
      (queued calls).length ≤ maxCachedFiles := by
  refine ⟨?_, length_queued_le⟩
  have entries := chronicle.sublist queued_sublist
  rw [entries.listPending (reached.listed chronicle), List.map_map]
  refine List.map_congr_left fun entry member => ?_
  rw [Function.comp_apply, parse_fileOf (entries.clock entry member)]

/-- A directory that `listFiles` gives as it was written. -/
theorem reaches_exec (opens : String → Bool) (calls : List CacheCall) :
    Reaches opens calls (exec (CacheCall.run opens) [] calls) := by
  induction calls using List.reverseRecOn with
  | nil => exact .start
  | append_singleton calls call ih =>
      rw [exec_concat]
      exact .call call ih (.refl _)

/-- One screenshot more than there is room for. -/
def overflow : List CacheCall := (List.range 201).map fun i : ℕ => .cache (1000 + i) "a_b.c"

theorem captured_overflow :
    captured (overflow ++ [.remove "1001_a_b.c.jpg"]) =
      (List.range 201).map fun i : ℕ => (1000 + (i : ℤ), "a_b.c") := by
  rw [captured, List.filterMap_append, overflow, List.filterMap_map]
  exact (List.append_nil _).trans (congrFun List.filterMap_eq_map' _)

/-- The oldest screenshot is dropped for the last, and the next is sent. -/
theorem cacheDir_refines_overflow :
    (listPendingOldestFirst (remove (exec (CacheCall.run fun _ => true) [] overflow)
        "1001_a_b.c.jpg").reverse).map parse =
      (List.range 199).map fun i : ℕ => some (1002 + (i : ℤ), "a_b.c") := by
  have reached : Reaches (fun _ => true) (overflow ++ [.remove "1001_a_b.c.jpg"])
      (remove (exec (CacheCall.run fun _ => true) [] overflow) "1001_a_b.c.jpg").reverse :=
    .call _ (reaches_exec _ overflow) (List.reverse_perm _)
  have digits : ∀ i < 201, (toString (1000 + (i : ℕ) : ℤ)).length = 4 := by decide +kernel
  have chronicle : Chronicle (fun _ => true)
      (captured (overflow ++ [.remove "1001_a_b.c.jpg"])) := by
    rw [captured_overflow]
    refine ⟨?_, ?_, ?_, ?_, fun _ _ => rfl⟩
    · rw [List.pairwise_map]
      exact List.pairwise_lt_range.imp fun less => by simpa using less
    · simp only [List.forall_mem_map, List.mem_range, IsLong, longMax]
      omega
    · simp only [List.forall_mem_map, List.mem_range]
      exact fun i known j also => (digits i known).trans (digits j also).symm
    · simp only [List.forall_mem_map]
      exact fun _ _ => by decide
  exact (cacheDir_refines reached chronicle).1.trans (by decide +kernel)

end Aegis.Mobile

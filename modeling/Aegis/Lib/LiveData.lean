import Mathlib.Data.List.Basic
import Aegis.Lib.Run

/-!
# Observable values that conflate

A value of this kind is posted by any thread and set by one, the main thread.  A post that comes
before the one before it is set takes its place.  The observer is told of a value when it is set
and when the observer becomes active, of each at most once.

`Feed` is such a value with one observer, which another may replace.  Of whatever is posted, set
and observed in any order, an observer is told a part, in order (`Sound.told_sublist`), and when
it is active and nothing is pending the last thing it was told is the last that was posted
(`Sound.told_last`).
-/

namespace Aegis.Lib

variable {α : Type*}

/-- The lists say what was posted and set so far, and what the observer was told. -/
structure Feed (α : Type*) where
  pending : Option α
  active : Bool
  /-- the version that the observer has seen -/
  seen : ℕ
  posted : List α
  settled : List α
  told : List α

namespace Feed

/-- Nothing was posted yet. -/
def start : Feed α := ⟨none, false, 0, [], [], []⟩

/-- `getValue`. -/
def value (feed : Feed α) : Option α := feed.settled.getLast?

/-- `postValue`. -/
def post (feed : Feed α) (a : α) : Feed α :=
  { feed with pending := some a, posted := feed.posted ++ [a] }

/-- The observer is told if it is active and has not seen the value. -/
def notify (feed : Feed α) : Option α × Feed α :=
  if feed.active ∧ feed.seen < feed.settled.length then
    (feed.value, { feed with
      seen := feed.settled.length
      told := feed.told ++ feed.value.toList })
  else (none, feed)

/-- The main thread sets what is pending. -/
def flush (feed : Feed α) : Option α × Feed α :=
  match feed.pending with
  | none => (none, feed)
  | some a => notify { feed with pending := none, settled := feed.settled ++ [a] }

def setActive (feed : Feed α) (active : Bool) : Option α × Feed α :=
  notify { feed with active }

/-- A new observer, not yet active, in the place of the old one. -/
def observe (feed : Feed α) : Feed α := { feed with active := false, seen := 0, told := [] }

/-- What holds however the calls come. -/
structure Sound (feed : Feed α) : Prop where
  settled : (feed.settled ++ feed.pending.toList).Sublist feed.posted
  last : (feed.settled ++ feed.pending.toList).getLast? = feed.posted.getLast?
  seen : feed.seen ≤ feed.settled.length
  told : feed.told.Sublist (feed.settled.take feed.seen)
  toldLast : feed.told.getLast? = (feed.settled.take feed.seen).getLast?
  current : feed.active → feed.seen = feed.settled.length

variable {feed : Feed α}

theorem Sound.start : (start : Feed α).Sound where
  settled := .refl _
  last := rfl
  seen := Nat.le_refl _
  told := .refl _
  toldLast := rfl
  current := nofun

theorem Sound.post (sound : feed.Sound) (a : α) : (feed.post a).Sound where
  settled := by
    have before := (List.sublist_append_left feed.settled feed.pending.toList).trans sound.settled
    exact before.append_right [a]
  last := by simp [Feed.post]
  seen := sound.seen
  told := sound.told
  toldLast := sound.toldLast
  current := sound.current

theorem Sound.notify (settled : (feed.settled ++ feed.pending.toList).Sublist feed.posted)
    (last : (feed.settled ++ feed.pending.toList).getLast? = feed.posted.getLast?)
    (seen : feed.seen ≤ feed.settled.length)
    (told : feed.told.Sublist (feed.settled.take feed.seen))
    (toldLast : feed.told.getLast? = (feed.settled.take feed.seen).getLast?) :
    (feed.notify).2.Sound := by
  unfold Feed.notify
  split
  next fresh =>
    obtain ⟨_, unseen⟩ := fresh
    have nonempty : feed.settled ≠ [] := by
      intro empty
      rw [empty] at unseen
      exact Nat.not_lt_zero _ unseen
    have value : feed.value.toList = [feed.settled.getLast nonempty] := by
      rw [Feed.value, List.getLast?_eq_getLast_of_ne_nil nonempty]
      rfl
    have split : feed.settled = feed.settled.dropLast ++ [feed.settled.getLast nonempty] :=
      (List.dropLast_append_getLast nonempty).symm
    refine ⟨settled, last, Nat.le_refl _, ?_, ?_, fun _ => rfl⟩
    · dsimp only
      rw [List.take_length, value]
      conv_rhs => rw [split]
      refine List.Sublist.append_right (told.trans ?_) _
      rw [List.dropLast_eq_take]
      exact List.take_sublist_take_left (by omega)
    · dsimp only
      rw [List.take_length, value]
      conv_rhs => rw [split]
      rw [List.getLast?_append, List.getLast?_append]
      rfl
  next stale =>
    refine ⟨settled, last, seen, told, toldLast, fun active => ?_⟩
    have seenAll : ¬ feed.seen < feed.settled.length := fun less => stale ⟨active, less⟩
    exact Nat.le_antisymm seen (Nat.le_of_not_lt seenAll)

theorem Sound.flush (sound : feed.Sound) : (feed.flush).2.Sound := by
  unfold Feed.flush
  cases pending : feed.pending with
  | none => exact sound
  | some a =>
      have settled := sound.settled
      have last := sound.last
      rw [pending, Option.toList_some] at settled last
      refine Sound.notify ?_ ?_ ?_ ?_ ?_
      · simpa using settled
      · simpa using last
      · have seen := sound.seen
        rw [List.length_append]
        exact Nat.le_add_right_of_le seen
      · dsimp only
        rw [List.take_append_of_le_length sound.seen]
        exact sound.told
      · dsimp only
        rw [List.take_append_of_le_length sound.seen]
        exact sound.toldLast

theorem Sound.setActive (sound : feed.Sound) (active : Bool) : (feed.setActive active).2.Sound :=
  Sound.notify sound.settled sound.last sound.seen sound.told sound.toldLast

theorem Sound.observe (sound : feed.Sound) : (feed.observe).Sound where
  settled := sound.settled
  last := sound.last
  seen := Nat.zero_le _
  told := .refl _
  toldLast := rfl
  current := nofun

/-- **In order, and each at most once.** -/
theorem Sound.told_sublist (sound : feed.Sound) : feed.told.Sublist feed.posted :=
  sound.told.trans ((List.take_sublist _ _).trans
    ((List.sublist_append_left _ _).trans sound.settled))

/-- **Up to date.** -/
theorem Sound.told_last (sound : feed.Sound) (active : feed.active)
    (idle : feed.pending = none) : feed.told.getLast? = feed.posted.getLast? := by
  rw [sound.toldLast, sound.current active, List.take_length, ← sound.last, idle,
    Option.toList_none, List.append_nil]

/-! ## Counting -/

/-- The observer would be told of the value that is set. -/
def unseen (feed : Feed α) : ℕ := if feed.seen < feed.settled.length then 1 else 0

@[simp]
theorem posted_notify (feed : Feed α) : (feed.notify).2.posted = feed.posted := by
  unfold notify
  split <;> rfl

@[simp]
theorem settled_notify (feed : Feed α) : (feed.notify).2.settled = feed.settled := by
  unfold notify
  split <;> rfl

@[simp]
theorem settled_setActive (feed : Feed α) (active : Bool) :
    (feed.setActive active).2.settled = feed.settled := settled_notify _

@[simp]
theorem posted_flush (feed : Feed α) : (feed.flush).2.posted = feed.posted := by
  unfold flush
  split
  · rfl
  · exact posted_notify _

@[simp]
theorem posted_setActive (feed : Feed α) (active : Bool) :
    (feed.setActive active).2.posted = feed.posted := posted_notify _

/-- To be told uses up what was unseen. -/
theorem unseen_notify (feed : Feed α) :
    (feed.notify).1.toList.length + (feed.notify).2.unseen ≤ feed.unseen := by
  unfold notify
  split
  next fresh =>
    have one : feed.unseen = 1 := if_pos fresh.2
    have none (told : List α) :
        ({ feed with seen := feed.settled.length, told } : Feed α).unseen = 0 :=
      if_neg (Nat.lt_irrefl _)
    have now := none (feed.told ++ feed.value.toList)
    have atMost : feed.value.toList.length ≤ 1 := by
      cases feed.value with
      | none => exact Nat.zero_le _
      | some a => exact Nat.le_refl _
    dsimp only
    omega
  next stale => simp

theorem unseen_setActive (feed : Feed α) (active : Bool) :
    (feed.setActive active).1.toList.length + (feed.setActive active).2.unseen ≤ feed.unseen :=
  unseen_notify { feed with active }

theorem unseen_le_one (feed : Feed α) : feed.unseen ≤ 1 := by
  unfold unseen
  split <;> omega

theorem unseen_flush (feed : Feed α) :
    (feed.flush).1.toList.length + (feed.flush).2.unseen + feed.settled.length ≤
      feed.unseen + (feed.flush).2.settled.length := by
  unfold flush
  split
  next idle => simp
  next a pending =>
    have told := unseen_notify { feed with pending := none, settled := feed.settled ++ [a] }
    have atMost := unseen_le_one { feed with pending := none, settled := feed.settled ++ [a] }
    rw [settled_notify, List.length_append, List.length_singleton]
    omega

theorem notify_mem_posted (feed : Feed α) {a : α} (within : feed.settled.Sublist feed.posted)
    (told : (feed.notify).1 = some a) : a ∈ feed.posted := by
  unfold notify at told
  split at told
  · exact within.subset (List.mem_of_getLast? told)
  · cases told

theorem Sound.value_mem_posted (sound : feed.Sound) {a : α} (value : feed.value = some a) :
    a ∈ feed.posted :=
  ((List.sublist_append_left _ _).trans sound.settled).subset (List.mem_of_getLast? value)

/-- What the observer is told was posted. -/
theorem Sound.flush_mem_posted (sound : feed.Sound) {a : α} (told : (feed.flush).1 = some a) :
    a ∈ feed.posted := by
  unfold Feed.flush at told
  split at told
  · cases told
  next b pending =>
    have settled := sound.settled
    rw [pending] at settled
    exact notify_mem_posted { feed with pending := none, settled := feed.settled ++ [b] } settled
      told

theorem Sound.setActive_mem_posted (sound : feed.Sound) {active : Bool} {a : α}
    (told : (feed.setActive active).1 = some a) : a ∈ feed.posted :=
  notify_mem_posted { feed with active }
    ((List.sublist_append_left _ _).trans sound.settled) told

end Feed

end Aegis.Lib

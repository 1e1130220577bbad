import Mathlib.Data.Fintype.Card
import Aegis.Lib.Run

/-!
# Lost updates

A stored number that callers increase by one: each selects it, and later writes back what it
has selected plus one.  A `Tally` says where the states and events of a machine do this.

As long as each write finds the number as its caller has selected it, the number counts the
writes (`Level`); after a write that does not, it stays behind for good (`Behind`).
`throughout_level_iff` is the exact rule, and a number that is right at the end has been right
all along (`throughout_level_of_exec`).  The last section counts callers by where they stand.
-/

namespace Aegis.Lib

variable {σ ε : Type*} {step : σ → ε → σ} {I : σ → Prop}

/-- In the states of the invariant, an event writes back what a caller has selected, or it
leaves the number alone and at most selects it. -/
structure Tally (step : σ → ε → σ) (I : σ → Prop) where
  stored : σ → ℤ
  /-- the number of writes so far -/
  written : σ → ℕ
  /-- a caller has selected this number and not yet written it back -/
  Selected : σ → ℤ → Prop
  /-- the selected number that the event writes back -/
  writes : σ → ε → Option ℤ
  keeps : ∀ s event, I s → I (step s event)
  selects : ∀ s event, I s → ∀ v, Selected (step s event) v → Selected s v ∨ v = stored s
  quiet : ∀ s event, I s → writes s event = none →
    stored (step s event) = stored s ∧ written (step s event) = written s
  write : ∀ s event found, I s → writes s event = some found →
    Selected s found ∧ stored (step s event) = found + 1 ∧ written (step s event) = written s + 1

namespace Tally

variable (tally : Tally step I)

/-- The write finds the number as it was selected. -/
def Undisturbed (s : σ) (event : ε) : Prop :=
  ∀ found, tally.writes s event = some found → tally.stored s = found

/-- Neither the stored number nor one that a caller has selected is greater. -/
structure Bounded (bound : ℤ) (s : σ) : Prop where
  stored : tally.stored s ≤ bound
  selected : ∀ v, tally.Selected s v → v ≤ bound

/-- The number counts the writes, and no caller has selected a greater one. -/
structure Level (s : σ) : Prop where
  stored : tally.stored s = tally.written s
  bounded : tally.Bounded (tally.written s) s

/-- The number has missed a write, and so has all that is selected. -/
def Behind (s : σ) : Prop := tally.Bounded (tally.written s - 1) s

variable {tally} {s : σ} {event : ε} {bound greater found : ℤ}

theorem Bounded.mono (bounded : tally.Bounded bound s) (le : bound ≤ greater) :
    tally.Bounded greater s :=
  ⟨Int.le_trans bounded.stored le,
    fun v selected => Int.le_trans (bounded.selected v selected) le⟩

theorem Behind.not_level (behind : tally.Behind s) : tally.stored s ≠ tally.written s := by
  have below := behind.stored
  omega

theorem Bounded.quiet (bounded : tally.Bounded bound s) (inv : I s)
    (quiet : tally.writes s event = none) : tally.Bounded bound (step s event) := by
  constructor
  · rw [(tally.quiet s event inv quiet).1]
    exact bounded.stored
  · intro v selected
    rcases tally.selects s event inv v selected with before | rfl
    · exact bounded.selected v before
    · exact bounded.stored

theorem Bounded.write (bounded : tally.Bounded bound s) (inv : I s)
    (writes : tally.writes s event = some found) (within : found + 1 ≤ bound) :
    tally.Bounded bound (step s event) := by
  constructor
  · rw [(tally.write s event found inv writes).2.1]
    exact within
  · intro v selected
    rcases tally.selects s event inv v selected with before | rfl
    · exact bounded.selected v before
    · exact bounded.stored

theorem Behind.next (behind : tally.Behind s) (inv : I s) (event : ε) :
    tally.Behind (step s event) := by
  unfold Behind at behind ⊢
  cases writes : tally.writes s event with
  | none =>
      rw [(tally.quiet s event inv writes).2]
      exact behind.quiet inv writes
  | some found =>
      obtain ⟨selected, _, written⟩ := tally.write s event found inv writes
      have below := behind.selected found selected
      rw [written]
      push_cast
      exact (behind.mono (by omega)).write inv writes (by omega)

/-- **One event** keeps the number level if it is undisturbed, and else puts it behind. -/
theorem Level.next (level : tally.Level s) (inv : I s) (event : ε) :
    (tally.Undisturbed s event ∧ tally.Level (step s event)) ∨
      (¬ tally.Undisturbed s event ∧ tally.Behind (step s event)) := by
  cases writes : tally.writes s event with
  | none =>
      left
      obtain ⟨stored, written⟩ := tally.quiet s event inv writes
      refine ⟨fun found other => (nomatch writes.symm.trans other), ?_, ?_⟩
      · rw [stored, written, level.stored]
      · rw [written]
        exact level.bounded.quiet inv writes
  | some found =>
      obtain ⟨selected, stored, written⟩ := tally.write s event found inv writes
      have below := level.bounded.selected found selected
      have counted := level.stored
      by_cases same : tally.stored s = found
      · left
        refine ⟨fun other writes' => ?_, ?_, ?_⟩
        · cases writes.symm.trans writes'
          exact same
        · rw [stored, written, ← same, counted]
          push_cast
          rfl
        · rw [written]
          push_cast
          exact (level.bounded.mono (by omega)).write inv writes (by omega)
      · right
        refine ⟨fun undisturbed => same (undisturbed found writes), ?_⟩
        unfold Behind
        rw [written]
        push_cast
        exact (level.bounded.mono (by omega)).write inv writes (by omega)

/-! ## Runs -/

section Runs

variable {events : List ε} (inv : I s) (level : tally.Level s)

include inv level

/-- In every state the number is right, or it has missed a write. -/
theorem level_or_behind (events : List ε) :
    I (exec step s events) ∧
      (tally.Level (exec step s events) ∨ tally.Behind (exec step s events)) := by
  refine exec_inv (I := fun now => I now ∧ (tally.Level now ∨ tally.Behind now))
    ⟨inv, .inl level⟩ ?_ events
  intro now event held
  rcases held with ⟨inv, level | behind⟩
  · exact ⟨tally.keeps now event inv, (level.next inv event).imp And.right And.right⟩
  · exact ⟨tally.keeps now event inv, .inr (behind.next inv event)⟩

/-- **Exact rule.** -/
theorem throughout_level_iff (events : List ε) :
    Throughout step tally.Level s events ↔ EachStep step tally.Undisturbed s events := by
  refine throughout_iff_eachStep inv level tally.keeps ?_
  intro now event inv level
  rcases level.next inv event with ⟨yes, after⟩ | ⟨no, behind⟩
  · exact iff_of_true after yes
  · exact iff_of_false (fun after => behind.not_level after.stored) no

/-- A number that is right at the end has been right all along. -/
theorem throughout_level_of_exec
    (right : tally.stored (exec step s events) = tally.written (exec step s events)) :
    Throughout step tally.Level s events := by
  rw [throughout_iff]
  intro early held
  rcases held with ⟨rest, rfl⟩
  obtain ⟨kept, level | behind⟩ := level_or_behind inv level early
  · exact level
  · have last : I (exec step (exec step s early) rest) ∧
        tally.Behind (exec step (exec step s early) rest) :=
      exec_inv (I := fun now => I now ∧ tally.Behind now) ⟨kept, behind⟩
        (fun now event both => ⟨tally.keeps now event both.1, Behind.next both.2 both.1 event⟩) rest
    rw [exec_append] at right
    exact absurd right last.2.not_level

end Runs

end Tally

/-! ## Counting callers -/

section Counting

variable {ι φ : Type*} [Fintype ι] [DecidableEq ι] {P : φ → Prop} [DecidablePred P]
  {phases : ι → φ} {i : ι} {phase : φ}

theorem card_update_of_iff (same : P phase ↔ P (phases i)) :
    (Finset.univ.filter fun j => P (Function.update phases i phase j)).card =
      (Finset.univ.filter fun j => P (phases j)).card := by
  congr 1
  refine Finset.filter_congr fun j _ => ?_
  by_cases own : j = i
  · subst own
    rw [Function.update_self, same]
  · rw [Function.update_of_ne own]

theorem card_update_of_new (before : ¬ P (phases i)) (now : P phase) :
    (Finset.univ.filter fun j => P (Function.update phases i phase j)).card =
      (Finset.univ.filter fun j => P (phases j)).card + 1 := by
  have grown : (Finset.univ.filter fun j => P (Function.update phases i phase j)) =
      insert i (Finset.univ.filter fun j => P (phases j)) := by
    ext j
    by_cases own : j = i
    · subst own
      simp [now]
    · simp [own]
  rw [grown, Finset.card_insert_of_notMem (by simp [before])]

end Counting

end Aegis.Lib

import Mathlib.Data.Fintype.Basic
import Aegis.Lib.Tally
import Aegis.Trading.Desk

/-!
# The daily quota under concurrent orders

Calls of `TradeLimitService.consume` for one account and one day, statement by statement, on a
database that isolates transactions as READ COMMITTED does.  `consume` selects the counter,
compares it in Python and writes back an absolute value; what it selected may be out of date
when its write gets the row.

`quota_kept_iff` says when the quota holds: as long as each commit finds the counter as its
call selected it.  After one that does not, the stored count stays behind for good.
-/

namespace Aegis.Trading

open Aegis.Lib

/-- Where a call of `consume` stands. -/
inductive Phase where
  | start
  /-- `_limit_for` has returned -/
  | limited
  /-- the counter has been selected -/
  | loaded (found : Option ℤ)
  /-- the `INSERT` or the `UPDATE` has been sent, and holds the key or the row -/
  | flushed (found : Option ℤ)
  | returned (used : ℤ)
  /-- the transaction was rolled back over the limit -/
  | overLimit
  | integrityError
  deriving DecidableEq

/-- The counter of the account and the day, and the calls. -/
structure Counting (ι : Type) where
  /-- the `trade_count` of the committed row -/
  committed : Option ℤ
  /-- the call whose uncommitted write keeps other writes waiting -/
  writer : Option ι
  phases : ι → Phase

namespace Counting

variable {ι : Type} [DecidableEq ι]

/-- No row yet, and no call has begun. -/
def start : Counting ι := ⟨none, none, fun _ => .start⟩

def move (counting : Counting ι) (i : ι) (phase : Phase) : Counting ι :=
  { counting with phases := Function.update counting.phases i phase }

/-- The next statement of call `i`, which consumes `n` trades; one that has to wait for a lock
leaves everything as it is. -/
def step (limit n : ℤ) (counting : Counting ι) (i : ι) : Counting ι :=
  match counting.phases i with
  | .start => counting.move i .limited
  | .limited => counting.move i (.loaded counting.committed)
  | .loaded found =>
      if limit > 0 ∧ found.getD 0 + n > limit then counting.move i .overLimit
      else if counting.writer.isSome then counting
      -- An INSERT meets the unique key, an UPDATE takes the row as it now is.
      else if found = none ∧ counting.committed ≠ none then counting.move i .integrityError
      else { counting.move i (.flushed found) with writer := some i }
  | .flushed found =>
      { counting.move i (.returned (found.getD 0 + n)) with
        committed := some (found.getD 0 + n), writer := none }
  | .returned _ | .overLimit | .integrityError => counting

end Counting

/-- The call has returned normally. -/
def Phase.Returned : Phase → Prop
  | returned _ => True
  | start | limited | loaded _ | flushed _ | overLimit | integrityError => False

instance : DecidablePred Phase.Returned := fun phase =>
  match phase with
  | .returned _ => .isTrue trivial
  | .start | .limited | .loaded _ | .flushed _ | .overLimit | .integrityError => .isFalse id

/-- The call has returned or raised. -/
def Phase.Ended : Phase → Prop
  | returned _ | overLimit | integrityError => True
  | start | limited | loaded _ | flushed _ => False

/-- The counter as the call has selected it. -/
def Phase.selection : Phase → Option (Option ℤ)
  | loaded found | flushed found => some found
  | start | limited | returned _ | overLimit | integrityError => none

/-- The count that the call writes back in its turn, less its own trades. -/
def Phase.writes : Phase → Option ℤ
  | flushed found => some (found.getD 0)
  | start | limited | loaded _ | returned _ | overLimit | integrityError => none

theorem Phase.writes_eq_some {phase : Phase} {count : ℤ} :
    phase.writes = some count ↔ ∃ found, phase = .flushed found ∧ found.getD 0 = count := by
  cases phase <;> simp [Phase.writes]

namespace Counting

variable {ι : Type}

/-- The number of calls that have returned. -/
def returned [Fintype ι] (counting : Counting ι) : ℕ :=
  (Finset.univ.filter fun i => (counting.phases i).Returned).card

/-- `trade_count`, which is `0` while there is no row. -/
def tradeCount (counting : Counting ι) : ℤ := counting.committed.getD 0

def Finished (counting : Counting ι) : Prop := ∀ i, (counting.phases i).Ended

/-- The quota holds, and the counter is right once all calls have ended. -/
def Kept [Fintype ι] (limit : ℤ) (counting : Counting ι) : Prop :=
  (counting.returned : ℤ) ≤ limit ∧
    (counting.Finished → counting.tradeCount = counting.returned)

/-- The turn of a call that commits finds the counter as the call selected it. -/
def Undisturbed (counting : Counting ι) (i : ι) : Prop :=
  ∀ found, counting.phases i = .flushed found → counting.committed = found

instance (counting : Counting ι) (i : ι) : Decidable (counting.Undisturbed i) :=
  match at_ : counting.phases i with
  | .flushed found =>
      decidable_of_iff (counting.committed = found)
        ⟨fun same _ now => same.trans (Phase.flushed.inj (at_.symm.trans now)),
          fun all => all found at_⟩
  | .start | .limited | .loaded _ | .returned _ | .overLimit | .integrityError =>
      .isTrue fun _ now => nomatch at_.symm.trans now

end Counting

namespace Counting

variable {ι : Type} [DecidableEq ι] {counting after : Counting ι} {i j : ι} {limit n : ℤ}
  {phase : Phase}

/-! ## What a turn does -/

@[simp]
theorem phases_move_self : (counting.move i phase).phases i = phase := Function.update_self ..

theorem phases_move_of_ne (apart : j ≠ i) :
    (counting.move i phase).phases j = counting.phases j := Function.update_of_ne apart ..

inductive Turn (limit n : ℤ) (counting : Counting ι) (i : ι) : Counting ι → Prop where
  | wait (idle : ∀ found, counting.phases i ≠ .flushed found) : Turn limit n counting i counting
  | limited (at_ : counting.phases i = .start) : Turn limit n counting i (counting.move i .limited)
  | load (at_ : counting.phases i = .limited) :
      Turn limit n counting i (counting.move i (.loaded counting.committed))
  | raise {found : Option ℤ} {phase : Phase} (at_ : counting.phases i = .loaded found)
      (raised : phase = .overLimit ∨ phase = .integrityError) :
      Turn limit n counting i (counting.move i phase)
  | flush {found : Option ℤ} (at_ : counting.phases i = .loaded found)
      (within : 0 < limit → found.getD 0 + n ≤ limit) (free : counting.writer = none)
      (key : found = none → counting.committed = none) :
      Turn limit n counting i { counting.move i (.flushed found) with writer := some i }
  | commit {found : Option ℤ} (at_ : counting.phases i = .flushed found) :
      Turn limit n counting i
        { counting.move i (.returned (found.getD 0 + n)) with
          committed := some (found.getD 0 + n), writer := none }

theorem turn_step (limit n : ℤ) (counting : Counting ι) (i : ι) :
    Turn limit n counting i (step limit n counting i) := by
  unfold step
  split
  next at_ => exact .limited at_
  next at_ => exact .load at_
  next found at_ =>
    split
    · exact .raise at_ (.inl rfl)
    next within =>
    split
    · exact .wait fun other flushed => nomatch at_.symm.trans flushed
    next free =>
    split
    · exact .raise at_ (.inr rfl)
    next key =>
    refine .flush at_ ?_ (Option.not_isSome_iff_eq_none.mp free) ?_
    · exact fun positive => not_lt.mp fun above => within ⟨positive, above⟩
    · exact fun none => not_not.mp fun taken => key ⟨none, taken⟩
  next found at_ => exact .commit at_
  next at_ => exact .wait fun found flushed => nomatch at_.symm.trans flushed
  next at_ => exact .wait fun found flushed => nomatch at_.symm.trans flushed
  next at_ => exact .wait fun found flushed => nomatch at_.symm.trans flushed

/-- A call that nobody interrupts does what `consume` does in one go, short of an overflow. -/
theorem exec_alone (desk : Desk) (account : String) (day : ℤ)
    (same : counting.committed = desk.tradeCounts account day) (free : counting.writer = none)
    (begins : counting.phases i = .start)
    (fits : -2147483648 ≤ counting.committed.getD 0 + n ∧
      counting.committed.getD 0 + n < 2147483648) :
    let after := exec (step limit n) counting [i, i, i, i]
    let whole := (Prog.transact (consumeUnits account day limit n)).run desk
    after.committed = whole.2.tradeCounts account day ∧
      after.phases i = match whole.1 with
        | .ok (.ok used) => .returned used
        | .ok (.error _) | .error _ => .overLimit := by
  let loaded := (counting.move i .limited).move i (.loaded counting.committed)
  have first : step limit n counting i = counting.move i .limited := by
    simp only [step, begins]
  have second : step limit n (counting.move i .limited) i = loaded := by
    simp only [step, phases_move_self]
    rfl
  have at_ : loaded.phases i = .loaded (desk.tradeCounts account day) := by
    rw [← same]
    exact phases_move_self
  rw [same] at fits
  dsimp only [exec, List.foldl]
  rw [first, second]
  by_cases above : limit > 0 ∧ (desk.tradeCounts account day).getD 0 + n > limit
  · have third : step limit n loaded i = loaded.move i .overLimit := by
      simp only [step, at_, if_pos above]
    have fourth : step limit n (loaded.move i .overLimit) i = loaded.move i .overLimit := by
      simp only [step, phases_move_self]
    rw [third, fourth]
    have refused : consumeUnits account day limit n desk = _ := if_pos above
    cases raised : tradeCountAfterRollback (desk.tradeCounts account day) with
    | error e =>
        rw [raised] at refused
        rw [Prog.run_transact_error refused]
        exact ⟨same, phases_move_self⟩
    | ok tradeCount =>
        rw [raised] at refused
        rw [Prog.run_transact_ok refused]
        exact ⟨same, phases_move_self⟩
  · let flushed : Counting ι :=
      { loaded.move i (.flushed (desk.tradeCounts account day)) with writer := some i }
    have third : step limit n loaded i = flushed := by
      have unlocked : ¬ loaded.writer.isSome := by
        rw [Option.not_isSome_iff_eq_none]
        exact free
      have key : ¬ (desk.tradeCounts account day = none ∧ loaded.committed ≠ none) := by
        intro held
        rcases held with ⟨absent, present⟩
        exact present (same.trans absent)
      simp only [step, at_, if_neg above, if_neg unlocked, if_neg key]
      rfl
    have flushedAt : flushed.phases i = .flushed (desk.tradeCounts account day) :=
      phases_move_self
    have done := (if_neg above : consumeUnits account day limit n desk = _).trans
      (if_neg (by omega))
    rw [third, Prog.run_transact_ok done]
    simp only [step, flushedAt, Function.update_self]
    exact ⟨trivial, phases_move_self⟩

/-! ## Counting the calls that have returned -/

section Returned

variable [Fintype ι]

theorem returned_move (before : ¬ (counting.phases i).Returned) (not : ¬ phase.Returned) :
    (counting.move i phase).returned = counting.returned :=
  card_update_of_iff (iff_of_false not before)

theorem returned_move_returned (before : ¬ (counting.phases i).Returned) (now : phase.Returned) :
    (counting.move i phase).returned = counting.returned + 1 := card_update_of_new before now

end Returned

/-! ## Invariants -/

/-- What the locks and the comparison keep, for calls that consume one trade each. -/
structure Sound (limit : ℤ) (counting : Counting ι) : Prop where
  locked : ∀ i found, counting.phases i = .flushed found → counting.writer = some i ∧
    (found = none → counting.committed = none) ∧ found.getD 0 + 1 ≤ limit
  within : counting.tradeCount ≤ limit
  positive : ∀ count ∈ counting.committed, 1 ≤ count
  selected : ∀ i found, (counting.phases i).selection = some found → ∀ count ∈ found, 1 ≤ count

theorem phases_move_cases {later : Phase} (now : (counting.move i phase).phases j = later) :
    later = phase ∧ j = i ∨ counting.phases j = later ∧ j ≠ i := update_eq_cases now

/-- What holds of each selection goes on to hold when a call moves on with a like one. -/
theorem selected_move {P : Option ℤ → Prop}
    (before : ∀ j found, (counting.phases j).selection = some found → P found)
    (own : ∀ found, phase.selection = some found → P found) (j : ι) (found : Option ℤ)
    (selected : ((counting.move i phase).phases j).selection = some found) : P found := by
  by_cases turn : j = i
  · subst turn
    rw [phases_move_self] at selected
    exact own found selected
  · rw [phases_move_of_ne turn] at selected
    exact before j found selected

theorem Sound.move (sound : Sound limit counting) (unlocked : ∀ found, phase ≠ .flushed found)
    (selects : ∀ found, phase.selection = some found → ∀ count ∈ found, 1 ≤ count) :
    Sound limit (counting.move i phase) := by
  refine ⟨?_, sound.within, sound.positive, selected_move sound.selected selects⟩
  intro j found flushed
  rcases phases_move_cases flushed with ⟨own, _⟩ | ⟨before, _⟩
  · exact absurd own.symm (unlocked found)
  · exact sound.locked j found before

/-- **One turn** keeps the locks. -/
theorem Turn.sound (turn : Turn limit 1 counting i after) (limited : 0 < limit)
    (sound : Sound limit counting) : Sound limit after := by
  cases turn with
  | wait idle => exact sound
  | limited at_ => exact sound.move nofun nofun
  | load at_ =>
      refine sound.move nofun fun found same => ?_
      cases same
      exact sound.positive
  | raise at_ raised =>
      rcases raised with rfl | rfl
      · exact sound.move nofun nofun
      · exact sound.move nofun nofun
  | @flush found at_ within free key =>
      refine ⟨?_, sound.within, sound.positive, selected_move sound.selected ?_⟩
      · intro j other flushed
        rcases phases_move_cases flushed with ⟨own, rfl⟩ | ⟨before, _⟩
        · cases own
          exact ⟨rfl, key, within limited⟩
        · have held := (sound.locked j other before).1
          rw [free] at held
          cases held
      · intro other same
        cases same
        exact sound.selected i found (by rw [at_]; rfl)
  | @commit found at_ =>
      obtain ⟨held, _, within⟩ := sound.locked i found at_
      refine ⟨?_, within, ?_, selected_move sound.selected nofun⟩
      · intro j other flushed
        rcases phases_move_cases flushed with ⟨own, _⟩ | ⟨before, apart⟩
        · cases own
        · have own := (sound.locked j other before).1
          rw [held] at own
          exact absurd (Option.some.inj own).symm apart
      · intro count same
        cases same
        cases found with
        | none => exact le_rfl
        | some count =>
            have least := sound.selected i (some count) (by rw [at_]; rfl) count rfl
            exact least.trans (Int.le_add_one le_rfl)

/-! ## The counter as a tally -/

/-- A call has selected this count and not yet written it back. -/
def Selects (counting : Counting ι) (count : ℤ) : Prop :=
  ∃ i found, (counting.phases i).selection = some found ∧ found.getD 0 = count

theorem selects_move {count : ℤ} (selects : (counting.move i phase).Selects count) :
    counting.Selects count ∨ ∃ found, phase.selection = some found ∧ found.getD 0 = count := by
  obtain ⟨j, found, selected, same⟩ := selects
  by_cases own : j = i
  · subst own
    rw [phases_move_self] at selected
    exact .inr ⟨found, selected, same⟩
  · rw [phases_move_of_ne own] at selected
    exact .inl ⟨j, found, selected, same⟩

/-- What a call selects in its turn is the counter. -/
theorem Turn.selects (turn : Turn limit n counting i after) {count : ℤ}
    (selects : after.Selects count) :
    counting.Selects count ∨ count = counting.tradeCount := by
  cases turn with
  | wait _ => exact .inl selects
  | limited _ => exact (selects_move selects).imp id nofun
  | load _ =>
      rcases selects_move selects with before | ⟨found, now, same⟩
      · exact .inl before
      · cases now
        exact .inr same.symm
  | raise _ raised =>
      rcases raised with rfl | rfl
      · exact (selects_move selects).imp id nofun
      · exact (selects_move selects).imp id nofun
  | @flush found at_ within free key =>
      have moved : (counting.move i (.flushed found)).Selects count := selects
      rcases selects_move moved with before | ⟨other, now, same⟩
      · exact .inl before
      · cases now
        exact .inl ⟨i, found, by rw [at_]; rfl, same⟩
  | @commit found at_ =>
      have moved : (counting.move i (.returned (found.getD 0 + n))).Selects count := selects
      rcases selects_move moved with before | ⟨other, now, _⟩
      · exact .inl before
      · cases now

section Tally

variable [Fintype ι]

/-- A turn that does not commit leaves the counter alone. -/
theorem Turn.quiet (turn : Turn limit n counting i after)
    (unflushed : (counting.phases i).writes = none) :
    after.tradeCount = counting.tradeCount ∧ after.returned = counting.returned := by
  cases turn with
  | wait _ => exact ⟨rfl, rfl⟩
  | limited at_ => exact ⟨rfl, returned_move (by simp [at_, Phase.Returned]) id⟩
  | load at_ => exact ⟨rfl, returned_move (by simp [at_, Phase.Returned]) id⟩
  | raise at_ raised =>
      rcases raised with rfl | rfl
      · exact ⟨rfl, returned_move (by simp [at_, Phase.Returned]) id⟩
      · exact ⟨rfl, returned_move (by simp [at_, Phase.Returned]) id⟩
  | flush at_ _ _ _ => exact ⟨rfl, returned_move (by simp [at_, Phase.Returned]) id⟩
  | commit at_ =>
      rw [at_] at unflushed
      cases unflushed

/-- A commit writes back what its call has selected, and one more. -/
theorem Turn.write (turn : Turn limit n counting i after) {count : ℤ}
    (writes : (counting.phases i).writes = some count) :
    after.tradeCount = count + n ∧ after.returned = counting.returned + 1 := by
  obtain ⟨found, flushed, rfl⟩ := Phase.writes_eq_some.mp writes
  cases turn with
  | wait idle => exact absurd flushed (idle found)
  | limited at_ => cases at_.symm.trans flushed
  | load at_ => cases at_.symm.trans flushed
  | raise at_ _ => cases at_.symm.trans flushed
  | flush at_ _ _ _ => cases at_.symm.trans flushed
  | commit at_ =>
      cases at_.symm.trans flushed
      exact ⟨rfl, returned_move_returned (by simp [at_, Phase.Returned]) trivial⟩

/-- The counter, as a number that calls increase by one. -/
def countTally (limited : 0 < limit) : Tally (step limit 1) (Sound (ι := ι) limit) where
  stored := tradeCount
  written := returned
  Selected := Selects
  writes counting i := (counting.phases i).writes
  keeps counting i sound := (turn_step limit 1 counting i).sound limited sound
  selects counting i _ _ selected := (turn_step limit 1 counting i).selects selected
  quiet counting i _ unflushed := (turn_step limit 1 counting i).quiet unflushed
  write counting i count _ writes := by
    obtain ⟨found, flushed, same⟩ := Phase.writes_eq_some.mp writes
    exact ⟨⟨i, found, by rw [flushed]; rfl, same⟩, (turn_step limit 1 counting i).write writes⟩

omit [Fintype ι] [DecidableEq ι] in
/-- While a write holds the row, equal counts are equal rows. -/
theorem Sound.committed_eq {found : Option ℤ} (sound : Sound limit counting)
    (flushed : counting.phases i = .flushed found) (equal : found.getD 0 = counting.tradeCount) :
    counting.committed = found := by
  cases found with
  | none => exact (sound.locked i none flushed).2.1 rfl
  | some count =>
      have least := sound.selected i (some count) (by rw [flushed]; rfl) count rfl
      unfold tradeCount at equal
      cases stored : counting.committed with
      | none =>
          rw [stored] at equal
          exact absurd equal (by simp only [Option.getD_some, Option.getD_none]; omega)
      | some other =>
          rw [stored] at equal
          exact congrArg some equal.symm

theorem undisturbed_iff (limited : 0 < limit) (sound : Sound limit counting) :
    (countTally limited).Undisturbed counting i ↔ counting.Undisturbed i := by
  constructor
  · intro undisturbed found flushed
    refine sound.committed_eq flushed (undisturbed _ ?_).symm
    exact Phase.writes_eq_some.mpr ⟨found, flushed, rfl⟩
  · intro undisturbed count writes
    obtain ⟨found, flushed, rfl⟩ := Phase.writes_eq_some.mp writes
    exact congrArg (·.getD 0) (undisturbed found flushed)

/-! ## Runs -/

omit [Fintype ι] [DecidableEq ι] in
theorem sound_start (limited : 0 < limit) : Sound limit (start : Counting ι) :=
  ⟨nofun, limited.le, nofun, nofun⟩

theorem level_start (limited : 0 < limit) :
    (countTally limited).Level (start : Counting ι) := by
  have none : (start : Counting ι).returned = 0 :=
    Finset.card_eq_zero.mpr (Finset.filter_eq_empty_iff.mpr fun _ _ => id)
  have written : (countTally limited).written (start : Counting ι) = 0 := none
  refine ⟨by rw [written]; rfl, ?_⟩
  rw [written]
  exact ⟨le_rfl, nofun⟩

theorem throughout_level_iff (limited : 0 < limit) (turns : List ι) :
    Throughout (step limit 1) (countTally limited).Level start turns ↔
      EachStep (step limit 1) Undisturbed start turns := by
  have keeps (counting : Counting ι) (i : ι) (sound : Sound limit counting) :
      Sound limit (step limit 1 counting i) := (turn_step limit 1 counting i).sound limited sound
  rw [Tally.throughout_level_iff (sound_start limited) (level_start limited)]
  constructor
  · exact EachStep.of_inv (sound_start limited) (fun counting i sound _ => keeps counting i sound)
      fun _ _ sound => (undisturbed_iff limited sound).mp
  · exact EachStep.of_inv (sound_start limited) (fun counting i sound _ => keeps counting i sound)
      fun _ _ sound => (undisturbed_iff limited sound).mpr

/-- **The quota.**  Whatever calls there are and however their statements interleave, the limit
holds and the counter ends right if each commit finds the counter as its call selected it; and
once all calls have ended the counter is right in no other run. -/
theorem quota_kept_iff (limit : ℤ) (limited : 0 < limit) (turns : List ι) :
    (EachStep (step limit 1) Undisturbed start turns →
      Throughout (step limit 1) (Kept limit) start turns) ∧
    ((exec (step limit 1) start turns).Finished →
      Throughout (step limit 1) (Kept limit) start turns →
        EachStep (step limit 1) Undisturbed start turns) := by
  constructor
  · intro each
    have always := (throughout_level_iff limited turns).mpr each
    rw [throughout_iff] at always ⊢
    intro early within
    have level := always early within
    have counted : (exec (step limit 1) start early).tradeCount =
        (exec (step limit 1) start early).returned := level.stored
    have sound := (Tally.level_or_behind (sound_start limited) (level_start limited) early).1
    exact ⟨counted ▸ sound.within, fun _ => counted⟩
  · intro finished always
    have last := throughout_iff.mp always turns (List.prefix_refl turns)
    exact (throughout_level_iff limited turns).mp
      (Tally.throughout_level_of_exec (sound_start limited) (level_start limited)
        (last.2 finished))

end Tally

/-- Two calls one after the other. -/
theorem quota_kept_iff_oneByOne :
    let turns := [true, true, true, true, false, false, false, false]
    Throughout (step 5 1) (Kept 5) start turns ∧
      EachStep (step 5 1) Undisturbed start turns := by
  intro turns
  have kept := (quota_kept_iff 5 (by decide) turns).1 (by decide)
  have ended : (exec (step 5 1) start turns).Finished := by
    intro i
    cases i with
    | true => trivial
    | false => trivial
  exact ⟨kept, (quota_kept_iff 5 (by decide) turns).2 ended kept⟩

/-- The first order of the day, and then two at once that select the same counter: under a limit
of two all three pass, and the counter says two. -/
theorem not_quota_kept_overlapping :
    let turns : List (Fin 3) := [0, 0, 0, 0, 1, 1, 2, 2, 1, 1, 2, 2]
    (exec (step 2 1) start turns).returned = 3 ∧ (exec (step 2 1) start turns).tradeCount = 2 ∧
      ¬ Throughout (step 2 1) (Kept 2) start turns := by
  intro turns
  refine ⟨by decide, by decide, fun always => ?_⟩
  have last := throughout_iff.mp always turns (List.prefix_refl turns)
  exact absurd last.1 (by decide)

end Counting

end Aegis.Trading

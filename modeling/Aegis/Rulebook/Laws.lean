import Aegis.Rulebook.Rules

/-!
# The rules as laws

A `Law` says what a rule waits for and what it then requires, without the order in which
the code reads the fields.  `SignalRuleEngine.rules_follow` reads the six rules so, missing
fields included, and `firstFired_answers` the evaluation loop: the first law that applies
answers.
-/

namespace Aegis.Rulebook

open Aegis.Lib

/-- The #1 and #2 bands of two frames. -/
structure Bands (α : Type) where
  pb1 : Band α
  pb2 : Band α
  b1 : Band α
  b2 : Band α

/-- The three other heights that the rules compare with the #1 bands. -/
structure Readings (α : Type) where
  ma4 : α
  prevRsi6 : α
  rsi6 : α

structure Bands.Of {α : Type} (bands : Bands α) (prev cur : FrameState α) : Prop where
  pb1 : prev.band1 = some bands.pb1
  pb2 : prev.band2 = some bands.pb2
  b1 : cur.band1 = some bands.b1
  b2 : cur.band2 = some bands.b2

structure Readings.Of {α : Type} (readings : Readings α) (prev cur : FrameState α) : Prop where
  ma4 : cur.ma4 = some readings.ma4
  prevRsi6 : prev.rsi6 = some readings.prevRsi6
  rsi6 : cur.rsi6 = some readings.rsi6

/-- What a rule says: the crossing that it waits for, the conditions that it then
requires, and its answer. -/
structure Law (α : Type) where
  signal : Signal
  name : String
  starts : Bands α → Prop
  holds : Bands α → Readings α → FrameState α → List (FrameState α) → Prop

/-- The law is fulfilled. -/
def Law.Applies {α : Type} (law : Law α) (prev cur : FrameState α)
    (history : List (FrameState α)) : Prop :=
  ∃ bands readings, bands.Of prev cur ∧ readings.Of prev cur ∧ law.starts bands ∧
    law.holds bands readings cur history

/-- The rule computes what the law says, and raises where it meets a `None`. -/
structure Rule.Follows {α : Type} (rule : Rule α) (law : Law α) : Prop where
  blind : ∀ prev cur history, (∀ bands : Bands α, ¬ bands.Of prev cur) →
    rule prev cur history = .error .typeError
  quiet : ∀ prev cur history (bands : Bands α), bands.Of prev cur → ¬ law.starts bands →
    rule prev cur history = .ok none
  stuck : ∀ prev cur history (bands : Bands α), bands.Of prev cur → law.starts bands →
    (∀ readings : Readings α, ¬ readings.Of prev cur) → rule prev cur history = .error .typeError
  decides : ∀ prev cur history (bands : Bands α) (readings : Readings α), bands.Of prev cur →
    readings.Of prev cur → law.starts bands → ∃ result,
      rule prev cur history = .ok (some result) ∧
        (result.fired = true ↔ law.holds bands readings cur history) ∧
          (result.fired = true → result.signal = some law.signal ∧ result.ruleName = law.name)

variable {α : Type} [LinearOrder α]

def DivergenceRule.law (engine : SignalRuleEngine) (rule : DivergenceRule) : Law α where
  signal := rule.signal
  name := rule.name
  starts bands := crossed (bands.pb2.get rule.motional) (bands.pb1.get rule.guarding)
    (bands.b2.get rule.motional) (bands.b1.get rule.guarding) = some rule.side
  holds bands readings _ history :=
    (isBetween readings.ma4 bands.b1.M (bands.b1.get rule.guarding) = true ∨
        sideOf readings.ma4 (bands.b1.get rule.guarding) = rule.side) ∧
      (crossed readings.prevRsi6 (bands.pb1.get rule.guarding) readings.rsi6
          (bands.b1.get rule.guarding) = some rule.side ∨
        rule.rsiMayHold = true ∧ sideOf readings.rsi6 (bands.b1.get rule.guarding) = rule.side) ∧
      engine.diverges rule.kind history = .ok true

def PriceFilterRule.law (rule : PriceFilterRule) : Law α where
  signal := rule.signal
  name := rule.name
  starts bands := crossed bands.pb2.M bands.pb1.M bands.b2.M bands.b1.M = some rule.midSide
  holds bands readings cur _ :=
    (isBetween readings.ma4 bands.b1.M bands.b1.U = true ∨
        isBetween readings.ma4 bands.b1.M bands.b1.L = true) ∧
      crossed readings.prevRsi6 (bands.pb1.get rule.guarding) readings.rsi6
        (bands.b1.get rule.guarding) = some rule.outerSide ∧
      priceOutside rule.outerSide cur = true

/-- The rulebook, in the order of `_rules()`. -/
def SignalRuleEngine.laws (engine : SignalRuleEngine) : List (Law α) :=
  [baseSell.law engine, baseBuy.law engine, uptrend2uSell.law engine, downtrend2lBuy.law engine,
    priceFilterSell.law, priceFilterBuy.law]

/-! ## The rules follow their laws -/

section Follows

omit [LinearOrder α]

/-- The reads of the four bands, in the order of the rules. -/
def readBands {γ : Type} (prev cur : FrameState α) (rest : Bands α → Except PyError γ) :
    Except PyError γ := do
  let pb2 ← present prev.band2
  let pb1 ← present prev.band1
  let b2 ← present cur.band2
  let b1 ← present cur.band1
  rest ⟨pb1, pb2, b1, b2⟩

def readReadings {γ : Type} (prev cur : FrameState α) (rest : Readings α → Except PyError γ) :
    Except PyError γ := do
  let ma4 ← present cur.ma4
  let prevRsi6 ← present prev.rsi6
  let rsi6 ← present cur.rsi6
  rest ⟨ma4, prevRsi6, rsi6⟩

variable {γ : Type} {prev cur : FrameState α}

theorem readBands_of {bands : Bands α} (rest : Bands α → Except PyError γ)
    (read : bands.Of prev cur) : readBands prev cur rest = rest bands := by
  rw [readBands, read.pb1, read.pb2, read.b1, read.b2]
  rfl

theorem readBands_blind (rest : Bands α → Except PyError γ)
    (blind : ∀ bands : Bands α, ¬ bands.Of prev cur) :
    readBands prev cur rest = .error .typeError := by
  unfold readBands
  cases pb2At : prev.band2 with
  | none => rfl
  | some pb2 =>
      cases pb1At : prev.band1 with
      | none => rfl
      | some pb1 =>
          cases b2At : cur.band2 with
          | none => rfl
          | some b2 =>
              cases b1At : cur.band1 with
              | none => rfl
              | some b1 => exact (blind ⟨pb1, pb2, b1, b2⟩ ⟨pb1At, pb2At, b1At, b2At⟩).elim

theorem readReadings_of {readings : Readings α} (rest : Readings α → Except PyError γ)
    (read : readings.Of prev cur) : readReadings prev cur rest = rest readings := by
  rw [readReadings, read.ma4, read.prevRsi6, read.rsi6]
  rfl

theorem readReadings_stuck (rest : Readings α → Except PyError γ)
    (stuck : ∀ readings : Readings α, ¬ readings.Of prev cur) :
    readReadings prev cur rest = .error .typeError := by
  unfold readReadings
  cases ma4At : cur.ma4 with
  | none => rfl
  | some ma4 =>
      cases prevRsi6At : prev.rsi6 with
      | none => rfl
      | some prevRsi6 =>
          cases rsi6At : cur.rsi6 with
          | none => rfl
          | some rsi6 => exact (stuck ⟨ma4, prevRsi6, rsi6⟩ ⟨ma4At, prevRsi6At, rsi6At⟩).elim

/-- A rule that reads the bands, waits for its crossing, reads the other heights and
decides. -/
theorem Rule.Follows.of_reads {rule : Rule α} {law : Law α} (starts : Bands α → Bool)
    (verdict : Bands α → Readings α → FrameState α → List (FrameState α) →
      Except PyError (Option RuleResult))
    (reads : ∀ prev cur history, rule prev cur history =
      readBands prev cur fun bands =>
        if !(starts bands) then .ok none
        else readReadings prev cur fun readings => verdict bands readings cur history)
    (started : ∀ bands, starts bands = true ↔ law.starts bands)
    (decided : ∀ bands readings cur history, law.starts bands → ∃ result,
      verdict bands readings cur history = .ok (some result) ∧
        (result.fired = true ↔ law.holds bands readings cur history) ∧
          (result.fired = true → result.signal = some law.signal ∧ result.ruleName = law.name)) :
    rule.Follows law where
  blind prev cur history blind := by
    rw [reads]
    exact readBands_blind _ blind
  quiet prev cur history bands read waits := by
    rw [reads, readBands_of _ read, Bool.eq_false_iff.mpr ((started bands).not.mpr waits)]
    rfl
  stuck prev cur history bands read begun stuck := by
    rw [reads, readBands_of _ read, (started bands).mpr begun, Bool.not_true,
      if_neg Bool.false_ne_true]
    exact readReadings_stuck _ stuck
  decides prev cur history bands readings read readAlso begun := by
    rw [reads, readBands_of _ read, (started bands).mpr begun, Bool.not_true,
      if_neg Bool.false_ne_true]
    obtain ⟨result, run, fires⟩ := decided bands readings cur history begun
    exact ⟨result, (readReadings_of _ readAlso).trans run, fires⟩

end Follows

/-- `divergenceRule` once the crossing is there and every height is read. -/
def DivergenceRule.verdict (engine : SignalRuleEngine) (rule : DivergenceRule) (bands : Bands α)
    (readings : Readings α) (history : List (FrameState α)) :
    Except PyError (Option RuleResult) := do
  let level := bands.b1.get rule.guarding
  let prevLevel := bands.pb1.get rule.guarding
  let cond1 := crossed (bands.pb2.get rule.motional) prevLevel (bands.b2.get rule.motional)
    level == some rule.side
  let cond2 := isBetween readings.ma4 bands.b1.M level || sideOf readings.ma4 level == rule.side
  let cond3 := crossed readings.prevRsi6 prevLevel readings.rsi6 level == some rule.side ||
    (rule.rsiMayHold && sideOf readings.rsi6 level == rule.side)
  let cond4 ← engine.diverges rule.kind history
  let fired := cond1 && cond2 && cond3 && cond4
  return some
    { fired := fired
      signal := if fired then some rule.signal else none
      ruleName := rule.name
      reason := rule.reason cond1 cond2 cond3 cond4 }

theorem divergenceRule_follows (engine : SignalRuleEngine) (rule : DivergenceRule) :
    (divergenceRule engine rule : Rule α).Follows (rule.law engine) := by
  apply Rule.Follows.of_reads (fun bands => crossed (bands.pb2.get rule.motional)
      (bands.pb1.get rule.guarding) (bands.b2.get rule.motional)
      (bands.b1.get rule.guarding) == some rule.side)
    (fun bands readings _ history => rule.verdict engine bands readings history)
  · exact fun _ _ _ => rfl
  · exact fun _ => beq_iff_eq
  · intro bands readings cur history begun
    obtain ⟨cond4, fourth⟩ := engine.diverges_total rule.kind history
    have cond1 : (crossed (bands.pb2.get rule.motional) (bands.pb1.get rule.guarding)
        (bands.b2.get rule.motional) (bands.b1.get rule.guarding) == some rule.side) = true :=
      beq_iff_eq.mpr begun
    simp only [DivergenceRule.verdict, fourth, ok_bind, cond1, Bool.true_and]
    refine ⟨_, rfl, ?_, fun fired => ⟨if_pos fired, rfl⟩⟩
    simp only [DivergenceRule.law, fourth, Except.ok.injEq, Bool.and_eq_true, Bool.or_eq_true,
      beq_iff_eq, and_assoc]

/-- `priceFilterRule` once the crossing is there and every height is read. -/
def PriceFilterRule.verdict (rule : PriceFilterRule) (bands : Bands α) (readings : Readings α)
    (cur : FrameState α) : RuleResult :=
  let cond1 := crossed bands.pb2.M bands.pb1.M bands.b2.M bands.b1.M == some rule.midSide
  let cond2 := isBetween readings.ma4 bands.b1.M bands.b1.U ||
    isBetween readings.ma4 bands.b1.M bands.b1.L
  let cond3 := crossed readings.prevRsi6 (bands.pb1.get rule.guarding) readings.rsi6
    (bands.b1.get rule.guarding) == some rule.outerSide
  let cond4 := priceOutside rule.outerSide cur
  let fired := cond1 && cond2 && cond3 && cond4
  { fired := fired
    signal := if fired then some rule.signal else none
    ruleName := rule.name
    reason := rule.reason cond1 cond2 cond3 cond4 }

theorem priceFilterRule_follows (rule : PriceFilterRule) :
    (priceFilterRule rule : Rule α).Follows rule.law := by
  apply Rule.Follows.of_reads
    (fun bands => crossed bands.pb2.M bands.pb1.M bands.b2.M bands.b1.M == some rule.midSide)
    (fun bands readings cur _ => .ok (some (rule.verdict bands readings cur)))
  · exact fun _ _ _ => rfl
  · exact fun _ => beq_iff_eq
  · intro bands readings cur history begun
    have cond1 : (crossed bands.pb2.M bands.pb1.M bands.b2.M bands.b1.M == some rule.midSide) =
        true := beq_iff_eq.mpr begun
    refine ⟨_, rfl, ?_, fun fired => ⟨if_pos fired, rfl⟩⟩
    simp only [PriceFilterRule.verdict, PriceFilterRule.law, cond1, Bool.true_and,
      Bool.and_eq_true, Bool.or_eq_true, beq_iff_eq, and_assoc]

/-- **The rulebook follows its laws**, rule by rule. -/
theorem SignalRuleEngine.rules_follow (engine : SignalRuleEngine) :
    List.Forall₂ Rule.Follows (engine.rules : List (Rule α)) engine.laws :=
  .cons (divergenceRule_follows engine baseSell)
    (.cons (divergenceRule_follows engine baseBuy)
      (.cons (divergenceRule_follows engine uptrend2uSell)
        (.cons (divergenceRule_follows engine downtrend2lBuy)
          (.cons (priceFilterRule_follows priceFilterSell)
            (.cons (priceFilterRule_follows priceFilterBuy) .nil)))))

/-! ## The evaluation loop -/

section Loop

omit [LinearOrder α]

open scoped Classical in
/-- The first law that is fulfilled. -/
noncomputable def Law.first (laws : List (Law α)) (prev cur : FrameState α)
    (history : List (FrameState α)) : Option (Law α) :=
  laws.find? fun law => law.Applies prev cur history

/-- The result is that of the law, or says that there is none. -/
def Answers (law : Option (Law α)) (result : RuleResult) : Prop :=
  match law with
  | some law =>
      result.fired = true ∧ result.signal = some law.signal ∧ result.ruleName = law.name
  | none => result.fired = false ∧ result.signal = none ∧ result.ruleName = "no_rule_matched"

variable {prev cur : FrameState α} {history : List (FrameState α)} {rules : List (Rule α)}
  {laws : List (Law α)} {bands : Bands α}

theorem Law.first_cons_of_applies {law : Law α} (applies : law.Applies prev cur history) :
    Law.first (law :: laws) prev cur history = some law :=
  List.find?_cons_of_pos (by simpa using applies)

theorem Law.first_cons_of_not {law : Law α} (not : ¬ law.Applies prev cur history) :
    Law.first (law :: laws) prev cur history = Law.first laws prev cur history :=
  List.find?_cons_of_neg (by simpa using not)

theorem Law.first_eq_none :
    Law.first laws prev cur history = none ↔ ∀ law ∈ laws, ¬ law.Applies prev cur history := by
  simp [Law.first, List.find?_eq_none]

theorem Law.of_first_eq_some {law : Law α} (first : Law.first laws prev cur history = some law) :
    law ∈ laws ∧ law.Applies prev cur history :=
  ⟨List.mem_of_find?_eq_some first, by simpa using List.find?_some first⟩

theorem Bands.Of.unique {other : Bands α} (read : bands.Of prev cur) (again : other.Of prev cur) :
    other = bands := by
  cases bands
  cases other
  cases Option.some.inj (read.pb1.symm.trans again.pb1)
  cases Option.some.inj (read.pb2.symm.trans again.pb2)
  cases Option.some.inj (read.b1.symm.trans again.b1)
  cases Option.some.inj (read.b2.symm.trans again.b2)
  rfl

theorem Readings.Of.unique {readings other : Readings α} (read : readings.Of prev cur)
    (again : other.Of prev cur) : other = readings := by
  cases readings
  cases other
  cases Option.some.inj (read.ma4.symm.trans again.ma4)
  cases Option.some.inj (read.prevRsi6.symm.trans again.prevRsi6)
  cases Option.some.inj (read.rsi6.symm.trans again.rsi6)
  rfl

/-- On frames that were read a law applies when it starts and holds. -/
theorem Law.applies_iff {law : Law α} {readings : Readings α} (read : bands.Of prev cur)
    (readAlso : readings.Of prev cur) :
    law.Applies prev cur history ↔ law.starts bands ∧ law.holds bands readings cur history := by
  constructor
  · intro held
    rcases held with ⟨others, heights, readOthers, readHeights, starts, holds⟩
    rw [read.unique readOthers] at starts holds
    rw [readAlso.unique readHeights] at holds
    exact ⟨starts, holds⟩
  · exact fun both => ⟨bands, readings, read, readAlso, both⟩

/-- When every law that starts finds the other heights, the loop answers by the first law
that applies. -/
theorem firstFired_answers (follow : List.Forall₂ Rule.Follows rules laws)
    (read : bands.Of prev cur)
    (readable : ∀ law ∈ laws, law.starts bands → ∃ readings : Readings α, readings.Of prev cur) :
    ∃ result, firstFired prev cur history rules = .ok result ∧
      Answers (Law.first laws prev cur history) result := by
  induction follow with
  | nil => exact ⟨_, rfl, rfl, rfl, rfl⟩
  | @cons rule law rules laws follows _ ih =>
      obtain ⟨result, run, answers⟩ := ih fun law member => readable law (.tail _ member)
      by_cases begun : law.starts bands
      · obtain ⟨readings, readAlso⟩ := readable law (.head _) begun
        obtain ⟨first, ran, fires, own⟩ :=
          follows.decides prev cur history bands readings read readAlso begun
        have applies_iff : law.Applies prev cur history ↔ first.fired = true := by
          rw [Law.applies_iff read readAlso, fires, and_iff_right begun]
        rw [firstFired, ran, ok_bind]
        by_cases fired : first.fired = true
        · rw [Law.first_cons_of_applies (applies_iff.mpr fired)]
          exact ⟨first, if_pos fired, fired, own fired⟩
        · rw [Law.first_cons_of_not (applies_iff.not.mpr fired)]
          exact ⟨result, (if_neg fired).trans run, answers⟩
      · have not : ¬ law.Applies prev cur history := by
          intro held
          rcases held with ⟨others, _, readOthers, _, starts, _⟩
          rw [read.unique readOthers] at starts
          exact begun starts
        rw [firstFired, follows.quiet prev cur history bands read begun, Law.first_cons_of_not not]
        exact ⟨result, run, answers⟩

/-- A law that starts and does not find the other heights stops the loop. -/
theorem firstFired_stuck (follow : List.Forall₂ Rule.Follows rules laws) (read : bands.Of prev cur)
    (starts : ∃ law ∈ laws, law.starts bands)
    (stuck : ∀ readings : Readings α, ¬ readings.Of prev cur) :
    firstFired prev cur history rules = .error .typeError := by
  induction follow with
  | nil => exact absurd starts (by simp)
  | @cons rule law rules laws follows _ ih =>
      by_cases begun : law.starts bands
      · rw [firstFired, follows.stuck prev cur history bands read begun stuck]
        rfl
      · rw [firstFired, follows.quiet prev cur history bands read begun]
        obtain ⟨other, member, starts⟩ := starts
        rcases List.mem_cons.mp member with rfl | later
        · exact (begun starts).elim
        · exact ih ⟨other, later, starts⟩

/-- The first rule already needs the bands. -/
theorem firstFired_blind {rule : Rule α} {law : Law α} (follows : rule.Follows law)
    (blind : ∀ bands : Bands α, ¬ bands.Of prev cur) :
    firstFired prev cur history (rule :: rules) = .error .typeError := by
  rw [firstFired, follows.blind prev cur history blind]
  rfl

end Loop

end Aegis.Rulebook

import Aegis.Rulebook.Laws
import Aegis.Vision.Extract

/-!
# Frames with missing fields

Extraction gives `None` for whatever it cannot see, and the rules test only the price
fields and the CCI for it.  `SignalRuleEngine.evaluate_returns_iff` says for which
histories the engine raises nothing all the same.
-/

namespace Aegis.Rulebook

open Aegis.Lib

variable {α : Type} [LinearOrder α]

/-- #2 has just crossed #1 in one of the ways that the rules wait for. -/
def Bands.Crossing (bands : Bands α) : Prop :=
  crossed bands.pb2.M bands.pb1.U bands.b2.M bands.b1.U = some .above ∨
    crossed bands.pb2.M bands.pb1.L bands.b2.M bands.b1.L = some .below ∨
      crossed bands.pb2.U bands.pb1.U bands.b2.U bands.b1.U = some .above ∨
        crossed bands.pb2.L bands.pb1.L bands.b2.L bands.b1.L = some .below ∨
          crossed bands.pb2.M bands.pb1.M bands.b2.M bands.b1.M = some .below ∨
            crossed bands.pb2.M bands.pb1.M bands.b2.M bands.b1.M = some .above

theorem Bands.crossing_iff (engine : SignalRuleEngine) (bands : Bands α) :
    bands.Crossing ↔ ∃ law ∈ engine.laws, law.starts bands := by
  simp only [SignalRuleEngine.laws, List.exists_mem_cons_iff, List.not_mem_nil, false_and,
    exists_false, or_false]
  exact Iff.rfl

/-- Both frames have their bands; and when #2 has just crossed #1, the newer frame has #4 and
#6, and the older one #6. -/
def Readable (prev cur : FrameState α) : Prop :=
  ∃ bands : Bands α, bands.Of prev cur ∧
    (bands.Crossing → ∃ readings : Readings α, readings.Of prev cur)

/-! ## Histories by their last two frames -/

section LastTwo

variable (engine : SignalRuleEngine) {history : List (FrameState α)}

omit [LinearOrder α] in
theorem eq_append_pair (long : 2 ≤ history.length) :
    ∃ early prev cur, history = early ++ [prev, cur] := by
  rcases List.eq_nil_or_concat history with rfl | ⟨front, cur, rfl⟩
  · exact absurd long (by simp)
  · rcases List.eq_nil_or_concat front with rfl | ⟨early, prev, rfl⟩
    · exact absurd long (by simp)
    · exact ⟨early, prev, cur, by simp⟩

theorem SignalRuleEngine.evaluate_short (short : history.length < 2) :
    engine.evaluate history =
      .ok ⟨false, none, "insufficient_history", "Need at least 2 frames."⟩ :=
  dif_pos short

theorem SignalRuleEngine.evaluate_append (early : List (FrameState α)) (prev cur : FrameState α) :
    engine.evaluate (early ++ [prev, cur]) =
      firstFired prev cur (early ++ [prev, cur]) engine.rules := by
  have long : ¬ (early ++ [prev, cur]).length < 2 := by simp
  rw [evaluate, evaluateRules, dif_neg long]
  congr 1 <;> simp

end LastTwo

/-! ## Exceptions -/

section Raising

variable (engine : SignalRuleEngine) {prev cur : FrameState α} {history : List (FrameState α)}

/-- On readable frames the first law that applies answers. -/
theorem SignalRuleEngine.answers_of_readable (readable : Readable prev cur) :
    ∃ result, firstFired prev cur history engine.rules = .ok result ∧
      Answers (Law.first engine.laws prev cur history) result := by
  obtain ⟨bands, read, also⟩ := readable
  refine firstFired_answers engine.rules_follow read fun law member starts => ?_
  exact also ((bands.crossing_iff engine).mpr ⟨law, member, starts⟩)

theorem SignalRuleEngine.evaluate_of_readable (early : List (FrameState α))
    (readable : Readable prev cur) :
    ∃ result, engine.evaluate (early ++ [prev, cur]) = .ok result ∧
      Answers (Law.first engine.laws prev cur (early ++ [prev, cur])) result := by
  rw [engine.evaluate_append]
  exact engine.answers_of_readable readable

theorem SignalRuleEngine.raises_of_not_readable (unreadable : ¬ Readable prev cur) :
    firstFired prev cur history engine.rules = .error .typeError := by
  by_cases seen : ∃ bands : Bands α, bands.Of prev cur
  · obtain ⟨bands, read⟩ := seen
    have crossing : bands.Crossing := by
      by_contra calm
      exact unreadable ⟨bands, read, fun crossing => (calm crossing).elim⟩
    refine firstFired_stuck engine.rules_follow read ((bands.crossing_iff engine).mp crossing) ?_
    exact fun readings readAlso => unreadable ⟨bands, read, fun _ => ⟨readings, readAlso⟩⟩
  · exact firstFired_blind (divergenceRule_follows engine baseSell) (not_exists.mp seen)

/-- **Exceptions.**  `evaluate` returns a result exactly when the history is shorter than
two frames or its last two frames are readable. -/
theorem SignalRuleEngine.evaluate_returns_iff :
    (∃ result, engine.evaluate history = .ok result) ↔
      ∀ early prev cur, history = early ++ [prev, cur] → Readable prev cur := by
  constructor
  · intro held
    rcases held with ⟨result, run⟩
    intro early prev cur same
    rcases same with rfl
    by_contra unreadable
    rw [engine.evaluate_append, engine.raises_of_not_readable unreadable] at run
    cases run
  · intro readable
    by_cases short : history.length < 2
    · exact ⟨_, engine.evaluate_short short⟩
    · obtain ⟨early, prev, cur, rfl⟩ := eq_append_pair (not_lt.mp short)
      rw [engine.evaluate_append]
      obtain ⟨result, run, _⟩ := engine.answers_of_readable (readable early prev cur rfl)
      exact ⟨result, run⟩

/-- Two screenshots without a trace of any colour. -/
theorem SignalRuleEngine.not_evaluate_returns_noPoints :
    ¬ ∃ result, (SignalRuleEngine.mk 12).evaluate
      ([Vision.noPoints, Vision.noPoints].map (Vision.extractFrameState OrderHom.id)) =
        .ok result := by
  intro held
  rcases held with ⟨result, run⟩
  cases run

end Raising

end Aegis.Rulebook

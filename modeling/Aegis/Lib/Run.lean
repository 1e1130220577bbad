import Mathlib.Data.List.Induction
import Mathlib.Data.List.Infix

/-!
# Runs of a machine

A machine takes events one after another; an event that is not possible in a state leaves
it as it is.  `Throughout` is for properties of states, `EachStep` for conditions on the
events and the states that they find.

`Throughout.of_inv` is the invariant rule.  `throughout_iff_eachStep` is its exact form:
when a property survives a step exactly under a condition, it holds throughout a run
exactly when each step meets the condition.

`exec_iff_of_latch` is for a property that comes and goes.  `exec_induction` is for what holds
between a state and the events that led to it; `Occurs` says that an event was met in a state on
the way.

`notes` is for machines that keep a history: `log_exec` says that their logs are what the events
have noted, and `notes_eq_append_cons` which event an entry is of.

`answers` is for machines that answer their events, and `answers_eq` for two of them that
cannot be told apart by their answers.  `update_eq_cases` is for machines of several parties.
-/

namespace Aegis.Lib

variable {σ ε : Type*}

/-- The state after the events. -/
def exec (step : σ → ε → σ) (start : σ) (events : List ε) : σ := events.foldl step start

/-- The property holds at the start and in every state reached. -/
def Throughout (step : σ → ε → σ) (P : σ → Prop) : σ → List ε → Prop
  | s, [] => P s
  | s, event :: rest => P s ∧ Throughout step P (step s event) rest

/-- The condition holds of every event in the state that it finds. -/
def EachStep (step : σ → ε → σ) (C : σ → ε → Prop) : σ → List ε → Prop
  | _, [] => True
  | s, event :: rest => C s event ∧ EachStep step C (step s event) rest

/-- The event is one of the run's, and finds the state. -/
def Occurs (step : σ → ε → σ) (start : σ) (events : List ε) (found : σ) (event : ε) : Prop :=
  ∃ early late, events = early ++ event :: late ∧ exec step start early = found

variable {step : σ → ε → σ} {P I : σ → Prop} {C D : σ → ε → Prop} {s : σ}
  {events : List ε}

instance decidableEachStep [∀ s event, Decidable (C s event)] :
    ∀ s events, Decidable (EachStep step C s events)
  | _, [] => .isTrue trivial
  | s, event :: rest =>
      have := decidableEachStep (step s event) rest
      inferInstanceAs (Decidable (C s event ∧ EachStep step C (step s event) rest))

theorem Throughout.start (always : Throughout step P s events) : P s := by
  cases events with
  | nil => exact always
  | cons event rest => exact always.1

theorem throughout_iff :
    Throughout step P s events ↔ ∀ early, early <+: events → P (exec step s early) := by
  induction events generalizing s with
  | nil =>
      constructor
      · intro start early within
        rw [List.prefix_nil.mp within]
        exact start
      · exact fun always => always [] (List.prefix_refl [])
  | cons event rest ih =>
      constructor
      · intro always early within
        cases early with
        | nil => exact always.1
        | cons first more =>
            obtain ⟨rfl, inner⟩ := List.cons_prefix_cons.mp within
            exact ih.mp always.2 more inner
      · intro always
        refine ⟨always [] List.nil_prefix, ih.mpr fun more within => ?_⟩
        exact always (event :: more) (List.cons_prefix_cons.mpr ⟨rfl, within⟩)

theorem eachStep_iff :
    EachStep step C s events ↔
      ∀ early event, early ++ [event] <+: events → C (exec step s early) event := by
  induction events generalizing s with
  | nil =>
      constructor
      · intro _ early event within
        exact absurd (List.prefix_nil.mp within) (by simp)
      · exact fun _ => trivial
  | cons first rest ih =>
      constructor
      · intro each early event within
        cases early with
        | nil =>
            obtain ⟨rfl, _⟩ := List.cons_prefix_cons.mp within
            exact each.1
        | cons head more =>
            obtain ⟨rfl, inner⟩ := List.cons_prefix_cons.mp within
            exact ih.mp each.2 more event inner
      · intro each
        refine ⟨each [] first (List.cons_prefix_cons.mpr ⟨rfl, List.nil_prefix⟩), ?_⟩
        refine ih.mpr fun more event within => ?_
        exact each (first :: more) event (List.cons_prefix_cons.mpr ⟨rfl, within⟩)

/-- **Invariant rule.** -/
theorem Throughout.of_inv (start : I s)
    (keeps : ∀ s event, I s → C s event → I (step s event))
    (each : EachStep step C s events) : Throughout step I s events := by
  induction events generalizing s with
  | nil => exact start
  | cons event rest ih => exact ⟨start, ih (keeps s event start each.1) each.2⟩

theorem exec_inv (start : I s) (keeps : ∀ s event, I s → I (step s event))
    (events : List ε) : I (exec step s events) := by
  induction events generalizing s with
  | nil => exact start
  | cons event rest ih => exact ih (keeps s event start)

/-- An invariant that the events of this run keep. -/
theorem exec_inv_of_mem (start : I s) (keeps : ∀ event ∈ events, ∀ s, I s → I (step s event)) :
    I (exec step s events) := by
  induction events generalizing s with
  | nil => exact start
  | cons event rest ih =>
      rw [List.forall_mem_cons] at keeps
      exact ih (keeps.1 s start) keeps.2

/-- An invariant that the events keep when they meet a condition. -/
theorem exec_inv_of_eachStep (start : I s) (keeps : ∀ s event, I s → C s event → I (step s event))
    (each : EachStep step C s events) : I (exec step s events) := by
  induction events generalizing s with
  | nil => exact start
  | cons event rest ih => exact ih (keeps s event start each.1) each.2

theorem exec_append (early late : List ε) :
    exec step s (early ++ late) = exec step (exec step s early) late := List.foldl_append

theorem exec_concat (early : List ε) (event : ε) :
    exec step s (early ++ [event]) = step (exec step s early) event := exec_append early [event]

/-- Events that change nothing may be left out. -/
theorem exec_filter {counts : ε → Bool}
    (idle : ∀ s, ∀ event ∈ events, counts event = false → step s event = s) :
    exec step s events = exec step s (events.filter counts) := by
  induction events generalizing s with
  | nil => rfl
  | cons event rest ih =>
      obtain ⟨own, idle⟩ : (∀ s, counts event = false → step s event = s) ∧
          ∀ s, ∀ event ∈ rest, counts event = false → step s event = s :=
        ⟨fun s => idle s event List.mem_cons_self,
          fun s other member => idle s other (List.mem_cons_of_mem _ member)⟩
      rw [exec, List.foldl_cons, ← exec, ih idle]
      cases counted : counts event with
      | false => rw [List.filter_cons_of_neg (by simp [counted]), own s counted]
      | true => rw [List.filter_cons_of_pos counted, exec, exec, List.foldl_cons]

/-- **Invariant rule**, over the events so far. -/
theorem exec_induction (Inv : List ε → σ → Prop) (start : Inv [] s)
    (keeps : ∀ early event, Inv early (exec step s early) →
      Inv (early ++ [event]) (step (exec step s early) event)) (events : List ε) :
    Inv events (exec step s events) := by
  induction events using List.reverseRecOn with
  | nil => exact start
  | append_singleton early event ih =>
      rw [exec_concat]
      exact keeps early event ih

theorem Occurs.append {found : σ} {event : ε} (occurs : Occurs step s events found event)
    (more : List ε) : Occurs step s (events ++ more) found event := by
  obtain ⟨early, late, rfl, reached⟩ := occurs
  exact ⟨early, late ++ more, by rw [List.append_assoc, List.cons_append], reached⟩

theorem occurs_last (early : List ε) (event : ε) :
    Occurs step s (early ++ [event]) (exec step s early) event := ⟨early, [], rfl, rfl⟩

theorem Throughout.mono (weaker : ∀ s, I s → P s) (always : Throughout step I s events) :
    Throughout step P s events := by
  induction events generalizing s with
  | nil => exact weaker s always
  | cons event rest ih => exact ⟨weaker s always.1, ih always.2⟩

/-- A condition that every step meets while the invariant holds. -/
theorem EachStep.of_inv (start : I s)
    (keeps : ∀ s event, I s → C s event → I (step s event))
    (follows : ∀ s event, I s → C s event → D s event)
    (each : EachStep step C s events) : EachStep step D s events := by
  induction events generalizing s with
  | nil => trivial
  | cons event rest ih =>
      exact ⟨follows s event start each.1, ih (keeps s event start each.1) each.2⟩

theorem eachStep_congr (same : ∀ s event, C s event ↔ D s event) :
    EachStep step C s events ↔ EachStep step D s events := by
  induction events generalizing s with
  | nil => exact Iff.rfl
  | cons event rest ih => exact and_congr (same s event) ih

/-- A condition on the events alone. -/
theorem eachStep_iff_forall_mem {E : ε → Prop} :
    EachStep step (fun _ event => E event) s events ↔ ∀ event ∈ events, E event := by
  induction events generalizing s with
  | nil => exact ⟨fun _ => List.forall_mem_nil E, fun _ => trivial⟩
  | cons event rest ih => exact (and_congr Iff.rfl ih).trans List.forall_mem_cons.symm

/-- **Exact rule**, for the events of this run. -/
theorem throughout_iff_eachStep_of_mem (start : I s) (good : P s)
    (keeps : ∀ event ∈ events, ∀ s, I s → I (step s event))
    (exact_step : ∀ event ∈ events, ∀ s, I s → P s → (P (step s event) ↔ C s event)) :
    Throughout step P s events ↔ EachStep step C s events := by
  induction events generalizing s with
  | nil => exact ⟨fun _ => trivial, fun _ => good⟩
  | cons event rest ih =>
      rw [List.forall_mem_cons] at keeps exact_step
      have later (next : P (step s event)) := ih (keeps.1 s start) next keeps.2 exact_step.2
      constructor
      · intro always
        have next := always.2.start
        exact ⟨(exact_step.1 s start good).mp next, (later next).mp always.2⟩
      · intro each
        have next := (exact_step.1 s start good).mpr each.1
        exact ⟨good, (later next).mpr each.2⟩

/-- **Exact rule.** -/
theorem throughout_iff_eachStep (start : I s) (good : P s)
    (keeps : ∀ s event, I s → I (step s event))
    (exact_step : ∀ s event, I s → P s → (P (step s event) ↔ C s event)) :
    Throughout step P s events ↔ EachStep step C s events :=
  throughout_iff_eachStep_of_mem start good (fun event _ s => keeps s event)
    fun event _ s => exact_step s event

theorem eachStep_append {early late : List ε} :
    EachStep step C s (early ++ late) ↔
      EachStep step C s early ∧ EachStep step C (exec step s early) late := by
  induction early generalizing s with
  | nil => exact (iff_of_eq (true_and _)).symm
  | cons event rest ih => exact (and_congr Iff.rfl ih).trans and_assoc.symm

/-- **Latch rule.**  A property that some events set and others clear holds in the end exactly
when an event has set it that no event has cleared since. -/
theorem exec_iff_of_latch {S : σ → ε → Prop} (start : I s) (unset : ¬ P s)
    (keeps : ∀ event ∈ events, ∀ s, I s → I (step s event))
    (latch : ∀ event ∈ events, ∀ s, I s → (P (step s event) ↔ S s event ∨ P s ∧ ¬ C s event)) :
    P (exec step s events) ↔ ∃ early event late, events = early ++ event :: late ∧
      S (exec step s early) event ∧
        EachStep step (fun s event => ¬ C s event) (exec step s (early ++ [event])) late := by
  induction events using List.reverseRecOn with
  | nil =>
      constructor
      · exact fun set => (unset set).elim
      · intro held
        rcases held with ⟨early, event, late, none, _⟩
        exact absurd none (by simp)
  | append_singleton rest last ih =>
      rw [List.forall_mem_append, List.forall_mem_singleton] at keeps latch
      rw [exec_concat, latch.2 _ (exec_inv_of_mem start keeps.1), ih keeps.1 latch.1]
      constructor
      · intro either
        rcases either with set | ⟨⟨early, event, late, rfl, set, each⟩, calm⟩
        · exact ⟨rest, last, [], rfl, set, trivial⟩
        · refine ⟨early, event, late ++ [last], ?_, set, ?_⟩
          · rw [List.append_assoc, List.cons_append]
          · refine eachStep_append.mpr ⟨each, ?_, trivial⟩
            rwa [← exec_append, List.append_assoc, List.singleton_append]
      · intro held
        rcases held with ⟨early, event, late, split, set, each⟩
        rcases List.eq_nil_or_concat' late with rfl | ⟨more, final, rfl⟩
        · obtain ⟨rfl, same⟩ := List.append_inj' split rfl
          cases same
          exact .inl set
        · rw [← List.cons_append, ← List.append_assoc] at split
          obtain ⟨rfl, same⟩ := List.append_inj' split rfl
          cases same
          obtain ⟨each, calm, _⟩ := eachStep_append.mp each
          refine .inr ⟨⟨early, event, more, rfl, set, each⟩, ?_⟩
          rwa [← exec_append, List.append_assoc, List.singleton_append] at calm

/-! ## Histories -/

section History

variable {γ : Type*} {noted : σ → ε → Option γ} {log : σ → List γ} {before since : List γ} {a : γ}

/-- What the events note, each in the state that it finds. -/
def notes (step : σ → ε → σ) (noted : σ → ε → Option γ) : σ → List ε → List γ
  | _, [] => []
  | s, event :: rest => (noted s event).toList ++ notes step noted (step s event) rest

/-- A log in which each event enters what it notes. -/
theorem log_exec (grows : ∀ s event, log (step s event) = log s ++ (noted s event).toList)
    (events : List ε) : log (exec step s events) = log s ++ notes step noted s events := by
  induction events generalizing s with
  | nil => exact (List.append_nil _).symm
  | cons event rest ih =>
      rw [notes, ← List.append_assoc, ← grows]
      exact ih

theorem notes_append (early late : List ε) :
    notes step noted s (early ++ late) =
      notes step noted s early ++ notes step noted (exec step s early) late := by
  induction early generalizing s with
  | nil => rfl
  | cons event rest ih =>
      rw [List.cons_append, notes, notes, ih, List.append_assoc]
      rfl

/-- The event that an entry is of. -/
theorem notes_eq_append_cons (split : notes step noted s events = before ++ a :: since) :
    ∃ early event late, events = early ++ event :: late ∧
      noted (exec step s early) event = some a ∧
        notes step noted (exec step s (early ++ [event])) late = since := by
  induction events generalizing s before with
  | nil => exact absurd split (by simp [notes])
  | cons event rest ih =>
      rw [notes] at split
      cases first : noted s event with
      | none =>
          rw [first] at split
          obtain ⟨early, found, late, rfl, note, after⟩ := ih split
          exact ⟨event :: early, found, late, rfl, note, after⟩
      | some b =>
          rw [first] at split
          cases before with
          | nil =>
              obtain ⟨rfl, after⟩ := List.cons.inj split
              exact ⟨[], event, rest, rfl, first, after⟩
          | cons c before =>
              obtain ⟨early, found, late, rfl, note, after⟩ := ih (List.cons.inj split).2
              exact ⟨event :: early, found, late, rfl, note, after⟩

theorem mem_notes : a ∈ notes step noted s events ↔
    ∃ found event, Occurs step s events found event ∧ noted found event = some a := by
  constructor
  · intro member
    obtain ⟨before, since, split⟩ := List.append_of_mem member
    obtain ⟨early, event, late, rfl, note, _⟩ := notes_eq_append_cons split
    exact ⟨_, event, ⟨early, late, rfl, rfl⟩, note⟩
  · intro held
    rcases held with ⟨_, event, ⟨early, late, rfl, rfl⟩, note⟩
    rw [notes_append, notes, note]
    exact List.mem_append_right _ List.mem_cons_self

end History

/-! ## Machines that answer -/

section Answers

variable {τ β : Type*} {first : σ → ε → β × σ} {second : τ → ε → β × τ} {R : σ → τ → Prop}
  {t : τ}

/-- The answers to the events. -/
def answers (first : σ → ε → β × σ) : σ → List ε → List β
  | _, [] => []
  | s, event :: rest => (first s event).1 :: answers first (first s event).2 rest

/-- **Simulation rule.**  Machines whose states stay related and that answer related states
alike give the same answers. -/
theorem answers_eq (start : R s t)
    (alike : ∀ event ∈ events, ∀ s t, R s t →
      (first s event).1 = (second t event).1 ∧ R (first s event).2 (second t event).2) :
    answers first s events = answers second t events := by
  induction events generalizing s t with
  | nil => rfl
  | cons event rest ih =>
      rw [List.forall_mem_cons] at alike
      obtain ⟨same, related⟩ := alike.1 s t start
      rw [answers, answers, same, ih related alike.2]

end Answers

/-! ## Families of parties -/

/-- What one party is at after the update of another, or of itself. -/
theorem update_eq_cases {ι φ : Type*} [DecidableEq ι] {family : ι → φ} {i j : ι} {new value : φ}
    (now : Function.update family i new j = value) :
    value = new ∧ j = i ∨ family j = value ∧ j ≠ i := by
  by_cases own : j = i
  · subst own
    rw [Function.update_self] at now
    exact .inl ⟨now.symm, rfl⟩
  · rw [Function.update_of_ne own] at now
    exact .inr ⟨now, own⟩

end Aegis.Lib

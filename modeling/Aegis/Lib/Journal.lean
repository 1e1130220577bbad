import Aegis.Lib.Atomic

/-!
# Who has written what

`Prog.Writes log p P` says how a program ends and what its own steps have appended to a log by
then, whatever others append in between; `Prog.Emits` is the case without the outcome.  When
every thread of a pool is such a program, the log of a run splits into what the threads have
written, each entry in the name of one thread: `Pool.exec_writes`.
-/

namespace Aegis.Lib

namespace Prog

variable {ε σ α β γ : Type} {log : σ → List γ} {P Q : Except ε α → List γ → Prop}

def Writes (log : σ → List γ) : Prog ε σ α → (Except ε α → List γ → Prop) → Prop
  | halt outcome, P => P outcome []
  | step update next, P => ∀ s, ∃ added, log (update s) = log s ++ added ∧
      (next s).Writes log fun outcome rest => P outcome (added ++ rest)

theorem Writes.mono (weaker : ∀ outcome added, P outcome added → Q outcome added)
    {p : Prog ε σ α} (writes : p.Writes log P) : p.Writes log Q := by
  induction p generalizing P Q with
  | halt outcome => exact weaker outcome [] writes
  | step update next ih =>
      intro s
      obtain ⟨added, grows, rest⟩ := writes s
      exact ⟨added, grows, ih s (fun outcome later => weaker outcome (added ++ later)) rest⟩

/-- What is left to write when the first part has ended. -/
def Resumes (log : σ → List γ) (f : α → Prog ε σ β) (P : Except ε β → List γ → Prop) :
    Except ε α → List γ → Prop
  | .ok a, added => (f a).Writes log fun outcome rest => P outcome (added ++ rest)
  | .error e, added => P (.error e) added

/-- **Sequence.** -/
theorem Writes.bind {P : Except ε β → List γ → Prop} {p : Prog ε σ α} {f : α → Prog ε σ β}
    (first : p.Writes log (Resumes log f P)) : (p >>= f).Writes log P := by
  change (p.bind f).Writes log P
  induction p generalizing P with
  | halt outcome =>
      cases outcome with
      | ok a => exact first
      | error e => exact first
  | step update next ih =>
      intro s
      obtain ⟨added, grows, rest⟩ := first s
      refine ⟨added, grows, ih s (rest.mono fun outcome later resumes => ?_)⟩
      cases outcome with
      | ok a =>
          refine resumes.mono fun outcome last held => ?_
          rwa [List.append_assoc] at held
      | error e => exact resumes

/-- What is left to write when the `try` block has ended. -/
def Recovers {ε' : Type} (log : σ → List γ) (handler : ε → Prog ε' σ α)
    (P : Except ε' α → List γ → Prop) : Except ε α → List γ → Prop
  | .ok a, added => P (.ok a) added
  | .error e, added => (handler e).Writes log fun outcome rest => P outcome (added ++ rest)

/-- **Handler.** -/
theorem Writes.catchWith {ε' : Type} {P : Except ε' α → List γ → Prop} {p : Prog ε σ α}
    {handler : ε → Prog ε' σ α} (first : p.Writes log (Recovers log handler P)) :
    (p.catchWith handler).Writes log P := by
  induction p generalizing P with
  | halt outcome =>
      cases outcome with
      | ok a => exact first
      | error e => exact first
  | step update next ih =>
      intro s
      obtain ⟨added, grows, rest⟩ := first s
      refine ⟨added, grows, ih s (rest.mono fun outcome later recovers => ?_)⟩
      cases outcome with
      | ok a => exact recovers
      | error e =>
          refine recovers.mono fun outcome last held => ?_
          rwa [List.append_assoc] at held

theorem writes_act {f : σ → α × σ} (added : List γ) (grows : ∀ s, log (f s).2 = log s ++ added)
    (ends : ∀ a, P (.ok a) added) : (act f).Writes log P := by
  intro s
  refine ⟨added, grows s, ?_⟩
  change P (.ok (f s).1) (added ++ [])
  rw [List.append_nil]
  exact ends (f s).1

theorem writes_modify {f : σ → σ} {P : Except ε Unit → List γ → Prop} (added : List γ)
    (grows : ∀ s, log (f s) = log s ++ added) (ends : P (.ok ()) added) :
    (modify f : Prog ε σ Unit).Writes log P := by
  intro s
  refine ⟨added, grows s, ?_⟩
  change P (.ok ()) (added ++ [])
  rwa [List.append_nil]

theorem writes_raise {e : ε} (ends : P (.error e) []) :
    (raise e : Prog ε σ α).Writes log P := ends

theorem writes_pure {a : α} (ends : P (.ok a) []) : (pure a : Prog ε σ α).Writes log P := ends

theorem Writes.of_halt {outcome : Except ε α} (writes : (halt outcome : Prog ε σ α).Writes log P) :
    P outcome [] := writes

theorem Writes.of_step {update : σ → σ} {next : σ → Prog ε σ α}
    (writes : (step update next).Writes log P) (s : σ) :
    ∃ added, log (update s) = log s ++ added ∧
      (next s).Writes log fun outcome rest => P outcome (added ++ rest) := writes s

theorem Writes.ite {c : Prop} [Decidable c] {p q : Prog ε σ α} (first : p.Writes log P)
    (second : q.Writes log P) : (if c then p else q).Writes log P := by
  split
  · exact first
  · exact second

/-- A program that leaves the log alone, however it ends. -/
theorem Guarantees.writes {p : Prog ε σ α} (silent : p.Guarantees fun s t => log t = log s)
    (ends : ∀ outcome, P outcome []) : p.Writes log P := by
  induction p with
  | halt outcome => exact ends outcome
  | step update next ih =>
      intro s
      exact ⟨[], by rw [(silent s).1, List.append_nil], ih s (silent s).2⟩

/-- What a program has yet to write it can write. -/
theorem Writes.run {p : Prog ε σ α} (writes : p.Writes log P) (s : σ) :
    ∃ added, log (p.run s).2 = log s ++ added ∧ P (p.run s).1 added := by
  induction p generalizing P s with
  | halt outcome => exact ⟨[], (List.append_nil _).symm, writes⟩
  | step update next ih =>
      obtain ⟨added, grows, rest⟩ := writes s
      obtain ⟨later, ends, held⟩ := ih s rest (update s)
      exact ⟨added ++ later, by rw [← List.append_assoc, ← grows]; exact ends, held⟩

attribute [irreducible] Writes

end Prog

namespace Pool

variable {ι ε σ α γ : Type} [DecidableEq ι] {log : σ → List γ} {pool : Pool ι ε σ α}
  {P : ι → Except ε α → List γ → Prop}

/-- The entries of one thread. -/
def own (i : ι) (entries : List (ι × γ)) : List γ :=
  (entries.filter fun entry => entry.1 = i).map Prod.snd

theorem own_append (i : ι) (early late : List (ι × γ)) :
    own i (early ++ late) = own i early ++ own i late := by
  rw [own, List.filter_append, List.map_append]
  rfl

theorem own_same (i : ι) (added : List γ) : own i (added.map fun entry => (i, entry)) = added := by
  induction added with
  | nil => rfl
  | cons entry rest ih =>
      rw [List.map_cons, own, List.filter_cons_of_pos (by simp), List.map_cons]
      exact congrArg (entry :: ·) ih

theorem own_other {i j : ι} (apart : j ≠ i) (added : List γ) :
    own i (added.map fun entry => (j, entry)) = [] := by
  rw [own, List.filter_eq_nil_iff.mpr, List.map_nil]
  intro entry mem
  obtain ⟨_, _, rfl⟩ := List.mem_map.mp mem
  simpa using apart

/-- The entries in the log, each with the thread that has written it, and what the threads have
yet to write. -/
structure Journal (log : σ → List γ) (start now : Pool ι ε σ α)
    (P : ι → Except ε α → List γ → Prop) (entries : List (ι × γ)) : Prop where
  grown : log now.shared = log start.shared ++ entries.map Prod.snd
  owed : ∀ i, (now.threads i).Writes log fun outcome rest => P i outcome (own i entries ++ rest)

/-- **One turn** adds the entries of the thread that takes it. -/
theorem Journal.next {start now : Pool ι ε σ α} {entries : List (ι × γ)}
    (journal : Journal log start now P entries) (turn : ι) :
    ∃ added, Journal log start (now.step turn) P (entries ++ added) := by
  cases thread : now.threads turn with
  | halt outcome =>
      have idle : now.step turn = now := by simp only [Pool.step, thread]
      exact ⟨[], by rwa [idle, List.append_nil]⟩
  | step update next =>
      have owed := journal.owed turn
      rw [thread] at owed
      obtain ⟨added, grows, rest⟩ := owed.of_step now.shared
      have shared : (now.step turn).shared = update now.shared := by simp only [Pool.step, thread]
      have threads : (now.step turn).threads =
          Function.update now.threads turn (next now.shared) := by simp only [Pool.step, thread]
      refine ⟨added.map fun entry => (turn, entry), ?_, fun i => ?_⟩
      · rw [shared, grows, journal.grown, List.map_append, List.map_map, List.append_assoc]
        congr 2
        exact (List.map_id added).symm
      · rw [threads]
        by_cases same : i = turn
        · subst same
          rw [Function.update_self]
          refine rest.mono fun outcome later held => ?_
          rwa [own_append, own_same, List.append_assoc]
        · rw [Function.update_of_ne same]
          refine (journal.owed i).mono fun outcome later held => ?_
          rwa [own_append, own_other (Ne.symm same), List.append_nil]

/-- **Journal rule.** -/
theorem exec_writes (writes : ∀ i, (pool.threads i).Writes log (P i)) (schedule : List ι) :
    ∃ entries, Journal log pool (pool.exec schedule) P entries := by
  refine exec_induction (fun _ now => ∃ entries, Journal log pool now P entries)
    ⟨[], (List.append_nil _).symm, writes⟩ ?_ schedule
  intro _ now turn before
  obtain ⟨entries, journal⟩ := before
  obtain ⟨added, next⟩ := journal.next turn
  exact ⟨entries ++ added, next⟩

variable {start now : Pool ι ε σ α} {entries : List (ι × γ)}

/-- A thread that has ended has written all it owes. -/
theorem Journal.ended (journal : Journal log start now P entries) {i : ι} {outcome : Except ε α}
    (halted : now.threads i = .halt outcome) : P i outcome (own i entries) := by
  have owed := journal.owed i
  rw [halted] at owed
  have held := owed.of_halt
  rwa [List.append_nil] at held

/-- Any other has begun to. -/
theorem Journal.begun (journal : Journal log start now P entries) (i : ι) :
    ∃ outcome rest, P i outcome (own i entries ++ rest) := by
  obtain ⟨rest, _, held⟩ := (journal.owed i).run now.shared
  exact ⟨_, rest, held⟩

end Pool

end Aegis.Lib

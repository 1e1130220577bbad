import Aegis.Lib.Refine

/-!
# Rely and guarantee

A guarantee says of each step of a program what it does in whatever state it is taken.  Some
steps are right only because of what the program has found or done before, and stays so while
the others do nothing but what they guarantee.  `Prog.Assures R Q p s` is for these: from `s` on,
with others that move in `R` between any two steps, `p` moves in `R`, too, and what it returns
satisfies `Q` from then on.

`Pool.assures_exec` is the rule for threads: when each assures `R` from where it stands, so it
does after any turns.
-/

namespace Aegis.Lib

namespace Prog

variable {ε σ α β : Type} {R : σ → σ → Prop} {Q : α → σ → Prop} {s t : σ}

def Assures (R : σ → σ → Prop) (Q : α → σ → Prop) : Prog ε σ α → σ → Prop
  | halt (.ok a), s => ∀ t, R s t → Q a t
  | halt (.error _), _ => True
  | step update next, s => ∀ t, R s t → R t (update t) ∧ (next t).Assures R Q (update t)

/-- The others may move before the first step. -/
theorem Assures.later (trans : ∀ {s t u}, R s t → R t u → R s u) {p : Prog ε σ α}
    (assures : p.Assures R Q s) (moved : R s t) : p.Assures R Q t := by
  cases p with
  | halt outcome =>
      cases outcome with
      | ok a => exact fun u onwards => assures u (trans moved onwards)
      | error e => trivial
  | step update next => exact fun u onwards => assures u (trans moved onwards)

theorem Assures.mono {P : α → σ → Prop} (weaker : ∀ a t, Q a t → P a t) {p : Prog ε σ α}
    (assures : p.Assures R Q s) : p.Assures R P s := by
  induction p generalizing s with
  | halt outcome =>
      cases outcome with
      | ok a => exact fun t moved => weaker a t (assures t moved)
      | error e => trivial
  | step update next ih =>
      exact fun t moved => ⟨(assures t moved).1, ih t (assures t moved).2⟩

/-- A program that returns has moved in `R`. -/
theorem Assures.reached (trans : ∀ {s t u}, R s t → R t u → R s u) {p : Prog ε σ α}
    (assures : p.Assures R Q s) : p.Assures R (fun a t => R s t ∧ Q a t) s := by
  induction p generalizing s with
  | halt outcome =>
      cases outcome with
      | ok a => exact fun t moved => ⟨moved, assures t moved⟩
      | error e => trivial
  | step update next ih =>
      intro t moved
      obtain ⟨step, rest⟩ := assures t moved
      exact ⟨step, (ih t rest).mono fun a u both => ⟨trans (trans moved step) both.1, both.2⟩⟩

/-- **Sequence.**  What follows starts where the first part has ended. -/
theorem Assures.bind (refl : ∀ s, R s s) {p : Prog ε σ α} {f : α → Prog ε σ β}
    {P : β → σ → Prop} (first : p.Assures R (fun a t => (f a).Assures R P t) s) :
    (p >>= f).Assures R P s := by
  change (p.bind f).Assures R P s
  induction p generalizing s with
  | halt outcome =>
      cases outcome with
      | ok a => exact first s (refl s)
      | error e => trivial
  | step update next ih => exact fun t moved => ⟨(first t moved).1, ih t (first t moved).2⟩

theorem assures_read (refl : ∀ s, R s s) {f : σ → α}
    (found : ∀ t, R s t → ∀ u, R t u → Q (f t) u) : (read f : Prog ε σ α).Assures R Q s :=
  fun t moved => ⟨refl t, found t moved⟩

theorem assures_modify {f : σ → σ} {Q : Unit → σ → Prop}
    (step : ∀ t, R s t → R t (f t) ∧ ∀ u, R (f t) u → Q () u) :
    (modify f : Prog ε σ Unit).Assures R Q s := step

theorem assures_commit (refl : ∀ s, R s s) {f : σ → Except ε σ} {Q : Unit → σ → Prop}
    (commits : ∀ t after, R s t → f t = .ok after → R t after ∧ ∀ u, R after u → Q () u) :
    (commit f).Assures R Q s := by
  intro t moved
  cases outcome : f t with
  | error e =>
      simp only [committed, outcome]
      exact ⟨refl t, trivial⟩
  | ok after =>
      simp only [committed, outcome]
      exact commits t after moved outcome

theorem assures_atomically {p : Prog ε σ α}
    (runs : ∀ t, R s t →
      R t (p.run t).2 ∧ ∀ a, (p.run t).1 = .ok a → ∀ u, R (p.run t).2 u → Q a u) :
    p.atomically.Assures R Q s := by
  intro t moved
  obtain ⟨step, returns⟩ := runs t moved
  refine ⟨step, ?_⟩
  dsimp only
  generalize (p.run t).1 = outcome at returns
  cases outcome with
  | ok a => exact returns a rfl
  | error e => trivial

/-- A guarantee needs no knowledge, and leaves alone what is stable. -/
theorem Guarantees.assures {P : σ → Prop} (stable : ∀ s t, R s t → P s → P t) {p : Prog ε σ α}
    (guarantees : p.Guarantees R) (held : P s) : p.Assures R (fun _ t => P t) s := by
  induction p generalizing s with
  | halt outcome =>
      cases outcome with
      | ok a => exact fun t moved => stable s t moved held
      | error e => trivial
  | step update next ih =>
      intro t moved
      obtain ⟨step, rest⟩ := guarantees t
      exact ⟨step, ih t rest (stable t (update t) step (stable s t moved held))⟩

/-- What follows a part that needs no knowledge may start anywhere. -/
theorem Guarantees.assures_bind (refl : ∀ s, R s s) {p : Prog ε σ α} {f : α → Prog ε σ β}
    {P : β → σ → Prop} (guarantees : p.Guarantees R) (rest : ∀ a t, (f a).Assures R P t) :
    (p >>= f).Assures R P s := by
  have anywhere : p.Assures R (fun _ _ => True) s :=
    guarantees.assures (fun _ _ _ held => held) trivial
  exact .bind refl (anywhere.mono fun a t _ => rest a t)

/-! ## Parts of a larger state -/

section Zoom

variable {τ : Type} {get : τ → σ} {put : σ → τ → τ}

theorem zoom_read (put_get : ∀ t, put (get t) t = t) (f : σ → α) :
    (read f : Prog ε σ α).zoom get put = read fun t => f (get t) :=
  congrArg (step · _) (funext put_get)

/-- What is assured of a part is assured of the whole, when the others are held to as much. -/
theorem Assures.zoom {S : τ → τ → Prop} (down : ∀ t u, S t u → R (get t) (get u))
    (up : ∀ s t, R (get t) s → S t (put s t)) (get_put : ∀ s t, get (put s t) = s)
    {p : Prog ε σ α} {t : τ} (assures : p.Assures R Q (get t)) :
    (p.zoom get put).Assures S (fun a u => Q a (get u)) t := by
  induction p generalizing t with
  | halt outcome =>
      cases outcome with
      | ok a => exact fun u moved => assures (get u) (down t u moved)
      | error e => trivial
  | step update next ih =>
      intro u moved
      obtain ⟨step, rest⟩ := assures (get u) (down t u moved)
      refine ⟨up _ u step, ih (get u) ?_⟩
      rwa [get_put]

end Zoom

end Prog

namespace Pool

variable {ι ε σ α : Type} [DecidableEq ι] {R : σ → σ → Prop} {Q : ι → α → σ → Prop}
  {pool : Pool ι ε σ α}

theorem assures_step (trans : ∀ {s t u}, R s t → R t u → R s u) (refl : ∀ s, R s s)
    (all : ∀ i, (pool.threads i).Assures R (Q i) pool.shared) (turn : ι) :
    R pool.shared (pool.step turn).shared ∧
      ∀ i, ((pool.step turn).threads i).Assures R (Q i) (pool.step turn).shared := by
  have own := all turn
  unfold Pool.step
  split
  next => exact ⟨refl _, all⟩
  next update next thread =>
    rw [thread] at own
    obtain ⟨moved, rest⟩ := own pool.shared (refl _)
    refine ⟨moved, fun i => ?_⟩
    dsimp only
    by_cases same : i = turn
    · subst same
      rw [Function.update_self]
      exact rest
    · rw [Function.update_of_ne same]
      exact (all i).later @trans moved

/-- **Rule for threads.** -/
theorem assures_exec (trans : ∀ {s t u}, R s t → R t u → R s u) (refl : ∀ s, R s s)
    (all : ∀ i, (pool.threads i).Assures R (Q i) pool.shared) (schedule : List ι) :
    R pool.shared (pool.exec schedule).shared ∧
      ∀ i, ((pool.exec schedule).threads i).Assures R (Q i) (pool.exec schedule).shared := by
  refine exec_induction (fun _ now => R pool.shared now.shared ∧
    ∀ i, (now.threads i).Assures R (Q i) now.shared) ⟨refl _, all⟩ ?_ schedule
  intro _ now turn both
  obtain ⟨reached, kept⟩ := both
  obtain ⟨moved, still⟩ := assures_step @trans refl kept turn
  exact ⟨trans reached moved, still⟩

/-- Only the threads that have a turn count. -/
theorem exec_guarantee_of_mem (refl : ∀ s, R s s) (trans : ∀ {s t u}, R s t → R t u → R s u)
    {schedule : List ι} (guarantees : ∀ i ∈ schedule, (pool.threads i).Guarantees R) :
    R pool.shared (pool.exec schedule).shared := by
  induction schedule generalizing pool with
  | nil => exact refl _
  | cons turn rest ih =>
      obtain ⟨own, others⟩ := List.forall_mem_cons.mp guarantees
      rw [exec_cons]
      exact trans (shared_step refl own) (ih fun j later => guarantees_step turn j (others j later))

/-- What a thread returns is as it has assured. -/
theorem assured_of_returned (trans : ∀ {s t u}, R s t → R t u → R s u) (refl : ∀ s, R s s)
    (all : ∀ i, (pool.threads i).Assures R (Q i) pool.shared) {schedule : List ι} {i : ι} {a : α}
    (returned : (pool.exec schedule).threads i = .halt (.ok a)) :
    R pool.shared (pool.exec schedule).shared ∧ Q i a (pool.exec schedule).shared := by
  obtain ⟨reached, kept⟩ := assures_exec @trans refl all schedule
  have assures := kept i
  rw [returned] at assures
  exact ⟨reached, assures _ (refl _)⟩

/-- What a thread assures from where it stands it has kept when it returns. -/
theorem assured_from (trans : ∀ {s t u}, R s t → R t u → R s u) (refl : ∀ s, R s s)
    (all : ∀ i, (pool.threads i).Assures R (Q i) pool.shared) {early late : List ι} {i : ι}
    {P : α → σ → Prop} {a : α}
    (own : ((pool.exec early).threads i).Assures R P (pool.exec early).shared)
    (returned : (pool.exec (early ++ late)).threads i = .halt (.ok a)) :
    P a (pool.exec (early ++ late)).shared := by
  obtain ⟨_, kept⟩ := assures_exec @trans refl all early
  have allAlso : ∀ j, ((pool.exec early).threads j).Assures R (Function.update Q i P j)
      (pool.exec early).shared := by
    intro j
    by_cases same : j = i
    · subst same
      rwa [Function.update_self]
    · rw [Function.update_of_ne same]
      exact kept j
  rw [exec_append] at returned ⊢
  have held := (assured_of_returned @trans refl allAlso returned).2
  rwa [Function.update_self] at held

end Pool

end Aegis.Lib

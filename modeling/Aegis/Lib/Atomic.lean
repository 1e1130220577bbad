import Mathlib.Data.List.Induction
import Mathlib.Data.Nat.Notation
import Mathlib.Logic.Function.Basic

/-!
# Programs of atomic steps

A `Prog` runs against a shared state one atomic step at a time and ends with a result
or an exception.  The same program has a sequential meaning (`run`), a meaning when it
is cut off after some number of steps (`crash`), and an interleaved meaning as one
thread of a `Pool`.

Three rules carry proofs about pools.  `Pool.exec_guarantee` is for properties of
single steps: when each step of each thread is in a preorder, so is every run.
`Pool.exec_emits` is for what one thread writes to a log in all.  `Control` is for
properties of control points: it names the points of a program, `Control.step_pool`
turns a step of a thread into a step between points, and `Control.crash_prog` turns an
execution that is cut off into a walk over them.
-/

namespace Aegis.Lib

/-- A program over the shared state `σ` that raises exceptions of type `ε`. -/
inductive Prog (ε σ α : Type) where
  | halt (outcome : Except ε α)
  | step (update : σ → σ) (next : σ → Prog ε σ α)

namespace Prog

variable {ε σ α β : Type}

def bind : Prog ε σ α → (α → Prog ε σ β) → Prog ε σ β
  | halt (.ok a), f => f a
  | halt (.error e), _ => halt (.error e)
  | step update next, f => step update fun s => (next s).bind f

instance : Monad (Prog ε σ) where
  pure a := halt (.ok a)
  bind := bind

theorem bind_pure_eq (p : Prog ε σ α) : p.bind pure = p := by
  induction p with
  | halt outcome => cases outcome <;> rfl
  | step update next ih => exact congrArg (step update) (funext ih)

theorem bind_bind_eq {γ : Type} (p : Prog ε σ α) (f : α → Prog ε σ β) (g : β → Prog ε σ γ) :
    (p.bind f).bind g = p.bind fun a => (f a).bind g := by
  induction p with
  | halt outcome => cases outcome <;> rfl
  | step update next ih => exact congrArg (step update) (funext ih)

instance : LawfulMonad (Prog ε σ) :=
  .mk' _ bind_pure_eq (fun _ _ => rfl) bind_bind_eq

def raise (e : ε) : Prog ε σ α := halt (.error e)

/-- A check that does not touch the state. -/
def ofExcept (outcome : Except ε α) : Prog ε σ α := halt outcome

/-- A statement that reads the state. -/
def read (f : σ → α) : Prog ε σ α := step id fun s => halt (.ok (f s))

/-- A statement that changes the state. -/
def modify (f : σ → σ) : Prog ε σ Unit := step f fun _ => halt (.ok ())

/-- A statement that reads and changes the state. -/
def act (f : σ → α × σ) : Prog ε σ α := step (fun s => (f s).2) fun s => halt (.ok (f s).1)

/-- The state after a transaction, whether it commits or raises. -/
def committed (f : σ → Except ε σ) (s : σ) : σ :=
  match f s with
  | .ok after => after
  | .error _ => s

/-- A transaction: it commits, or it leaves the state as it was and raises. -/
def commit (f : σ → Except ε σ) : Prog ε σ Unit :=
  step (committed f) fun s => halt ((f s).map fun _ => ())

theorem ofExcept_ok_bind (a : α) (f : α → Prog ε σ β) : ofExcept (.ok a) >>= f = f a := rfl

theorem commit_bind (f : σ → Except ε σ) (k : Unit → Prog ε σ β) :
    commit f >>= k = step (committed f) fun s =>
      match f s with
      | .ok _ => k ()
      | .error e => halt (.error e) := by
  change step _ _ = step _ _
  congr 1
  funext s
  dsimp only
  cases f s <;> rfl

/-- A transaction with a result. -/
def transact (f : σ → Except ε (α × σ)) : Prog ε σ α :=
  step (committed fun s => (f s).map Prod.snd) fun s => halt ((f s).map Prod.fst)

/-- A program over a part of a larger state. -/
def zoom {τ : Type} (get : τ → σ) (put : σ → τ → τ) : Prog ε σ α → Prog ε τ α
  | halt outcome => halt outcome
  | step update next =>
      step (fun t => put (update (get t)) t) fun t => (next (get t)).zoom get put

/-- `try: ... except ...`. -/
def catchWith {ε' : Type} : Prog ε σ α → (ε → Prog ε' σ α) → Prog ε' σ α
  | halt (.ok a), _ => halt (.ok a)
  | halt (.error e), handler => handler e
  | step update next, handler => step update fun s => (next s).catchWith handler

/-- A program over a part of a larger state, which may raise other exceptions as well. -/
def embed {τ ε' : Type} (get : τ → σ) (put : σ → τ → τ) (rename : ε → ε') (p : Prog ε σ α) :
    Prog ε' τ α :=
  (p.zoom get put).catchWith fun e => raise (rename e)

/-! ## Sequential runs -/

def run : Prog ε σ α → σ → Except ε α × σ
  | halt outcome, s => (outcome, s)
  | step update next, s => (next s).run (update s)

/-- The state left behind by an execution that is cut off after `n` steps. -/
def crash : ℕ → Prog ε σ α → σ → σ
  | 0, _, s => s
  | _ + 1, halt _, s => s
  | n + 1, step update next, s => (next s).crash n (update s)

/-- The whole program as one step. -/
def atomically (p : Prog ε σ α) : Prog ε σ α :=
  step (fun s => (p.run s).2) fun s => halt (p.run s).1

@[simp]
theorem run_pure (a : α) (s : σ) : (pure a : Prog ε σ α).run s = (.ok a, s) := rfl

@[simp]
theorem run_read (f : σ → α) (s : σ) : (read f : Prog ε σ α).run s = (.ok (f s), s) := rfl

@[simp]
theorem run_modify (f : σ → σ) (s : σ) : (modify f : Prog ε σ Unit).run s = (.ok (), f s) := rfl

theorem run_ofExcept (outcome : Except ε α) (s : σ) :
    (ofExcept outcome : Prog ε σ α).run s = (outcome, s) := rfl

theorem run_atomically (p : Prog ε σ α) (s : σ) : p.atomically.run s = p.run s := rfl

theorem run_commit_ok {f : σ → Except ε σ} {s after : σ} (done : f s = .ok after) :
    (commit f).run s = (.ok (), after) := by
  simp only [commit, run, committed, done]
  rfl

theorem run_commit_error {f : σ → Except ε σ} {s : σ} {e : ε} (failed : f s = .error e) :
    (commit f).run s = (.error e, s) := by
  simp only [commit, run, committed, failed]
  rfl

/-- What a transaction before a result leaves behind. -/
theorem run_commit_pure (f : σ → Except ε σ) (a : α) (s : σ) :
    ((commit f >>= fun _ => (pure a : Prog ε σ α)).run s).2 = committed f s := by
  rw [commit_bind, run]
  cases f s <;> rfl

theorem run_bind (p : Prog ε σ α) (f : α → Prog ε σ β) (s : σ) :
    (p >>= f).run s = match p.run s with
      | (.ok a, after) => (f a).run after
      | (.error e, after) => (.error e, after) := by
  change (p.bind f).run s = _
  induction p generalizing s with
  | halt outcome => cases outcome <;> rfl
  | step update next ih => exact ih s (update s)

theorem run_bind_ok {p : Prog ε σ α} {f : α → Prog ε σ β} {s after : σ} {a : α}
    (first : p.run s = (.ok a, after)) : (p >>= f).run s = (f a).run after := by
  rw [run_bind, first]

theorem run_bind_error {p : Prog ε σ α} {f : α → Prog ε σ β} {s after : σ} {e : ε}
    (first : p.run s = (.error e, after)) : (p >>= f).run s = (.error e, after) := by
  rw [run_bind, first]

/-- A loop whose body only looks. -/
theorem run_mapM {γ : Type} {body : γ → Prog ε σ β} {result : γ → β} {s : σ}
    (each : ∀ item, (body item).run s = (.ok (result item), s)) (items : List γ) :
    (items.mapM body).run s = (.ok (items.map result), s) := by
  induction items with
  | nil => rfl
  | cons item rest ih =>
      rw [List.mapM_cons, run_bind_ok (each item), run_bind_ok ih]
      rfl

theorem run_map_error {p : Prog ε σ α} {s after : σ} {e : ε} (f : α → β)
    (first : p.run s = (.error e, after)) : (f <$> p).run s = (.error e, after) :=
  run_bind_error first

theorem run_catchWith {ε' : Type} (p : Prog ε σ α) (handler : ε → Prog ε' σ α) (s : σ) :
    (p.catchWith handler).run s = match p.run s with
      | (.ok a, after) => (.ok a, after)
      | (.error e, after) => (handler e).run after := by
  induction p generalizing s with
  | halt outcome => cases outcome <;> rfl
  | step update next ih => exact ih s (update s)

theorem run_transact_ok {f : σ → Except ε (α × σ)} {s after : σ} {a : α}
    (done : f s = .ok (a, after)) : (transact f).run s = (.ok a, after) := by
  simp only [transact, run, committed, done]
  rfl

theorem run_transact_error {f : σ → Except ε (α × σ)} {s : σ} {e : ε}
    (failed : f s = .error e) : (transact f).run s = (.error e, s) := by
  simp only [transact, run, committed, failed]
  rfl

/-- The part runs as it does alone, when it is a field of the larger state. -/
theorem run_zoom {τ : Type} {get : τ → σ} {put : σ → τ → τ} (get_put : ∀ s t, get (put s t) = s)
    (put_put : ∀ s s' t, put s (put s' t) = put s t) (put_get : ∀ t, put (get t) t = t)
    (p : Prog ε σ α) (t : τ) :
    (p.zoom get put).run t = ((p.run (get t)).1, put (p.run (get t)).2 t) := by
  induction p generalizing t with
  | halt outcome => rw [zoom, run, run, put_get]
  | step update next ih =>
      rw [zoom, run, ih, get_put, put_put]
      rfl

theorem run_embed {τ ε' : Type} {get : τ → σ} {put : σ → τ → τ} {rename : ε → ε'}
    (get_put : ∀ s t, get (put s t) = s) (put_put : ∀ s s' t, put s (put s' t) = put s t)
    (put_get : ∀ t, put (get t) t = t) (p : Prog ε σ α) (t : τ) :
    (p.embed get put rename).run t =
      ((p.run (get t)).1.mapError rename, put (p.run (get t)).2 t) := by
  rw [embed, run_catchWith, run_zoom get_put put_put put_get]
  cases (p.run (get t)).1 <;> rfl

/-- A check of the result leaves the state alone. -/
theorem run_bind_ofExcept (p : Prog ε σ α) (check : α → Except ε β) (s : σ) :
    ((p >>= fun a => ofExcept (check a)).run s).2 = (p.run s).2 := by
  rw [run_bind]
  cases p.run s with
  | mk outcome after => cases outcome <;> rfl

/-! ## Guarantees -/

/-- Every step the program can take is in `R`, whatever others do in between. -/
def Guarantees (R : σ → σ → Prop) : Prog ε σ α → Prop
  | halt _ => True
  | step update next => ∀ s, R s (update s) ∧ (next s).Guarantees R

theorem Guarantees.bind {R : σ → σ → Prop} {p : Prog ε σ α} {f : α → Prog ε σ β}
    (first : p.Guarantees R) (rest : ∀ a, (f a).Guarantees R) : (p >>= f).Guarantees R := by
  change (p.bind f).Guarantees R
  induction p with
  | halt outcome =>
      cases outcome with
      | ok a => exact rest a
      | error e => trivial
  | step update next ih => exact fun s => ⟨(first s).1, ih s (first s).2⟩

theorem Guarantees.catchWith {ε' : Type} {R : σ → σ → Prop} {p : Prog ε σ α}
    {handler : ε → Prog ε' σ α} (first : p.Guarantees R)
    (rest : ∀ e, (handler e).Guarantees R) : (p.catchWith handler).Guarantees R := by
  induction p with
  | halt outcome =>
      cases outcome with
      | ok a => trivial
      | error e => exact rest e
  | step update next ih => exact fun s => ⟨(first s).1, ih s (first s).2⟩

theorem Guarantees.map {R : σ → σ → Prop} {p : Prog ε σ α} (f : α → β)
    (guarantees : p.Guarantees R) : (f <$> p).Guarantees R :=
  guarantees.bind fun _ => trivial

/-- A loop whose body guarantees. -/
theorem guarantees_mapM {γ : Type} {R : σ → σ → Prop} {body : γ → Prog ε σ β}
    (each : ∀ item, (body item).Guarantees R) (items : List γ) :
    (items.mapM body).Guarantees R := by
  induction items with
  | nil => trivial
  | cons item rest ih =>
      rw [List.mapM_cons]
      exact .bind (each item) fun _ => .bind ih fun _ => trivial

theorem Guarantees.ite {R : σ → σ → Prop} {c : Prop} [Decidable c] {p q : Prog ε σ α}
    (first : p.Guarantees R) (second : q.Guarantees R) : (if c then p else q).Guarantees R := by
  split
  · exact first
  · exact second

theorem guarantees_pure {R : σ → σ → Prop} (a : α) :
    (pure a : Prog ε σ α).Guarantees R := trivial

theorem guarantees_ofExcept {R : σ → σ → Prop} (outcome : Except ε α) :
    (ofExcept outcome : Prog ε σ α).Guarantees R := trivial

theorem guarantees_read {R : σ → σ → Prop} (refl : ∀ s, R s s) (f : σ → α) :
    (read f : Prog ε σ α).Guarantees R := fun s => ⟨refl s, trivial⟩

theorem guarantees_modify {R : σ → σ → Prop} {f : σ → σ} (step : ∀ s, R s (f s)) :
    (modify f : Prog ε σ Unit).Guarantees R := fun s => ⟨step s, trivial⟩

theorem guarantees_atomically {R : σ → σ → Prop} {p : Prog ε σ α}
    (step : ∀ s, R s (p.run s).2) : p.atomically.Guarantees R :=
  fun s => ⟨step s, trivial⟩

theorem guarantees_act {R : σ → σ → Prop} {f : σ → α × σ} (step : ∀ s, R s (f s).2) :
    (act f : Prog ε σ α).Guarantees R := fun s => ⟨step s, trivial⟩

theorem guarantees_commit {R : σ → σ → Prop} (refl : ∀ s, R s s) {f : σ → Except ε σ}
    (commits : ∀ s after, f s = .ok after → R s after) : (commit f).Guarantees R := by
  refine fun s => ⟨?_, trivial⟩
  unfold committed
  split
  next after outcome => exact commits s after outcome
  · exact refl s

theorem Guarantees.mono {R Q : σ → σ → Prop} (weaker : ∀ s t, R s t → Q s t)
    {p : Prog ε σ α} (guarantees : p.Guarantees R) : p.Guarantees Q := by
  induction p with
  | halt outcome => trivial
  | step update next ih =>
      exact fun s => ⟨weaker _ _ (guarantees s).1, ih s (guarantees s).2⟩

theorem Guarantees.zoom {τ : Type} {R : σ → σ → Prop} {Q : τ → τ → Prop} {p : Prog ε σ α}
    {get : τ → σ} {put : σ → τ → τ} (lifts : ∀ s t, R (get t) s → Q t (put s t))
    (guarantees : p.Guarantees R) : (p.zoom get put).Guarantees Q := by
  induction p with
  | halt outcome => trivial
  | step update next ih =>
      exact fun t => ⟨lifts _ t (guarantees (get t)).1, ih (get t) (guarantees (get t)).2⟩

theorem Guarantees.embed {τ ε' : Type} {R : σ → σ → Prop} {Q : τ → τ → Prop} {p : Prog ε σ α}
    {get : τ → σ} {put : σ → τ → τ} {rename : ε → ε'} (lifts : ∀ s t, R (get t) s → Q t (put s t))
    (guarantees : p.Guarantees R) : (p.embed get put rename).Guarantees Q :=
  .catchWith (guarantees.zoom lifts) fun _ => trivial

theorem guarantees_transact {R : σ → σ → Prop} (refl : ∀ s, R s s) {f : σ → Except ε (α × σ)}
    (commits : ∀ s a after, f s = .ok (a, after) → R s after) : (transact f).Guarantees R := by
  refine fun s => ⟨?_, trivial⟩
  cases done : f s with
  | error e =>
      rw [committed, done]
      exact refl s
  | ok result =>
      rw [committed, done]
      exact commits s result.1 result.2 done

/-- A run of a program that guarantees a preorder is in it. -/
theorem Guarantees.run {R : σ → σ → Prop} (refl : ∀ s, R s s)
    (trans : ∀ {s t u}, R s t → R t u → R s u) {p : Prog ε σ α} (guarantees : p.Guarantees R)
    (s : σ) : R s (p.run s).2 := by
  induction p generalizing s with
  | halt outcome => exact refl s
  | step update next ih =>
      exact trans (guarantees s).1 (ih s (guarantees s).2 (update s))

/-- What follows a program adds the steps that it guarantees. -/
theorem run_bind_rest {R : σ → σ → Prop} (refl : ∀ s, R s s)
    (trans : ∀ {s t u}, R s t → R t u → R s u) (p : Prog ε σ α) {f : α → Prog ε σ β}
    (rest : ∀ a, (f a).Guarantees R) (s : σ) : R (p.run s).2 ((p >>= f).run s).2 := by
  rw [run_bind]
  cases p.run s with
  | mk outcome after =>
      cases outcome with
      | ok a => exact (rest a).run refl trans after
      | error e => exact refl after

/-- So does a handler. -/
theorem run_catchWith_rest {ε' : Type} {R : σ → σ → Prop} (refl : ∀ s, R s s)
    (trans : ∀ {s t u}, R s t → R t u → R s u) (p : Prog ε σ α) {handler : ε → Prog ε' σ α}
    (rest : ∀ e, (handler e).Guarantees R) (s : σ) :
    R (p.run s).2 ((p.catchWith handler).run s).2 := by
  rw [run_catchWith]
  cases p.run s with
  | mk outcome after =>
      cases outcome with
      | ok a => exact refl after
      | error e => exact (rest e).run refl trans after

/-! ## Exceptions -/

/-- The program raises nothing outside `E`, whatever others do in between. -/
def Raises (E : ε → Prop) : Prog ε σ α → Prop
  | halt (.ok _) => True
  | halt (.error e) => E e
  | step _ next => ∀ s, (next s).Raises E

theorem Raises.bind {E : ε → Prop} {p : Prog ε σ α} {f : α → Prog ε σ β} (first : p.Raises E)
    (rest : ∀ a, (f a).Raises E) : (p >>= f).Raises E := by
  change (p.bind f).Raises E
  induction p with
  | halt outcome =>
      cases outcome with
      | ok a => exact rest a
      | error e => exact first
  | step update next ih => exact fun s => ih s (first s)

theorem Raises.zoom {τ : Type} {E : ε → Prop} {p : Prog ε σ α} (raises : p.Raises E)
    (get : τ → σ) (put : σ → τ → τ) : (p.zoom get put).Raises E := by
  induction p with
  | halt outcome => cases outcome <;> exact raises
  | step update next ih => exact fun t => ih (get t) (raises (get t))

theorem raises_commit {E : ε → Prop} {f : σ → Except ε σ}
    (raises : ∀ s e, f s = .error e → E e) : (commit f).Raises E := by
  intro s
  change (halt ((f s).map fun _ => ()) : Prog ε σ Unit).Raises E
  cases outcome : f s with
  | ok after => trivial
  | error e => exact raises s e outcome

theorem Raises.run {E : ε → Prop} {p : Prog ε σ α} (raises : p.Raises E) {s after : σ} {e : ε}
    (ended : p.run s = (.error e, after)) : E e := by
  induction p generalizing s with
  | halt outcome =>
      cases ended
      exact raises
  | step update next ih => exact ih s (raises s) ended

/-! ## Results -/

/-- Whatever the program returns is in `P`, whatever others do in between. -/
def Returns (P : α → Prop) : Prog ε σ α → Prop
  | halt (.ok a) => P a
  | halt (.error _) => True
  | step _ next => ∀ s, (next s).Returns P

theorem Returns.bind {P : β → Prop} (p : Prog ε σ α) {f : α → Prog ε σ β}
    (rest : ∀ a, (f a).Returns P) : (p >>= f).Returns P := by
  change (p.bind f).Returns P
  induction p with
  | halt outcome =>
      cases outcome with
      | ok a => exact rest a
      | error e => trivial
  | step update next ih => exact fun s => ih s

theorem Returns.run {P : α → Prop} {p : Prog ε σ α} (returns : p.Returns P) {s : σ} {a : α}
    (ended : (p.run s).1 = .ok a) : P a := by
  induction p generalizing s with
  | halt outcome =>
      cases outcome with
      | ok b =>
          cases ended
          exact returns
      | error e => cases ended
  | step update next ih => exact ih s (returns s) ended

/-! ## Emissions -/

/-- Whatever others do in between, the entries that the program's own steps append to
`log` are in `P` when it has ended. -/
def Emits (log : σ → List β) : Prog ε σ α → (List β → Prop) → Prop
  | halt _, P => P []
  | step update next, P => ∀ s, ∃ added, log (update s) = log s ++ added ∧
      (next s).Emits log fun rest => P (added ++ rest)

/-- The program appends nothing to `log` and does not raise. -/
def Silent (log : σ → List β) : Prog ε σ α → Prop
  | halt (.ok _) => True
  | halt (.error _) => False
  | step update next => ∀ s, log (update s) = log s ∧ (next s).Silent log

theorem Silent.bind {γ : Type} {log : σ → List γ} {p : Prog ε σ α} {f : α → Prog ε σ β}
    (first : p.Silent log) (rest : ∀ a, (f a).Silent log) : (p >>= f).Silent log := by
  change (p.bind f).Silent log
  induction p with
  | halt outcome =>
      cases outcome with
      | ok a => exact rest a
      | error e => exact first.elim
  | step update next ih => exact fun s => ⟨(first s).1, ih s (first s).2⟩

theorem Emits.silent_bind {γ : Type} {log : σ → List γ} {P : List γ → Prop} {p : Prog ε σ α}
    {f : α → Prog ε σ β} (first : p.Silent log) (rest : ∀ a, (f a).Emits log P) :
    (p >>= f).Emits log P := by
  change (p.bind f).Emits log P
  induction p with
  | halt outcome =>
      cases outcome with
      | ok a => exact rest a
      | error e => exact first.elim
  | step update next ih =>
      exact fun s => ⟨[], by rw [(first s).1, List.append_nil], ih s (first s).2⟩

end Prog

/-! ## Pools of threads -/

/-- Threads that share a state. -/
structure Pool (ι ε σ α : Type) where
  shared : σ
  threads : ι → Prog ε σ α

namespace Pool

variable {ι ε σ α : Type} [DecidableEq ι]

/-- Thread `i` takes its next step; a thread that has ended takes none. -/
def step (pool : Pool ι ε σ α) (i : ι) : Pool ι ε σ α :=
  match pool.threads i with
  | .halt _ => pool
  | .step update next =>
      { shared := update pool.shared
        threads := Function.update pool.threads i (next pool.shared) }

/-- The threads take turns as the schedule says. -/
def exec (pool : Pool ι ε σ α) (schedule : List ι) : Pool ι ε σ α :=
  schedule.foldl step pool

def Finished (pool : Pool ι ε σ α) : Prop :=
  ∀ i, ∃ outcome, pool.threads i = .halt outcome

/-- **Invariant rule**, over the turns taken so far. -/
theorem exec_induction (Inv : List ι → Pool ι ε σ α → Prop) {pool : Pool ι ε σ α}
    (start : Inv [] pool)
    (step : ∀ turns pool i, Inv turns pool → Inv (turns ++ [i]) (pool.step i))
    (schedule : List ι) : Inv schedule (pool.exec schedule) := by
  induction schedule using List.reverseRecOn with
  | nil => exact start
  | append_singleton turns i ih =>
      rw [exec, List.foldl_append]
      exact step turns _ i ih

theorem guarantees_step {R : σ → σ → Prop} {pool : Pool ι ε σ α} (turn j : ι)
    (guarantees : (pool.threads j).Guarantees R) : ((pool.step turn).threads j).Guarantees R := by
  unfold Pool.step
  split
  · exact guarantees
  next update next thread =>
    dsimp only
    by_cases same : j = turn
    · subst same
      rw [thread] at guarantees
      rw [Function.update_self]
      exact (guarantees pool.shared).2
    · rwa [Function.update_of_ne same]

theorem shared_step {R : σ → σ → Prop} (refl : ∀ s, R s s) {pool : Pool ι ε σ α} {i : ι}
    (guarantees : (pool.threads i).Guarantees R) : R pool.shared (pool.step i).shared := by
  unfold Pool.step
  split
  · exact refl _
  next update next thread =>
    rw [thread] at guarantees
    exact (guarantees pool.shared).1

theorem exec_cons (pool : Pool ι ε σ α) (turn : ι) (rest : List ι) :
    pool.exec (turn :: rest) = (pool.step turn).exec rest := rfl

theorem exec_append (pool : Pool ι ε σ α) (early late : List ι) :
    pool.exec (early ++ late) = (pool.exec early).exec late := List.foldl_append

/-- What a thread guarantees it goes on to guarantee. -/
theorem guarantees_exec {R : σ → σ → Prop} {pool : Pool ι ε σ α} {j : ι}
    (guarantees : (pool.threads j).Guarantees R) (schedule : List ι) :
    ((pool.exec schedule).threads j).Guarantees R :=
  exec_induction (fun _ now => (now.threads j).Guarantees R) guarantees
    (fun _ _ turn kept => guarantees_step turn j kept) schedule

/-- **Guarantee rule.**  A run of threads that guarantee a preorder is in it. -/
theorem exec_guarantee {R : σ → σ → Prop} (refl : ∀ s, R s s)
    (trans : ∀ {s t u}, R s t → R t u → R s u) {pool : Pool ι ε σ α}
    (guarantees : ∀ i, (pool.threads i).Guarantees R) (schedule : List ι) :
    R pool.shared (pool.exec schedule).shared := by
  refine (exec_induction (fun _ now => R pool.shared now.shared ∧
    ∀ i, (now.threads i).Guarantees R) ⟨refl _, guarantees⟩ ?_ schedule).1
  intro _ now i both
  rcases both with ⟨reached, kept⟩
  exact ⟨trans reached (shared_step refl (kept i)), fun j => guarantees_step i j (kept j)⟩

theorem threads_step_of_ne {pool : Pool ι ε σ α} {turn i : ι} (apart : i ≠ turn) :
    (pool.step turn).threads i = pool.threads i := by
  unfold Pool.step
  split
  · rfl
  · exact Function.update_of_ne apart _ _

/-- A thread that takes no turn stays where it is. -/
theorem threads_exec_of_not_mem {pool : Pool ι ε σ α} {i : ι} {schedule : List ι}
    (absent : i ∉ schedule) : (pool.exec schedule).threads i = pool.threads i := by
  induction schedule generalizing pool with
  | nil => rfl
  | cons turn rest ih =>
      rw [List.mem_cons, not_or] at absent
      exact (ih absent.2).trans (threads_step_of_ne absent.1)

section Emissions

variable {β : Type} {log : σ → List β} {P : List β → Prop} {pool : Pool ι ε σ α} {i : ι}

theorem emits_step (turn : ι) (emits : (pool.threads i).Emits log P)
    (others : ∀ j, j ≠ i → (pool.threads j).Guarantees fun s t => log t = log s) :
    ∃ added, log (pool.step turn).shared = log pool.shared ++ added ∧
      ((pool.step turn).threads i).Emits log fun rest => P (added ++ rest) := by
  by_cases own : turn = i
  · subst own
    cases thread : pool.threads turn with
    | halt outcome =>
        have idle : pool.step turn = pool := by simp only [Pool.step, thread]
        exact ⟨[], by rw [idle, List.append_nil], by rwa [idle]⟩
    | step update next =>
        rw [thread] at emits
        obtain ⟨added, grows, rest⟩ := emits pool.shared
        refine ⟨added, ?_, ?_⟩
        · simp only [Pool.step, thread]
          exact grows
        · simp only [Pool.step, thread, Function.update_self]
          exact rest
  · refine ⟨[], ?_, ?_⟩
    · rw [List.append_nil]
      exact shared_step (R := fun s t => log t = log s) (fun _ => rfl) (others turn own)
    · rw [threads_step_of_ne (Ne.symm own)]
      exact emits

/-- **Emission rule.**  When one thread emits a list in `P` and the others leave the log
alone, the log has grown by a list in `P` once that thread has ended. -/
theorem exec_emits (emits : (pool.threads i).Emits log P)
    (others : ∀ j, j ≠ i → (pool.threads j).Guarantees fun s t => log t = log s)
    {schedule : List ι} {outcome : Except ε α}
    (ended : (pool.exec schedule).threads i = .halt outcome) :
    ∃ added, log (pool.exec schedule).shared = log pool.shared ++ added ∧ P added := by
  induction schedule generalizing pool P with
  | nil =>
      have halted : pool.threads i = .halt outcome := ended
      rw [halted] at emits
      exact ⟨[], (List.append_nil _).symm, emits⟩
  | cons turn rest ih =>
      obtain ⟨first, grown, owed⟩ := emits_step turn emits others
      obtain ⟨later, grows, all⟩ := ih owed
        (fun j apart => guarantees_step turn j (others j apart)) ended
      exact ⟨first ++ later, by rw [← List.append_assoc, ← grown]; exact grows, all⟩

end Emissions

end Pool

/-! ## Control points -/

/-- A program laid out by its control points: from a point that has not ended, the
program takes the step `effect` and goes on from the point `next`. -/
structure Control (ε σ α P : Type) where
  prog : P → Prog ε σ α
  effect : P → σ → σ
  next : P → σ → P
  law : ∀ p, (∃ outcome, prog p = .halt outcome ∧ ∀ s, effect p s = s ∧ next p s = p) ∨
    prog p = .step (effect p) fun s => prog (next p s)

namespace Control

variable {ι ε σ α P : Type} [DecidableEq ι]

/-- The pool whose threads stand at the given points. -/
def pool (control : ι → Control ε σ α P) (points : ι → P) (s : σ) : Pool ι ε σ α :=
  ⟨s, fun i => (control i).prog (points i)⟩

theorem step_pool (control : ι → Control ε σ α P) (points : ι → P) (s : σ) (i : ι) :
    (pool control points s).step i =
      pool control (Function.update points i ((control i).next (points i) s))
        ((control i).effect (points i) s) := by
  rcases (control i).law (points i) with ⟨outcome, ended, idle⟩ | running
  · rw [(idle s).1, (idle s).2, Function.update_eq_self]
    simp only [Pool.step, pool, ended]
  · simp only [Pool.step, pool, running]
    congr 1
    funext j
    by_cases same : j = i
    · subst same
      rw [Function.update_self, Function.update_self]
    · rw [Function.update_of_ne same, Function.update_of_ne same]

/-- The point and the state after `n` steps that nothing interferes with. -/
def walk (control : Control ε σ α P) : ℕ → P → σ → P × σ
  | 0, p, s => (p, s)
  | n + 1, p, s => control.walk n (control.next p s) (control.effect p s)

variable {control : Control ε σ α P}

theorem walk_idle {p : P} (idle : ∀ s, control.effect p s = s ∧ control.next p s = p) (n : ℕ)
    (s : σ) : control.walk n p s = (p, s) := by
  induction n with
  | zero => rfl
  | succ n ih => rw [walk, (idle s).1, (idle s).2, ih]

/-- An execution that is cut off leaves behind what it had walked to. -/
theorem crash_prog (n : ℕ) (p : P) (s : σ) :
    (control.prog p).crash n s = (control.walk n p s).2 := by
  induction n generalizing p s with
  | zero => cases control.prog p <;> rfl
  | succ n ih =>
      rcases control.law p with ⟨outcome, ended, idle⟩ | running
      · rw [ended, walk_idle idle]
        rfl
      · rw [running, walk]
        exact ih _ _

/-- A walk that ends is a run. -/
theorem run_prog {n : ℕ} {p : P} {s : σ} {outcome : Except ε α}
    (ended : control.prog (control.walk n p s).1 = .halt outcome) :
    (control.prog p).run s = (outcome, (control.walk n p s).2) := by
  induction n generalizing p s with
  | zero =>
      rw [walk] at ended ⊢
      rw [ended]
      rfl
  | succ n ih =>
      rcases control.law p with ⟨other, halted, idle⟩ | running
      · rw [walk_idle idle] at ended ⊢
        rw [ended]
        rfl
      · rw [running]
        exact ih ended

end Control

end Aegis.Lib

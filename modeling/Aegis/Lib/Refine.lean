import Aegis.Lib.Atomic

/-!
# Refinement of programs

`Refines view rename p q` says that a run of `p` looks like a run of `q` to whoever sees the
state through `view`: it ends in the same way, up to the names of the exceptions, and in a
state that looks the same.  The rules follow the shape of the two programs; `skip` is for a
step of `p` that cannot be seen.
-/

namespace Aegis.Lib

variable {ε ε' σ τ α β : Type} {view : τ → σ} {rename : ε → ε'}

def Refines (view : τ → σ) (rename : ε → ε') (p : Prog ε' τ α) (q : Prog ε σ α) : Prop :=
  ∀ t, (p.run t).1 = (q.run (view t)).1.mapError rename ∧ view (p.run t).2 = (q.run (view t)).2

namespace Refines

theorem pure (a : α) : Refines view rename (Pure.pure a) (Pure.pure a) := fun _ => ⟨rfl, rfl⟩

theorem raise (e : ε) : Refines view rename (Prog.raise (rename e) : Prog ε' τ α) (Prog.raise e) :=
  fun _ => ⟨rfl, rfl⟩

theorem ofExcept (outcome : Except ε α) :
    Refines view rename (Prog.ofExcept (outcome.mapError rename)) (Prog.ofExcept outcome) :=
  fun _ => ⟨rfl, rfl⟩

theorem bind {p : Prog ε' τ α} {q : Prog ε σ α} {f : α → Prog ε' τ β} {g : α → Prog ε σ β}
    (first : Refines view rename p q) (rest : ∀ a, Refines view rename (f a) (g a)) :
    Refines view rename (p >>= f) (q >>= g) := by
  intro t
  obtain ⟨outcomes, states⟩ := first t
  rw [Prog.run_bind, Prog.run_bind]
  generalize p.run t = ran at outcomes states
  generalize q.run (view t) = seen at outcomes states ⊢
  rcases ran with ⟨outcome, after⟩
  rcases seen with ⟨answer, between⟩
  cases answer with
  | error e =>
      cases outcomes
      exact ⟨rfl, states⟩
  | ok a =>
      cases outcomes
      cases states
      exact rest a after

/-- A step that does not show. -/
theorem skip {change : τ → τ} {f : Unit → Prog ε' τ α} {q : Prog ε σ α}
    (hidden : ∀ t, view (change t) = view t) (rest : Refines view rename (f ()) q) :
    Refines view rename (Prog.modify change >>= f) q := by
  intro t
  have next := rest (change t)
  rw [hidden] at next
  exact next

theorem ite {c : Prop} [Decidable c] {p p' : Prog ε' τ α} {q q' : Prog ε σ α}
    (first : Refines view rename p q) (second : Refines view rename p' q') :
    Refines view rename (if c then p else p') (if c then q else q') := by
  split
  · exact first
  · exact second

/-- A part of the state runs as it does alone. -/
theorem embed {get : τ → σ} {put : σ → τ → τ} (get_put : ∀ s t, get (put s t) = s)
    (put_put : ∀ s s' t, put s (put s' t) = put s t) (put_get : ∀ t, put (get t) t = t)
    (p : Prog ε σ α) : Refines get rename (p.embed get put rename) p := by
  intro t
  rw [Prog.run_embed get_put put_put put_get]
  exact ⟨rfl, get_put _ t⟩

end Refines

namespace Prog

/-- A part runs its statements one after another. -/
theorem zoom_bind (get : τ → σ) (put : σ → τ → τ) (p : Prog ε σ α) (f : α → Prog ε σ β) :
    (p >>= f).zoom get put = p.zoom get put >>= fun a => (f a).zoom get put := by
  change (p.bind f).zoom get put = (p.zoom get put).bind _
  induction p with
  | halt outcome => cases outcome <;> rfl
  | step update next ih => exact congrArg (step _) (funext fun t => ih (get t))

end Prog

end Aegis.Lib

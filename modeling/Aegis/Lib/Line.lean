import Mathlib.Data.List.Infix

/-!
# A line with one server

Jobs wait in a line, and one server takes them from its front, comes to an outcome, and
publishes the answer before it takes the next.  The server may leave between two jobs.
-/

namespace Aegis.Lib

variable {α β γ : Type*}

/-- What the server is doing. -/
inductive Station (α γ : Type*) where
  | free
  | busy (job : α)
  /-- the answer is not published yet -/
  | done (answer : γ)
  | gone

/-- The line, with what came in and what came out so far. -/
structure Line (α β γ : Type*) where
  station : Station α γ
  waiting : List α
  submitted : List α
  handled : List (α × β)
  published : List γ

namespace Line

/-- One move, where `answer` says what is published for a job and its outcome. -/
inductive Move (answer : α × β → γ) : Line α β γ → Line α β γ → Prop
  | submit {line : Line α β γ} (job : α) :
      Move answer line
        { line with waiting := line.waiting ++ [job], submitted := line.submitted ++ [job] }
  | take {line : Line α β γ} {job : α} {rest : List α} (free : line.station = .free)
      (front : line.waiting = job :: rest) :
      Move answer line { line with station := .busy job, waiting := rest }
  | finish {line : Line α β γ} {job : α} (outcome : β) (busy : line.station = .busy job) :
      Move answer line
        { line with
          station := .done (answer (job, outcome))
          handled := line.handled ++ [(job, outcome)] }
  | publish {line : Line α β γ} {result : γ} (done : line.station = .done result) :
      Move answer line
        { line with station := .free, published := line.published ++ [result] }
  /-- what waits then waits for nobody -/
  | leave {line : Line α β γ} (free : line.station = .free) (rest : List α) :
      Move answer line { line with station := .gone, waiting := rest }

/-- The answer that is not published yet. -/
def unpublished (line : Line α β γ) : List γ :=
  match line.station with
  | .done result => [result]
  | .free | .busy _ | .gone => []

/-- The submitted jobs that are not handled yet, unless the server is gone. -/
def Accounted (line : Line α β γ) : Prop :=
  let handled := line.handled.map Prod.fst
  match line.station with
  | .gone => handled <+: line.submitted
  | .busy job => handled ++ job :: line.waiting = line.submitted
  | .free | .done _ => handled ++ line.waiting = line.submitted

structure Sound (answer : α × β → γ) (line : Line α β γ) : Prop where
  accounted : line.Accounted
  answered : line.published ++ line.unpublished = line.handled.map answer

variable {answer : α × β → γ} {line after : Line α β γ}

/-- **In order.** -/
theorem Accounted.inOrder (accounted : line.Accounted) :
    line.handled.map Prod.fst <+: line.submitted := by
  unfold Accounted at accounted
  dsimp only at accounted
  split at accounted
  · exact accounted
  · exact ⟨_, accounted⟩
  · exact ⟨_, accounted⟩
  · exact ⟨_, accounted⟩

/-- **At most once**, when the submitted jobs have keys of their own. -/
theorem Accounted.once {κ : Type*} {key : α → κ} (accounted : line.Accounted)
    (unique : (line.submitted.map key).Nodup) :
    (line.handled.map fun call => key call.1).Nodup := by
  have within := accounted.inOrder.map key
  rw [List.map_map] at within
  exact unique.sublist within.sublist

theorem Accounted.submit (accounted : line.Accounted) (job : α) :
    Accounted { line with
      waiting := line.waiting ++ [job], submitted := line.submitted ++ [job] } := by
  unfold Accounted at accounted ⊢
  dsimp only at accounted ⊢
  split at accounted
  · exact accounted.trans (List.prefix_append _ _)
  · rw [← accounted, List.append_assoc]
    rfl
  · rw [← accounted, List.append_assoc]
  · rw [← accounted, List.append_assoc]

/-- **Step lemma.** -/
theorem Sound.move (sound : line.Sound answer) (move : Move answer line after) :
    after.Sound answer := by
  obtain ⟨accounted, answered⟩ := sound
  cases move with
  | submit job => exact ⟨accounted.submit job, answered⟩
  | take free front =>
      simp only [Accounted, unpublished, free] at accounted answered
      exact ⟨by rw [front] at accounted; exact accounted, answered⟩
  | finish outcome busy =>
      simp only [Accounted, unpublished, busy, List.append_nil] at accounted answered
      constructor
      · simp only [Accounted, List.map_append, List.append_assoc]
        exact accounted
      · simp only [unpublished, List.map_append, answered]
        rfl
  | publish done =>
      simp only [Accounted, unpublished, done] at accounted answered
      exact ⟨accounted, by simpa only [unpublished, List.append_nil] using answered⟩
  | leave free rest =>
      simp only [Accounted, unpublished, free] at accounted answered
      exact ⟨⟨_, accounted⟩, answered⟩

end Line

end Aegis.Lib

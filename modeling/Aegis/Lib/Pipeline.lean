import Mathlib.Data.List.Nodup
import Aegis.Lib.Run

/-!
# Pipelines that go on

The stages of a pipeline run one after another.  A stage that fails is noted, and the next one
gets the product that it was given.

Of stages with different names the report says all: `strictly_succeeded` makes the product again out
of the stages that did not fail, by a run that may not fail, and `failed_iff` says what each of
the others was given.
-/

namespace Aegis.Lib

variable {ι S ε : Type*}

structure Stage (ι S ε : Type*) where
  name : ι
  operation : S → Except ε S

/-- How a stage ended: with an error, or with none. -/
structure Outcome (ι ε : Type*) where
  name : ι
  failure : Option ε
  deriving DecidableEq

structure Progress (ι S ε : Type*) where
  product : S
  outcomes : List (Outcome ι ε)

namespace Progress

/-- The pipeline after one more stage. -/
def advance (progress : Progress ι S ε) (stage : Stage ι S ε) : Progress ι S ε :=
  match stage.operation progress.product with
  | .ok after => ⟨after, progress.outcomes ++ [⟨stage.name, none⟩]⟩
  | .error e => ⟨progress.product, progress.outcomes ++ [⟨stage.name, some e⟩]⟩

/-- The pipeline after the stages. -/
def through (stages : List (Stage ι S ε)) (product : S) : Progress ι S ε :=
  exec advance ⟨product, []⟩ stages

end Progress

/-- The stages one after another, as long as none fails. -/
def strictly (stages : List (Stage ι S ε)) (product : S) : Except ε S :=
  stages.foldlM (fun product stage => stage.operation product) product

open Progress

variable {stages before after : List (Stage ι S ε)} {stage : Stage ι S ε} {product : S}

theorem through_concat :
    through (before ++ [stage]) product = (through before product).advance stage :=
  exec_concat before stage

theorem strictly_concat :
    strictly (before ++ [stage]) product = strictly before product >>= stage.operation := by
  unfold strictly
  rw [List.foldlM_append]
  congr 1
  funext middle
  exact bind_pure _

theorem strictly_append :
    strictly (before ++ after) product = strictly before product >>= strictly after :=
  List.foldlM_append ..

theorem strictly_cons {made : S} : strictly (stage :: after) product = .ok made ↔
    ∃ between, stage.operation product = .ok between ∧ strictly after between = .ok made := by
  have first : strictly (stage :: after) product = stage.operation product >>= strictly after :=
    List.foldlM_cons ..
  rw [first]
  cases stage.operation product with
  | error e => exact ⟨nofun, nofun⟩
  | ok between =>
      refine ⟨fun ran => ⟨between, rfl, ran⟩, ?_⟩
      intro held
      rcases held with ⟨_, same, ran⟩
      cases same
      exact ran

/-- What the stages keep is kept. -/
theorem strictly_keeps {P : S → Prop}
    (keeps : ∀ stage ∈ stages, ∀ given, P given → ∀ made, stage.operation given = .ok made → P made)
    (start : P product) {made : S} (ran : strictly stages product = .ok made) : P made := by
  induction stages generalizing product with
  | nil =>
      cases ran
      exact start
  | cons stage rest ih =>
      obtain ⟨first, others⟩ := List.forall_mem_cons.mp keeps
      obtain ⟨between, next, ran⟩ := strictly_cons.mp ran
      exact ih others (first product start between next) ran

/-- Each stage has its outcome. -/
theorem map_name_outcomes :
    (through stages product).outcomes.map (·.name) = stages.map (·.name) := by
  induction stages using List.reverseRecOn with
  | nil => rfl
  | append_singleton before stage ih =>
      rw [through_concat, List.map_append, ← ih, advance]
      split
      · exact List.map_append
      · exact List.map_append

/-- A later stage does not change the outcomes. -/
theorem outcomes_extend :
    (through before product).outcomes <+: (through (before ++ after) product).outcomes := by
  induction after using List.reverseRecOn with
  | nil => rw [List.append_nil]
  | append_singleton middle stage ih =>
      rw [← List.append_assoc, through_concat]
      refine ih.trans ?_
      unfold advance
      split
      · exact List.prefix_append _ _
      · exact List.prefix_append _ _

/-- The outcome of a stage does not depend on later stages. -/
theorem mem_outcomes_append (distinct : ((before ++ after).map (·.name)).Nodup)
    {outcome : Outcome ι ε} (early : outcome.name ∈ before.map (·.name)) :
    outcome ∈ (through (before ++ after) product).outcomes ↔
      outcome ∈ (through before product).outcomes := by
  obtain ⟨late, split⟩ := @outcomes_extend _ _ _ before after product
  have names := congrArg (List.map (·.name)) split
  rw [List.map_append, map_name_outcomes, map_name_outcomes, List.map_append] at names
  have lateNames := List.append_cancel_left names
  rw [← split, List.mem_append, or_iff_left]
  intro member
  have again : outcome.name ∈ after.map (·.name) := by
    rw [← lateNames]
    exact List.mem_map_of_mem member
  rw [List.map_append, List.nodup_append] at distinct
  exact distinct.2.2 _ early _ again rfl

/-- The last stage's outcome. -/
theorem mem_outcomes_concat (fresh : stage.name ∉ before.map (·.name)) {failure : Option ε} :
    ⟨stage.name, failure⟩ ∈ (through (before ++ [stage]) product).outcomes ↔
      failure = match stage.operation (through before product).product with
        | .ok _ => none
        | .error e => some e := by
  have unreported : ⟨stage.name, failure⟩ ∉ (through before product).outcomes := fun member => by
    refine fresh ?_
    rw [← @map_name_outcomes _ _ _ before product]
    exact List.mem_map_of_mem member
  rw [through_concat, advance]
  split <;> simp [unreported]

variable [DecidableEq ι] [DecidableEq ε]

/-- The stages that the outcomes give as successful. -/
def succeeded (stages : List (Stage ι S ε)) (outcomes : List (Outcome ι ε)) :
    List (Stage ι S ε) :=
  stages.filter fun stage => ⟨stage.name, none⟩ ∈ outcomes

theorem succeeded_append (distinct : ((before ++ after).map (·.name)).Nodup) :
    succeeded before (through (before ++ after) product).outcomes =
      succeeded before (through before product).outcomes :=
  List.filter_congr fun _ member => decide_eq_decide.mpr
    (mem_outcomes_append distinct (List.mem_map_of_mem member))

/-- **The product** is what the successful stages make of the first one. -/
theorem strictly_succeeded (distinct : (stages.map (·.name)).Nodup) :
    strictly (succeeded stages (through stages product).outcomes) product =
      .ok (through stages product).product := by
  induction stages using List.reverseRecOn with
  | nil => rfl
  | append_singleton before stage ih =>
      have earlier := @succeeded_append _ _ _ before [stage] product _ _ distinct
      rw [List.map_append, List.nodup_append] at distinct
      obtain ⟨distinct, _, apart⟩ := distinct
      have fresh : stage.name ∉ before.map (·.name) := fun member =>
        apart _ member _ (List.mem_singleton_self _) rfl
      have last := @mem_outcomes_concat _ _ _ before stage product fresh none
      have split : succeeded (before ++ [stage]) (through (before ++ [stage]) product).outcomes =
          succeeded before (through before product).outcomes ++
            succeeded [stage] (through (before ++ [stage]) product).outcomes := by
        rw [← earlier]
        exact List.filter_append ..
      rw [split]
      cases ended : stage.operation (through before product).product with
      | ok made =>
          rw [ended] at last
          have alone : succeeded [stage] (through (before ++ [stage]) product).outcomes = [stage] :=
            List.filter_cons_of_pos (decide_eq_true (last.mpr rfl))
          rw [alone, strictly_concat, ih distinct, through_concat, advance, ended]
          exact ended
      | error e =>
          rw [ended] at last
          have unlisted : succeeded [stage] (through (before ++ [stage]) product).outcomes = [] :=
            List.filter_cons_of_neg fun found => by cases last.mp (of_decide_eq_true found)
          rw [unlisted, List.append_nil, ih distinct, through_concat, advance, ended]

/-- **What failed** did so on what the successful stages before it had made. -/
theorem failed_iff (distinct : ((before ++ stage :: after).map (·.name)).Nodup) (e : ε) :
    ⟨stage.name, some e⟩ ∈ (through (before ++ stage :: after) product).outcomes ↔
      ∃ given, strictly (succeeded before (through (before ++ stage :: after) product).outcomes)
          product = .ok given ∧ stage.operation given = .error e := by
  rw [succeeded_append distinct]
  rw [List.append_cons] at distinct ⊢
  rw [mem_outcomes_append distinct (by simp)]
  rw [List.map_append, List.map_append, List.nodup_append, List.nodup_append] at distinct
  obtain ⟨⟨distinct, _, apart⟩, _⟩ := distinct
  have fresh : stage.name ∉ before.map (·.name) := fun member =>
    apart _ member _ (List.mem_singleton_self _) rfl
  rw [mem_outcomes_concat fresh, strictly_succeeded distinct]
  constructor
  · intro failed
    refine ⟨_, rfl, ?_⟩
    cases ended : stage.operation (through before product).product with
    | ok made => simp [ended] at failed
    | error other =>
        rw [ended] at failed
        cases failed
        rfl
  · intro held
    rcases held with ⟨given, same, failed⟩
    cases same
    rw [failed]

end Aegis.Lib

import Mathlib.Logic.Function.Basic

/-!
# Families of keys in one namespace

A key-value store with texts for keys often holds several families of them: a fixed head,
then an id that may be any text.  No head begins with another (`Heads.apart`), so `split`
finds the family and the id of a key again.

`Heads.store` lays out one map for each family in the namespace.  A change of one map at
one id is a change of the store at one key (`store_update`), whatever the ids contain.
-/

namespace Aegis.Lib

structure Heads (κ : Type) where
  families : List κ
  complete : ∀ family, family ∈ families
  head : κ → String
  apart : ∀ family ∈ families, ∀ other ∈ families,
    (head family).toList <+: (head other).toList → family = other

namespace Heads

variable {κ V : Type} (heads : Heads κ) {family : κ} {id text : String}
  {before after : κ → String → Option V}

def key (family : κ) (id : String) : String := heads.head family ++ id

/-- The text begins with the family's head. -/
def Begins (text : String) (family : κ) : Prop := (heads.head family).toList <+: text.toList

instance (text : String) : DecidablePred (heads.Begins text) :=
  fun _ => inferInstanceAs (Decidable (_ <+: _))

/-- The text after the family's head. -/
def rest (text : String) (family : κ) : String :=
  String.ofList (text.toList.drop (heads.head family).toList.length)

/-- The family of a key, and its id. -/
def split (text : String) : Option (κ × String) :=
  (heads.families.find? fun family => heads.Begins text family).map fun family =>
    (family, heads.rest text family)

theorem begins_of_find {found : κ}
    (held : heads.families.find? (fun family => heads.Begins text family) = some found) :
    heads.Begins text found := by
  have holds := List.find?_some held
  exact of_decide_eq_true holds

/-- The one family whose head a key begins with. -/
theorem eq_of_begins {other : κ} (begins : heads.Begins text family)
    (also : heads.Begins text other) : family = other := by
  rcases List.prefix_or_prefix_of_prefix begins also with short | long
  · exact heads.apart family (heads.complete family) other (heads.complete other) short
  · exact (heads.apart other (heads.complete other) family (heads.complete family) long).symm

theorem split_of_begins (begins : heads.Begins text family) :
    heads.split text = some (family, heads.rest text family) := by
  unfold split
  cases held : heads.families.find? fun family => heads.Begins text family with
  | none =>
      have missing := List.find?_eq_none.mp held family (heads.complete family)
      exact absurd (decide_eq_true begins) missing
  | some found =>
      cases heads.eq_of_begins begins (heads.begins_of_find held)
      rfl

@[simp]
theorem split_key (family : κ) (id : String) :
    heads.split (heads.key family id) = some (family, id) := by
  have begins : heads.Begins (heads.key family id) family := by
    rw [Begins, key, String.toList_append]
    exact List.prefix_append _ _
  rw [heads.split_of_begins begins, rest, key, String.toList_append, List.drop_left,
    String.ofList_toList]

theorem key_of_split (found : heads.split text = some (family, id)) :
    text = heads.key family id := by
  unfold split at found
  obtain ⟨other, held, same⟩ := Option.map_eq_some_iff.mp found
  cases same
  obtain ⟨after, whole⟩ := heads.begins_of_find held
  apply String.toList_inj.mp
  rw [key, rest, String.toList_append, String.toList_ofList, ← whole, List.drop_left]

/-! ## The store -/

/-- The store that holds the maps of the families. -/
def store (entry : κ → String → Option V) (text : String) : Option V :=
  (heads.split text).bind fun found => entry found.1 found.2

@[simp]
theorem store_key (entry : κ → String → Option V) (family : κ) (id : String) :
    heads.store entry (heads.key family id) = entry family id := by
  rw [store, split_key]
  rfl

/-- **One entry is one key.** -/
theorem store_update
    (others : ∀ other otherId, ¬ (other = family ∧ otherId = id) →
      after other otherId = before other otherId) :
    heads.store after =
      Function.update (heads.store before) (heads.key family id) (after family id) := by
  funext text
  by_cases own : text = heads.key family id
  · rw [own, Function.update_self, store_key]
  · rw [Function.update_of_ne own]
    unfold store
    cases found : heads.split text with
    | none => rfl
    | some entry =>
        refine others entry.1 entry.2 fun same => own ?_
        rw [heads.key_of_split found, same.1, same.2]

end Heads

end Aegis.Lib

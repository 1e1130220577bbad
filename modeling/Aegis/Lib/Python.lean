import Mathlib.Logic.Basic

/-!
# Python exceptions

Expressions that may raise are `Except PyError`.  `bind_eq_ok` takes a sequence of them that
returned apart, `bind_eq_error` one that raised.
-/

namespace Aegis.Lib

inductive PyError where
  | attributeError
  | overflowError
  | typeError
  | valueError
  deriving DecidableEq

variable {ε α β : Type} {first : Except ε α} {rest : α → Except ε β} {result : β} {e : ε}

theorem bind_eq_ok : first >>= rest = .ok result ↔ ∃ value, first = .ok value ∧
    rest value = .ok result := by
  constructor
  · intro returned
    cases first with
    | error e => cases returned
    | ok value => exact ⟨value, rfl, returned⟩
  · intro both
    rcases both with ⟨value, rfl, returned⟩
    exact returned

theorem bind_eq_error : first >>= rest = .error e ↔ first = .error e ∨
    ∃ value, first = .ok value ∧ rest value = .error e := by
  constructor
  · intro raised
    cases first with
    | error other =>
        cases raised
        exact Or.inl rfl
    | ok value => exact Or.inr ⟨value, rfl, raised⟩
  · intro either
    rcases either with rfl | ⟨value, rfl, raised⟩
    · rfl
    · exact raised

theorem map_eq_ok {f : α → β} : f <$> first = .ok result ↔ ∃ value, first = .ok value ∧
    f value = result := by
  cases first with
  | error e => exact ⟨nofun, fun found => nomatch found.choose_spec.1⟩
  | ok value =>
      constructor
      · intro mapped
        cases mapped
        exact ⟨value, rfl, rfl⟩
      · intro held
        rcases held with ⟨_, same, rfl⟩
        cases same
        rfl

theorem ok_bind (value : α) : (Except.ok value >>= rest) = rest value := rfl

theorem map_ok (f : α → β) (value : α) : f <$> (Except.ok value : Except ε α) = .ok (f value) := rfl

end Aegis.Lib

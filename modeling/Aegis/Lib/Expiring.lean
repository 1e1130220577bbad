import Mathlib.Algebra.Group.Defs
import Mathlib.Order.Lattice

/-!
# Keys that expire

A Redis key holds a value and possibly the time at which it goes away.  Commands see
a key through `alive`: a key whose time has come is a missing key.
-/

namespace Aegis.Lib

variable {T V : Type*} [LinearOrder T]

structure Expiring (T V : Type*) where
  value : V
  expiresAt : Option T
  deriving DecidableEq

namespace Expiring

/-- The key as a command issued at `now` finds it. -/
def alive (now : T) (key : Option (Expiring T V)) : Option (Expiring T V) :=
  key.filter fun held => held.expiresAt.all (now < ·)

def read (now : T) (key : Option (Expiring T V)) : Option V :=
  (alive now key).map (·.value)

/-- A command that creates a missing key from `start`; a key that is there keeps its
expiry time. -/
def write (now : T) (start : V) (f : V → V) (key : Option (Expiring T V)) :
    Option (Expiring T V) :=
  match alive now key with
  | none => some ⟨f start, none⟩
  | some held => some { held with value := f held.value }

/-- A command that only touches a key that is there, and may remove it. -/
def modify (now : T) (f : V → Option V) (key : Option (Expiring T V)) :
    Option (Expiring T V) :=
  (alive now key).bind fun held => (f held.value).map fun value => { held with value }

/-- `EXPIRE key ttl`; a time to live that is not positive removes the key. -/
def expire [AddCommMonoid T] (now ttl : T) (key : Option (Expiring T V)) :
    Option (Expiring T V) :=
  if ttl ≤ 0 then none
  else (alive now key).map fun held => { held with expiresAt := some (now + ttl) }

theorem read_def (now : T) (key : Option (Expiring T V)) :
    read now key = (alive now key).map (·.value) := rfl

theorem alive_some_of_alive {now : T} {key : Option (Expiring T V)} {held : Expiring T V}
    (living : alive now key = some held) : held.expiresAt.all (now < ·) = true :=
  (Option.filter_eq_some_iff.mp living).2

theorem read_of_lasting {now : T} {held : Expiring T V}
    (lasting : held.expiresAt.all (now < ·) = true) :
    read now (some held) = some held.value := by
  rw [read, alive, Option.filter_some, if_pos lasting]
  rfl

theorem read_write (now : T) (start : V) (f : V → V) (key : Option (Expiring T V)) :
    read now (write now start f key) = some (f ((read now key).getD start)) := by
  rw [write, read_def now key]
  cases living : alive now key with
  | none => rfl
  | some held =>
      have lasting := alive_some_of_alive living
      exact read_of_lasting lasting

theorem read_modify (now : T) (f : V → Option V) (key : Option (Expiring T V)) :
    read now (modify now f key) = (read now key).bind f := by
  rw [modify, read_def now key]
  cases living : alive now key with
  | none => rfl
  | some held =>
      have lasting := alive_some_of_alive living
      simp only [Option.bind_some, Option.map_some]
      cases f held.value with
      | none => rfl
      | some after => exact read_of_lasting lasting

/-- A key given `ttl` is read unchanged until then. -/
theorem read_expire [AddCommMonoid T] {now ttl later : T} {key : Option (Expiring T V)}
    (positive : 0 < ttl) (before : later < now + ttl) :
    read later (expire now ttl key) = read now key := by
  rw [expire, if_neg (not_le.mpr positive), read_def now key]
  cases living : alive now key with
  | none => rfl
  | some held => exact read_of_lasting (by simpa using before)

/-- From then on it is a missing key. -/
theorem read_expired [AddCommMonoid T] {now ttl later : T} {key : Option (Expiring T V)}
    (past : now + ttl ≤ later) : read later (expire now ttl key) = none := by
  unfold expire
  split
  next => rfl
  next =>
    cases alive now key with
    | none => rfl
    | some held =>
        rw [Option.map_some, read, alive, Option.filter_some, if_neg (by simpa using past)]
        rfl

/-! ## What a command leaves, alive or not -/

section Left

variable {now : T} {key : Option (Expiring T V)} {left : Expiring T V}

theorem eq_some_of_alive {held : Expiring T V} (living : alive now key = some held) :
    key = some held :=
  (Option.filter_eq_some_iff.mp living).1

theorem value_of_write {start : V} {f : V → V} (wrote : write now start f key = some left) :
    left.value = f start ∨ ∃ held, key = some held ∧ left.value = f held.value := by
  unfold write at wrote
  cases living : alive now key with
  | none =>
      rw [living] at wrote
      cases wrote
      exact .inl rfl
  | some held =>
      rw [living] at wrote
      cases wrote
      exact .inr ⟨held, eq_some_of_alive living, rfl⟩

theorem value_of_modify {f : V → Option V} (modified : modify now f key = some left) :
    ∃ held, key = some held ∧ f held.value = some left.value := by
  unfold modify at modified
  obtain ⟨held, living, rest⟩ := Option.bind_eq_some_iff.mp modified
  obtain ⟨value, changed, same⟩ := Option.map_eq_some_iff.mp rest
  cases same
  exact ⟨held, eq_some_of_alive living, changed⟩

theorem value_of_expire [AddCommMonoid T] {ttl : T} (expired : expire now ttl key = some left) :
    ∃ held, key = some held ∧ held.value = left.value := by
  unfold expire at expired
  split at expired
  · cases expired
  · obtain ⟨held, living, same⟩ := Option.map_eq_some_iff.mp expired
    cases same
    exact ⟨held, eq_some_of_alive living, rfl⟩

theorem value_of_read {value : V} (found : read now key = some value) :
    ∃ held, key = some held ∧ held.value = value := by
  obtain ⟨held, living, same⟩ := Option.map_eq_some_iff.mp found
  exact ⟨held, eq_some_of_alive living, same⟩

end Left

end Expiring

end Aegis.Lib

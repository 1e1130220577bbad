import Aegis.Api.Devices
import Aegis.Lib.Run

/-!
# The device limit under concurrent registrations

Calls of `register`, `remove_device` and `clear` for one account, statement by statement, on a
database that isolates transactions as READ COMMITTED does.  `register` counts the rows before
it inserts its own; the unique constraint keeps out a second row of the same device only.

`devices_kept_iff` says when the limit holds: as long as it would still be met if it were
checked again at each commit of an `INSERT`.  The rest needs no condition: rows of different
devices, a row for each registration that answers `bound`, and no rejection of a device that
has been selected.
-/

namespace Aegis.Api

open Aegis.Lib Aegis.Subscriptions

/-- A row of `device_bindings` with its primary key. -/
structure BoundRow where
  id : ℕ
  binding : DeviceBinding
  deriving DecidableEq

/-- A call for the account, with the time on its clock. -/
inductive BindingCall where
  | register (now : ℤ) (deviceId : String) (deviceLabel : Option String)
  | removeDevice (deviceId : String)
  | clear
  deriving DecidableEq

def BindingCall.Registers : BindingCall → Prop
  | register _ _ _ => True
  | removeDevice _ | clear => False

/-- Where a call stands. -/
inductive BindingPhase where
  | start
  /-- `_max_devices` has returned -/
  | limited
  /-- the device has been selected, and this is its row -/
  | found (id : ℕ)
  /-- the device has been selected, and has no row -/
  | missing
  /-- the rows have been counted, and are fewer than the limit -/
  | counted (count : ℕ)
  /-- the `INSERT` has been sent, and holds the key -/
  | inserted (row : BoundRow) (count : ℕ)
  /-- the `UPDATE` has been sent, and holds the row -/
  | touched (id : ℕ)
  /-- the `DELETE` has been sent, and holds the rows -/
  | deleted (ids : List ℕ)
  /-- `register` has answered `ok` -/
  | seen
  /-- `register` has answered `bound`, and this row is its own -/
  | bound (row : BoundRow) (count : ℕ)
  | rejected (count : ℕ)
  /-- `clear` has returned, or `remove_device` has returned `True` -/
  | removed (ids : List ℕ)
  /-- `remove_device` has returned `False` -/
  | absent
  | raised (failure : Failure)
  /-- the `UPDATE` has met no row -/
  | staleData
  deriving DecidableEq

/-- The rows of the account, and the calls. -/
structure BindingTable (ι : Type) where
  /-- the committed rows -/
  rows : List BoundRow
  nextId : ℕ
  /-- the call whose uncommitted `INSERT` has the key of the device -/
  keyHolder : String → Option ι
  /-- the call whose uncommitted `UPDATE` or `DELETE` has the row -/
  rowHolder : ℕ → Option ι
  phases : ι → BindingPhase

/-- The rows that the calls find. -/
structure Bound where
  rows : List BoundRow
  nextId : ℕ
  ids : (rows.map (·.id)).Nodup
  devices : (rows.map (·.binding.deviceId)).Nodup
  below : ∀ row ∈ rows, row.id < nextId

/-- What `register` answers or raises, once it has. -/
def BindingPhase.registration (accountId deviceId : String) (m : ℤ) :
    BindingPhase → Option (Except Failure Registration)
  | .seen => some (.ok (.ok accountId deviceId m))
  | .bound _ count => some (.ok (.bound accountId deviceId m (count + 1)))
  | .rejected count => some (.ok (.rejected "device_limit_reached" m count))
  | .raised failure => some (.error failure)
  | _ => none

namespace BindingTable

variable {ι : Type} [DecidableEq ι]

/-- No call has begun. -/
def start (stored : Bound) : BindingTable ι :=
  ⟨stored.rows, stored.nextId, fun _ => none, fun _ => none, fun _ => .start⟩

def move (table : BindingTable ι) (i : ι) (phase : BindingPhase) : BindingTable ι :=
  { table with phases := Function.update table.phases i phase }

omit [DecidableEq ι] in
/-- The row of the device. -/
def row? (table : BindingTable ι) (deviceId : String) : Option BoundRow :=
  table.rows.find? (·.binding.deviceId = deviceId)

/-- The next statement of `register`; one that has to wait for a lock leaves everything as it
is. -/
def registerStep (accountId : String) (m now : ℤ) (deviceId : String)
    (deviceLabel : Option String) (table : BindingTable ι) (i : ι) : BindingTable ι :=
  match table.phases i with
  | .start =>
      match strippedId deviceId with
      | .error failure => table.move i (.raised failure)
      | .ok _ => table.move i .limited
  | .limited =>
      match table.row? (strip deviceId) with
      | some row => table.move i (.found row.id)
      | none => table.move i .missing
  | .found id =>
      if ∀ row ∈ table.rows, row.id ≠ id then table.move i .staleData
      else if (table.rowHolder id).isSome then table
      else { table.move i (.touched id) with
        rowHolder := Function.update table.rowHolder id (some i) }
  | .touched id =>
      { table.move i .seen with
        rows := table.rows.map fun row =>
          if row.id = id then { row with binding := row.binding.seen now deviceLabel } else row
        rowHolder := Function.update table.rowHolder id none }
  | .missing =>
      if table.rows.length ≥ m then table.move i (.rejected table.rows.length)
      else table.move i (.counted table.rows.length)
  | .counted count =>
      if (table.keyHolder (strip deviceId)).isSome then table
      else
        match table.row? (strip deviceId) with
        -- The key of a row that is being written is waited for.
        | some row =>
            if (table.rowHolder row.id).isSome then table
            else table.move i (.raised .integrityError)
        | none =>
            let row : BoundRow :=
              ⟨table.nextId, accountId, strip deviceId, deviceLabel, now, some now⟩
            { table.move i (.inserted row count) with
              nextId := table.nextId + 1
              keyHolder := Function.update table.keyHolder row.binding.deviceId (some i) }
  | .inserted row count =>
      { table.move i (.bound row count) with
        rows := table.rows ++ [row]
        keyHolder := Function.update table.keyHolder row.binding.deviceId none }
  | _ => table

/-- The commit of a `DELETE`. -/
def commitDelete (ids : List ℕ) (table : BindingTable ι) (i : ι) : BindingTable ι :=
  { table.move i (.removed ids) with
    rows := table.rows.filter fun row => row.id ∉ ids
    rowHolder := fun id => if id ∈ ids then none else table.rowHolder id }

/-- The next statement of `remove_device`, which does not strip the id. -/
def removeStep (deviceId : String) (table : BindingTable ι) (i : ι) : BindingTable ι :=
  match table.phases i with
  | .start =>
      match table.row? deviceId with
      | some row => table.move i (.found row.id)
      | none => table.move i .absent
  | .found id =>
      -- A `DELETE` that meets no row only warns.
      if ∀ row ∈ table.rows, row.id ≠ id then table.move i (.deleted [])
      else if (table.rowHolder id).isSome then table
      else { table.move i (.deleted [id]) with
        rowHolder := Function.update table.rowHolder id (some i) }
  | .deleted ids => table.commitDelete ids i
  | _ => table

/-- The next statement of `clear`. -/
def clearStep (table : BindingTable ι) (i : ι) : BindingTable ι :=
  match table.phases i with
  | .start =>
      if ∃ row ∈ table.rows, (table.rowHolder row.id).isSome then table
      else
        let ids := table.rows.map (·.id)
        { table.move i (.deleted ids) with
          rowHolder := fun id => if id ∈ ids then some i else table.rowHolder id }
  | .deleted ids => table.commitDelete ids i
  | _ => table

def step (accountId : String) (m : ℤ) (calls : ι → BindingCall) (table : BindingTable ι) (i : ι) :
    BindingTable ι :=
  match calls i with
  | .register now deviceId deviceLabel =>
      table.registerStep accountId m now deviceId deviceLabel i
  | .removeDevice deviceId => table.removeStep deviceId i
  | .clear => table.clearStep i

/-! ## What is to hold -/

section Kept

variable {ι : Type}

/-- The row is there, although a later call may have touched it. -/
def Stored (table : BindingTable ι) (row : BoundRow) : Prop :=
  ∃ now ∈ table.rows, now.id = row.id ∧ now.binding.deviceId = row.binding.deviceId

/-- A removal has committed that took the row. -/
def Taken (table : BindingTable ι) (row : BoundRow) : Prop :=
  ∃ j ids, table.phases j = .removed ids ∧ row.id ∈ ids

/-- There are no more devices than the limit, and each call that has answered `bound` has a
device of its own, which is stored until it is removed. -/
structure Kept (m : ℤ) (table : BindingTable ι) : Prop where
  within : (table.rows.length : ℤ) ≤ m
  devices : (table.rows.map (·.binding.deviceId)).Nodup
  stored : ∀ i row count, table.phases i = .bound row count → table.Stored row ∨ table.Taken row
  apart : ∀ i j row other count count', table.phases i = .bound row count →
    table.phases j = .bound other count' → row.id = other.id → i = j

/-- The turn is the `SELECT` of a registration whose device is stored. -/
def Recognises (calls : ι → BindingCall) (table : BindingTable ι) (i : ι) : Prop :=
  ∃ now deviceId deviceLabel, calls i = .register now deviceId deviceLabel ∧
    table.phases i = .limited ∧ (table.row? (strip deviceId)).isSome

/-- A registration is rejected although its `SELECT` has found the device. -/
def TurnedAway [DecidableEq ι] (accountId : String) (m : ℤ) (calls : ι → BindingCall)
    (table : BindingTable ι) (turns : List ι) : Prop :=
  ∃ early i late count, early ++ i :: late <+: turns ∧
    Recognises calls (exec (step accountId m calls) table early) i ∧
    (exec (step accountId m calls) table (early ++ i :: late)).phases i = .rejected count

/-- If the turn commits an `INSERT`, the device still fits. -/
def Room (m : ℤ) (table : BindingTable ι) (i : ι) : Prop :=
  ∀ row count, table.phases i = .inserted row count → (table.rows.length : ℤ) < m

instance (m : ℤ) (table : BindingTable ι) (i : ι) : Decidable (table.Room m i) :=
  match at_ : table.phases i with
  | .inserted row count =>
      decidable_of_iff ((table.rows.length : ℤ) < m)
        ⟨fun fits _ _ _ => fits, fun all => all row count at_⟩
  | .start | .limited | .found _ | .missing | .counted _ | .touched _ | .deleted _ | .seen
  | .bound _ _ | .rejected _ | .removed _ | .absent | .raised _ | .staleData =>
      .isTrue fun _ _ now => nomatch at_.symm.trans now

end Kept

/-! ## What a turn does -/

section Turns

variable {accountId : String} {m : ℤ} {calls : ι → BindingCall} {table after : BindingTable ι}
  {i j : ι} {phase later : BindingPhase}

@[simp]
theorem phases_move_self : (table.move i phase).phases i = phase := Function.update_self ..

theorem phases_move_of_ne (apart : j ≠ i) : (table.move i phase).phases j = table.phases j :=
  Function.update_of_ne apart ..

theorem phases_move_cases (now : (table.move i phase).phases j = later) :
    later = phase ∧ j = i ∨ table.phases j = later ∧ j ≠ i := update_eq_cases now

end Turns

end BindingTable

/-- The row that the call inserts. -/
def BindingPhase.own : BindingPhase → Option BoundRow
  | .inserted row _ | .bound row _ => some row
  | _ => none

/-- Moves that change no row and take no lock. -/
inductive BindingPhase.Moves : BindingPhase → BindingPhase → Prop
  | refuse (failure : Failure) : Moves .start (.raised failure)
  | limit : Moves .start .limited
  | recognise (id : ℕ) : Moves .limited (.found id)
  | miss : Moves .limited .missing
  | reject (count : ℕ) : Moves .missing (.rejected count)
  | count (count : ℕ) : Moves .missing (.counted count)
  | collide (count : ℕ) : Moves (.counted count) (.raised .integrityError)
  | find (id : ℕ) : Moves .start (.found id)
  | absent : Moves .start .absent
  | stale (id : ℕ) : Moves (.found id) .staleData

/-- Where a registration stands that has found its device. -/
def BindingPhase.Welcome : BindingPhase → Prop
  | found _ | touched _ | seen | staleData => True
  | _ => False

section Moves

variable {before after : BindingPhase}

theorem BindingPhase.Moves.welcome (moves : before.Moves after) (welcome : before.Welcome) :
    after.Welcome := by
  cases moves <;> first | exact welcome.elim | trivial

theorem BindingPhase.Moves.own (moves : before.Moves after) : after.own = none := by
  cases moves <;> rfl

theorem BindingPhase.Moves.not_removed (moves : before.Moves after) (ids : List ℕ) :
    before ≠ .removed ids := by
  intro same
  rcases same with rfl
  cases moves

theorem BindingPhase.Moves.not_inserted (moves : before.Moves after) (row : BoundRow)
    (count : ℕ) : before ≠ .inserted row count := by
  intro same
  rcases same with rfl
  cases moves

end Moves

namespace BindingTable

variable {ι : Type} [DecidableEq ι]

/-- What a turn of call `i` can do. -/
inductive Turn (calls : ι → BindingCall) (table : BindingTable ι) (i : ι) :
    BindingTable ι → Prop where
  | wait (idle : (calls i).Registers → ∀ row count, table.phases i ≠ .inserted row count) :
      Turn calls table i table
  | move {phase : BindingPhase} (moves : (table.phases i).Moves phase) :
      Turn calls table i (table.move i phase)
  | insert {count : ℕ} {row : BoundRow} (registers : (calls i).Registers)
      (at_ : table.phases i = .counted count)
      (free : table.keyHolder row.binding.deviceId = none) (fresh : row.id = table.nextId)
      (absent : ∀ other ∈ table.rows, other.binding.deviceId ≠ row.binding.deviceId) :
      Turn calls table i { table.move i (.inserted row count) with
        nextId := table.nextId + 1
        keyHolder := Function.update table.keyHolder row.binding.deviceId (some i) }
  | commitInsert {row : BoundRow} {count : ℕ} (at_ : table.phases i = .inserted row count) :
      Turn calls table i { table.move i (.bound row count) with
        rows := table.rows ++ [row]
        keyHolder := Function.update table.keyHolder row.binding.deviceId none }
  | touch {id : ℕ} (at_ : table.phases i = .found id) :
      Turn calls table i { table.move i (.touched id) with
        rowHolder := Function.update table.rowHolder id (some i) }
  | commitTouch {id : ℕ} {now : ℤ} {deviceLabel : Option String}
      (at_ : table.phases i = .touched id) :
      Turn calls table i { table.move i .seen with
        rows := table.rows.map fun row =>
          if row.id = id then { row with binding := row.binding.seen now deviceLabel } else row
        rowHolder := Function.update table.rowHolder id none }
  | delete {ids : List ℕ} {rowHolder : ℕ → Option ι} (removes : ¬ (calls i).Registers)
      (from_ : table.phases i = .start ∨ ∃ id, table.phases i = .found id) :
      Turn calls table i { table.move i (.deleted ids) with rowHolder := rowHolder }
  | commitDelete {ids : List ℕ} (removes : ¬ (calls i).Registers)
      (at_ : table.phases i = .deleted ids) : Turn calls table i (table.commitDelete ids i)

section Turns

variable {accountId : String} {m now : ℤ} {deviceId : String} {deviceLabel : Option String}
  {calls : ι → BindingCall} {table after : BindingTable ι} {i j : ι}

omit [DecidableEq ι] in
theorem row?_none (none : table.row? deviceId = none) :
    ∀ other ∈ table.rows, other.binding.deviceId ≠ deviceId := by
  intro other member same
  exact (List.find?_eq_none.mp none) other member (decide_eq_true same)

theorem turn_registerStep (registers : (calls i).Registers) :
    Turn calls table i (table.registerStep accountId m now deviceId deviceLabel i) := by
  unfold registerStep
  split
  next at_ =>
    split
    next failure _ => exact .move (at_ ▸ .refuse failure)
    next => exact .move (at_ ▸ .limit)
  next at_ =>
    split
    next row _ => exact .move (at_ ▸ .recognise row.id)
    next => exact .move (at_ ▸ .miss)
  next id at_ =>
    split
    · exact .move (at_ ▸ .stale id)
    split
    · exact .wait (by simp [at_])
    · exact .touch at_
  next id at_ => exact .commitTouch at_
  next at_ =>
    split
    · exact .move (at_ ▸ .reject _)
    · exact .move (at_ ▸ .count _)
  next count at_ =>
    split
    · exact .wait (by simp [at_])
    next free =>
    split
    next row _ =>
      split
      · exact .wait (by simp [at_])
      · exact .move (at_ ▸ .collide count)
    next none =>
      exact .insert registers at_ (Option.not_isSome_iff_eq_none.mp free) rfl (row?_none none)
  next row count at_ => exact .commitInsert at_
  next other => exact .wait fun _ => other

theorem turn_removeStep (removes : ¬ (calls i).Registers) :
    Turn calls table i (table.removeStep deviceId i) := by
  unfold removeStep
  split
  next at_ =>
    split
    next row _ => exact .move (at_ ▸ .find row.id)
    next => exact .move (at_ ▸ .absent)
  next id at_ =>
    split
    · exact .delete removes (.inr ⟨id, at_⟩)
    split
    · exact .wait (absurd · removes)
    · exact .delete removes (.inr ⟨id, at_⟩)
  next ids at_ => exact .commitDelete removes at_
  next => exact .wait (absurd · removes)

theorem turn_clearStep (removes : ¬ (calls i).Registers) :
    Turn calls table i (table.clearStep i) := by
  unfold clearStep
  split
  next at_ =>
    split
    · exact .wait (absurd · removes)
    · exact .delete removes (.inl at_)
  next ids at_ => exact .commitDelete removes at_
  next => exact .wait (absurd · removes)

theorem turn_step (accountId : String) (m : ℤ) (calls : ι → BindingCall) (table : BindingTable ι)
    (i : ι) : Turn calls table i (table.step accountId m calls i) := by
  unfold step
  split
  next call => exact turn_registerStep (call ▸ trivial)
  next call => exact turn_removeStep (call ▸ id)
  next call => exact turn_clearStep (call ▸ id)

end Turns

/-! ## Invariants -/

/-- What the sequence and the locks keep. -/
structure Keyed (calls : ι → BindingCall) (table : BindingTable ι) : Prop where
  ids : (table.rows.map (·.id)).Nodup
  devices : (table.rows.map (·.binding.deviceId)).Nodup
  below : ∀ row ∈ table.rows, row.id < table.nextId
  pending : ∀ i row count, table.phases i = .inserted row count → (calls i).Registers ∧
    table.keyHolder row.binding.deviceId = some i ∧
    ∀ other ∈ table.rows, other.id ≠ row.id ∧ other.binding.deviceId ≠ row.binding.deviceId
  ownBelow : ∀ i row, (table.phases i).own = some row → row.id < table.nextId
  apart : ∀ i j row other, (table.phases i).own = some row → (table.phases j).own = some other →
    row.id = other.id → i = j
  stored : ∀ i row count, table.phases i = .bound row count → table.Stored row ∨ table.Taken row

section Invariants

variable {m : ℤ} {calls : ι → BindingCall} {table after : BindingTable ι} {i j : ι}
  {phase : BindingPhase} {row : BoundRow}

omit [DecidableEq ι] in
theorem keyed_start (stored : Bound) : Keyed calls (start stored : BindingTable ι) :=
  ⟨stored.ids, stored.devices, stored.below, nofun, nofun, nofun, nofun⟩

theorem own_move_cases (own : ((table.move i phase).phases j).own = some row) :
    phase.own = some row ∧ j = i ∨ (table.phases j).own = some row ∧ j ≠ i := by
  by_cases same : j = i
  · subst same
    rw [phases_move_self] at own
    exact .inl ⟨own, rfl⟩
  · rw [phases_move_of_ne same] at own
    exact .inr ⟨own, same⟩

theorem Taken.move (taken : table.Taken row) (unremoved : ∀ ids, table.phases i ≠ .removed ids) :
    (table.move i phase).Taken row := by
  obtain ⟨j, ids, removed, among⟩ := taken
  have apart : j ≠ i := by
    intro same
    rcases same with rfl
    exact unremoved ids removed
  exact ⟨j, ids, (phases_move_of_ne apart).trans removed, among⟩

/-- A call that has no row moves on without one. -/
theorem Keyed.move (keyed : Keyed calls table) (rowless : phase.own = none)
    (unremoved : ∀ ids, table.phases i ≠ .removed ids) : Keyed calls (table.move i phase) := by
  have before {j : ι} {row : BoundRow} (own : ((table.move i phase).phases j).own = some row) :
      (table.phases j).own = some row := by
    rcases own_move_cases own with ⟨new, _⟩ | ⟨old, _⟩
    · exact absurd (rowless.symm.trans new) (Option.some_ne_none row).symm
    · exact old
  refine ⟨keyed.ids, keyed.devices, keyed.below, ?_, ?_, ?_, ?_⟩
  · intro j row count inserted
    rcases phases_move_cases inserted with ⟨rfl, _⟩ | ⟨old, _⟩
    · cases rowless
    · exact keyed.pending j row count old
  · exact fun j row own => keyed.ownBelow j row (before own)
  · exact fun j k row other own own' => keyed.apart j k row other (before own) (before own')
  · intro j row count bound
    rcases phases_move_cases bound with ⟨rfl, _⟩ | ⟨old, _⟩
    · cases rowless
    · exact (keyed.stored j row count old).imp id (·.move unremoved)

theorem Keyed.insert {count : ℕ} (keyed : Keyed calls table) (registers : (calls i).Registers)
    (at_ : table.phases i = .counted count) (free : table.keyHolder row.binding.deviceId = none)
    (fresh : row.id = table.nextId)
    (absent : ∀ other ∈ table.rows, other.binding.deviceId ≠ row.binding.deviceId) :
    Keyed calls { table.move i (.inserted row count) with
      nextId := table.nextId + 1
      keyHolder := Function.update table.keyHolder row.binding.deviceId (some i) } := by
  refine ⟨keyed.ids, keyed.devices, ?_, ?_, ?_, ?_, ?_⟩
  · exact fun other member => Nat.lt_succ_of_lt (keyed.below other member)
  · intro j other count' inserted
    rcases phases_move_cases inserted with ⟨new, rfl⟩ | ⟨old, _⟩
    · cases new
      refine ⟨registers, Function.update_self .., fun other member => ⟨?_, absent other member⟩⟩
      rw [fresh]
      exact (keyed.below other member).ne
    · obtain ⟨registers', held, others⟩ := keyed.pending j other count' old
      refine ⟨registers', ?_, others⟩
      dsimp only
      rw [Function.update_of_ne, held]
      intro same
      rw [same, free] at held
      cases held
  · intro j other own
    rcases own_move_cases own with ⟨new, _⟩ | ⟨old, _⟩
    · cases new
      exact fresh.trans_lt table.nextId.lt_succ_self
    · exact Nat.lt_succ_of_lt (keyed.ownBelow j other old)
  · intro j k first second own own' same
    rcases own_move_cases own with ⟨new, rfl⟩ | ⟨old, _⟩ <;>
      rcases own_move_cases own' with ⟨new', rfl⟩ | ⟨old', _⟩
    · rfl
    · cases new
      have below := keyed.ownBelow k second old'
      omega
    · cases new'
      have below := keyed.ownBelow j first old
      omega
    · exact keyed.apart j k first second old old' same
  · intro j other count' bound
    rcases phases_move_cases bound with ⟨new, _⟩ | ⟨old, _⟩
    · cases new
    · exact (keyed.stored j other count' old).imp id (·.move (by simp [at_]))

theorem Keyed.commitInsert {count : ℕ} (keyed : Keyed calls table)
    (at_ : table.phases i = .inserted row count) :
    Keyed calls { table.move i (.bound row count) with
      rows := table.rows ++ [row]
      keyHolder := Function.update table.keyHolder row.binding.deviceId none } := by
  obtain ⟨_, held, others⟩ := keyed.pending i row count at_
  have before {j : ι} {other : BoundRow}
      (own : ((table.move i (.bound row count)).phases j).own = some other) :
      (table.phases j).own = some other := by
    rcases own_move_cases own with ⟨new, rfl⟩ | ⟨old, _⟩
    · cases new
      rw [at_]
      rfl
    · exact old
  refine ⟨?_, ?_, ?_, ?_, ?_, ?_, ?_⟩
  · rw [List.map_append]
    exact keyed.ids.append (List.nodup_singleton _) (by simpa using fun o m => (others o m).1)
  · rw [List.map_append]
    exact keyed.devices.append (List.nodup_singleton _)
      (by simpa using fun o m => (others o m).2)
  · intro other member
    rcases List.mem_append.mp member with old | new
    · exact keyed.below other old
    · rw [List.mem_singleton.mp new]
      exact keyed.ownBelow i row (by rw [at_]; rfl)
  · intro j other count' inserted
    rcases phases_move_cases inserted with ⟨new, _⟩ | ⟨old, differ⟩
    · cases new
    · obtain ⟨registers, held', others'⟩ := keyed.pending j other count' old
      have devices : other.binding.deviceId ≠ row.binding.deviceId := by
        intro same
        rw [same, held] at held'
        exact differ (Option.some.inj held').symm
      have ids : row.id ≠ other.id := fun same =>
        differ (keyed.apart i j row other (by rw [at_]; rfl) (by rw [old]; rfl) same).symm
      refine ⟨registers, ?_, ?_⟩
      · dsimp only
        rw [Function.update_of_ne devices, held']
      · intro stored member
        rcases List.mem_append.mp member with there | added
        · exact others' stored there
        · rw [List.mem_singleton.mp added]
          exact ⟨ids, devices.symm⟩
  · exact fun j other own => keyed.ownBelow j other (before own)
  · exact fun j k first second own own' => keyed.apart j k first second (before own) (before own')
  · intro j other count' bound
    rcases phases_move_cases bound with ⟨new, _⟩ | ⟨old, _⟩
    · cases new
      exact .inl ⟨row, List.mem_append_right _ (List.mem_singleton_self row), rfl, rfl⟩
    · rcases keyed.stored j other count' old with ⟨now, there, same⟩ | taken
      · exact .inl ⟨now, List.mem_append_left _ there, same⟩
      · exact .inr (taken.move (by simp [at_]))

theorem Keyed.commitDelete {ids : List ℕ} (keyed : Keyed calls table)
    (at_ : table.phases i = .deleted ids) : Keyed calls (table.commitDelete ids i) := by
  have moved : Keyed calls (table.move i (.removed ids)) := keyed.move rfl (by simp [at_])
  have fewer : (table.rows.filter fun row => row.id ∉ ids).Sublist table.rows :=
    List.filter_sublist
  refine ⟨(fewer.map _).nodup keyed.ids, (fewer.map _).nodup keyed.devices,
    fun row member => keyed.below row (fewer.subset member), ?_, moved.ownBelow, moved.apart, ?_⟩
  · intro j row count inserted
    obtain ⟨registers, held, others⟩ := moved.pending j row count inserted
    exact ⟨registers, held, fun other member => others other (fewer.subset member)⟩
  · intro j row count bound
    rcases moved.stored j row count bound with ⟨now, there, same⟩ | taken
    · by_cases among : now.id ∈ ids
      · exact .inr ⟨i, ids, phases_move_self, same.1 ▸ among⟩
      · exact .inl ⟨now, List.mem_filter.mpr ⟨there, decide_eq_true among⟩, same⟩
    · exact .inr taken

omit [DecidableEq ι] in
/-- Rows that are touched keep their ids and devices. -/
theorem Keyed.touched (keyed : Keyed calls table) {touch : BoundRow → BoundRow}
    (ids : ∀ row, (touch row).id = row.id)
    (devices : ∀ row, (touch row).binding.deviceId = row.binding.deviceId) :
    Keyed calls { table with rows := table.rows.map touch } := by
  refine ⟨?_, ?_, ?_, ?_, keyed.ownBelow, keyed.apart, ?_⟩
  · have same : (BoundRow.id ∘ touch) = BoundRow.id := funext ids
    rw [List.map_map, same]
    exact keyed.ids
  · have same : ((·.binding.deviceId) ∘ touch) = (·.binding.deviceId) := funext devices
    rw [List.map_map, same]
    exact keyed.devices
  · rw [List.forall_mem_map]
    intro row member
    rw [ids]
    exact keyed.below row member
  · intro j row count inserted
    obtain ⟨registers, held, others⟩ := keyed.pending j row count inserted
    refine ⟨registers, held, ?_⟩
    rw [List.forall_mem_map]
    intro other member
    rw [ids, devices]
    exact others other member
  · intro j row count bound
    rcases keyed.stored j row count bound with ⟨now, there, same⟩ | taken
    · refine .inl ⟨touch now, List.mem_map_of_mem there, ?_⟩
      rw [ids, devices]
      exact same
    · exact .inr taken

omit [DecidableEq ι] in
theorem Keyed.lock (keyed : Keyed calls table) (rowHolder : ℕ → Option ι) :
    Keyed calls { table with rowHolder := rowHolder } :=
  ⟨keyed.ids, keyed.devices, keyed.below, keyed.pending, keyed.ownBelow, keyed.apart,
    keyed.stored⟩

/-- **One turn** keeps the keys. -/
theorem Turn.keyed (turn : Turn calls table i after) (keyed : Keyed calls table) :
    Keyed calls after := by
  cases turn with
  | wait idle => exact keyed
  | move moves => exact keyed.move moves.own moves.not_removed
  | insert registers at_ free fresh absent => exact keyed.insert registers at_ free fresh absent
  | commitInsert at_ => exact keyed.commitInsert at_
  | touch at_ => exact (keyed.move rfl (by simp [at_])).lock _
  | commitTouch at_ =>
      refine ((keyed.move rfl (by simp [at_])).touched ?_ ?_).lock _
      · exact fun row => by split <;> rfl
      · exact fun row => by split <;> rfl
  | delete removes from_ =>
      refine (keyed.move rfl fun ids => ?_).lock _
      rcases from_ with begins | ⟨id, at_⟩
      · simp [begins]
      · simp [at_]
  | commitDelete removes at_ => exact keyed.commitDelete at_

theorem Turn.kept (turn : Turn calls table i after) (keyed : Keyed calls table)
    (kept : Kept m table) : Kept m after ↔ table.Room m i := by
  have keys := turn.keyed keyed
  have rest (within : (after.rows.length : ℤ) ≤ m) : Kept m after := by
    refine ⟨within, keys.devices, keys.stored, ?_⟩
    intro i j row other count count' bound bound'
    exact keys.apart i j row other (by rw [bound]; rfl) (by rw [bound']; rfl)
  have quiet (unsent : ∀ row count, table.phases i ≠ .inserted row count)
      (fewer : after.rows.length ≤ table.rows.length) : Kept m after ↔ table.Room m i := by
    have fits := kept.within
    exact iff_of_true (rest (by omega)) fun row count sent => absurd sent (unsent row count)
  cases turn with
  | wait idle =>
      refine quiet (fun row count sent => ?_) le_rfl
      exact idle (keyed.pending i row count sent).1 row count sent
  | move moves => exact quiet moves.not_inserted le_rfl
  | insert registers at_ free fresh absent => exact quiet (by simp [at_]) le_rfl
  | @commitInsert row count at_ =>
      constructor
      · intro after row' count' sent
        have within := after.within
        simp only [List.length_append, List.length_singleton] at within
        push_cast at within
        omega
      · intro room
        have fits := room row count at_
        refine rest ?_
        simp only [List.length_append, List.length_singleton]
        push_cast
        omega
  | touch at_ => exact quiet (by simp [at_]) le_rfl
  | commitTouch at_ => exact quiet (by simp [at_]) (List.length_map _).le
  | delete removes from_ =>
      refine quiet (fun row count sent => ?_) le_rfl
      exact removes (keyed.pending i row count sent).1
  | commitDelete removes at_ => exact quiet (by simp [at_]) (List.length_filter_le _ _)

end Invariants

/-! ## Registrations that nobody interrupts -/

section Alone

variable {accountId deviceId : String} {m now : ℤ} {deviceLabel : Option String}
  {calls : ι → BindingCall} {table : BindingTable ι} {i : ι} {devices : Devices} {row : BoundRow}

/-- The row after the `UPDATE` of the row with this id. -/
def touchedRow (now : ℤ) (deviceLabel : Option String) (id : ℕ) (row : BoundRow) : BoundRow :=
  if row.id = id then { row with binding := row.binding.seen now deviceLabel } else row

theorem exec_begin (call : calls i = .register now deviceId deviceLabel)
    (named : strip deviceId ≠ "") (begins : table.phases i = .start) :
    exec (step accountId m calls) table [i, i, i, i, i] =
      exec (fun table i => table.registerStep accountId m now deviceId deviceLabel i)
        (table.move i .limited) [i, i, i, i] := by
  have accepted : strippedId deviceId = .ok (strip deviceId) := if_neg named
  have turn (table : BindingTable ι) : step accountId m calls table i =
      table.registerStep accountId m now deviceId deviceLabel i := by
    simp only [step, call]
  have first : table.registerStep accountId m now deviceId deviceLabel i =
      table.move i .limited := by
    simp only [registerStep, begins, accepted]
  dsimp only [exec, List.foldl]
  rw [turn, turn, turn, turn, turn, first]

theorem exec_found (accountId : String) (m now : ℤ) (deviceLabel : Option String) (i : ι)
    (found : table.row? (strip deviceId) = some row)
    (unlocked : table.rowHolder row.id = none) :
    let after := exec (fun table i => table.registerStep accountId m now deviceId deviceLabel i)
      (table.move i .limited) [i, i, i, i]
    after.rows = table.rows.map (touchedRow now deviceLabel row.id) ∧ after.phases i = .seen := by
  let selected := (table.move i .limited).move i (.found row.id)
  let flushed : BindingTable ι := { selected.move i (.touched row.id) with
    rowHolder := Function.update table.rowHolder row.id (some i) }
  let seen : BindingTable ι := { flushed.move i .seen with
    rows := table.rows.map (touchedRow now deviceLabel row.id)
    rowHolder := Function.update flushed.rowHolder row.id none }
  have first : (table.move i .limited).registerStep accountId m now deviceId deviceLabel i =
      selected := by
    have there : (table.move i .limited).row? (strip deviceId) = some row := found
    simp only [registerStep, phases_move_self, there]
    rfl
  have second : selected.registerStep accountId m now deviceId deviceLabel i = flushed := by
    have at_ : selected.phases i = .found row.id := phases_move_self
    have held : ¬ ∀ other ∈ selected.rows, other.id ≠ row.id := fun none =>
      none row (List.mem_of_find?_eq_some found) rfl
    have free : ¬ (selected.rowHolder row.id).isSome := by
      change ¬ (table.rowHolder row.id).isSome
      rw [unlocked]
      exact Bool.false_ne_true
    simp only [registerStep, at_]
    rw [if_neg held, if_neg free]
    rfl
  have third : flushed.registerStep accountId m now deviceId deviceLabel i = seen := by
    have at_ : flushed.phases i = .touched row.id := phases_move_self
    simp only [registerStep, at_]
    rfl
  have at_ : seen.phases i = .seen := phases_move_self
  have idle : seen.registerStep accountId m now deviceId deviceLabel i = seen := by
    simp only [registerStep, at_]
  dsimp only [exec, List.foldl]
  rw [first, second, third, idle]
  exact ⟨rfl, at_⟩

theorem exec_full (accountId : String) (now : ℤ) (deviceLabel : Option String) (i : ι)
    (absent : table.row? (strip deviceId) = none)
    (full : (table.rows.length : ℤ) ≥ m) :
    let after := exec (fun table i => table.registerStep accountId m now deviceId deviceLabel i)
      (table.move i .limited) [i, i, i, i]
    after.rows = table.rows ∧ after.phases i = .rejected table.rows.length := by
  let missed := (table.move i .limited).move i .missing
  let rejected := missed.move i (.rejected table.rows.length)
  have first : (table.move i .limited).registerStep accountId m now deviceId deviceLabel i =
      missed := by
    have none : (table.move i .limited).row? (strip deviceId) = none := absent
    simp only [registerStep, phases_move_self, none]
    rfl
  have second : missed.registerStep accountId m now deviceId deviceLabel i = rejected := by
    have at_ : missed.phases i = .missing := phases_move_self
    simp only [registerStep, at_]
    exact if_pos full
  have at_ : rejected.phases i = .rejected table.rows.length := phases_move_self
  have idle : rejected.registerStep accountId m now deviceId deviceLabel i = rejected := by
    simp only [registerStep, at_]
  dsimp only [exec, List.foldl]
  rw [first, second, idle, idle]
  exact ⟨rfl, at_⟩

theorem exec_room (accountId : String) (now : ℤ) (deviceLabel : Option String) (i : ι)
    (absent : table.row? (strip deviceId) = none)
    (room : ¬ (table.rows.length : ℤ) ≥ m) (free : table.keyHolder (strip deviceId) = none) :
    let row : BoundRow := ⟨table.nextId, accountId, strip deviceId, deviceLabel, now, some now⟩
    let after := exec (fun table i => table.registerStep accountId m now deviceId deviceLabel i)
      (table.move i .limited) [i, i, i, i]
    after.rows = table.rows ++ [row] ∧ after.phases i = .bound row table.rows.length := by
  intro row
  let missed := (table.move i .limited).move i .missing
  let counted := missed.move i (.counted table.rows.length)
  let flushed : BindingTable ι := { counted.move i (.inserted row table.rows.length) with
    nextId := table.nextId + 1
    keyHolder := Function.update table.keyHolder (strip deviceId) (some i) }
  let bound : BindingTable ι := { flushed.move i (.bound row table.rows.length) with
    rows := table.rows ++ [row]
    keyHolder := Function.update flushed.keyHolder (strip deviceId) none }
  have first : (table.move i .limited).registerStep accountId m now deviceId deviceLabel i =
      missed := by
    have none : (table.move i .limited).row? (strip deviceId) = none := absent
    simp only [registerStep, phases_move_self, none]
    rfl
  have second : missed.registerStep accountId m now deviceId deviceLabel i = counted := by
    have at_ : missed.phases i = .missing := phases_move_self
    simp only [registerStep, at_]
    exact if_neg room
  have third : counted.registerStep accountId m now deviceId deviceLabel i = flushed := by
    have at_ : counted.phases i = .counted table.rows.length := phases_move_self
    have unlocked : ¬ (counted.keyHolder (strip deviceId)).isSome := by
      change ¬ (table.keyHolder (strip deviceId)).isSome
      rw [free]
      exact Bool.false_ne_true
    have none : counted.row? (strip deviceId) = none := absent
    simp only [registerStep, at_, none]
    exact if_neg unlocked
  have fourth : flushed.registerStep accountId m now deviceId deviceLabel i = bound := by
    have at_ : flushed.phases i = .inserted row table.rows.length := phases_move_self
    simp only [registerStep, at_]
    rfl
  dsimp only [exec, List.foldl]
  rw [first, second, third, fourth]
  exact ⟨rfl, phases_move_self⟩

/-- The rows of the account are those of the table. -/
def Shows (accountId : String) (table : BindingTable ι) (devices : Devices) : Prop :=
  devices.bindingsOf accountId = table.rows.map (·.binding)

omit [DecidableEq ι] in
theorem Shows.binding (shows : Shows accountId table devices) (deviceId : String) :
    devices.binding accountId deviceId = (table.row? deviceId).map (·.binding) := by
  unfold Devices.binding row?
  rw [shows, List.find?_map]
  rfl

omit [DecidableEq ι] in
theorem Shows.accountId_of_mem (shows : Shows accountId table devices)
    (member : row ∈ table.rows) : row.binding.accountId = accountId := by
  have among := List.mem_map_of_mem (f := (·.binding)) member
  rw [← shows] at among
  exact of_decide_eq_true (List.mem_filter.mp among).2

omit [DecidableEq ι] in
theorem Shows.touched (shows : Shows accountId table devices) (keyed : Keyed calls table)
    (found : table.row? deviceId = some row) :
    (touchBinding now accountId deviceId deviceLabel devices).bindingsOf accountId =
      (table.rows.map (touchedRow now deviceLabel row.id)).map (·.binding) := by
  have member := List.mem_of_find?_eq_some found
  have device : row.binding.deviceId = deviceId := by simpa using List.find?_some found
  have kept : (touchBinding now accountId deviceId deviceLabel devices).bindingsOf accountId =
      (devices.bindingsOf accountId).map fun other =>
        if other.accountId = accountId ∧ other.deviceId = deviceId then
          other.seen now deviceLabel
        else other := by
    unfold touchBinding Devices.bindingsOf
    rw [List.filter_map]
    congr 1
    refine List.filter_congr fun other _ => ?_
    dsimp only [Function.comp]
    split <;> rfl
  rw [kept, shows, List.map_map, List.map_map]
  refine List.map_congr_left fun other among => ?_
  dsimp only [Function.comp, touchedRow]
  by_cases same : other.id = row.id
  · have own : other = row := List.inj_on_of_nodup_map keyed.ids among member same
    rw [if_pos same, own, if_pos ⟨shows.accountId_of_mem member, device⟩]
  · have apart : other.binding.deviceId ≠ deviceId := fun equal =>
      same (congrArg BoundRow.id
        (List.inj_on_of_nodup_map keyed.devices among member (equal.trans device.symm)))
    rw [if_neg same, if_neg fun both => apart both.2]

omit [DecidableEq ι] in
theorem Shows.inserted (shows : Shows accountId table devices) (row : BoundRow)
    (own : row.binding.accountId = accountId) :
    Devices.bindingsOf { devices with bindings := devices.bindings ++ [row.binding] } accountId =
      (table.rows ++ [row]).map (·.binding) := by
  have added : [row.binding].filter (·.accountId = accountId) = [row.binding] := by
    rw [List.filter_singleton, decide_eq_true own]
    rfl
  have before : devices.bindings.filter (·.accountId = accountId) =
      table.rows.map (·.binding) := shows
  rw [Devices.bindingsOf, List.filter_append, added, before, List.map_append]
  rfl

/-- A registration that nobody interrupts does what `register` does in one go. -/
theorem exec_alone (keyed : Keyed calls table) (shows : Shows accountId table devices)
    (call : calls i = .register now deviceId deviceLabel) (named : strip deviceId ≠ "")
    (begins : table.phases i = .start) (keys : ∀ key, table.keyHolder key = none)
    (unlocked : ∀ id, table.rowHolder id = none) :
    let after := exec (step accountId m calls) table [i, i, i, i, i]
    let whole := (bindDevice now m accountId (strip deviceId) deviceLabel).run devices
    Shows accountId after whole.2 ∧
      (after.phases i).registration accountId (strip deviceId) m = some whole.1 := by
  have binding := shows.binding (strip deviceId)
  have counts : (devices.bindingsOf accountId).length = table.rows.length := by
    rw [shows, List.length_map]
  dsimp only
  unfold bindDevice Shows
  rw [exec_begin call named begins, Prog.run_bind, Prog.run_read]
  cases found : table.row? (strip deviceId) with
  | some row =>
      obtain ⟨rows, at_⟩ := exec_found accountId m now deviceLabel i found (unlocked row.id)
      rw [rows, at_, binding, found]
      exact ⟨shows.touched keyed found, rfl⟩
  | none =>
      rw [binding, found]
      dsimp only [Option.map_none]
      rw [Prog.run_bind, Prog.run_read, counts]
      dsimp only
      by_cases full : (table.rows.length : ℤ) ≥ m
      · obtain ⟨rows, at_⟩ := exec_full accountId now deviceLabel i found full
        rw [rows, at_, if_pos full]
        exact ⟨shows, rfl⟩
      · obtain ⟨rows, at_⟩ := exec_room accountId now deviceLabel i found full (keys _)
        have inserts : insertBinding now accountId (strip deviceId) deviceLabel devices =
            .ok { devices with bindings := devices.bindings ++
              [⟨accountId, strip deviceId, deviceLabel, now, some now⟩] } := by
          unfold insertBinding
          rw [binding, found]
          exact if_neg Bool.false_ne_true
        rw [rows, at_, if_neg full, Prog.run_bind, Prog.run_commit_ok inserts]
        exact ⟨shows.inserted ⟨table.nextId, accountId, strip deviceId, deviceLabel, now, some now⟩
          rfl, rfl⟩

end Alone

/-! ## Devices that are found -/

section Welcome

variable {accountId : String} {m : ℤ} {calls : ι → BindingCall} {table after : BindingTable ι}
  {i j : ι}

theorem Turn.phases_of_ne (turn : Turn calls table i after) (apart : j ≠ i) :
    after.phases j = table.phases j := by
  cases turn with
  | wait idle => rfl
  | move _ | insert _ _ _ _ _ | commitInsert _ | touch _ | commitTouch _ | delete _ _
  | commitDelete _ _ => exact phases_move_of_ne apart

/-- A registration that has found its device does not come to its count. -/
theorem Turn.welcome (turn : Turn calls table i after) (registers : (calls j).Registers)
    (welcome : (table.phases j).Welcome) : (after.phases j).Welcome := by
  by_cases own : j = i
  · subst own
    cases turn with
    | wait idle => exact welcome
    | move moves =>
        rw [phases_move_self]
        exact moves.welcome welcome
    | insert _ at_ _ _ _ | commitInsert at_ =>
        rw [at_] at welcome
        exact welcome.elim
    | touch at_ | commitTouch at_ =>
        dsimp only
        rw [phases_move_self]
        trivial
    | delete removes _ | commitDelete removes _ => exact absurd registers removes
  · rw [turn.phases_of_ne own]
    exact welcome

theorem welcome_of_recognises (accountId : String) (m : ℤ)
    (recognises : Recognises calls table i) :
    (calls i).Registers ∧ ((table.step accountId m calls i).phases i).Welcome := by
  obtain ⟨now, deviceId, deviceLabel, call, at_, found⟩ := recognises
  refine ⟨call ▸ trivial, ?_⟩
  obtain ⟨row, selected⟩ := Option.isSome_iff_exists.mp found
  simp only [step, call, registerStep, at_, selected, phases_move_self]
  trivial

theorem not_turnedAway (turns : List ι) : ¬ TurnedAway accountId m calls table turns := by
  intro held
  rcases held with ⟨early, i, late, count, _, recognises, rejected⟩
  obtain ⟨registers, welcome⟩ := welcome_of_recognises accountId m recognises
  have last : ((exec (step accountId m calls) table (early ++ i :: late)).phases i).Welcome := by
    rw [exec_append]
    exact exec_inv (I := fun now => (now.phases i).Welcome) welcome
      (fun now j => (turn_step accountId m calls now j).welcome registers) late
  rw [rejected] at last
  exact last

end Welcome

/-! ## Runs -/

section Runs

variable (accountId : String) (m : ℤ) (calls : ι → BindingCall)

/-- **The device limit.**  Whatever calls there are and however their statements interleave, the
limit holds in exactly the runs where each commit of an `INSERT` finds fewer devices than the
limit; the registrations that answer `bound` have devices of their own, and none that finds its
device is rejected. -/
theorem devices_kept_iff (stored : Bound) (within : (stored.rows.length : ℤ) ≤ m)
    (turns : List ι) :
    (Throughout (step accountId m calls) (Kept m) (start stored) turns ∧
      ¬ TurnedAway accountId m calls (start stored) turns) ↔
    EachStep (step accountId m calls) (Room m) (start stored) turns := by
  rw [and_iff_left (not_turnedAway turns)]
  refine throughout_iff_eachStep (I := Keyed calls) (keyed_start stored)
    ⟨within, stored.devices, nofun, nofun⟩ ?_ ?_
  · exact fun table i => (turn_step accountId m calls table i).keyed
  · exact fun table i => (turn_step accountId m calls table i).kept

end Runs

/-- No device yet. -/
def noDevices : Bound := ⟨[], 1, List.nodup_nil, List.nodup_nil, nofun⟩

/-- Two devices one after the other, under a limit of two. -/
theorem devices_kept_iff_oneByOne :
    let calls (i : Bool) : BindingCall := .register 0 (if i then "a" else "b") none
    Throughout (step "1" 2 calls) (Kept 2) (start noDevices)
      [true, true, true, true, true, false, false, false, false, false] :=
  ((devices_kept_iff "1" 2 _ noDevices (by decide) _).mpr (by decide)).1

/-- Two devices at once under a limit of one: both have counted before either commits. -/
theorem not_devices_kept_overlapping :
    let calls (i : Bool) : BindingCall := .register 0 (if i then "a" else "b") none
    let turns := [true, true, true, false, false, false, true, true, false, false]
    (exec (step "1" 1 calls) (start noDevices : BindingTable Bool) turns).rows.length = 2 ∧
      ¬ Throughout (step "1" 1 calls) (Kept 1) (start noDevices) turns := by
  intro calls turns
  have two : (exec (step "1" 1 calls) (start noDevices : BindingTable Bool) turns).rows.length =
      2 := by decide
  refine ⟨two, fun always => ?_⟩
  have last := throughout_iff.mp always turns (List.prefix_refl turns)
  have within := last.within
  rw [two] at within
  exact absurd within (by decide)

end BindingTable

end Aegis.Api

import Mathlib.Data.List.Nodup

/-!
# Rows and the log of what was done to them

A table is changed by writes that a log lists in their order.  Some writes open a row; the
others change rows.  `Tracks` says that the table is what the log makes of it: each row is the
record of an opening and of what came after it, and each opening has its row.  It is enough to
say what each write does to one row's record (`Tracks.insert`, `Tracks.revise`).

`filter_of_nodup` is for a table under a unique constraint, `filter_append_singleton` and
`filter_map_elsewhere` for queries that a write does not concern.
-/

namespace Aegis.Lib

variable {ρ δ κ : Type*}

/-- The rows are the records of the log's openings and of what came after them. -/
structure Tracks (Opens : δ → Prop) (Records : ρ → δ → List δ → Prop) (rows : List ρ)
    (log : List δ) : Prop where
  of_row : ∀ row ∈ rows, ∃ before opening since, log = before ++ opening :: since ∧
    Records row opening since
  of_opening : ∀ before opening since, log = before ++ opening :: since → Opens opening →
    ∃ row ∈ rows, Records row opening since

variable {Opens : δ → Prop} {Records : ρ → δ → List δ → Prop} {rows : List ρ}
  {log more before since : List δ} {row : ρ} {deed : δ}

/-- An entry of a log that has grown is an earlier one or a new one. -/
theorem append_split (same : log ++ more = before ++ deed :: since) :
    (∃ early, log = before ++ deed :: early ∧ since = early ++ more) ∨
      ∃ middle, more = middle ++ deed :: since := by
  rcases List.append_eq_append_iff.mp same with ⟨middle, _, tail⟩ | ⟨middle, head, tail⟩
  · exact .inr ⟨middle, tail⟩
  · cases middle with
    | nil => exact .inr ⟨[], tail.symm⟩
    | cons first early =>
        cases tail
        exact .inl ⟨early, head, rfl⟩

theorem Tracks.empty : Tracks Opens Records [] [] where
  of_row := fun _ absent => absurd absent List.not_mem_nil
  of_opening := fun _ _ _ same _ => absurd same.symm (by simp)

theorem Tracks.of_mem (tracks : Tracks Opens Records rows log) (among : deed ∈ log)
    (opens : Opens deed) : ∃ row ∈ rows, ∃ since, Records row deed since := by
  obtain ⟨before, since, same⟩ := List.append_of_mem among
  obtain ⟨row, member, records⟩ := tracks.of_opening before deed since same opens
  exact ⟨row, member, since, records⟩

theorem Tracks.insert (tracks : Tracks Opens Records rows log) (opened : Records row deed [])
    (kept : ∀ old opening since, Records old opening since →
      Records old opening (since ++ [deed])) :
    Tracks Opens Records (rows ++ [row]) (log ++ [deed]) where
  of_row := by
    intro found member
    rcases List.mem_append.mp member with old | new
    · obtain ⟨before, opening, since, same, records⟩ := tracks.of_row found old
      refine ⟨before, opening, since ++ [deed], ?_, kept found opening since records⟩
      rw [same, List.append_assoc, List.cons_append]
    · cases List.mem_singleton.mp new
      exact ⟨log, deed, [], rfl, opened⟩
  of_opening := by
    intro before opening since same opens
    rcases append_split same with ⟨early, old, rfl⟩ | ⟨middle, new⟩
    · obtain ⟨found, member, records⟩ := tracks.of_opening before opening early old opens
      exact ⟨found, List.mem_append_left _ member, kept found opening early records⟩
    · rcases List.singleton_eq_append_iff.mp new with ⟨rfl, own⟩ | ⟨rfl, none⟩
      · cases own
        exact ⟨row, List.mem_append_right _ (List.mem_singleton_self row), opened⟩
      · cases none

theorem Tracks.revise (tracks : Tracks Opens Records rows log) {change : ρ → ρ}
    (kept : ∀ old ∈ rows, ∀ opening since, Records old opening since →
      Records (change old) opening (since ++ more))
    (quiet : ∀ deed ∈ more, ¬ Opens deed) :
    Tracks Opens Records (rows.map change) (log ++ more) where
  of_row := by
    intro found member
    obtain ⟨old, among, rfl⟩ := List.mem_map.mp member
    obtain ⟨before, opening, since, same, records⟩ := tracks.of_row old among
    refine ⟨before, opening, since ++ more, ?_, kept old among opening since records⟩
    rw [same, List.append_assoc, List.cons_append]
  of_opening := by
    intro before opening since same opens
    rcases append_split same with ⟨early, old, rfl⟩ | ⟨middle, rfl⟩
    · obtain ⟨found, member, records⟩ := tracks.of_opening before opening early old opens
      exact ⟨change found, List.mem_map_of_mem member, kept found member opening early records⟩
    · exact absurd opens (quiet opening (List.mem_append_right _ List.mem_cons_self))

/-- A query that asks for a key finds one row at most. -/
theorem filter_of_nodup {key : ρ → κ} (distinct : (rows.map key).Nodup) (member : row ∈ rows)
    {wanted : ρ → Bool} (found : wanted row = true)
    (asks : ∀ other, wanted other = true → key other = key row) : rows.filter wanted = [row] := by
  induction rows with
  | nil => cases member
  | cons first rest ih =>
      rw [List.map_cons, List.nodup_cons] at distinct
      rcases List.mem_cons.mp member with rfl | inRest
      · rw [List.filter_cons_of_pos found, List.filter_eq_nil_iff.mpr]
        intro other among same
        exact distinct.1 (List.mem_map.mpr ⟨other, among, asks other same⟩)
      · rw [List.filter_cons_of_neg, ih distinct.2 inRest]
        intro same
        exact distinct.1 (List.mem_map.mpr ⟨row, inRest, (asks first same).symm⟩)

/-- A query that does not ask for the new row. -/
theorem filter_append_singleton {wanted : ρ → Bool} (other : wanted row = false) :
    (rows ++ [row]).filter wanted = rows.filter wanted := by
  rw [List.filter_append, List.filter_singleton, other]
  exact List.append_nil _

/-- A query for rows that an update leaves as they are. -/
theorem filter_map_elsewhere {wanted : ρ → Bool} {change : ρ → ρ}
    (keeps : ∀ old, wanted (change old) = wanted old)
    (fixed : ∀ old, wanted old = true → change old = old) :
    (rows.map change).filter wanted = rows.filter wanted := by
  have same : wanted ∘ change = wanted := funext keeps
  rw [List.filter_map, same]
  refine (List.map_congr_left fun old member => ?_).trans (List.map_id _)
  exact fixed old (List.mem_filter.mp member).2

/-- An insert under the unique constraint. -/
theorem nodup_map_append {key : ρ → κ} (distinct : (rows.map key).Nodup)
    (fresh : ∀ old ∈ rows, key old ≠ key row) : ((rows ++ [row]).map key).Nodup := by
  rw [List.map_append, List.map_singleton]
  refine List.nodup_append.mpr ⟨distinct, List.nodup_singleton _, ?_⟩
  intro _ old _ new same
  rcases same with rfl
  obtain ⟨found, member, same⟩ := List.mem_map.mp old
  exact fresh found member (same.trans (List.mem_singleton.mp new))

/-- So is an update that keeps the keys. -/
theorem nodup_map_map {key : ρ → κ} {change : ρ → ρ} (distinct : (rows.map key).Nodup)
    (keeps : ∀ old ∈ rows, key (change old) = key old) : ((rows.map change).map key).Nodup := by
  rw [List.map_map]
  have same : rows.map (key ∘ change) = rows.map key :=
    List.map_congr_left keeps
  rwa [same]

end Aegis.Lib

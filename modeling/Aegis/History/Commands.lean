import Aegis.History.Service

/-!
# One append, command by command

`append_frame` is three Redis commands, and a request can end between two of them.  What
`get_history` then returns is what it returned before exactly when the new frame takes the
place of a frame like it (`Absorbs`): the history is full, and every frame that ranks below
the new one has its content and its time.
-/

namespace Aegis.History

open Aegis.Lib

variable {F : Type} [LinearOrder (Record F)]

/-! ## The commands -/

def zadd (now : ℚ) (accountId : String) (ts : ℚ) (member : Record F) (redis : Redis F) : Redis F :=
  Function.update redis accountId (Expiring.write now .empty (·.zadd ts member) (redis accountId))

def zremrangebyrank (now : ℚ) (accountId : String) (start stop : ℤ) (redis : Redis F) : Redis F :=
  Function.update redis accountId
    (Expiring.modify now (fun set => dropEmpty (set.zremrangebyrank start stop)) (redis accountId))

def expire (now : ℚ) (accountId : String) (ttl : ℤ) (redis : Redis F) : Redis F :=
  Function.update redis accountId (Expiring.expire now (ttl : ℚ) (redis accountId))

theorem IndicatorHistoryService.appendAt_eq (service : IndicatorHistoryService) (now : ℚ)
    (nonce : String) (redis : Redis F) (accountId : String) (frame : F) (ts : ℚ) :
    service.appendAt now nonce redis accountId frame ts =
      expire now accountId service.ttlSeconds
        (zremrangebyrank now accountId 0 (-(service.maxFrames + 1))
          (zadd now accountId ts ⟨frame, ts, nonce⟩ redis)) := by
  simp only [expire, zremrangebyrank, zadd, Function.update_self, Function.update_idem]
  rfl

variable {now : ℚ} {accountId : String} {redis : Redis F}

theorem contents_zadd (ts : ℚ) (member : Record F) :
    contents now (zadd now accountId ts member redis) accountId =
      (contents now redis accountId).zadd ts member := by
  simp only [contents, zadd, Function.update_self, Expiring.read_write]
  rfl

theorem contents_zremrangebyrank (start stop : ℤ) :
    contents now (zremrangebyrank now accountId start stop redis) accountId =
      (contents now redis accountId).zremrangebyrank start stop := by
  simp only [contents, zremrangebyrank, Function.update_self, Expiring.read_modify]
  cases Expiring.read now (redis accountId) with
  | none => exact SortedSet.ext (by simp [SortedSet.zremrangebyrank, SortedSet.outsideRanks])
  | some set => exact IndicatorHistoryService.getD_dropEmpty _

theorem contents_expire {ttl : ℤ} (positive : 0 < ttl) :
    contents now (expire now accountId ttl redis) accountId = contents now redis accountId := by
  have seconds : 0 < (ttl : ℚ) := Int.cast_pos.mpr positive
  simp only [contents, expire, Function.update_self,
    Expiring.read_expire seconds (lt_add_of_pos_right now seconds)]

/-! ## Appends that leave the history as it is -/

/-- A stored set in the order of its frames' capture times. -/
def entryParsed (entry : ℚ ×ₗ Record F) : Parsed F := (ofLex entry).2.parsed

theorem getHistory_eq (now : ℚ) (redis : Redis F) (accountId : String) :
    getHistory now redis accountId = (contents now redis accountId).entries.map entryParsed := by
  rw [getHistory, SortedSet.zrange_all, List.map_map]
  rfl

/-- The set is full, and what the new entry pushes out looks like it. -/
def Absorbs (maxFrames : ℤ) (set : SortedSet ℚ (Record F)) (entry : ℚ ×ₗ Record F) : Prop :=
  set.entries.length = maxFrames.toNat ∧
    ∀ held ∈ set.entries, held < entry → entryParsed held = entryParsed entry

variable {set : SortedSet ℚ (Record F)} {ts : ℚ} {member : Record F}

theorem length_zadd (fresh : member ∉ set.entries.map fun entry => (ofLex entry).2) :
    (set.zadd ts member).entries.length = set.entries.length + 1 := by
  rw [SortedSet.entries_zadd fresh, List.orderedInsert_length]

/-- Without the trim a new member always shows. -/
theorem zadd_changes (fresh : member ∉ set.entries.map fun entry => (ofLex entry).2) :
    (set.zadd ts member).entries.map entryParsed ≠ set.entries.map entryParsed := by
  intro same
  have lengths := congrArg List.length same
  rw [List.length_map, List.length_map, length_zadd fresh] at lengths
  omega

theorem zaddTrim_keeps_iff {maxFrames : ℤ} (size : 0 ≤ maxFrames)
    (fresh : member ∉ set.entries.map fun entry => (ofLex entry).2) :
    (set.zaddTrim maxFrames ts member).entries.map entryParsed = set.entries.map entryParsed ↔
      Absorbs maxFrames set (toLex (ts, member)) := by
  have trimmed : (set.zaddTrim maxFrames ts member).entries =
      (set.entries.orderedInsert (· ≤ ·) (toLex (ts, member))).rtake maxFrames.toNat := by
    simp only [SortedSet.zaddTrim, SortedSet.zremrangebyrank, SortedSet.entries_zadd fresh]
    exact SortedSet.outsideRanks_eq_rtake _ _ (.inl size)
  rw [trimmed]
  by_cases full : set.entries.length = maxFrames.toNat
  · have tail : (set.entries.orderedInsert (· ≤ ·) (toLex (ts, member))).rtake maxFrames.toNat =
        (set.entries.orderedInsert (· ≤ ·) (toLex (ts, member))).tail := by
      rw [List.rtake, List.orderedInsert_length, full, Nat.add_sub_cancel_left, List.drop_one]
    rw [tail, map_tail_orderedInsert_iff entryParsed _ set.sorted]
    exact (and_iff_right full).symm
  · refine iff_of_false (fun same => full ?_) fun absorbs => full absorbs.1
    have lengths := congrArg List.length same
    rw [List.length_map, List.length_map, length_rtake, List.orderedInsert_length] at lengths
    omega

/-! ## Frames later than all stored ones -/

/-- Every stored frame was captured before `ts`, and ranks by its capture time. -/
def Earlier (set : SortedSet ℚ (Record F)) (ts : ℚ) : Prop :=
  ∀ held ∈ set.entries, (ofLex held).1 < ts ∧ (ofLex held).2.ts = (ofLex held).1

theorem Earlier.below (earlier : Earlier set ts) (member : Record F) :
    ∀ held ∈ set.entries, held < toLex (ts, member) :=
  fun held stored => Prod.Lex.lt_iff.mpr (.inl (earlier held stored).1)

theorem Earlier.fresh (earlier : Earlier set ts) (own : member.ts = ts) :
    member ∉ set.entries.map fun entry => (ofLex entry).2 := by
  intro stored
  obtain ⟨held, heldAt, rfl⟩ := List.mem_map.mp stored
  obtain ⟨before, same⟩ := earlier held heldAt
  exact before.ne (same.symm.trans own)

/-- A later frame goes to the end. -/
theorem Earlier.entries_zaddTrim (earlier : Earlier set ts) {maxFrames : ℤ} {n : ℕ}
    (size : maxFrames.toNat = n + 1) (own : member.ts = ts) :
    (set.zaddTrim maxFrames ts member).entries = set.entries.rtake n ++ [toLex (ts, member)] := by
  have inserted : set.entries.orderedInsert (· ≤ ·) (toLex (ts, member)) =
      set.entries ++ [toLex (ts, member)] := by
    have split := orderedInsert_append_of_lt [] (earlier.below member)
    rw [List.append_nil] at split
    exact split
  rw [SortedSet.zaddTrim, SortedSet.zremrangebyrank]
  simp only [SortedSet.entries_zadd (earlier.fresh own), inserted]
  rw [SortedSet.outsideRanks_eq_rtake _ _ (.inl (by omega)), size, List.rtake_concat_succ]

/-- The same frame with another nonce goes next to it. -/
theorem Earlier.parsed_zaddTrim_twice (earlier : Earlier set ts) {maxFrames : ℤ} {n : ℕ}
    (size : maxFrames.toNat = n + 2) {other : Record F} (own : member.ts = ts)
    (same : other.parsed = member.parsed) (apart : other ≠ member) :
    ((set.zaddTrim maxFrames ts member).zaddTrim maxFrames ts other).entries.map entryParsed =
      (set.entries.map entryParsed).rtake n ++ [member.parsed, member.parsed] := by
  have ownAlso : other.ts = ts := (congrArg Parsed.ts same).trans own
  have once := earlier.entries_zaddTrim size own
  have fresh : other ∉ (set.zaddTrim maxFrames ts member).entries.map
      fun entry => (ofLex entry).2 := by
    rw [once, List.map_append, List.mem_append]
    intro either
    rcases either with stored | last
    · refine earlier.fresh ownAlso ?_
      exact ((rtake_sublist _ _).map _).subset stored
    · exact apart (List.mem_singleton.mp last)
  have inserted : (set.zaddTrim maxFrames ts member).entries.orderedInsert (· ≤ ·)
      (toLex (ts, other)) = set.entries.rtake (n + 1) ++
        [toLex (ts, member)].orderedInsert (· ≤ ·) (toLex (ts, other)) := by
    rw [once]
    exact orderedInsert_append_of_lt _ fun held stored =>
      earlier.below other held ((rtake_sublist _ _).subset stored)
  -- The two nonces decide which of the two stands last.
  have pair : ([toLex (ts, member)].orderedInsert (· ≤ ·) (toLex (ts, other))).map entryParsed =
      [member.parsed, member.parsed] := by
    rw [List.orderedInsert_cons]
    split
    · exact congrArg (· :: [member.parsed]) same
    · exact congrArg (fun last => [member.parsed, last]) same
  rw [SortedSet.zaddTrim, SortedSet.zremrangebyrank]
  simp only [SortedSet.entries_zadd fresh]
  rw [SortedSet.outsideRanks_eq_rtake _ _ (.inl (by omega)), size, inserted, map_rtake,
    List.map_append, pair, map_rtake]
  have front : ((set.entries.map entryParsed).rtake (n + 1)).rtake n =
      (set.entries.map entryParsed).rtake n := rtake_rtake (by omega)
  rw [List.append_cons, List.rtake_concat_succ, List.rtake_concat_succ, front,
    List.append_assoc]
  rfl

end Aegis.History

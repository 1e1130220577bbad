import Aegis.Lib.Rely
import Aegis.Subscriptions.Lifecycle

/-!
# What the answers of the key calls mean

Any number of calls run side by side.  `KeyCall.Done` says what a call that has answered has
done; it is true from then on, since keys only get worse (`KeyRing.Later`).

`verifyApiKey_lifecycle` puts both sides together: which keys are good by the writes that have
taken effect, that each of these writes is one of a call, and that a call which has answered has
taken effect.
-/

namespace Aegis.Subscriptions

open Aegis.Lib

/-! ## Keys get worse -/

/-- Ids are drawn from a sequence. -/
structure KeyRing.Numbered (keyRing : KeyRing) : Prop where
  below : ∀ row ∈ keyRing.world.apiKeys, row.id < keyRing.world.nextKeyId
  distinct : (keyRing.world.apiKeys.map (·.id)).Nodup

/-- More has been done, and no row has gone or become better. -/
structure KeyRing.Later (s t : KeyRing) : Prop where
  deeds : s.deeds <+: t.deeds
  nextKeyId : s.world.nextKeyId ≤ t.world.nextKeyId
  stays : ∀ row ∈ s.world.apiKeys, ∃ later ∈ t.world.apiKeys, later.id = row.id
  old : ∀ later ∈ t.world.apiKeys, later.id < s.world.nextKeyId →
    ∃ row ∈ s.world.apiKeys, later.id = row.id ∧ row.Wears later
  numbered : s.Numbered → t.Numbered

/-- There is a row with the id. -/
def KeyRing.Present (keyRing : KeyRing) (keyId : ℤ) : Prop :=
  ∃ row ∈ keyRing.world.apiKeys, (row.id : ℤ) = keyId

/-- The id has been given, to a row that lets nobody in. -/
def KeyRing.Shut (keyRing : KeyRing) (keyId : ℤ) : Prop :=
  keyId < keyRing.world.nextKeyId ∧ ∀ row ∈ keyRing.world.apiKeys, (row.id : ℤ) = keyId →
    row.revoked = true ∨ row.forceRotate = true

section Worse

variable {env : Env} {s t u : KeyRing} {keyId : ℤ}

namespace KeyRing.Later

theorem refl (s : KeyRing) : s.Later s where
  deeds := List.prefix_rfl
  nextKeyId := le_rfl
  stays row member := ⟨row, member, rfl⟩
  old row member _ := ⟨row, member, rfl, .refl row⟩
  numbered := id

theorem trans (first : s.Later t) (second : t.Later u) : s.Later u where
  deeds := first.deeds.trans second.deeds
  nextKeyId := first.nextKeyId.trans second.nextKeyId
  stays row member := by
    obtain ⟨next, among, same⟩ := first.stays row member
    obtain ⟨last, present, sameAlso⟩ := second.stays next among
    exact ⟨last, present, sameAlso.trans same⟩
  old last present early := by
    obtain ⟨next, among, same, wears⟩ := second.old last present (early.trans_le first.nextKeyId)
    obtain ⟨row, member, sameAlso, wearsAlso⟩ := first.old next among (same ▸ early)
    exact ⟨row, member, same.trans sameAlso, wearsAlso.trans wears⟩
  numbered := second.numbered ∘ first.numbered

end KeyRing.Later

theorem KeyMove.later {Named : Deed → Prop} (move : KeyMove env Named s t) : s.Later t := by
  cases move with
  | stay => exact .refl s
  | @issue now rawKey request named fresh =>
      refine ⟨List.prefix_append _ _, Nat.le_succ _, ?_, ?_, ?_⟩
      · exact fun row member => ⟨row, List.mem_append_left _ member, rfl⟩
      · intro later member early
        rcases List.mem_append.mp member with old | new
        · exact ⟨later, old, rfl, .refl later⟩
        · cases List.mem_singleton.mp new
          exact absurd early (lt_irrefl _)
      · intro numbered
        refine ⟨List.forall_mem_append.mpr ⟨fun row member => ?_, ?_⟩,
          nodup_map_append numbered.distinct fun row member => (numbered.below row member).ne⟩
        · exact Nat.lt_succ_of_lt (numbered.below row member)
        · exact List.forall_mem_singleton.mpr (Nat.lt_succ_self _)
  | @revise change more revises quiet named =>
      refine ⟨List.prefix_append _ _, le_rfl, ?_, ?_, ?_⟩
      · exact fun row member => ⟨change row, List.mem_map_of_mem member, (revises row).id⟩
      · intro later member _
        obtain ⟨row, among, rfl⟩ := List.mem_map.mp member
        refine ⟨row, among, (revises row).id, (revises row).keyHash, (revises row).expiresAt,
          ?_, ?_⟩
        · exact fun revoked => (revises row).revoked.mpr (.inl revoked)
        · exact fun forced => (revises row).forceRotate.mpr (.inl forced)
      · intro numbered
        refine ⟨fun later member => ?_, nodup_map_map numbered.distinct fun row _ =>
          (revises row).id⟩
        obtain ⟨row, among, rfl⟩ := List.mem_map.mp member
        rw [(revises row).id]
        exact numbered.below row among

theorem KeyRing.Present.later (present : s.Present keyId) (moved : s.Later t) :
    t.Present keyId := by
  obtain ⟨row, member, rfl⟩ := present
  obtain ⟨later, among, same⟩ := moved.stays row member
  exact ⟨later, among, congrArg Int.ofNat same⟩

theorem KeyRing.Shut.later (shut : s.Shut keyId) (moved : s.Later t) : t.Shut keyId := by
  obtain ⟨given, flagged⟩ := shut
  have next : (s.world.nextKeyId : ℤ) ≤ t.world.nextKeyId := by exact_mod_cast moved.nextKeyId
  refine ⟨given.trans_le next, fun later member own => ?_⟩
  obtain ⟨row, among, same, wears⟩ := moved.old later member (by omega)
  exact (flagged row among (by omega)).imp wears.revoked wears.forceRotate

/-- No key is accepted as the row with the id. -/
def KeyRing.Closed (env : Env) (keyRing : KeyRing) (keyId : ℤ) : Prop :=
  ∀ now rawKey auth, keyRing.Accepts env now rawKey auth → ∀ id ∈ auth.keyId, (id : ℤ) ≠ keyId

theorem KeyRing.Shut.closed (shut : s.Shut keyId) : s.Closed env keyId := by
  intro now rawKey auth accepts id own same
  obtain ⟨row, member, _, good, _, _, accepted⟩ := exists_row_of_accepts accepts
  cases Option.some.inj (accepted.symm.trans own)
  rcases shut.2 row member same with revoked | forced
  · exact absurd revoked (by rw [good.revoked]; exact Bool.false_ne_true)
  · exact absurd forced (by rw [good.forceRotate]; exact Bool.false_ne_true)

end Worse

/-! ## What has been done -/

/-- What the call has done when it has answered so; `start` is where it began. -/
def KeyCall.Done (env : Env) (start keyRing : KeyRing) : KeyCall → KeyAnswer → Prop
  | issueApiKey now rawKey request, answer => answer = .key rawKey ∧
      ∃ keyId, .issued keyId now rawKey request ∈ keyRing.deeds
  | revokeApiKey _ keyId _, answer => (start.Present keyId → answer = .flag true) ∧
      (answer = .flag true → .revoked keyId ∈ keyRing.deeds ∧ keyRing.Closed env keyId)
  | forceRotateKey keyId, answer => (start.Present keyId → keyRing.Closed env keyId) ∧
      (answer = .flag true → .forcedToRotate keyId ∈ keyRing.deeds ∧ keyRing.Closed env keyId)
  | verifyApiKey _ _, _ => True
  | revokeKey _ _ keyId, _ => .revoked keyId ∈ keyRing.deeds ∧ keyRing.Closed env keyId
  | forceRotate _ keyId, _ => .forcedToRotate keyId ∈ keyRing.deeds ∧ keyRing.Closed env keyId
  | rotateKey auth body issuedAt rawKey _, answer => answer = .key rawKey ∧
      (∃ keyId old, .issued keyId issuedAt rawKey (replacement auth body old) ∈ keyRing.deeds ∧
        (old.id : ℤ) = body.keyId) ∧
      .revoked body.keyId ∈ keyRing.deeds ∧ keyRing.Closed env body.keyId

/-- A call issues the key that it has drawn. -/
theorem KeyCall.Does.drawn {call : KeyCall} {keyId : ℕ} {now : ℤ} {rawKey : String}
    {request : KeyRequest} (does : call.Does (.issued keyId now rawKey request)) :
    rawKey ∈ call.drawn := by
  cases call with
  | issueApiKey issuedAt drawn asked =>
      obtain ⟨_, rfl, _⟩ := does
      rfl
  | rotateKey auth body issuedAt drawn revokedAt =>
      obtain ⟨_, _, rfl, _⟩ := does
      rfl
  | revokeApiKey _ _ _ | forceRotateKey _ | verifyApiKey _ _ | revokeKey _ _ _
  | forceRotate _ _ => exact False.elim does

section Assured

variable {env : Env} {s : KeyRing} {keyId : ℤ} {deed : Deed}

/-- A row that is there is found, and a row that is found is there. -/
theorem assures_selectKey (numbered : s.Numbered) :
    (selectKey keyId).Assures KeyRing.Later (fun row t => (s.Present keyId → row ≠ none) ∧
      ∀ old ∈ row, (old.id : ℤ) = keyId ∧ t.Present keyId ∧ keyId < t.world.nextKeyId ∧
        (old.revoked = true → t.Shut keyId)) s := by
  unfold selectKey
  dsimp only
  split
  · trivial
  · refine Prog.assures_read .refl fun t moved u onwards => ⟨fun present => ?_, fun old found => ?_⟩
    · obtain ⟨row, member, own⟩ := present.later moved
      refine Option.isSome_iff_ne_none.mp (List.find?_isSome.mpr ⟨row, member, ?_⟩)
      exact decide_eq_true own
    · have member := List.mem_of_find?_eq_some found
      have own : (old.id : ℤ) = keyId := by simpa using List.find?_some found
      have numberedAlso := moved.numbered numbered
      have given := numberedAlso.below old member
      have next : t.world.nextKeyId ≤ u.world.nextKeyId := onwards.nextKeyId
      refine ⟨own, KeyRing.Present.later ⟨old, member, own⟩ onwards, by omega, fun revoked => ?_⟩
      refine KeyRing.Shut.later ⟨by omega, fun row among same => .inl ?_⟩ onwards
      have id_eq : row.id = old.id := by omega
      rwa [List.inj_on_of_nodup_map numberedAlso.distinct among member id_eq]

/-- A flag that is set shuts the row, and its deed is noted. -/
theorem assures_setFlag (env : Env) {change : ApiKey → ApiKey}
    (move : ∀ keyRing, KeyMove env (fun _ => True) keyRing
      ((keyRing.updateKey keyId change).note deed))
    (sets : ∀ row, (change row).revoked = true ∨ (change row).forceRotate = true)
    (given : keyId < s.world.nextKeyId) :
    (Prog.modify fun keyRing => (keyRing.updateKey keyId change).note deed :
      Prog Failure KeyRing Unit).Assures KeyRing.Later
        (fun _ t => deed ∈ t.deeds ∧ t.Shut keyId) s := by
  refine Prog.assures_modify fun t moved => ⟨(move t).later, fun u onwards => ⟨?_, ?_⟩⟩
  · exact onwards.deeds.subset (List.mem_append_right _ (List.mem_singleton_self deed))
  · have next : (s.world.nextKeyId : ℤ) ≤ t.world.nextKeyId := by exact_mod_cast moved.nextKeyId
    refine KeyRing.Shut.later (s := (t.updateKey keyId change).note deed) ⟨?_, ?_⟩ onwards
    · exact given.trans_le next
    · intro later member own
      obtain ⟨row, _, rfl⟩ := List.mem_map.mp member
      by_cases same : (row.id : ℤ) = keyId
      · rw [if_pos same]
        exact sets row
      · rw [if_neg same] at own
        exact absurd own same

theorem assures_revokeApiKey (env : Env) (now : ℤ) (revokedBy : Option String)
    (numbered : s.Numbered) :
    (revokeApiKey now keyId revokedBy).Assures KeyRing.Later (fun ok t =>
      (s.Present keyId → ok = true) ∧
        (ok = true → .revoked keyId ∈ t.deeds ∧ t.Shut keyId)) s := by
  refine .bind .refl ((assures_selectKey numbered).mono fun row t found => ?_)
  cases row with
  | none =>
      exact fun u _ => ⟨fun present => absurd rfl (found.1 present), fun wrong => by cases wrong⟩
  | some old =>
      obtain ⟨_, _, given, _⟩ := found.2 old rfl
      refine .bind .refl ((assures_setFlag env (fun _ => keyMove_revoke trivial)
        (fun row => .inl rfl) given).mono fun _ u done => ?_)
      exact fun v onwards => ⟨fun _ => rfl, fun _ =>
        ⟨onwards.deeds.subset done.1, done.2.later onwards⟩⟩

theorem assures_forceRotateKey (env : Env) (numbered : s.Numbered) :
    (forceRotateKey keyId).Assures KeyRing.Later (fun ok t =>
      (s.Present keyId → t.Shut keyId) ∧
        (ok = true → .forcedToRotate keyId ∈ t.deeds ∧ t.Shut keyId)) s := by
  refine .bind .refl ((assures_selectKey numbered).mono fun row t found => ?_)
  cases row with
  | none =>
      exact fun u _ => ⟨fun present => absurd rfl (found.1 present), fun wrong => by cases wrong⟩
  | some old =>
      obtain ⟨_, _, given, shut⟩ := found.2 old rfl
      cases revoked : old.revoked with
      | true =>
          simp only [Option.all_some, revoked, if_true]
          exact fun u onwards =>
            ⟨fun _ => (shut revoked).later onwards, fun wrong => by cases wrong⟩
      | false =>
          simp only [Option.all_some, revoked, if_false, Bool.false_eq_true]
          refine .bind .refl ((assures_setFlag env (fun _ => keyMove_forceRotate trivial)
            (fun row => .inr rfl) given).mono fun _ u done => ?_)
          exact fun v onwards => ⟨fun _ => done.2.later onwards, fun _ =>
            ⟨onwards.deeds.subset done.1, done.2.later onwards⟩⟩

theorem assures_issueKey (env : Env) (now : ℤ) (rawKey : String) (request : KeyRequest) :
    (issueKey env now rawKey request).Assures KeyRing.Later (fun raw t =>
      raw = rawKey ∧ ∃ keyId, .issued keyId now rawKey request ∈ t.deeds) s := by
  refine Prog.assures_atomically fun t _ => ?_
  change KeyRing.Later t ((issueKey env now rawKey request).run t).2 ∧
    ∀ raw, ((issueKey env now rawKey request).run t).1 = .ok raw →
      ∀ u, KeyRing.Later ((issueKey env now rawKey request).run t).2 u → _
  rw [run_issueKey]
  split
  next fresh =>
    have move : KeyMove env (fun _ => True) t
        ⟨addKey env now rawKey request t.world, t.deeds ++ [.issued _ now rawKey request]⟩ :=
      .issue trivial fresh
    refine ⟨move.later, fun raw returned u onwards => ⟨(Except.ok.inj returned).symm, ?_⟩⟩
    exact ⟨_, onwards.deeds.subset (List.mem_append_right _ (List.mem_singleton_self _))⟩
  next => exact ⟨.refl t, fun _ failed => by cases failed⟩

/-- What comes after the check is for administrators. -/
theorem assures_guarded {α : Type} {Q : α → KeyRing → Prop} {auth : AuthContext}
    {p : Prog Failure KeyRing α} (assures : p.Assures KeyRing.Later Q s) :
    (Prog.ofExcept (requireAdmin auth) >>= fun _ => p).Assures KeyRing.Later Q s := by
  cases requireAdmin auth with
  | ok _ => exact assures
  | error e => trivial

theorem assures_rotateKey (env : Env) (auth : AuthContext) (body : RotateKeyRequest)
    (issuedAt : ℤ) (rawKey : String) (revokedAt : ℤ) (numbered : s.Numbered) :
    (rotateKey env auth body issuedAt rawKey revokedAt).Assures KeyRing.Later (fun raw t =>
      raw = rawKey ∧ (∃ keyId old,
        .issued keyId issuedAt rawKey (replacement auth body old) ∈ t.deeds ∧
          (old.id : ℤ) = body.keyId) ∧
      .revoked body.keyId ∈ t.deeds ∧ t.Shut body.keyId) s := by
  refine assures_guarded (.bind .refl (((assures_selectKey numbered).reached .trans).mono
    fun row t selected => ?_))
  obtain ⟨moved, found⟩ := selected
  cases row with
  | none => trivial
  | some old =>
      obtain ⟨own, present, _⟩ := found.2 old rfl
      refine .bind .refl (((assures_issueKey env issuedAt rawKey _).reached .trans).mono
        fun raw u issued => ?_)
      obtain ⟨onwards, same, keyId, noted⟩ := issued
      refine .bind .refl (((assures_revokeApiKey env revokedAt _
        ((moved.trans onwards).numbered numbered)).reached .trans).mono fun ok v revoked => ?_)
      obtain ⟨further, finds, revokes⟩ := revoked
      intro w last
      obtain ⟨revokedDeed, shut⟩ := revokes (finds (present.later onwards))
      have since := further.trans last
      exact ⟨same, ⟨keyId, old, since.deeds.subset noted, own⟩, last.deeds.subset revokedDeed,
        shut.later last⟩

/-- **One call** has done what it is there for when it answers. -/
theorem assures_keyCall (env : Env) (call : KeyCall) (numbered : s.Numbered) :
    (call.prog env).Assures KeyRing.Later (fun answer t => call.Done env s t answer) s := by
  cases call with
  | issueApiKey now rawKey request =>
      refine .bind .refl ((assures_issueKey env now rawKey request).mono fun raw t issued => ?_)
      obtain ⟨rfl, keyId, noted⟩ := issued
      exact fun u onwards => ⟨rfl, keyId, onwards.deeds.subset noted⟩
  | revokeApiKey now keyId revokedBy =>
      refine .bind .refl ((assures_revokeApiKey env now revokedBy numbered).mono
        fun ok t done => ?_)
      obtain ⟨finds, revokes⟩ := done
      refine fun u onwards => ⟨fun present => congrArg _ (finds present), fun answered => ?_⟩
      obtain ⟨noted, shut⟩ := revokes (KeyAnswer.flag.inj answered)
      exact ⟨onwards.deeds.subset noted, (shut.later onwards).closed⟩
  | forceRotateKey keyId =>
      refine .bind .refl ((assures_forceRotateKey env numbered).mono fun ok t done => ?_)
      obtain ⟨shuts, forces⟩ := done
      refine fun u onwards => ⟨fun present => ((shuts present).later onwards).closed,
        fun answered => ?_⟩
      obtain ⟨noted, shut⟩ := forces (KeyAnswer.flag.inj answered)
      exact ⟨onwards.deeds.subset noted, (shut.later onwards).closed⟩
  | verifyApiKey now xApiKey =>
      refine Prog.Guarantees.assures_bind .refl (R := KeyRing.Later) ?_ fun _ _ _ _ => trivial
      have moves : (useKey env now xApiKey).Guarantees (KeyMove env fun _ => True) :=
        guarantees_useKey now xApiKey
      exact moves.mono fun _ _ move => move.later
  | revokeKey auth now keyId =>
      refine .bind .refl (assures_guarded (.bind .refl ((assures_revokeApiKey env now _
        numbered).mono fun ok t done => ?_)))
      cases ok with
      | false => trivial
      | true =>
          obtain ⟨noted, shut⟩ := done.2 rfl
          intro u onwards v further
          exact ⟨(onwards.trans further).deeds.subset noted,
            (shut.later (onwards.trans further)).closed⟩
  | forceRotate auth keyId =>
      refine .bind .refl (assures_guarded (.bind .refl ((assures_forceRotateKey env
        numbered).mono fun ok t done => ?_)))
      cases ok with
      | false => trivial
      | true =>
          obtain ⟨noted, shut⟩ := done.2 rfl
          intro u onwards v further
          exact ⟨(onwards.trans further).deeds.subset noted,
            (shut.later (onwards.trans further)).closed⟩
  | rotateKey auth body issuedAt rawKey revokedAt =>
      refine .bind .refl ((assures_rotateKey env auth body issuedAt rawKey revokedAt
        numbered).mono fun raw t done => ?_)
      obtain ⟨rfl, ⟨keyId, old, noted, own⟩, revoked, shut⟩ := done
      exact fun u onwards => ⟨rfl, ⟨keyId, old, onwards.deeds.subset noted, own⟩,
        onwards.deeds.subset revoked, (shut.later onwards).closed⟩

end Assured

/-! ## Runs -/

section Runs

variable {ι : Type} [DecidableEq ι] (env : Env) (calls : ι → KeyCall)

/-- The write is that of a call which has had a turn. -/
def DoneIn (turns : List ι) (deed : Deed) : Prop := ∃ i ∈ turns, (calls i).Does deed

theorem recorded_exec (turns : List ι) :
    ((keyCalls env calls).exec turns).shared.Recorded env (DoneIn calls turns) := by
  let Keeps (before after : KeyRing) : Prop :=
    before.Recorded env (DoneIn calls turns) → after.Recorded env (DoneIn calls turns)
  have start : KeyRing.empty.Recorded env (DoneIn calls turns) :=
    ⟨List.nodup_nil, .empty, fun _ member => absurd member List.not_mem_nil⟩
  have keeps : Keeps (keyCalls env calls).shared ((keyCalls env calls).exec turns).shared := by
    refine Pool.exec_guarantee_of_mem (R := Keeps) (fun _ => id)
      (fun first second => second ∘ first) fun i turn => ?_
    exact (guarantees_keyCall (calls i) fun deed does => ⟨i, turn, does⟩).mono
      fun _ _ move => KeyMove.recorded move
  exact keeps start

theorem worn_exec (turns later : List ι) :
    ((keyCalls env calls).exec turns).shared.Worn
      ((keyCalls env calls).exec (turns ++ later)).shared := by
  rw [Pool.exec_append]
  refine Pool.exec_guarantee worn_refl (fun first second => first.trans second) ?_ later
  intro i
  refine Pool.guarantees_exec (j := i) ?_ turns
  have moves : ((calls i).prog env).Guarantees (KeyMove env fun _ => True) :=
    guarantees_keyCall (calls i) fun _ _ => trivial
  exact moves.mono fun _ _ move => move.worn

theorem numbered_empty : KeyRing.empty.Numbered :=
  ⟨fun _ member => absurd member List.not_mem_nil, List.nodup_nil⟩

theorem done_of_answered {early late : List ι} {i : ι} {answer : KeyAnswer}
    (waits : ((keyCalls env calls).exec early).threads i = (calls i).prog env)
    (answered : ((keyCalls env calls).exec (early ++ late)).threads i = .halt (.ok answer)) :
    (calls i).Done env ((keyCalls env calls).exec early).shared
      ((keyCalls env calls).exec (early ++ late)).shared answer := by
  have all := fun j => assures_keyCall env (calls j) numbered_empty
  have moved : KeyRing.Later (keyCalls env calls).shared ((keyCalls env calls).exec early).shared :=
    (Pool.assures_exec .trans .refl all early).1
  have own : (((keyCalls env calls).exec early).threads i).Assures KeyRing.Later
      (fun given now => (calls i).Done env ((keyCalls env calls).exec early).shared now given)
      ((keyCalls env calls).exec early).shared := by
    rw [waits]
    exact assures_keyCall env (calls i) (moved.numbered numbered_empty)
  exact Pool.assured_from .trans .refl all own answered

variable (rawKey : String)

/-- **The life of a key.**  In every run of the calls, and at every time, a key is accepted
exactly when it was issued, nothing has been applied to its row since, and its date has not
come; it is accepted for the account and with the rights it was issued for; and an issued key
that is refused stays refused.  What has been issued and applied is the work of the calls, and
a call that has answered has done it. -/
theorem verifyApiKey_lifecycle (collisionFree : ∀ i, ∀ key ∈ (calls i).drawn,
      env.hashKey key = env.hashKey rawKey → key = rawKey) (turns : List ι) (now : ℤ) :
    let keyRing := ((keyCalls env calls).exec turns).shared
    ((∃ auth, keyRing.Accepts env now rawKey auth) ↔ ∃ issuedAt request,
      keyRing.Stands rawKey issuedAt request ∧
        ∀ expiry ∈ expiryOf env issuedAt request, now < expiry) ∧
    (∀ auth, keyRing.Accepts env now rawKey auth → ∀ keyId issuedAt request,
      .issued keyId issuedAt rawKey request ∈ keyRing.deeds →
        auth.accountId = request.accountId ∧ auth.isAdmin = request.isAdmin) ∧
    (keyRing.Issued rawKey → (¬ ∃ auth, keyRing.Accepts env now rawKey auth) →
      ∀ later now', now ≤ now' → ¬ ∃ auth,
        ((keyCalls env calls).exec (turns ++ later)).shared.Accepts env now' rawKey auth) ∧
    (∀ deed ∈ keyRing.deeds, ∃ i ∈ turns, (calls i).Does deed) ∧
    ∀ i later answer, ((keyCalls env calls).exec turns).threads i = (calls i).prog env →
      ((keyCalls env calls).exec (turns ++ later)).threads i = .halt (.ok answer) →
        (calls i).Done env keyRing ((keyCalls env calls).exec (turns ++ later)).shared answer := by
  intro keyRing
  have recorded := recorded_exec env calls turns
  refine ⟨recorded.accepts_iff ?_, ?_, ?_, recorded.named, ?_⟩
  · intro keyId issuedAt key request done
    obtain ⟨i, _, does⟩ := done
    exact collisionFree i key does.drawn
  · exact fun auth accepts keyId issuedAt request issued => recorded.scope accepts issued
  · intro issued refused later now' ordered
    have recordedAlso := recorded_exec env calls (turns ++ later)
    exact recorded.refused_later recordedAlso (worn_exec env calls turns later) issued refused
      ordered
  · exact fun i later answer waits answered => done_of_answered env calls waits answered

end Runs

def ours : KeyRequest := { accountId := some "acc" }

/-- Three keys of an account: one is forced to rotate, one is revoked and one is rotated. -/
def rotated : ℕ → KeyCall
  | 0 => .issueApiKey 0 "first" ours
  | 1 => .issueApiKey 0 "second" ours
  | 2 => .issueApiKey 0 "third" ours
  | 3 => .forceRotateKey 1
  | 4 => .revokeApiKey 10 2 none
  | _ => .rotateKey ⟨none, true, none, none, false, none, none⟩ { keyId := 3 } 20 "fourth" 21

theorem verifyApiKey_lifecycle_rotated :
    (∀ key ∈ ["first", "second", "third"],
      (∃ auth, ((keyCalls ⟨{}, id⟩ rotated).exec [0, 1, 2]).shared.Accepts ⟨{}, id⟩ 9 key auth) ∧
        ∀ later now, 30 ≤ now → ¬ ∃ auth, ((keyCalls ⟨{}, id⟩ rotated).exec
          ([0, 1, 2, 3, 4, 3, 4, 5, 5, 5, 5] ++ later)).shared.Accepts ⟨{}, id⟩ now key auth) ∧
    (∃ auth, ((keyCalls ⟨{}, id⟩ rotated).exec [0, 1, 2, 3, 4, 3, 4, 5, 5, 5, 5]).shared.Accepts
      ⟨{}, id⟩ 30 "fourth" auth ∧ auth.accountId = some "acc" ∧ auth.isAdmin = false) ∧
    ((keyCalls ⟨{}, id⟩ rotated).exec [0, 1, 2, 3, 4, 3, 4, 5, 5, 5, 5]).shared.Closed
      ⟨{}, id⟩ 1 := by
  have early key := verifyApiKey_lifecycle ⟨{}, id⟩ rotated key (fun _ _ _ same => same) [0, 1, 2]
  have late key := verifyApiKey_lifecycle ⟨{}, id⟩ rotated key (fun _ _ _ same => same)
    [0, 1, 2, 3, 4, 3, 4, 5, 5, 5, 5]
  refine ⟨List.forall_mem_cons.mpr ⟨⟨?_, (late "first" 30).2.2.1 ⟨1, 0, ours, ?_⟩ ?_⟩,
    List.forall_mem_cons.mpr ⟨⟨?_, (late "second" 30).2.2.1 ⟨2, 0, ours, ?_⟩ ?_⟩,
    List.forall_mem_singleton.mpr ⟨?_, (late "third" 30).2.2.1 ⟨3, 0, ours, ?_⟩ ?_⟩⟩⟩, ?_, ?_⟩
  · exact (early "first" 9).1.mpr ⟨0, ours, ⟨1, [], _, rfl, by decide, by decide⟩, by decide⟩
  · exact .head _
  · intro held
    rcases held with ⟨auth, after, verified⟩
    cases verified
  · exact (early "second" 9).1.mpr ⟨0, ours, ⟨2, [_], _, rfl, by decide, by decide⟩, by decide⟩
  · exact .tail _ (.head _)
  · intro held
    rcases held with ⟨auth, after, verified⟩
    cases verified
  · exact (early "third" 9).1.mpr ⟨0, ours, ⟨3, [_, _], _, rfl, by decide, by decide⟩, by decide⟩
  · exact .tail _ (.tail _ (.head _))
  · intro held
    rcases held with ⟨auth, after, verified⟩
    cases verified
  · let request : KeyRequest := { ours with
      label := some "rotated key", issuedBy := some "admin", replacesKeyId := some 3 }
    obtain ⟨auth, accepts⟩ := (late "fourth" 30).1.mpr
      ⟨20, request, ⟨4, [_, _, _, _, _], _, rfl, by decide, by decide⟩, by decide⟩
    refine ⟨auth, accepts, (late "fourth" 30).2.1 auth accepts 4 20 request ?_⟩
    exact .tail _ (.tail _ (.tail _ (.tail _ (.tail _ (.head _)))))
  · exact (((early "first" 9).2.2.2.2 3 [3, 4, 3, 4, 5, 5, 5, 5] (.flag true) rfl rfl).2 rfl).2

end Aegis.Subscriptions

import Mathlib.Order.Lattice
import Aegis.Lib.Run

/-!
# Keys that live as long as they are used

Every use of a key sets its time to live anew, so the key goes away after a pause that is as long
as that, with all that the uses before the pause have left in it.

`uses` are the uses since the last such pause, and `live` those of them that a look finds.
`seen_exec` is the rule for runs: a store of such keys, each used at its own times, shows of a
key what its live uses make.
-/

namespace Aegis.Lib.Lease

variable {T U O σ κ : Type*} [LinearOrder T] [Add T] (time : U → T) (ttl : T)

/-- Nothing, if the time to live has passed since the last use. -/
def live (now : T) (uses : List U) : List U :=
  if uses.getLast?.all fun last => now < time last + ttl then uses else []

/-- The uses with one more. -/
def touch (uses : List U) (use : U) : List U := live time ttl (time use) uses ++ [use]

def uses (all : List U) : List U := exec (touch time ttl) [] all

variable {time ttl} {now since : T} {earlier all : List U} {use : U} {put : O → U → O} {missing : O}

theorem live_concat :
    live time ttl now (earlier ++ [use]) =
      if now < time use + ttl then earlier ++ [use] else [] := by
  rw [live, List.getLast?_concat]
  simp only [Option.all_some, decide_eq_true_eq]

/-- The last use is always among them. -/
theorem getLast?_uses : (uses time ttl all).getLast? = all.getLast? := by
  rcases List.eq_nil_or_concat all with rfl | ⟨before, use, rfl⟩
  · rfl
  · rw [List.concat_eq_append, uses, exec_concat, touch, List.getLast?_concat,
      List.getLast?_concat]

theorem getLast?_live : (live time ttl now earlier).getLast? =
    earlier.getLast?.filter fun last => now < time last + ttl := by
  rcases List.eq_nil_or_concat earlier with rfl | ⟨before, use, rfl⟩
  · rfl
  · rw [List.concat_eq_append, live_concat, List.getLast?_concat, Option.filter_some]
    simp only [decide_eq_true_eq]
    split
    · exact List.getLast?_concat
    · rfl

theorem live_suffix : live time ttl now earlier <:+ earlier := by
  unfold live
  split
  · exact List.suffix_rfl
  · exact List.nil_suffix

/-- What is left are the last ones. -/
theorem uses_suffix : uses time ttl all <:+ all := by
  induction all using List.reverseRecOn with
  | nil => exact List.suffix_rfl
  | append_singleton before use ih =>
      rw [uses, exec_concat, touch, ← uses]
      have kept : live time ttl (time use) (uses time ttl before) <:+ before := live_suffix.trans ih
      obtain ⟨old, split⟩ := kept
      refine ⟨old, ?_⟩
      rw [← List.append_assoc, split]

/-- From the time on, the key shows what its live uses make. -/
def Shows (time : U → T) (ttl : T) (put : O → U → O) (missing : O) (since : T) (uses : List U)
    (seen : T → O) : Prop :=
  ∀ now, since ≤ now → seen now = (live time ttl now uses).foldl put missing

theorem Shows.touch {seen after : T → O} (shows : Shows time ttl put missing since earlier seen)
    (later : since ≤ time use) (used : ∀ now, time use ≤ now → after now =
      if now < time use + ttl then put (seen (time use)) use else missing) :
    Shows time ttl put missing (time use) (touch time ttl earlier use) after := by
  intro now le
  rw [used now le, Lease.touch, live_concat, shows _ later]
  split
  · rw [List.foldl_append, List.foldl_cons, List.foldl_nil]
  · rfl

theorem Shows.mono {seen : T → O} {since' : T}
    (shows : Shows time ttl put missing since earlier seen) (later : since ≤ since') :
    Shows time ttl put missing since' earlier seen :=
  fun now le => shows now (later.trans le)

variable [DecidableEq κ] {key : U → κ} {step : σ → U → σ} {seen : σ → κ → T → O} {start : σ}

/-- **Runs.**  A use counts for its key and for no other. -/
theorem seen_exec
    (own : ∀ use ∈ all, ∀ s now, time use ≤ now → seen (step s use) (key use) now =
      if now < time use + ttl then put (seen s (key use) (time use)) use else missing)
    (other : ∀ s use k, k ≠ key use → seen (step s use) k = seen s k)
    (fresh : ∀ k now, seen start k now = missing)
    (clock : all.Pairwise fun early late => time early ≤ time late)
    (past : ∀ use ∈ all, time use ≤ now) (k : κ) :
    seen (exec step start all) k now =
      (live time ttl now (uses time ttl (all.filter fun use => key use = k))).foldl put
        missing := by
  have shows : ∀ since, (∀ use ∈ all, time use ≤ since) →
      Shows time ttl put missing since (uses time ttl (all.filter fun use => key use = k))
        (seen (exec step start all) k) := by
    clear past
    induction all using List.reverseRecOn with
    | nil => exact fun since _ now _ => fresh k now
    | append_singleton before use ih =>
        obtain ⟨clock, _, last⟩ := List.pairwise_append.mp clock
        obtain ⟨own, final⟩ := List.forall_mem_append.mp own
        have final := final use (List.mem_singleton_self _)
        intro since past
        have now := past use (List.mem_append_right _ (List.mem_singleton_self _))
        have upTo := ih own clock (time use) fun early member =>
          last early member use (List.mem_singleton_self _)
        rw [exec_concat, List.filter_append]
        by_cases mine : key use = k
        · cases mine
          have counted : [use].filter (fun other => key other = key use) = [use] :=
            List.filter_cons_of_pos (decide_eq_true rfl)
          rw [counted, uses, exec_concat]
          exact (upTo.touch le_rfl (final _)).mono now
        · have skipped : [use].filter (fun other => key other = k) = [] :=
            List.filter_cons_of_neg (by simpa using mine)
          rw [skipped, List.append_nil, other _ use k (Ne.symm mine)]
          exact upTo.mono now
  exact shows now past now le_rfl

end Aegis.Lib.Lease

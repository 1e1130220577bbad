import Mathlib.Algebra.BigOperators.Group.Finset.Basic
import Mathlib.Algebra.Order.BigOperators.Group.Finset
import Mathlib.Data.Finset.Dedup
import Mathlib.Data.Finset.Max
import Mathlib.Data.Fintype.Card
import Mathlib.Data.List.Count

/-!
# Sliding windows

A limiter that counts the earlier requests which lie in the window of a request, refused ones
included, and admits the request when they are fewer than its limit.  Requests are known by
their times.

`card_admitted_le` bounds what is admitted in any window.  A refusal is justified when the limit
has been used up by admitted requests; `justified_iff_spaced` says for which requests every
refusal is.  Where one of several limiters decides on each request, `length_le_of_each` puts their
bounds together.

With a cooldown instead of a limit, each time is some way after the one before it;
`length_le_of_cooldown` is the bound for these.
-/

namespace Aegis.Lib

variable {T : Type*} [LinearOrder T]

/-- Which earlier times lie in the window of a time. -/
structure Window (T : Type*) [LinearOrder T] where
  holds : T → T → Bool
  /-- a window reaches back to one point -/
  later : ∀ {now s t}, holds now s → s ≤ t → holds now t
  /-- what a window holds an earlier one has held -/
  earlier : ∀ {now before s}, holds now s → before ≤ now → holds before s

namespace Window

variable (window : Window T) (limit : ℕ) (times : Finset T)

/-- The earlier requests in the window. -/
def recent (now : T) : Finset T := times.filter fun s => s < now ∧ window.holds now s

def Admits (now : T) : Prop := (window.recent times now).card < limit

instance : DecidablePred (window.Admits limit times) := fun _ => Nat.decLt _ _

/-- What is refused finds the limit used up by admitted requests. -/
def Justified : Prop :=
  ∀ now ∈ times, ¬ window.Admits limit times now →
    limit ≤ ((window.recent times now).filter (window.Admits limit times)).card

/-- When a request is refused after another that is still in its window, the window holds enough
requests from before that other one. -/
def Spaced : Prop :=
  ∀ now ∈ times, ∀ before ∈ window.recent times now, ¬ window.Admits limit times before →
    ¬ window.Admits limit times now → limit ≤ ((window.recent times now).filter (· < before)).card

instance : Decidable (window.Spaced limit times) := Finset.decidableDforallFinset

variable {window limit times} {now s t : T} {others : Finset T}

theorem mem_recent : s ∈ window.recent times now ↔
    s ∈ times ∧ s < now ∧ window.holds now s = true := by
  rw [recent, Finset.mem_filter]

/-- What is recent at a time is so at an earlier one. -/
theorem recent_of_recent (recent : s ∈ window.recent times now) (before : s < t) (le : t ≤ now) :
    s ∈ window.recent times t := by
  obtain ⟨member, _, held⟩ := mem_recent.mp recent
  exact mem_recent.mpr ⟨member, before, window.earlier held le⟩

/-- Requests at and after a time do not matter to it. -/
theorem recent_congr (same : ∀ s < now, s ∈ times ↔ s ∈ others) :
    window.recent times now = window.recent others now := by
  ext s
  rw [mem_recent, mem_recent]
  refine ⟨fun held => ?_, fun held => ?_⟩
  · exact ⟨(same s held.2.1).mp held.1, held.2⟩
  · exact ⟨(same s held.2.1).mpr held.1, held.2⟩

theorem admits_congr (same : ∀ s < now, s ∈ times ↔ s ∈ others) :
    window.Admits limit times now ↔ window.Admits limit others now := by
  rw [Admits, Admits, recent_congr same]

/-- **Bound.**  No window has more admitted requests than the limit. -/
theorem card_admitted_le (now : T) :
    (times.filter fun s =>
      window.Admits limit times s ∧ s ≤ now ∧ window.holds now s).card ≤ limit := by
  generalize listed : (times.filter fun s =>
    window.Admits limit times s ∧ s ≤ now ∧ window.holds now s) = admitted
  have about : ∀ s ∈ admitted, s ∈ times ∧ window.Admits limit times s ∧ s ≤ now ∧
      window.holds now s = true := by
    intro s member
    rwa [← listed, Finset.mem_filter] at member
  rcases admitted.eq_empty_or_nonempty with rfl | nonempty
  · exact Nat.zero_le _
  · -- The last of them has counted the others.
    obtain ⟨last, member, greatest⟩ := admitted.exists_max_image id nonempty
    obtain ⟨_, admits, within, _⟩ := about last member
    have counted : admitted.erase last ⊆ window.recent times last := by
      intro s other
      obtain ⟨apart, also⟩ := Finset.mem_erase.mp other
      obtain ⟨requested, _, _, held⟩ := about s also
      exact mem_recent.mpr ⟨requested, lt_of_le_of_ne (greatest s also) apart,
        window.earlier held within⟩
    have fewer : (admitted.erase last).card < limit :=
      (Finset.card_le_card counted).trans_lt admits
    rw [Finset.card_erase_of_mem member] at fewer
    omega

/-- The same for lists. -/
theorem length_admitted_le {times admitted : List T} (distinct : times.Nodup)
    (part : admitted.Sublist (times.filter (window.Admits limit times.toFinset)))
    (within : ∀ s ∈ admitted, s ≤ now ∧ window.holds now s = true) : admitted.length ≤ limit := by
  have apart : admitted.Nodup := (distinct.filter _).sublist part
  rw [← List.toFinset_card_of_nodup apart]
  refine (Finset.card_le_card fun s member => ?_).trans
    (@card_admitted_le _ _ window limit times.toFinset now)
  rw [List.mem_toFinset] at member
  obtain ⟨requested, admits⟩ := List.mem_filter.mp (part.subset member)
  exact Finset.mem_filter.mpr
    ⟨List.mem_toFinset.mpr requested, of_decide_eq_true admits, within s member⟩

/-- Admitted requests that use the limit up are all older than any refused one beside them. -/
theorem older_of_full {before : T} (recent : before ∈ window.recent times now)
    (refused : ¬ window.Admits limit times before)
    (full : limit ≤ ((window.recent times now).filter (window.Admits limit times)).card) :
    ∀ s ∈ (window.recent times now).filter (window.Admits limit times), s < before := by
  generalize listed : (window.recent times now).filter (window.Admits limit times) = admitted
  rw [listed] at full
  have about : ∀ s ∈ admitted, s ∈ window.recent times now ∧ window.Admits limit times s := by
    intro s member
    rwa [← listed, Finset.mem_filter] at member
  intro s member
  by_contra! younger
  -- The last admitted one would have counted all the others and the refused one.
  obtain ⟨last, lastAdmitted, greatest⟩ := admitted.exists_max_image id ⟨s, member⟩
  obtain ⟨lastRecent, admits⟩ := about last lastAdmitted
  have apart : before ≠ last := by
    intro same
    exact refused (same ▸ admits)
  have past : before < last := lt_of_le_of_ne (younger.trans (greatest s member)) apart
  have bound := (mem_recent.mp lastRecent).2.1.le
  have counted : insert before (admitted.erase last) ⊆ window.recent times last := by
    intro u other
    rcases Finset.mem_insert.mp other with rfl | rest
    · exact recent_of_recent recent past bound
    · obtain ⟨different, also⟩ := Finset.mem_erase.mp rest
      exact recent_of_recent (about u also).1 (lt_of_le_of_ne (greatest u also) different) bound
  have new : before ∉ admitted.erase last :=
    fun other => refused (about before (Finset.mem_of_mem_erase other)).2
  have many := Finset.card_le_card counted
  have few : (window.recent times last).card < limit := admits
  rw [Finset.card_insert_of_notMem new, Finset.card_erase_of_mem lastAdmitted] at many
  omega

/-- **Refusals** are justified exactly when the requests are spaced. -/
theorem justified_iff_spaced : window.Justified limit times ↔ window.Spaced limit times := by
  refine ⟨fun justified now member before recent refusedBefore refused => ?_,
    fun spaced now member refused => ?_⟩
  · have full := justified now member refused
    have older := older_of_full recent refusedBefore full
    refine full.trans (Finset.card_le_card fun s admitted => ?_)
    exact Finset.mem_filter.mpr ⟨(Finset.mem_filter.mp admitted).1, older s admitted⟩
  · rcases ((window.recent times now).filter fun s =>
        ¬ window.Admits limit times s).eq_empty_or_nonempty with none | some
    · -- Nothing was refused: the window is full of admitted requests.
      have all : (window.recent times now).filter (window.Admits limit times) =
          window.recent times now := by
        refine Finset.filter_eq_self.mpr fun s recent => ?_
        by_contra refusedToo
        exact Finset.notMem_empty s (none ▸ Finset.mem_filter.mpr ⟨recent, refusedToo⟩)
      rw [all]
      exact not_lt.mp refused
    · -- All before the first refused one were admitted.
      obtain ⟨before, member', least⟩ := Finset.exists_min_image _ id some
      obtain ⟨recent, refusedBefore⟩ := Finset.mem_filter.mp member'
      refine (spaced now member before recent refusedBefore refused).trans
        (Finset.card_le_card fun s older => ?_)
      obtain ⟨alsoRecent, less⟩ := Finset.mem_filter.mp older
      refine Finset.mem_filter.mpr ⟨alsoRecent, ?_⟩
      by_contra refusedToo
      exact absurd (least s (Finset.mem_filter.mpr ⟨alsoRecent, refusedToo⟩)) (not_le.mpr less)

end Window

/-- **Bound**, for several limiters with one limit. -/
theorem length_le_of_each {ρ κ : Type*} [Fintype κ] [DecidableEq κ] {counter : ρ → κ}
    {passed : List ρ} {limit : ℕ}
    (each : ∀ k, (passed.filter fun request => counter request = k).length ≤ limit) :
    passed.length ≤ Fintype.card κ * limit := by
  have all : ∀ k ∈ (passed.map counter : Multiset κ), k ∈ (Finset.univ : Finset κ) :=
    fun k _ => Finset.mem_univ k
  calc passed.length = ∑ k, (passed.map counter).count k := by
        have total := Multiset.sum_count_eq_card all
        simp only [Multiset.coe_count, Multiset.coe_card, List.length_map] at total
        exact total.symm
    _ ≤ ∑ _k : κ, limit := by
        refine Finset.sum_le_sum fun k _ => ?_
        have counted := each k
        rw [← List.countP_eq_length_filter] at counted
        rw [List.count, List.countP_map]
        exact counted
    _ = Fintype.card κ * limit := by simp

/-- **Bound**, for times that keep a distance. -/
theorem length_le_of_cooldown {gap low high : ℤ} (positive : 0 < gap) (low_le : low ≤ high)
    {times : List ℤ} (apart : times.Pairwise fun earlier later => earlier + gap ≤ later)
    (within : ∀ t ∈ times, low ≤ t ∧ t ≤ high) :
    (times.length : ℤ) ≤ (high - low) / gap + 1 := by
  have room : times.length * gap ≤ high - low + gap := by
    have some : low ≤ high + gap := by omega
    clear low_le
    induction times generalizing low with
    | nil =>
        rw [List.length_nil, Int.natCast_zero, Int.zero_mul]
        omega
    | cons first rest ih =>
        obtain ⟨after, apart⟩ := List.pairwise_cons.mp apart
        obtain ⟨⟨lowFirst, firstHigh⟩, later⟩ := List.forall_mem_cons.mp within
        have spread := @ih (first + gap) apart
          (fun t member => ⟨after t member, (later t member).2⟩) (by omega)
        rw [List.length_cons, Int.natCast_succ, Int.add_mul, Int.one_mul]
        omega
  rw [← Int.add_mul_ediv_right _ _ positive.ne', Int.one_mul]
  exact (Int.le_ediv_iff_mul_le positive).mpr room

end Aegis.Lib

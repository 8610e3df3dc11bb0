import LoadingCheck.Regex.Match
import Mathlib.Data.Finset.Card
import Mathlib.Order.Monotone.Basic

set_option relaxedAutoImplicit false
set_option autoImplicit false

/-!
# Sets of places

The places of a text that a match can end at are the bits of a natural number. A function on such sets does
what a relation between places does if it takes each set to the places that the relation leads to. Functions
are put together as relations are: one behind the other, side by side, and again and again until nothing
changes.

## Main definitions

* `LoadingCheck.Regex.Within` — the places of a set are those of a text.
* `LoadingCheck.Regex.Carries` — a function on sets does what a relation does.
* `LoadingCheck.Regex.Steps` — so many steps of a relation.

## Main results

* `LoadingCheck.Regex.Carries.comp`, `LoadingCheck.Regex.Carries.union`,
  `LoadingCheck.Regex.carries_iterate` — functions put together.
* `LoadingCheck.Regex.carries_reachable` — at most so many steps.
* `LoadingCheck.Regex.carries_closure` — as many steps as there are places stand for any number of them.
-/

namespace LoadingCheck.Regex

/-- The places of a set are at most `n`. -/
def Within (n s : ℕ) : Prop :=
  ∀ i, s.testBit i = true → i ≤ n

/-- A function on sets of the places up to `n` takes each set to the places that a relation leads to from it, and
the relation does not leave these places. -/
structure Carries (n : ℕ) (f : ℕ → ℕ) (r : ℕ → ℕ → Prop) : Prop where
  inside : ∀ {i j}, i ≤ n → r i j → j ≤ n
  mem_iff : ∀ {s}, Within n s → ∀ j, (f s).testBit j = true ↔ ∃ i, s.testBit i = true ∧ r i j

section

variable {n s : ℕ} {f g : ℕ → ℕ} {r q : ℕ → ℕ → Prop}

lemma Carries.within (h : Carries n f r) (hs : Within n s) : Within n (f s) := by
  intro j hj
  obtain ⟨i, hi, step⟩ := (h.mem_iff hs j).mp hj
  exact h.inside (hs i hi) step

/-- Relations that agree on the places are carried alike. -/
lemma Carries.congr (h : Carries n f r) (same : ∀ i j, i ≤ n → (r i j ↔ q i j)) : Carries n f q where
  inside hi step := h.inside hi ((same _ _ hi).mpr step)
  mem_iff hs j := by
    rw [h.mem_iff hs j]
    exact exists_congr fun i => and_congr_right fun hi => same i j (hs i hi)

/-! ### Functions put together -/

/-- Nothing is done. -/
lemma carries_id (n : ℕ) : Carries n (fun s => s) Eq where
  inside hi same := same ▸ hi
  mem_iff _ j := by simp

/-- All places are left out. -/
lemma carries_zero (n : ℕ) : Carries n (fun _ => 0) fun _ _ => False where
  inside _ step := step.elim
  mem_iff _ j := by simp

/-- The places of a set stay, and others are left out. -/
lemma carries_and {places : ℕ} {p : ℕ → Prop} (h : ∀ i ≤ n, places.testBit i = true ↔ p i) :
    Carries n (fun s => s &&& places) fun i j => p i ∧ i = j where
  inside hi step := step.2 ▸ hi
  mem_iff hs j := by
    rw [Nat.testBit_and, Bool.and_eq_true]
    constructor
    · rintro ⟨hj, kept⟩
      exact ⟨j, hj, (h j (hs j hj)).mp kept, rfl⟩
    · rintro ⟨i, hi, kept, rfl⟩
      exact ⟨hi, (h i (hs i hi)).mpr kept⟩

/-- From each place to the next one. -/
lemma carries_shift {p : ℕ → Prop} (h : Carries n f fun i j => p i ∧ i = j) (last : ¬ p n) :
    Carries n (fun s => f s <<< 1) fun i j => p i ∧ j = i + 1 where
  inside {i j} hi step := by
    have differ : i ≠ n := by
      rintro rfl
      exact last step.1
    omega
  mem_iff hs j := by
    cases j with
    | zero => simp
    | succ j =>
      rw [Nat.testBit_shiftLeft, Bool.and_eq_true, Nat.add_sub_cancel, h.mem_iff hs j]
      simp only [decide_eq_true_eq]
      constructor
      · rintro ⟨_, i, hi, kept, rfl⟩
        exact ⟨i, hi, kept, rfl⟩
      · rintro ⟨i, hi, kept, next⟩
        exact ⟨by omega, i, hi, kept, by omega⟩

/-- One function behind the other. -/
lemma Carries.comp (hf : Carries n f r) (hg : Carries n g q) :
    Carries n (fun s => g (f s)) fun i j => ∃ k, r i k ∧ q k j where
  inside hi step := by
    obtain ⟨k, first, second⟩ := step
    exact hg.inside (hf.inside hi first) second
  mem_iff hs j := by
    rw [hg.mem_iff (hf.within hs) j]
    constructor
    · rintro ⟨k, hk, second⟩
      obtain ⟨i, hi, first⟩ := (hf.mem_iff hs k).mp hk
      exact ⟨i, hi, k, first, second⟩
    · rintro ⟨i, hi, k, first, second⟩
      exact ⟨k, (hf.mem_iff hs k).mpr ⟨i, hi, first⟩, second⟩

/-- Two functions side by side. -/
lemma Carries.union (hf : Carries n f r) (hg : Carries n g q) :
    Carries n (fun s => f s ||| g s) fun i j => r i j ∨ q i j where
  inside hi step := step.elim (hf.inside hi) (hg.inside hi)
  mem_iff hs j := by
    rw [Nat.testBit_or, Bool.or_eq_true, hf.mem_iff hs j, hg.mem_iff hs j, ← exists_or]
    exact exists_congr fun i => and_or_left.symm

/-! ### Steps -/

/-- So many steps of a relation lead from one place to another. -/
def Steps (r : ℕ → ℕ → Prop) : (times : ℕ) → ℕ → ℕ → Prop
  | 0, i, j => i = j
  | times + 1, i, j => ∃ k, Steps r times i k ∧ r k j

lemma steps_add {times more i j : ℕ} :
    Steps r (times + more) i j ↔ ∃ k, Steps r times i k ∧ Steps r more k j := by
  induction more generalizing j with
  | zero => simp [Steps]
  | succ more ih =>
    rw [← Nat.add_assoc, Steps]
    simp only [Steps, ih]
    constructor
    · rintro ⟨l, ⟨k, first, second⟩, last⟩
      exact ⟨k, first, l, second, last⟩
    · rintro ⟨k, first, l, second, last⟩
      exact ⟨l, ⟨k, first, second⟩, last⟩

/-- Steps that may also stay are fewer steps. -/
lemma steps_stay {times i j : ℕ} :
    Steps (fun i j => i = j ∨ r i j) times i j ↔ ∃ m ≤ times, Steps r m i j := by
  induction times generalizing j with
  | zero => simp [Steps]
  | succ times ih =>
    simp only [Steps, ih]
    constructor
    · rintro ⟨k, ⟨m, le, steps⟩, rfl | last⟩
      · exact ⟨m, by omega, steps⟩
      · exact ⟨m + 1, by omega, k, steps, last⟩
    · rintro ⟨m, le, steps⟩
      cases m with
      | zero => exact ⟨j, ⟨0, Nat.zero_le _, steps⟩, .inl rfl⟩
      | succ m =>
        obtain ⟨k, steps, last⟩ := steps
        exact ⟨k, ⟨m, by omega, steps⟩, .inr last⟩

/-- To stop when nothing changes is to go on. -/
lemma iterate_eq (f : ℕ → ℕ) (times s : ℕ) : iterate f times s = f^[times] s := by
  induction times generalizing s with
  | zero => rfl
  | succ times ih =>
    rw [iterate, Function.iterate_succ_apply]
    by_cases fixed : f s = s
    · rw [if_pos fixed, fixed, Function.iterate_fixed fixed]
    · rw [if_neg fixed, ih]

lemma carries_iterate (h : Carries n f r) (times : ℕ) : Carries n (iterate f times) (Steps r times) := by
  have all (times : ℕ) : Carries n f^[times] (Steps r times) := by
    induction times with
    | zero => exact carries_id n
    | succ times ih =>
      rw [Function.iterate_succ']
      exact ih.comp h
  rw [funext (iterate_eq f times)]
  exact all times

/-- At most so many steps. -/
lemma carries_reachable (h : Carries n f r) (times : ℕ) :
    Carries n (reachable f times) fun i j => ∃ m ≤ times, Steps r m i j :=
  (carries_iterate ((carries_id n).union h) times).congr fun _ _ _ => steps_stay

/-! ### Any number of steps -/

/-- The places of a set up to `n`. -/
def members (n s : ℕ) : Finset ℕ :=
  (Finset.range (n + 1)).filter fun i => s.testBit i = true

lemma mem_members {i : ℕ} (hs : Within n s) : i ∈ members n s ↔ s.testBit i = true := by
  rw [members, Finset.mem_filter, Finset.mem_range, and_iff_right_iff_imp]
  exact fun hi => Nat.lt_succ_of_le (hs i hi)

lemma eq_of_members_eq {t : ℕ} (hs : Within n s) (ht : Within n t) (h : members n s = members n t) :
    s = t := by
  refine Nat.eq_of_testBit_eq fun i => ?_
  rw [Bool.eq_iff_iff, ← mem_members hs, ← mem_members ht, h]

/-- **Any number of steps.** As many steps as there are places, or fewer, lead wherever steps lead.

**Proof sketch.** The sets after `m` steps or fewer grow with `m`. If one of them is the next one too, no step
leads out of it. So each has one place more than the last until they no longer change, which is after at most
`n + 1` steps because there are `n + 1` places. -/
lemma carries_closure (h : Carries n f r) :
    Carries n (reachable f (n + 1)) fun i j => ∃ m, Steps r m i j := by
  have stays (m : ℕ) := carries_reachable h m
  refine ⟨fun hi ⟨m, steps⟩ => (stays m).inside hi ⟨m, le_rfl, steps⟩, fun {s} hs j => ?_⟩
  set t : ℕ → ℕ := fun m => reachable f m s with ht
  have within (m : ℕ) : Within n (t m) := (stays m).within hs
  have grows {m m' : ℕ} (le : m ≤ m') : members n (t m) ⊆ members n (t m') := by
    intro i hi
    obtain ⟨k, hk, l, fewer, steps⟩ := ((stays m).mem_iff hs i).mp ((mem_members (within m)).mp hi)
    exact (mem_members (within m')).mpr (((stays m').mem_iff hs i).mpr ⟨k, hk, l, fewer.trans le, steps⟩)
  have next (m : ℕ) : t (m + 1) = t m ||| f (t m) := by
    simp only [ht, LoadingCheck.Regex.reachable, iterate_eq, Function.iterate_succ_apply']
  have settled (m : ℕ) (le : n + 1 ≤ m) : (members n (t m)).card = (members n (t (n + 1))).card := by
    refine Nat.stabilises_of_monotone (fun m m' le => Finset.card_le_card (grows le)) (fun m => ?_)
      (fun m same => ?_) le
    · exact (Finset.card_filter_le _ _).trans (Finset.card_range _).le
    · have fixed : t m = t (m + 1) := eq_of_members_eq (within m) (within (m + 1))
        (Finset.eq_of_subset_of_card_le (grows m.le_succ) same.ge)
      rw [next (m + 1), ← fixed, ← next m, ← fixed]
  rw [(stays (n + 1)).mem_iff hs j]
  constructor
  · rintro ⟨i, hi, m, _, steps⟩
    exact ⟨i, hi, m, steps⟩
  · rintro ⟨i, hi, m, steps⟩
    have reached : j ∈ members n (t (max m (n + 1))) := by
      rw [mem_members (within _)]
      exact ((stays _).mem_iff hs j).mpr ⟨i, hi, m, le_max_left _ _, steps⟩
    rw [← Finset.eq_of_subset_of_card_le (grows (le_max_right m (n + 1)))
      (settled _ (le_max_right _ _)).le, mem_members (within _)] at reached
    exact ((stays (n + 1)).mem_iff hs j).mp reached

end

end LoadingCheck.Regex

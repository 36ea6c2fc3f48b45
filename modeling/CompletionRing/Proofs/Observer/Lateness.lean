import CompletionRing.Proofs.Observer.Matching
import Mathlib.Data.List.GetD
import Mathlib.Data.List.Induction

/-!
# Late successes

Counters compare the number of a success with the last number that came before, not with all of
them. So they count the places where the numbers go down. A success that is late because of an
earlier one, and yet higher than the one right before it, is not counted; but if any success is
late then some are counted.
-/

namespace CompletionRing.Telemetry

/-- Is the number at this position lower than some number before it? -/
def IsLate (numbers : List UInt32) (i : Nat) : Prop :=
  ∃ j < i, numbers.getD i 0 < numbers.getD j 0

/-- Is it lower than the number right before it? -/
def IsDescent (numbers : List UInt32) (i : Nat) : Prop :=
  0 < i ∧ numbers.getD i 0 < numbers.getD (i - 1) 0

instance (numbers : List UInt32) : DecidablePred (IsLate numbers) :=
  fun i => inferInstanceAs (Decidable (∃ j < i, numbers.getD i 0 < numbers.getD j 0))

instance (numbers : List UInt32) : DecidablePred (IsDescent numbers) :=
  fun i => inferInstanceAs (Decidable (0 < i ∧ numbers.getD i 0 < numbers.getD (i - 1) 0))

/-- The positions of the numbers that come late. -/
def late (numbers : List UInt32) : List Nat :=
  (List.range numbers.length).filter (IsLate numbers ·)

/-- The positions where the numbers go down. -/
def descents (numbers : List UInt32) : List Nat :=
  (List.range numbers.length).filter (IsDescent numbers ·)

variable {numbers : List UInt32} {number : UInt32} {i : Nat}

/-! ### Positions -/

lemma mem_late : i ∈ late numbers ↔ i < numbers.length ∧ IsLate numbers i := by
  rw [late, List.mem_filter, List.mem_range, decide_eq_true_eq]

lemma mem_descents : i ∈ descents numbers ↔ i < numbers.length ∧ IsDescent numbers i := by
  rw [descents, List.mem_filter, List.mem_range, decide_eq_true_eq]

lemma IsDescent.isLate (h : IsDescent numbers i) : IsLate numbers i :=
  ⟨i - 1, Nat.sub_one_lt_of_lt h.1, h.2⟩

/-- Where nothing late came before, a number that is late is lower than the one right before it. -/
lemma IsLate.isDescent (h : IsLate numbers i) (hfirst : ∀ j < i, ¬IsLate numbers j) :
    IsDescent numbers i := by
  obtain ⟨j, hj, hlt⟩ := h
  have hpos : 0 < i := Nat.zero_lt_of_lt hj
  refine ⟨hpos, ?_⟩
  rcases Nat.lt_or_eq_of_le (Nat.le_sub_one_of_lt hj) with hbefore | rfl
  · have hle : ¬numbers.getD (i - 1) 0 < numbers.getD j 0 := by
      intro hdown
      exact hfirst (i - 1) (Nat.sub_one_lt_of_lt hpos) ⟨j, hbefore, hdown⟩
    exact UInt32.lt_of_lt_of_le hlt (UInt32.not_lt.mp hle)
  · exact hlt

lemma descents_sublist_late (numbers : List UInt32) : (descents numbers).Sublist (late numbers) := by
  apply List.monotone_filter_right
  intro i hdescent
  rw [decide_eq_true_eq] at hdescent ⊢
  exact hdescent.isLate

lemma descents_eq_late (hall : ∀ i ∈ late numbers, IsDescent numbers i) :
    descents numbers = late numbers := by
  apply List.filter_congr
  intro i hmem
  rw [decide_eq_decide]
  refine ⟨IsDescent.isLate, ?_⟩
  intro hlate
  exact hall i (mem_late.mpr ⟨List.mem_range.mp hmem, hlate⟩)

lemma descents_eq_nil_iff : descents numbers = [] ↔ late numbers = [] := by
  constructor
  · intro hnone
    have hnever : ∀ i, i < numbers.length → ¬IsLate numbers i := by
      intro i
      induction i using Nat.strongRecOn with
      | ind i ih =>
        intro hi hlate
        have hdescent := hlate.isDescent fun j hj => ih j hj (Nat.lt_trans hj hi)
        have hmem : i ∈ descents numbers := mem_descents.mpr ⟨hi, hdescent⟩
        rw [hnone] at hmem
        cases hmem
    rw [List.eq_nil_iff_forall_not_mem]
    intro i hmem
    obtain ⟨hi, hlate⟩ := mem_late.mp hmem
    exact hnever i hi hlate
  · intro hnone
    have hsublist := descents_sublist_late numbers
    rw [hnone] at hsublist
    exact List.sublist_nil.mp hsublist

/-! ### Counting -/

lemma isDescent_length : IsDescent (numbers ++ [number]) numbers.length ↔
    numbers.getLast?.any (number < ·) := by
  cases numbers using List.reverseRecOn with
  | nil => simp [IsDescent]
  | append_singleton before last => simp [IsDescent]

lemma descents_concat (numbers : List UInt32) (number : UInt32) :
    descents (numbers ++ [number]) =
      descents numbers ++ if numbers.getLast?.any (number < ·) then [numbers.length] else [] := by
  have hbefore : ∀ i ∈ List.range numbers.length,
      decide (IsDescent (numbers ++ [number]) i) = decide (IsDescent numbers i) := by
    intro i hmem
    have hi := List.mem_range.mp hmem
    rw [decide_eq_decide, IsDescent, IsDescent, List.getD_append _ _ _ _ hi,
      List.getD_append _ _ _ _ (Nat.lt_of_le_of_lt (Nat.sub_le i 1) hi)]
  rw [descents, List.length_append, List.length_singleton, List.range_succ, List.filter_append,
    List.filter_congr hbefore, List.filter_singleton, ← descents]
  simp only [isDescent_length, Bool.cond_decide]

lemma deliver_order (counts : Telemetry) (snapshot : Snapshot) :
    (counts.deliver snapshot).outOfOrder = (counts.countNumber snapshot.number).outOfOrder ∧
      (counts.deliver snapshot).lastNumber = (counts.countNumber snapshot.number).lastNumber := by
  obtain ⟨skipped, hfold, -⟩ := foldl_countSkipped
    ({ counts with successes := counts.successes + 1 }.countNumber snapshot.number) snapshot.skipped
  rw [deliver, hfold]
  cases snapshot.number <;> exact ⟨rfl, rfl⟩

lemma foldl_deliver (snapshots : List Snapshot) :
    (snapshots.foldl deliver .new).outOfOrder =
        (descents (snapshots.filterMap (·.number))).length ∧
      (snapshots.foldl deliver .new).lastNumber = (snapshots.filterMap (·.number)).getLast? := by
  induction snapshots using List.reverseRecOn with
  | nil => exact ⟨rfl, rfl⟩
  | append_singleton before snapshot ih =>
    obtain ⟨hcount, hlast⟩ := ih
    obtain ⟨horder, hnumber⟩ := deliver_order (before.foldl deliver .new) snapshot
    rw [List.foldl_concat, List.filterMap_append, horder, hnumber]
    cases hown : snapshot.number with
    | none =>
      rw [List.filterMap_cons_none hown, List.filterMap_nil, List.append_nil]
      exact ⟨hcount, hlast⟩
    | some number =>
      rw [List.filterMap_cons_some hown, List.filterMap_nil, descents_concat, List.length_append,
        List.getLast?_concat, countNumber, hcount, hlast]
      refine ⟨?_, rfl⟩
      split <;> rfl

/-- The counters count the numbers that are lower than the one right before. These are among the
numbers that come late, all of them just where no late number is higher than the one before it,
and none only if no number comes late. -/
theorem outOfOrder_eq (snapshots : List Snapshot) :
    let numbers := snapshots.filterMap (·.number)
    let counts := snapshots.foldl deliver .new
    counts.outOfOrder = (descents numbers).length ∧
    counts.outOfOrder ≤ (late numbers).length ∧
    (counts.outOfOrder = (late numbers).length ↔ ∀ i ∈ late numbers, IsDescent numbers i) ∧
    (counts.outOfOrder = 0 ↔ late numbers = []) := by
  intro numbers counts
  have hcount : counts.outOfOrder = (descents numbers).length := (foldl_deliver snapshots).1
  have hsublist := descents_sublist_late numbers
  refine ⟨hcount, hcount ▸ hsublist.length_le, ?_, ?_⟩
  · rw [hcount]
    refine ⟨?_, fun hall => congrArg List.length (descents_eq_late hall)⟩
    intro hlength i hmem
    rw [← hsublist.eq_of_length hlength] at hmem
    exact (mem_descents.mp hmem).2
  · rw [hcount, List.length_eq_zero_iff]
    exact descents_eq_nil_iff

/-- A success with the given number. -/
def success (number : UInt32) : Snapshot := ⟨0, some number, none, .successful, []⟩

/-- The third success is late because of the first one, but higher than the second one. -/
theorem late_not_counted :
    (([3, 1, 2].map success).foldl deliver .new).outOfOrder = 1 ∧
    late (([3, 1, 2].map success).filterMap (·.number)) = [1, 2] := by
  exact ⟨rfl, rfl⟩

end CompletionRing.Telemetry

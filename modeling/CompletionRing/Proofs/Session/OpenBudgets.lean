import CompletionRing.Proofs.Ring.Accounting
import CompletionRing.Proofs.Session.Budgets

/-!
# How many budgets are open

A watcher forgets the units that its ring no longer holds only when a poll finds as many budgets
open as the ring has slots. Those that are then left belong to different live units, and so does
the one that is charged, so there are never more of them than slots.
-/

namespace CompletionRing

lemma Ring.length_le_of_holds {ring : Ring} {sequences : List Nat} (hnodup : sequences.Nodup)
    (hlive : ∀ sequence ∈ sequences, ring.holds sequence) : sequences.length ≤ ring.capacity := by
  have hsubset : sequences ⊆ ring.window := by
    intro sequence hmem
    exact (Ring.holds_iff_mem_window.mp (hlive sequence hmem)).2
  have hlength := (List.subperm_of_subset hnodup hsubset).length_le
  rw [Ring.length_window] at hlength
  omega

namespace Watcher

variable {watcher watcher' : Watcher} {ring ring' : Ring} {held : Frame → Bool}
  {sequence other capacity : Nat} {verdict : Verdict}

/-- Are the open budgets those of different units, and no more than there is room for? -/
structure Fits (watcher : Watcher) (capacity : Nat) : Prop where
  nodup : (watcher.spent.map (·.1)).Nodup
  openBudgets_le : watcher.openBudgets ≤ capacity

lemma Fits.filter (hfits : watcher.Fits capacity) (p : Nat × Nat → Bool) :
    Fits { watcher with spent := watcher.spent.filter p } capacity where
  nodup := hfits.nodup.sublist (List.filter_sublist.map _)
  openBudgets_le := Nat.le_trans (List.length_filter_le p watcher.spent) hfits.openBudgets_le

lemma Fits.makeRoom (hfits : watcher.Fits capacity) (ring : Ring) :
    (watcher.makeRoom ring).Fits capacity := by
  unfold Watcher.makeRoom
  split
  · exact hfits.filter _
  · exact hfits

lemma makeRoom_of_lt (hlt : watcher.openBudgets < ring.capacity) :
    watcher.makeRoom ring = watcher := if_neg (Nat.not_le_of_lt hlt)

lemma holds_of_mem_forgetEvicted {entry : Nat × Nat}
    (hmem : entry ∈ (watcher.forgetEvicted ring).spent) : ring.holds entry.1 :=
  (List.mem_filter.mp hmem).2

lemma Fits.nodup_charge (hfits : watcher.Fits capacity) (sequence count : Nat) :
    ((watcher.charge sequence count).spent.map (·.1)).Nodup := by
  rw [charge, List.map_cons, List.nodup_cons]
  refine ⟨?_, (hfits.filter _).nodup⟩
  intro hmem
  obtain ⟨entry, hentry, hsame⟩ := List.mem_map.mp hmem
  have hother := (List.mem_filter.mp hentry).2
  rw [decide_eq_true_eq] at hother
  exact hother hsame

lemma Fits.charge (hfits : watcher.Fits ring.capacity) (hlive : ring.holds sequence)
    (count : Nat) : ((watcher.makeRoom ring).charge sequence count).Fits ring.capacity := by
  have hnodup := (hfits.makeRoom ring).nodup_charge sequence count
  refine ⟨hnodup, ?_⟩
  rcases Nat.lt_or_ge watcher.openBudgets ring.capacity with hlt | hfull
  · rw [makeRoom_of_lt hlt]
    have hkept : ((watcher.forget sequence).spent).length ≤ watcher.openBudgets :=
      List.length_filter_le _ _
    exact Nat.le_trans (Nat.succ_le_succ hkept) hlt
  · rw [openBudgets, ← List.length_map (·.1)]
    apply Ring.length_le_of_holds hnodup
    have hpruned : watcher.makeRoom ring = watcher.forgetEvicted ring := if_pos hfull
    rw [hpruned]
    intro unit hmem
    obtain ⟨entry, hentry, rfl⟩ := List.mem_map.mp hmem
    rcases List.mem_cons.mp hentry with rfl | hbefore
    · exact hlive
    · exact holds_of_mem_forgetEvicted (List.mem_filter.mp hbefore).1

lemma Polled.fits (h : ring.WellFormed) (hfits : watcher.Fits ring.capacity)
    (hpolled : Polled watcher ring held sequence (.ok (verdict, watcher', ring'))) :
    watcher'.Fits ring.capacity := by
  cases hpolled with
  | unavailable | abandoned | ready => exact hfits.filter _
  | exhausted => exact (hfits.makeRoom _).filter _
  | pending hlive habandoned hquery hincomplete =>
    have hcapacity := Ring.capacity_after h [.query held sequence]
    rcases awaits_of_query h hlive habandoned hquery with ⟨hterminal, -⟩ | ⟨-, hawaits⟩
    · rw [hincomplete] at hterminal
      cases hterminal
    · rw [← hcapacity] at hfits ⊢
      exact hfits.charge hawaits.holds _

lemma Polled.others_of_room (h : ring.WellFormed) (hlt : watcher.openBudgets < ring.capacity)
    (hpolled : Polled watcher ring held sequence (.ok (verdict, watcher', ring')))
    (hother : other ≠ sequence) : watcher'.spentOn other = watcher.spentOn other := by
  have hsame : watcher.makeRoom (ring.next (.query held sequence)) = watcher := by
    apply makeRoom_of_lt
    have hcapacity := Ring.capacity_after h [.query held sequence]
    rw [Ring.after_cons, Ring.after_nil] at hcapacity
    rwa [hcapacity]
  cases hpolled with
  | unavailable | abandoned | ready => rw [spentOn_forget, if_neg hother]
  | exhausted => rw [hsame, spentOn_forget, if_neg hother]
  | pending => rw [hsame, spentOn_charge, if_neg hother]

end Watcher

namespace Watch

/-- Is the operation one of this watcher that may drop its budget for the unit, whatever room
there is? -/
def Op.mayDrop (who sequence : Nat) : Op → Bool
  | .poll who' _ sequence' => who' = who && sequence' = sequence
  | .forgetEvicted who' => who' = who
  | .ring _ => false

/-- Have all watchers room for their budgets in a ring of this capacity? -/
structure Fits (watch : Watch) (capacity : Nat) : Prop where
  wellFormed : watch.ring.WellFormed
  capacity_eq : watch.ring.capacity = capacity
  watchers : ∀ who, (watch.watchers who).Fits capacity

variable {watch : Watch} {who sequence capacity : Nat} {held : Frame → Bool} {op : Op}

lemma Fits.turn {watcher : Watcher} (hfits : watch.Fits capacity) (ops : List Ring.Op)
    (hwatcher : watcher.Fits capacity) :
    (watch.turn who watcher (watch.ring.after ops)).Fits capacity where
  wellFormed := hfits.wellFormed.after ops
  capacity_eq := (Ring.capacity_after hfits.wellFormed ops).trans hfits.capacity_eq
  watchers := by
    intro who'
    change (Function.update watch.watchers who watcher who').Fits capacity
    by_cases hwho : who' = who
    · rw [hwho, Function.update_self]
      exact hwatcher
    · rw [Function.update_of_ne hwho]
      exact hfits.watchers who'

lemma Fits.poll (hfits : watch.Fits capacity) (who : Nat) (held : Frame → Bool)
    (sequence : Nat) : (watch.next (.poll who held sequence)).Fits capacity := by
  have hpolled := Watcher.polled hfits.wellFormed (watch.watchers who) held sequence
  cases hresult : ((watch.watchers who).poll watch.ring held sequence).result with
  | error fault =>
    rw [(poll_of_error hresult).2]
    exact hfits
  | ok result =>
    obtain ⟨verdict, watcher, ring⟩ := result
    rw [hresult] at hpolled
    rw [(poll_of_ok hresult).2]
    have hwatcher := hfits.watchers who
    rw [← hfits.capacity_eq] at hwatcher
    have hafter := hpolled.fits hfits.wellFormed hwatcher
    rw [hfits.capacity_eq] at hafter
    obtain ⟨ops, rfl⟩ := hpolled.exists_ops
    exact hfits.turn ops hafter

lemma Fits.next (hfits : watch.Fits capacity) (op : Op) :
    (watch.next op).Fits capacity := by
  cases op with
  | poll who held sequence => exact hfits.poll who held sequence
  | forgetEvicted who => exact hfits.turn [] ((hfits.watchers who).filter _)
  | ring op =>
    exact ⟨hfits.wellFormed.next op,
      (Ring.capacity_after hfits.wellFormed [op]).trans hfits.capacity_eq, hfits.watchers⟩

lemma fits_after {ring : Ring} (hnew : ring.IsNew) (limits : Nat → PollLimit) (ops : List Op) :
    ((new ring limits).after ops).Fits ring.capacity := by
  have hfits : (new ring limits).Fits ring.capacity :=
    ⟨hnew.wellFormed, rfl, fun _ => ⟨List.nodup_nil, Nat.zero_le _⟩⟩
  exact List.foldlRecOn (motive := fun watch => watch.Fits ring.capacity) ops next hfits
    fun _ hwatch op _ => hwatch.next op

/-- As long as a watcher has room, it drops a budget only where it is told to or polls the unit. -/
lemma Fits.spentOn_next (hfits : watch.Fits capacity)
    (hlt : (watch.watchers who).openBudgets < capacity) (hkeeps : op.mayDrop who sequence = false) :
    ((watch.next op).watchers who).spentOn sequence = (watch.watchers who).spentOn sequence := by
  cases op with
  | ring op => rfl
  | forgetEvicted who' =>
    have hwho : who ≠ who' := Ne.symm (of_decide_eq_false hkeeps)
    change (Function.update watch.watchers who' _ who).spentOn sequence = _
    rw [Function.update_of_ne hwho]
  | poll who' held polled =>
    have hpolled := Watcher.polled hfits.wellFormed (watch.watchers who') held polled
    cases hresult : ((watch.watchers who').poll watch.ring held polled).result with
    | error fault => rw [(poll_of_error hresult).2]
    | ok result =>
      obtain ⟨verdict, watcher, ring⟩ := result
      rw [hresult] at hpolled
      rw [(poll_of_ok hresult).2]
      change (Function.update watch.watchers who' watcher who).spentOn sequence = _
      by_cases hwho : who = who'
      · subst hwho
        have hother : sequence ≠ polled := by
          rintro rfl
          simp [Op.mayDrop] at hkeeps
        rw [← hfits.capacity_eq] at hlt
        rw [Function.update_self]
        exact hpolled.others_of_room hfits.wellFormed hlt hother
      · rw [Function.update_of_ne hwho]

/-- In every run, a watcher has the budgets of different units open, and never more of them than
the ring has slots. The budgets of units that are gone stay open as long as there is room for one
more, unless the watcher polls such a unit or is told to forget them. -/
theorem openBudgets_le_capacity {ring : Ring} (hnew : ring.IsNew) (limits : Nat → PollLimit)
    (ops : List Op) (who : Nat) :
    ((((new ring limits).after ops).watchers who).spent.map (·.1)).Nodup ∧
    (((new ring limits).after ops).watchers who).openBudgets ≤ ring.capacity ∧
    ∀ op sequence, op.mayDrop who sequence = false →
      (((new ring limits).after ops).watchers who).openBudgets < ring.capacity →
      ((((new ring limits).after ops).next op).watchers who).spentOn sequence =
        (((new ring limits).after ops).watchers who).spentOn sequence := by
  have hfits := fits_after hnew limits ops
  refine ⟨(hfits.watchers who).nodup, (hfits.watchers who).openBudgets_le, ?_⟩
  intro op sequence hkeeps hlt
  exact hfits.spentOn_next hlt hkeeps

/-- Three units are polled in turn while the ring has one slot only. -/
def threeUnits : List Op :=
  [.ring (.begin 7 none), .poll 0 (fun _ => true) 0, .ring (.begin 8 none),
    .poll 0 (fun _ => true) 1, .ring (.begin 9 none), .poll 0 (fun _ => true) 2]

theorem openBudgets_le_capacity_single :
    Ring.single.capacity = 1 ∧
    (((new .single fun _ => ⟨3⟩).after threeUnits).watchers 0).spent = [(2, 1)] ∧
    (((new .single fun _ => ⟨3⟩).after threeUnits).watchers 0).openBudgets ≤ 1 := by
  obtain ⟨-, hle, -⟩ := openBudgets_le_capacity Ring.isNew_single (fun _ => ⟨3⟩) threeUnits 0
  exact ⟨rfl, by decide +kernel, hle⟩

end Watch

end CompletionRing

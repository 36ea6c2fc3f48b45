import CompletionRing.Proofs.Observer.Deliveries
import CompletionRing.Proofs.Observer.Matching

/-!
# Responses

What each kind of consumer may answer to a snapshot and what becomes of it then, as a relation. A
consumer that is told of a snapshot responds, whichever kind it is.
-/

namespace CompletionRing

/-- How many of the reports say that the engine never ran. -/
def Snapshot.skips (snapshot : Snapshot) (engine : Engine) : Nat :=
  snapshot.reports.countP fun report => report.completion = .skipped && report.engine = engine

/-- Are these the counters after one success more? -/
structure Telemetry.Counted (counts : Telemetry) (snapshot : Snapshot) (counts' : Telemetry) :
    Prop where
  successes : counts'.successes = counts.successes + 1
  outOfOrder : counts'.outOfOrder = counts.outOfOrder +
    if snapshot.number.any fun number => counts.lastNumber.any (number < ·) then 1 else 0
  lastNumber : counts'.lastNumber = snapshot.number.or counts.lastNumber
  skipped : ∀ engine, counts'.skipped.get? engine =
    if snapshot.skips engine = 0 then counts.skipped.get? engine
    else some ((counts.skipped.get? engine).getD 0 + snapshot.skips engine)

/-- All that a consumer can do with a snapshot: what it answers, and what it is then. -/
inductive Consumer.Responds (alive : Frame → Bool) (snapshot : Snapshot) :
    Consumer → Except Refusal Unit → Consumer → Prop
  /-- A function is called once, and decides by itself. -/
  | called {function : Callback} : Responds alive snapshot (.callback function)
      (function.answer function.calls snapshot)
      (.callback { function with calls := function.calls + 1 })
  | disconnected {queue : Channel} (hgone : queue.receiving = false) :
    Responds alive snapshot (.channel queue) (.error .disconnected) (.channel queue)
  | full {queue : Channel} {bound : Nat} (hreceiving : queue.receiving)
      (hbound : queue.bound = some bound) (hfull : bound ≤ queue.waiting.length) :
    Responds alive snapshot (.channel queue) (.error .full) (.channel queue)
  | queued {queue : Channel} (hreceiving : queue.receiving)
      (hroom : ∀ bound, queue.bound = some bound → queue.waiting.length < bound) :
    Responds alive snapshot (.channel queue) (.ok ())
      (.channel { queue with waiting := queue.waiting ++ [snapshot] })
  | frameless {list : Promotions} (hframe : ∀ frame, snapshot.frame = some frame → ¬alive frame) :
    Responds alive snapshot (.promotions list)
      (.error (.rejected "frame resource no longer alive")) (.promotions list)
  | unnumbered {list : Promotions} {frame : Frame} (hframe : snapshot.frame = some frame)
      (halive : alive frame) (hnumber : snapshot.number = none) :
    Responds alive snapshot (.promotions list)
      (.error (.rejected "snapshot has no report number")) (.promotions list)
  /-- A full list drops its oldest entry. -/
  | promoted {list : Promotions} {frame : Frame} {number : UInt32}
      (hframe : snapshot.frame = some frame) (halive : alive frame)
      (hnumber : snapshot.number = some number) :
    Responds alive snapshot (.promotions list) (.ok ()) (.promotions { list with entries :=
      (if list.entries.length = list.capacity then list.entries.tail else list.entries) ++
        [(number, frame)] })
  | counted {counts counts' : Telemetry} (hcounted : counts.Counted snapshot counts') :
    Responds alive snapshot (.telemetry counts) (.ok ()) (.telemetry counts')

variable {alive : Frame → Bool} {snapshot : Snapshot}

lemma Snapshot.count_skipped (snapshot : Snapshot) (engine : Engine) :
    snapshot.skipped.count engine = snapshot.skips engine := by
  rw [skipped, List.count, List.countP_map, List.countP_filter, skips]
  apply List.countP_congr
  intro report _
  simp [and_comm]

namespace Telemetry

lemma counted_deliver (counts : Telemetry) (snapshot : Snapshot) :
    counts.Counted snapshot (counts.deliver snapshot) := by
  obtain ⟨skipped, hfold, hskipped⟩ := foldl_countSkipped
    ({ counts with successes := counts.successes + 1 }.countNumber snapshot.number) snapshot.skipped
  have hbefore : ({ counts with successes := counts.successes + 1 }.countNumber
      snapshot.number).skipped = counts.skipped := by cases snapshot.number <;> rfl
  rw [deliver, hfold]
  refine ⟨?_, ?_, ?_, ?_⟩
  · cases snapshot.number <;> rfl
  · cases snapshot.number <;> rfl
  · cases snapshot.number <;> rfl
  · intro engine
    dsimp only
    rw [hskipped, hbefore, ← snapshot.count_skipped]
    by_cases hmem : engine ∈ snapshot.skipped
    · rw [if_pos hmem, if_neg (Nat.ne_of_gt (List.count_pos_iff.mpr hmem))]
    · rw [if_neg hmem, if_pos (List.count_eq_zero_of_not_mem hmem)]

end Telemetry

namespace Consumer

lemma responds_channel (alive : Frame → Bool) (snapshot : Snapshot) (queue : Channel) :
    Responds alive snapshot (.channel queue) (queue.deliver snapshot).1
      (.channel (queue.deliver snapshot).2) := by
  unfold Channel.deliver
  by_cases hreceiving : queue.receiving
  · rw [if_neg (by simp [hreceiving])]
    by_cases hfull : queue.isFull
    · obtain ⟨bound, hbound, hlength⟩ := (Option.any_eq_true _ _).mp hfull
      rw [if_pos hfull]
      exact .full hreceiving hbound (of_decide_eq_true hlength)
    · rw [if_neg hfull]
      refine .queued hreceiving ?_
      intro bound hbound
      rw [Channel.isFull, hbound, Option.any_some, decide_eq_true_eq] at hfull
      exact Nat.lt_of_not_le hfull
  · rw [if_pos (by simp [hreceiving])]
    exact .disconnected (Bool.eq_false_iff.mpr hreceiving)

lemma responds_promotions (alive : Frame → Bool) (snapshot : Snapshot) (list : Promotions) :
    Responds alive snapshot (.promotions list)
      ((Consumer.promotions list).taking alive snapshot).1
      ((Consumer.promotions list).taking alive snapshot).2 := by
  rw [taking_promotions, Promotions.candidate, Snapshot.frame?]
  cases hframe : snapshot.frame with
  | none => exact .frameless (by simp [hframe])
  | some frame =>
    by_cases halive : alive frame
    · rw [Option.filter_some_pos halive]
      cases hnumber : snapshot.number with
      | none => exact .unnumbered hframe halive hnumber
      | some number =>
        have hpromoted : Responds alive snapshot (.promotions list) _ _ :=
          .promoted hframe halive hnumber
        rw [← List.drop_one] at hpromoted
        exact hpromoted
    · rw [Option.filter_some_neg (Bool.eq_false_iff.mpr halive)]
      exact .frameless (by simp [hframe, halive])

/-- Whatever kind of consumer it is that is told, it responds. -/
theorem responds_taking (alive : Frame → Bool) (snapshot : Snapshot) (consumer : Consumer) :
    Responds alive snapshot consumer (consumer.taking alive snapshot).1
      (consumer.taking alive snapshot).2 := by
  cases consumer with
  | callback function => exact .called
  | channel queue => exact responds_channel alive snapshot queue
  | promotions list => exact responds_promotions alive snapshot list
  | telemetry counts => exact .counted (counts.counted_deliver snapshot)

end Consumer

end CompletionRing

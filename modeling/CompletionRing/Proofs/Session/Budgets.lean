import CompletionRing.Proofs.Session.Polls
import Mathlib.Logic.Function.Basic

/-!
# Poll budgets

Several watchers ask one ring for units, while the host and the device go on with it. What is spent
of a watcher's budget for a unit is the number of pending verdicts that this watcher got for it, as
long as the unit is waited for.
-/

namespace CompletionRing

/-- A ring and those who watch it. -/
structure Watch where
  ring : Ring
  watchers : Nat → Watcher

namespace Watch

inductive Op where
  | poll (who : Nat) (held : Frame → Bool) (sequence : Nat)
  | forgetEvicted (who : Nat)
  | ring (op : Ring.Op)

inductive Reply where
  | verdict (verdict : Verdict)
  | forgotten
  | ring (reply : Ring.Reply)

/-- A ring that nobody has polled yet. -/
def new (ring : Ring) (limits : Nat → PollLimit) : Watch := ⟨ring, fun who => .new (limits who)⟩

/-- The watch once a watcher has changed. -/
def turn (watch : Watch) (who : Nat) (watcher : Watcher) (ring : Ring) : Watch :=
  ⟨ring, Function.update watch.watchers who watcher⟩

def perform (watch : Watch) : Op → Run Watch Reply
  | .poll who held sequence => .ofTraced watch do
    let (verdict, watcher, ring) ← (watch.watchers who).poll watch.ring held sequence
    return (.verdict verdict, watch.turn who watcher ring)
  | .forgetEvicted who =>
    .done (watch.turn who ((watch.watchers who).forgetEvicted watch.ring) watch.ring) .forgotten
  | .ring op => ((watch.ring.perform op).map .ring).within fun ring => { watch with ring }

def next (watch : Watch) (op : Op) : Watch := (watch.perform op).state

def answer (watch : Watch) (op : Op) : Except Fault Reply := (watch.perform op).trace.result

def after (watch : Watch) (ops : List Op) : Watch := ops.foldl next watch

/-- The operations of a run with their answers. -/
def entries (watch : Watch) : List Op → List (Op × Except Fault Reply)
  | [] => []
  | op :: rest => (op, watch.answer op) :: (watch.next op).entries rest

/-- Did this watcher get a pending verdict for the unit? -/
def isPending (who sequence : Nat) : Op × Except Fault Reply → Bool
  | (.poll who' _ sequence', .ok (.verdict verdict)) =>
    who' = who && sequence' = sequence && verdict.isPending
  | _ => false

/-- How many pending verdicts this watcher got for the unit. -/
def pendings (who sequence : Nat) (entries : List (Op × Except Fault Reply)) : Nat :=
  entries.countP (isPending who sequence)

/-- Is what is spent of each budget the number of pending verdicts, and none spent up? -/
structure Budgeted (watch : Watch) (limits : Nat → PollLimit)
    (earlier : List (Op × Except Fault Reply)) : Prop where
  wellFormed : watch.ring.WellFormed
  limit : ∀ who, (watch.watchers who).limit = limits who
  inBudget : ∀ who, (watch.watchers who).InBudget
  spent : ∀ who sequence, watch.ring.awaits sequence →
    (watch.watchers who).spentOn sequence = pendings who sequence earlier
  /-- Nothing is spent on a unit before it is begun. -/
  unspent : ∀ who sequence, watch.ring.submitted ≤ sequence →
    (watch.watchers who).spentOn sequence = 0 ∧ pendings who sequence earlier = 0

variable {watch : Watch} {limits : Nat → PollLimit} {earlier : List (Op × Except Fault Reply)}
  {who sequence : Nat} {held : Frame → Bool} {op : Op}

theorem entries_induction {P : Watch → List (Op × Except Fault Reply) → Prop}
    (h : P watch earlier)
    (hnext : ∀ watch earlier op, P watch earlier →
      P (watch.next op) (earlier ++ [(op, watch.answer op)])) (ops : List Op) :
    P (watch.after ops) (earlier ++ watch.entries ops) := by
  induction ops generalizing watch earlier with
  | nil =>
    rw [entries, List.append_nil]
    exact h
  | cons op rest ih =>
    rw [entries, List.append_cons]
    exact ih (hnext watch earlier op h)

lemma pendings_concat (who sequence : Nat) (earlier : List (Op × Except Fault Reply))
    (entry : Op × Except Fault Reply) :
    pendings who sequence (earlier ++ [entry]) =
      pendings who sequence earlier + if isPending who sequence entry then 1 else 0 := by
  rw [pendings, List.countP_append, List.countP_singleton]
  rfl

/-! ### Steps -/

lemma Budgeted.spent_after (hbudgeted : watch.Budgeted limits earlier) (ops : List Ring.Op)
    (who : Nat) (hawaits : (watch.ring.after ops).awaits sequence) :
    (watch.watchers who).spentOn sequence = pendings who sequence earlier := by
  obtain ⟨-, horigin⟩ := Ring.awaits_after hbudgeted.wellFormed ops
  rcases horigin sequence hawaits with hbefore | hnew
  · exact hbudgeted.spent who sequence hbefore
  · obtain ⟨hspent, hpendings⟩ := hbudgeted.unspent who sequence hnew
    rw [hspent, hpendings]

lemma Budgeted.unspent_after (hbudgeted : watch.Budgeted limits earlier) (ops : List Ring.Op)
    (who : Nat) (hnew : (watch.ring.after ops).submitted ≤ sequence) :
    (watch.watchers who).spentOn sequence = 0 ∧ pendings who sequence earlier = 0 := by
  obtain ⟨hsubmitted, -⟩ := Ring.awaits_after hbudgeted.wellFormed ops
  exact hbudgeted.unspent who sequence (Nat.le_trans hsubmitted hnew)

lemma Budgeted.ring (hbudgeted : watch.Budgeted limits earlier) (op : Ring.Op) :
    (watch.next (.ring op)).Budgeted limits (earlier ++ [(.ring op, watch.answer (.ring op))]) where
  wellFormed := hbudgeted.wellFormed.next op
  limit := hbudgeted.limit
  inBudget := hbudgeted.inBudget
  spent := by
    intro who sequence hawaits
    rw [pendings_concat]
    exact hbudgeted.spent_after [op] who hawaits
  unspent := by
    intro who sequence hnew
    rw [pendings_concat]
    exact hbudgeted.unspent_after [op] who hnew

/-- A watcher keeps within its budgets if it charges the pending verdicts that it gets, and the
others go on as before. -/
lemma Budgeted.turn {watcher : Watcher} {entry : Op × Except Fault Reply}
    (hbudgeted : watch.Budgeted limits earlier) (ops : List Ring.Op)
    (hothers : ∀ who' sequence, who' ≠ who → isPending who' sequence entry = false)
    (hlimit : watcher.limit = (watch.watchers who).limit) (hinBudget : watcher.InBudget)
    (hspent : ∀ sequence, (watch.ring.after ops).awaits sequence →
      watcher.spentOn sequence = (watch.watchers who).spentOn sequence +
        if isPending who sequence entry then 1 else 0)
    (hunspent : ∀ sequence, (watch.ring.after ops).submitted ≤ sequence →
      (watch.watchers who).spentOn sequence = 0 →
        watcher.spentOn sequence = 0 ∧ isPending who sequence entry = false) :
    (watch.turn who watcher (watch.ring.after ops)).Budgeted limits (earlier ++ [entry]) where
  wellFormed := hbudgeted.wellFormed.after ops
  limit := by
    intro who'
    change (Function.update watch.watchers who watcher who').limit = _
    by_cases hwho : who' = who
    · rw [hwho, Function.update_self, hlimit]
      exact hbudgeted.limit who
    · rw [Function.update_of_ne hwho]
      exact hbudgeted.limit who'
  inBudget := by
    intro who'
    change (Function.update watch.watchers who watcher who').InBudget
    by_cases hwho : who' = who
    · rw [hwho, Function.update_self]
      exact hinBudget
    · rw [Function.update_of_ne hwho]
      exact hbudgeted.inBudget who'
  spent := by
    intro who' sequence hawaits
    have hbefore := hbudgeted.spent_after ops who' hawaits
    change (Function.update watch.watchers who watcher who').spentOn sequence = _
    rw [pendings_concat, ← hbefore]
    by_cases hwho : who' = who
    · rw [hwho, Function.update_self]
      exact hspent sequence hawaits
    · rw [Function.update_of_ne hwho, hothers who' sequence hwho]
      rfl
  unspent := by
    intro who' sequence hnew
    obtain ⟨hzero, hnone⟩ := hbudgeted.unspent_after ops who' hnew
    change (Function.update watch.watchers who watcher who').spentOn sequence = _ ∧ _
    rw [pendings_concat, hnone]
    by_cases hwho : who' = who
    · subst hwho
      obtain ⟨hzero', hnone'⟩ := hunspent sequence hnew hzero
      rw [Function.update_self, hzero', hnone']
      exact ⟨rfl, rfl⟩
    · rw [Function.update_of_ne hwho, hzero, hothers who' sequence hwho]
      exact ⟨rfl, rfl⟩

lemma Budgeted.forgetEvicted (hbudgeted : watch.Budgeted limits earlier) (who : Nat) :
    (watch.next (.forgetEvicted who)).Budgeted limits
      (earlier ++ [(.forgetEvicted who, watch.answer (.forgetEvicted who))]) := by
  apply hbudgeted.turn []
  · exact fun _ _ _ => rfl
  · rfl
  · exact (hbudgeted.inBudget who).forgetEvicted watch.ring
  · intro sequence hawaits
    rw [Ring.after_nil] at hawaits
    rw [Watcher.spentOn_forgetEvicted, if_pos hawaits.holds]
    rfl
  · intro sequence _ hzero
    rw [Watcher.spentOn_forgetEvicted, hzero, ite_self]
    exact ⟨rfl, rfl⟩

lemma poll_of_ok {verdict : Verdict} {watcher : Watcher} {ring : Ring}
    (hresult : ((watch.watchers who).poll watch.ring held sequence).result =
      .ok (verdict, watcher, ring)) :
    watch.answer (.poll who held sequence) = .ok (.verdict verdict) ∧
      watch.next (.poll who held sequence) = watch.turn who watcher ring := by
  rw [answer, next, perform, Run.ofTraced, Traced.result_bind _ hresult]
  exact ⟨rfl, rfl⟩

lemma poll_of_error {fault : Fault}
    (hresult : ((watch.watchers who).poll watch.ring held sequence).result = .error fault) :
    watch.answer (.poll who held sequence) = .error fault ∧
      watch.next (.poll who held sequence) = watch := by
  rw [answer, next, perform, Run.ofTraced, Traced.result_bind_error _ hresult]
  exact ⟨rfl, rfl⟩

lemma isPending_poll (who who' sequence sequence' : Nat) (held : Frame → Bool)
    (verdict : Verdict) :
    isPending who' sequence' (.poll who held sequence, .ok (.verdict verdict)) =
      (decide (who = who') && decide (sequence = sequence') && verdict.isPending) := rfl

lemma Budgeted.poll (hbudgeted : watch.Budgeted limits earlier) (who : Nat)
    (held : Frame → Bool) (sequence : Nat) :
    (watch.next (.poll who held sequence)).Budgeted limits
      (earlier ++ [(.poll who held sequence, watch.answer (.poll who held sequence))]) := by
  have hpolled :=
    Watcher.polled hbudgeted.wellFormed (watch.watchers who) held sequence
  cases hresult : ((watch.watchers who).poll watch.ring held sequence).result with
  | error fault =>
    obtain ⟨hanswer, hnext⟩ := poll_of_error hresult
    rw [hanswer, hnext]
    refine ⟨hbudgeted.wellFormed, hbudgeted.limit, hbudgeted.inBudget, ?_, ?_⟩
    · intro who' sequence' hawaits
      rw [pendings_concat]
      exact hbudgeted.spent who' sequence' hawaits
    · intro who' sequence' hnew
      rw [pendings_concat]
      exact hbudgeted.unspent who' sequence' hnew
  | ok result =>
    obtain ⟨verdict, watcher, ring⟩ := result
    obtain ⟨hanswer, hnext⟩ := poll_of_ok hresult
    rw [hresult] at hpolled
    rw [hanswer, hnext]
    obtain ⟨ops, rfl⟩ := hpolled.exists_ops
    apply hbudgeted.turn ops
    · intro who' sequence' hwho
      rw [isPending_poll, decide_eq_false hwho.symm]
      rfl
    · exact hpolled.limit_eq
    · exact hpolled.inBudget (hbudgeted.inBudget who)
    · intro sequence' hawaits
      rw [isPending_poll, decide_eq_true rfl, Bool.true_and]
      exact hpolled.spent hbudgeted.wellFormed hawaits
    · intro sequence' hnew hzero
      rw [isPending_poll, decide_eq_true rfl, Bool.true_and]
      obtain ⟨hsubmitted, -⟩ := Ring.awaits_after hbudgeted.wellFormed ops
      exact hpolled.unspent hbudgeted.wellFormed (Nat.le_trans hsubmitted hnew) hzero

lemma Budgeted.next (hbudgeted : watch.Budgeted limits earlier) (op : Op) :
    (watch.next op).Budgeted limits (earlier ++ [(op, watch.answer op)]) := by
  cases op with
  | poll who held sequence => exact hbudgeted.poll who held sequence
  | forgetEvicted who => exact hbudgeted.forgetEvicted who
  | ring op => exact hbudgeted.ring op

lemma budgeted_after {ring : Ring} (hnew : ring.IsNew) (limits : Nat → PollLimit) (ops : List Op) :
    ((new ring limits).after ops).Budgeted limits ((new ring limits).entries ops) := by
  have hbudgeted : (new ring limits).Budgeted limits [] := by
    refine ⟨hnew.wellFormed, fun _ => rfl, ?_, fun _ _ _ => rfl, fun _ _ _ => ⟨rfl, rfl⟩⟩
    intro who entry hmem
    cases hmem
  have hafter := entries_induction (P := fun watch earlier => watch.Budgeted limits earlier)
    hbudgeted (fun _ _ op hwatch => hwatch.next op) ops
  rwa [List.nil_append] at hafter

/-! ### Verdicts -/

/-- What the next poll of a unit has to give and to do to the ring, when `count` polls of it were
pending before and `limit` polls are allowed. -/
def Due (watch : Watch) (who : Nat) (held : Frame → Bool) (sequence limit count : Nat) : Prop :=
  let answer := watch.answer (.poll who held sequence)
  let next := watch.next (.poll who held sequence)
  if !watch.ring.holds sequence then
    answer = .ok (.verdict (.unavailable (.unavailable sequence))) ∧ next.ring = watch.ring
  else if watch.ring.hasAbandoned sequence then
    ∃ snapshot, snapshot.status = .incomplete ∧ answer = .ok (.verdict (.timedOut snapshot)) ∧
      next.ring = watch.ring
  else
    match watch.ring.answer (.query held sequence) with
    | .error fault => answer = .error fault ∧ next = watch
    | .ok (.snapshot snapshot) =>
      if snapshot.status.isTerminal then
        answer = .ok (.verdict (.ready snapshot)) ∧
          next.ring = watch.ring.next (.query held sequence)
      else if count + 1 < limit then
        answer = .ok (.verdict (.pending (limit - count - 1))) ∧
          next.ring = watch.ring.next (.query held sequence)
      else ∃ last, last.status = .incomplete ∧ answer = .ok (.verdict (.timedOut last)) ∧
        next.ring.hasAbandoned sequence ∧ next.ring.reported = watch.ring.reported + 1
    | .ok _ => False

theorem Budgeted.due (hbudgeted : watch.Budgeted limits earlier) (who : Nat)
    (held : Frame → Bool) (sequence : Nat) :
    watch.Due who held sequence (limits who).queries.toNat (pendings who sequence earlier) := by
  have h := hbudgeted.wellFormed
  have hpolled := Watcher.polled h (watch.watchers who) held sequence
  have hlimit := hbudgeted.limit who
  -- A unit that is found incomplete is waited for, so what is spent on it is known.
  have hspent : ∀ snapshot, watch.ring.holds sequence → watch.ring.hasAbandoned sequence = false →
      watch.ring.answer (.query held sequence) = .ok (.snapshot snapshot) →
      snapshot.status = .incomplete →
      (watch.ring.next (.query held sequence)).awaits sequence ∧
        (watch.watchers who).spentOn sequence = pendings who sequence earlier := by
    intro snapshot hlive habandoned hquery hincomplete
    rcases Watcher.awaits_of_query h hlive habandoned hquery with ⟨hterminal, -⟩ | ⟨-, hawaits⟩
    · rw [hincomplete] at hterminal
      cases hterminal
    · exact ⟨hawaits, hbudgeted.spent_after [.query held sequence] who hawaits⟩
  unfold Due
  generalize hresult : ((watch.watchers who).poll watch.ring held sequence).result = result at hpolled
  cases hpolled with
  | unavailable hdead =>
    obtain ⟨hanswer, hnext⟩ := poll_of_ok hresult
    simp only [hanswer, hnext, hdead]
    exact ⟨trivial, rfl⟩
  | abandoned habandoned =>
    obtain ⟨hanswer, hnext⟩ := poll_of_ok hresult
    have hlive := Ring.holds_of_hasAbandoned habandoned
    simp only [hanswer, hnext, hlive, habandoned, Bool.not_true, Bool.false_eq_true, if_true,
      if_false]
    exact ⟨_, Watcher.status_of_hasAbandoned h habandoned, rfl, rfl⟩
  | faulted hlive habandoned hquery =>
    obtain ⟨hanswer, hnext⟩ := poll_of_error hresult
    simp only [hanswer, hnext, hlive, habandoned, hquery, Bool.not_true, Bool.false_eq_true,
      if_false]
    exact ⟨trivial, trivial⟩
  | ready hlive habandoned hquery hterminal =>
    obtain ⟨hanswer, hnext⟩ := poll_of_ok hresult
    simp only [hanswer, hnext, hlive, habandoned, hquery, hterminal, Bool.not_true,
      Bool.false_eq_true, if_true, if_false]
    exact ⟨trivial, rfl⟩
  | pending hlive habandoned hquery hincomplete hroom =>
    obtain ⟨hanswer, hnext⟩ := poll_of_ok hresult
    obtain ⟨-, hcount⟩ := hspent _ hlive habandoned hquery hincomplete
    rw [hcount, hlimit] at hroom hanswer
    simp only [hanswer, hnext, hlive, habandoned, hquery, hincomplete, hroom, Bool.not_true,
      Bool.false_eq_true, if_true, if_false, Status.isTerminal]
    exact ⟨by rw [Nat.sub_sub], rfl⟩
  | exhausted hlive habandoned hquery hincomplete hfull =>
    obtain ⟨hanswer, hnext⟩ := poll_of_ok hresult
    obtain ⟨hawaits, hcount⟩ := hspent _ hlive habandoned hquery hincomplete
    rw [hcount, hlimit] at hfull
    obtain ⟨-, hlast, hgiven, hreported⟩ := Watcher.abandon_of_awaits (h.next _) hawaits
    have hsame := (Ring.step h _).reported_of_query h hlive habandoned hquery hincomplete
    rw [← Ring.next_eq] at hsame
    rw [hsame] at hreported
    simp only [hanswer, hnext, hlive, habandoned, hquery, hincomplete, hfull, Bool.not_true,
      Bool.false_eq_true, if_false, Status.isTerminal]
    exact ⟨_, hlast, rfl, hgiven, hreported⟩

/-- The budget of a watcher for a unit is what its pending polls of this unit left of it, whatever
else is polled, forgotten or done to the ring in between. Every budget that is kept is partly
spent, and none is spent up. -/
theorem budgets_exact {ring : Ring} (hnew : ring.IsNew) (limits : Nat → PollLimit) (ops : List Op)
    (who : Nat) (held : Frame → Bool) (sequence : Nat) :
    ((new ring limits).after ops).Due who held sequence (limits who).queries.toNat
      (pendings who sequence ((new ring limits).entries ops)) ∧
    (∀ entry ∈ (((new ring limits).after ops).watchers who).spent,
      1 ≤ entry.2 ∧ entry.2 ≤ (limits who).queries.toNat - 1) ∧
    (((new ring limits).after ops).watchers who).spentOn sequence + 1 < UInt32.size := by
  have hbudgeted := budgeted_after hnew limits ops
  refine ⟨hbudgeted.due who held sequence, ?_, (hbudgeted.inBudget who).spentOn_lt sequence⟩
  intro entry hmem
  obtain ⟨hpos, hlt⟩ := hbudgeted.inBudget who entry hmem
  rw [hbudgeted.limit who] at hlt
  exact ⟨hpos, Nat.le_sub_one_of_lt hlt⟩

/-- Two watchers ask for a unit that never retires, and one of them forgets what is gone. -/
def twoWatchers : List Op :=
  [.ring (.begin 7 none), .poll 0 (fun _ => true) 0, .poll 1 (fun _ => true) 0, .forgetEvicted 0]

theorem budgets_exact_single :
    pendings 0 0 ((new .single fun _ => ⟨3⟩).entries twoWatchers) = 1 ∧
    ((new .single fun _ => ⟨3⟩).after twoWatchers).Due 0 (fun _ => true) 0 3 1 := by
  obtain ⟨hdue, -⟩ := budgets_exact Ring.isNew_single (fun _ => ⟨3⟩) twoWatchers 0 (fun _ => true) 0
  exact ⟨rfl, hdue⟩

end Watch

end CompletionRing

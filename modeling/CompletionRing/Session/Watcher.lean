import CompletionRing.Ring.Host
import CompletionRing.Run
import CompletionRing.Session.Limits

/-!
# Watchers

A watcher asks for units of work, counts the incomplete answers for each, and abandons a unit
once its budget is spent. So a device that hangs stops nobody for good.
-/

namespace CompletionRing

/-- What one poll gives. -/
inductive Verdict where
  /-- A terminal status. -/
  | ready (snapshot : Snapshot)
  /-- Incomplete; this many polls are left. -/
  | pending (left : Nat)
  /-- The unit was abandoned. -/
  | timedOut (snapshot : Snapshot)
  /-- The ring does not hold the unit. -/
  | unavailable (snapshot : Snapshot)
  deriving DecidableEq

def Verdict.isPending : Verdict → Bool
  | .pending _ => true
  | _ => false

def Verdict.snapshot? : Verdict → Option Snapshot
  | .ready snapshot | .timedOut snapshot | .unavailable snapshot => some snapshot
  | .pending _ => none

structure Watcher where
  limit : PollLimit
  /-- The polls spent on each unit whose budget is open, at most one entry a unit. -/
  spent : List (Nat × Nat)

namespace Watcher

def new (limit : PollLimit) : Watcher := ⟨limit, []⟩

/-- How many units have a budget partly spent. -/
def openBudgets (watcher : Watcher) : Nat := watcher.spent.length

def spentOn (watcher : Watcher) (sequence : Nat) : Nat :=
  (watcher.spent.lookup sequence).getD 0

def forget (watcher : Watcher) (sequence : Nat) : Watcher :=
  { watcher with spent := watcher.spent.filter (·.1 ≠ sequence) }

def charge (watcher : Watcher) (sequence count : Nat) : Watcher :=
  { watcher with spent := (sequence, count) :: (watcher.forget sequence).spent }

/-- Forgets the units that the ring no longer holds. -/
def forgetEvicted (watcher : Watcher) (ring : Ring) : Watcher :=
  { watcher with spent := watcher.spent.filter (ring.holds ·.1) }

/-- Makes room before more budgets are open than the ring has slots. -/
def makeRoom (watcher : Watcher) (ring : Ring) : Watcher :=
  if ring.capacity ≤ watcher.openBudgets then watcher.forgetEvicted ring else watcher

/-- Asks for a unit once. An incomplete answer is charged to the unit's budget; an abandoned
unit times out at once. -/
def poll (watcher : Watcher) (ring : Ring) (held : Frame → Bool) (sequence : Nat) :
    Traced (Verdict × Watcher × Ring) := do
  let abandoned := ring.hasAbandoned sequence
  let (snapshot, ring) ← ring.query held sequence
  if abandoned then return (.timedOut snapshot, watcher.forget sequence, ring)
  match snapshot.status with
  | .successful | .error => return (.ready snapshot, watcher.forget sequence, ring)
  | .unavailable => return (.unavailable snapshot, watcher.forget sequence, ring)
  | .incomplete =>
    let watcher := watcher.makeRoom ring
    let count := watcher.spentOn sequence + 1
    let limit := watcher.limit.queries.toNat
    if count < limit then
      return (.pending (limit - count), watcher.charge sequence count, ring)
    .emit (.pollsSpent ring.name sequence limit)
    let (snapshot, ring) ← ring.abandon sequence
    return (.timedOut snapshot, watcher.forget sequence, ring)

/-- One poll, beside a state that it does not touch. -/
def pollBeside {σ : Type} (watcher : Watcher) (ring : Ring) (held : Frame → Bool)
    (sequence : Nat) (state : σ) : Run (Watcher × Ring × σ) Verdict :=
  (Run.ofTraced (watcher, ring) (watcher.poll ring held sequence)).within
    fun (watcher, ring) => (watcher, ring, state)

/-- Polls until the verdict is not pending, at most `rounds` times and once more. After each
pending verdict `between` runs on the ring and on a state of its own; a fault there ends it all,
and the polls up to it stay charged. -/
def waitFor {σ : Type} (held : Frame → Bool) (sequence : Nat)
    (between : Ring → σ → Run (Ring × σ) Unit) :
    Nat → Watcher → Ring → σ → Run (Watcher × Ring × σ) Verdict
  | 0, watcher, ring, state => watcher.pollBeside ring held sequence state
  | rounds + 1, watcher, ring, state =>
    (watcher.pollBeside ring held sequence state).bind fun verdict (watcher, ring, state) =>
      if verdict.isPending then
        ((between ring state).within (watcher, ·)).bind fun _ (watcher, ring, state) =>
          waitFor held sequence between rounds watcher ring state
      else .done (watcher, ring, state) verdict

/-- Polls until the verdict is not pending. A budget allows one pending verdict less than it has
polls, so as many rounds are enough. -/
def wait {σ : Type} (watcher : Watcher) (ring : Ring) (held : Frame → Bool) (sequence : Nat)
    (between : Ring → σ → Run (Ring × σ) Unit) (state : σ) :
    Run (Watcher × Ring × σ) Verdict :=
  waitFor held sequence between (watcher.limit.queries.toNat - 1) watcher ring state

end Watcher

end CompletionRing

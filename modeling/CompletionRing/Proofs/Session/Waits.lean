import CompletionRing.Proofs.Ring.Faults
import CompletionRing.Proofs.Session.Polls

/-!
# Waits

A wait polls in turn with whatever goes on between the polls. Each round takes one poll from the
budget of the unit, so a wait is over before the budget is spent up, and when it is over nobody
waits for the unit any more.
-/

namespace CompletionRing

namespace Watcher

/-- What polling in turn with `between` comes to if nothing bounds the rounds: how often `between`
runs, what is left in the end, and the verdict or the fault that stopped it all. -/
inductive Waited {σ : Type} (held : Frame → Bool) (sequence : Nat)
    (between : Ring → σ → Run (Ring × σ) Unit) :
    Watcher → Ring → σ → Nat → Watcher × Ring × σ → Except Fault Verdict → Prop
  | decided {watcher ring state verdict watcher' ring'}
      (hpoll : (watcher.poll ring held sequence).result = .ok (verdict, watcher', ring'))
      (hverdict : verdict.isPending = false) :
    Waited held sequence between watcher ring state 0 (watcher', ring', state) (.ok verdict)
  | pollStopped {watcher ring state fault}
      (hpoll : (watcher.poll ring held sequence).result = .error fault) :
    Waited held sequence between watcher ring state 0 (watcher, ring, state) (.error fault)
  | betweenStopped {watcher ring state verdict watcher' ring' fault}
      (hpoll : (watcher.poll ring held sequence).result = .ok (verdict, watcher', ring'))
      (hpending : verdict.isPending)
      (hbetween : (between ring' state).trace.result = .error fault) :
    Waited held sequence between watcher ring state 1 (watcher', (between ring' state).state)
      (.error fault)
  | again {watcher ring state verdict watcher' ring' calls final result}
      (hpoll : (watcher.poll ring held sequence).result = .ok (verdict, watcher', ring'))
      (hpending : verdict.isPending)
      (hbetween : (between ring' state).trace.result = .ok ())
      (hrest : Waited held sequence between watcher' (between ring' state).state.1
        (between ring' state).state.2 calls final result) :
    Waited held sequence between watcher ring state (calls + 1) final result

/-- How a unit stands once a wait for it is over. -/
inductive Concluded (ring : Ring) (sequence : Nat) : Verdict → Prop
  | ready {slot} (hslot : ring.slot? sequence = some slot) (hterminal : slot.status.isTerminal) :
    Concluded ring sequence (.ready slot.snapshot)
  | timedOut (habandoned : ring.hasAbandoned sequence)
      (hincomplete : (ring.view sequence).status = .incomplete) :
    Concluded ring sequence (.timedOut (ring.view sequence))
  | unavailable (hdead : ¬ring.holds sequence) :
    Concluded ring sequence (.unavailable (.unavailable sequence))

variable {σ : Type} {held : Frame → Bool} {sequence : Nat}
  {between : Ring → σ → Run (Ring × σ) Unit} {watcher watcher' : Watcher} {ring ring' : Ring}
  {state : σ} {verdict : Verdict} {calls rounds : Nat} {final : Watcher × Ring × σ} {fault : Fault}
  {result : Except Fault Verdict}

/-! ### One poll -/

lemma pollBeside_ok
    (hpoll : (watcher.poll ring held sequence).result = .ok (verdict, watcher', ring'))
    (state : σ) :
    (watcher.pollBeside ring held sequence state).state = (watcher', ring', state) ∧
      (watcher.pollBeside ring held sequence state).trace.result = .ok verdict := by
  unfold pollBeside Run.ofTraced
  rw [hpoll]
  exact ⟨rfl, rfl⟩

lemma pollBeside_error (hpoll : (watcher.poll ring held sequence).result = .error fault)
    (state : σ) :
    (watcher.pollBeside ring held sequence state).state = (watcher, ring, state) ∧
      (watcher.pollBeside ring held sequence state).trace.result = .error fault := by
  unfold pollBeside Run.ofTraced
  rw [hpoll]
  exact ⟨rfl, rfl⟩

lemma Polled.room (hpolled : Polled watcher ring held sequence (.ok (verdict, watcher', ring')))
    (hpending : verdict.isPending) :
    watcher.spentOn sequence + 1 < watcher.limit.queries.toNat := by
  cases hpolled with
  | pending _ _ _ _ hroom => exact hroom
  | _ => cases hpending

lemma Polled.concluded (h : ring.WellFormed)
    (hpolled : Polled watcher ring held sequence (.ok (verdict, watcher', ring')))
    (hverdict : verdict.isPending = false) : Concluded ring' sequence verdict := by
  cases hpolled with
  | unavailable hdead => exact .unavailable hdead
  | abandoned habandoned => exact .timedOut habandoned (status_of_hasAbandoned h habandoned)
  | ready hlive habandoned hquery hterminal =>
    obtain ⟨slot, hslot, rfl, -⟩ :=
      (Ring.step h (.query held sequence)).stage_of_query h hlive hquery
    exact .ready hslot hterminal
  | pending => cases hverdict
  | exhausted hlive habandoned hquery hincomplete =>
    rcases awaits_of_query h hlive habandoned hquery with ⟨hterminal, -⟩ | ⟨-, hawaits⟩
    · rw [hincomplete] at hterminal
      cases hterminal
    · obtain ⟨-, hstatus, habandoned', -⟩ := abandon_of_awaits (h.next _) hawaits
      exact .timedOut habandoned' hstatus

/-! ### Rounds -/

lemma waitFor_at_once (between : Ring → σ → Run (Ring × σ) Unit)
    (hpoll : ∀ answer, (watcher.poll ring held sequence).result = .ok answer →
      answer.1.isPending = false) (rounds : Nat) (state : σ) :
    Waited held sequence between watcher ring state 0
      (waitFor held sequence between rounds watcher ring state).state
      (waitFor held sequence between rounds watcher ring state).trace.result := by
  cases hanswer : (watcher.poll ring held sequence).result with
  | error fault =>
    obtain ⟨hstate, hresult⟩ := pollBeside_error hanswer state
    have hstopped : Waited held sequence between watcher ring state 0 _ _ := .pollStopped hanswer
    cases rounds with
    | zero =>
      rw [waitFor, hstate, hresult]
      exact hstopped
    | succ rounds =>
      rw [waitFor, Run.bind_of_error _ hresult, hstate]
      exact hstopped
  | ok answer =>
    obtain ⟨verdict, watcher', ring'⟩ := answer
    have hverdict : verdict.isPending = false := hpoll _ hanswer
    obtain ⟨hstate, hresult⟩ := pollBeside_ok hanswer state
    have hdecided : Waited held sequence between watcher ring state 0 _ _ :=
      .decided hanswer hverdict
    cases rounds with
    | zero =>
      rw [waitFor, hstate, hresult]
      exact hdecided
    | succ rounds =>
      rw [waitFor, Run.state_bind _ hresult, Run.result_bind _ hresult, hstate]
      simp only [hverdict, Bool.false_eq_true, if_false]
      exact hdecided

lemma waitFor_interrupted
    (hpoll : (watcher.poll ring held sequence).result = .ok (verdict, watcher', ring'))
    (hpending : verdict.isPending) (hbetween : (between ring' state).trace.result = .error fault)
    (rounds : Nat) :
    (waitFor held sequence between (rounds + 1) watcher ring state).state =
        (watcher', (between ring' state).state) ∧
      (waitFor held sequence between (rounds + 1) watcher ring state).trace.result =
        .error fault := by
  obtain ⟨hstate, hresult⟩ := pollBeside_ok hpoll state
  have hwithin : ((between ring' state).within (watcher', ·)).trace.result = .error fault :=
    hbetween
  rw [waitFor, Run.state_bind _ hresult, Run.result_bind _ hresult, hstate]
  simp only [hpending, if_true, Run.bind_of_error _ hwithin, Run.state_within, and_self]

lemma waitFor_again
    (hpoll : (watcher.poll ring held sequence).result = .ok (verdict, watcher', ring'))
    (hpending : verdict.isPending) (hbetween : (between ring' state).trace.result = .ok ())
    (rounds : Nat) :
    let later := waitFor held sequence between rounds watcher' (between ring' state).state.1
      (between ring' state).state.2
    (waitFor held sequence between (rounds + 1) watcher ring state).state = later.state ∧
      (waitFor held sequence between (rounds + 1) watcher ring state).trace.result =
        later.trace.result := by
  obtain ⟨hstate, hresult⟩ := pollBeside_ok hpoll state
  have hwithin : ((between ring' state).within (watcher', ·)).trace.result = .ok () := hbetween
  rw [waitFor, Run.state_bind _ hresult, Run.result_bind _ hresult, hstate]
  simp only [hpending, if_true, Run.state_bind _ hwithin, Run.result_bind _ hwithin,
    Run.state_within, and_self]

/-- Rounds enough for what is left of the budget are as good as no bound, since each round takes a
poll from the budget. -/
theorem waitFor_waited (h : ring.WellFormed)
    (hbetween : ∀ ring state, ∃ ops, (between ring state).state.1 = ring.after ops)
    (hrounds : watcher.limit.queries.toNat - 1 - watcher.spentOn sequence ≤ rounds) (state : σ) :
    ∃ calls, calls ≤ watcher.limit.queries.toNat - 1 - watcher.spentOn sequence ∧
      Waited held sequence between watcher ring state calls
        (waitFor held sequence between rounds watcher ring state).state
        (waitFor held sequence between rounds watcher ring state).trace.result := by
  induction rounds generalizing watcher ring state with
  | zero =>
    have hpolled := polled h watcher held sequence
    refine ⟨0, Nat.zero_le _, waitFor_at_once between ?_ 0 state⟩
    rintro ⟨verdict, watcher', ring'⟩ hpoll
    rw [hpoll] at hpolled
    by_contra hpending
    have hroom := hpolled.room (Bool.not_eq_false _ ▸ hpending)
    omega
  | succ rounds ih =>
    have hpolled := polled h watcher held sequence
    by_cases hpending : ∃ verdict watcher' ring',
        (watcher.poll ring held sequence).result = .ok (verdict, watcher', ring') ∧
          verdict.isPending
    · obtain ⟨verdict, watcher', ring', hpoll, hpending⟩ := hpending
      rw [hpoll] at hpolled
      have hroom := hpolled.room hpending
      have hown := hpolled.own h
      rw [hpending, if_pos rfl] at hown
      cases hcall : (between ring' state).trace.result with
      | error fault =>
        obtain ⟨hstate, hresult⟩ := waitFor_interrupted hpoll hpending hcall rounds
        rw [hstate, hresult]
        exact ⟨1, by omega, .betweenStopped hpoll hpending hcall⟩
      | ok _ =>
        obtain ⟨hstate, hresult⟩ := waitFor_again hpoll hpending hcall rounds
        obtain ⟨ops, hops⟩ := hpolled.exists_ops
        obtain ⟨later, hlater⟩ := hbetween ring' state
        have hring' : (between ring' state).state.1.WellFormed := by
          rw [hlater, hops]
          exact (h.after ops).after later
        have hleft : watcher'.limit.queries.toNat - 1 - watcher'.spentOn sequence ≤ rounds := by
          rw [hpolled.limit_eq, hown.1]
          omega
        obtain ⟨calls, hcalls, hwaited⟩ := ih hring' hleft (between ring' state).state.2
        rw [hpolled.limit_eq, hown.1] at hcalls
        rw [hstate, hresult]
        exact ⟨calls + 1, by omega, .again hpoll hpending hcall hwaited⟩
    · refine ⟨0, Nat.zero_le _, waitFor_at_once between ?_ (rounds + 1) state⟩
      rintro ⟨verdict, watcher', ring'⟩ hpoll
      by_contra hverdict
      exact hpending ⟨verdict, watcher', ring', hpoll, Bool.not_eq_false _ ▸ hverdict⟩

lemma Waited.unique {calls' : Nat} {final' : Watcher × Ring × σ} {result' : Except Fault Verdict}
    (hwaited : Waited held sequence between watcher ring state calls final result)
    (hwaited' : Waited held sequence between watcher ring state calls' final' result') :
    calls' = calls ∧ final' = final ∧ result' = result := by
  -- The result of the poll, and then that of the call, leave only one way to go on.
  induction hwaited generalizing calls' with
  | again hpoll hpending hcall _ ih =>
    cases hwaited' with
    | again hpoll' _ _ hrest' =>
      rw [hpoll] at hpoll'
      cases hpoll'
      obtain ⟨rfl, hfinal, hresult⟩ := ih hrest'
      exact ⟨rfl, hfinal, hresult⟩
    | _ => grind
  | _ => cases hwaited' <;> grind

lemma Polled.stopped (h : ring.WellFormed)
    (hpolled : Polled watcher ring held sequence (.error fault)) :
    fault = .overflow ∧ UInt64.size ≤
      ring.refusals + refusalsIn (ring.events (.query held sequence)) := by
  cases hpolled with
  | faulted hlive habandoned hquery =>
    obtain ⟨hoverflow, -, hreason⟩ := (Ring.step h (.query held sequence)).overflow nofun hquery
    rcases hreason with ⟨⟨⟩, -⟩ | hrefusals | ⟨_, ⟨⟩, -⟩
    rw [← Ring.events_refusals] at hrefusals
    exact ⟨hoverflow, hrefusals⟩

/-- When a wait is over nobody waits for the unit. What stops it instead is its last call in
between, or its last query with more refusals than can be counted. -/
theorem Waited.outcome (h : ring.WellFormed)
    (hbetween : ∀ ring state, ∃ ops, (between ring state).state.1 = ring.after ops)
    (hwaited : Waited held sequence between watcher ring state calls final result) :
    (∀ verdict, result = .ok verdict →
      Concluded final.2.1 sequence verdict ∧ ¬final.2.1.awaits sequence) ∧
    ∀ fault, result = .error fault →
      (∃ ring' state', (between ring' state').state = final.2 ∧
        (between ring' state').trace.result = .error fault) ∨
      fault = .overflow ∧ UInt64.size ≤
        final.2.1.refusals + refusalsIn (final.2.1.events (.query held sequence)) := by
  induction hwaited with
  | @decided watcher ring state verdict watcher' ring' hpoll hverdict =>
    have hpolled := polled h watcher held sequence
    rw [hpoll] at hpolled
    have hown := hpolled.own h
    rw [hverdict, if_neg Bool.false_ne_true] at hown
    refine ⟨?_, nofun⟩
    rintro _ ⟨⟩
    exact ⟨hpolled.concluded h hverdict, hown.2⟩
  | @pollStopped watcher ring state fault hpoll =>
    have hpolled := polled h watcher held sequence
    rw [hpoll] at hpolled
    obtain ⟨hoverflow, hrefusals⟩ := hpolled.stopped h
    refine ⟨nofun, ?_⟩
    rintro _ ⟨⟩
    exact Or.inr ⟨hoverflow, hrefusals⟩
  | betweenStopped hpoll hpending hcall =>
    refine ⟨nofun, ?_⟩
    rintro _ ⟨⟩
    exact Or.inl ⟨_, _, rfl, hcall⟩
  | @again watcher ring state _ _ _ _ _ _ hpoll _ _ _ ih =>
    have hpolled := polled h watcher held sequence
    rw [hpoll] at hpolled
    obtain ⟨ops, rfl⟩ := hpolled.exists_ops
    obtain ⟨later, hlater⟩ := hbetween (ring.after ops) state
    rw [hlater] at ih
    exact ih ((h.after ops).after later)

/-- A wait comes to what polling in turn with `between` comes to if nothing bounds the rounds, and
the calls of `between` and the polls spent before stay below the budget, whatever is done to the
ring in between. In the end the unit is resolved, given up or gone, unless a call in between was
stopped or the refusals are too many to count. -/
theorem wait_ends {start : Ring} (hnew : start.IsNew) (earlier : List Ring.Op) (watcher : Watcher)
    (held : Frame → Bool) (sequence : Nat) (between : Ring → σ → Run (Ring × σ) Unit)
    (hbetween : ∀ ring state, ∃ ops, (between ring state).state.1 = ring.after ops) (state : σ) :
    let ring := start.after earlier
    let run := watcher.wait ring held sequence between state
    let ring' := run.state.2.1
    (∃ calls, calls ≤ max watcher.limit.queries.toNat 1 - 1 - watcher.spentOn sequence ∧
      ∀ calls' final result,
        Waited held sequence between watcher ring state calls' final result ↔
          calls' = calls ∧ final = run.state ∧ result = run.trace.result) ∧
    (∀ verdict, run.trace.result = .ok verdict → verdict.isPending = false ∧
      Concluded ring' sequence verdict ∧ ¬ring'.awaits sequence) ∧
    ∀ fault, run.trace.result = .error fault →
      (∃ ring state, (between ring state).state = run.state.2 ∧
        (between ring state).trace.result = .error fault) ∨
      fault = .overflow ∧ UInt64.size ≤
        ring'.refusals + refusalsIn (ring'.events (.query held sequence)) := by
  intro ring run ring'
  have h : ring.WellFormed := hnew.wellFormed_after earlier
  obtain ⟨calls, hcalls, hwaited⟩ :=
    waitFor_waited h hbetween (Nat.sub_le _ (watcher.spentOn sequence)) state
  obtain ⟨hdecided, hstopped⟩ := hwaited.outcome h hbetween
  refine ⟨⟨calls, by omega, ?_⟩, ?_, hstopped⟩
  · intro calls' final result
    constructor
    · exact hwaited.unique
    · rintro ⟨rfl, rfl, rfl⟩
      exact hwaited
  · intro verdict hverdict
    obtain ⟨hconcluded, hgone⟩ := hdecided verdict hverdict
    refine ⟨?_, hconcluded, hgone⟩
    cases hconcluded <;> rfl

/-- Does the next of the operations in the list, if there is one. -/
def nextOf (ring : Ring) : List Ring.Op → Run (Ring × List Ring.Op) Unit
  | [] => .done (ring, []) ()
  | op :: rest => ((ring.perform op).map fun _ => ()).within (·, rest)

/-- A ring with one slot holds a unit until the second call takes the slot for another one. -/
theorem wait_ends_single :
    let ops := [.write ⟨0⟩ 0 .marker 1, .begin 8 none]
    let run := (new ⟨5⟩).wait (Ring.single.after [.begin 7 none]) (fun _ => true) 0 nextOf ops
    (∀ ring ops, ∃ done, (nextOf ring ops).state.1 = ring.after done) ∧
    run.trace.result = .ok (.unavailable (.unavailable 0)) ∧ ¬run.state.2.1.holds 0 := by
  intro ops run
  have hbetween : ∀ ring ops, ∃ done, (nextOf ring ops).state.1 = ring.after done := by
    intro ring ops
    cases ops with
    | nil => exact ⟨[], rfl⟩
    | cons op rest => exact ⟨[op], rfl⟩
  have hverdict : run.trace.result = .ok (.unavailable (.unavailable 0)) := by decide +kernel
  obtain ⟨-, hends, -⟩ := wait_ends Ring.isNew_single [.begin 7 none] (new ⟨5⟩) (fun _ => true) 0
    nextOf hbetween ops
  obtain ⟨-, hconcluded, -⟩ := hends _ hverdict
  cases hconcluded with
  | unavailable hdead => exact ⟨hbetween, hverdict, hdead⟩

end Watcher

end CompletionRing

import CompletionRing.Proofs.Observer.Fates
import CompletionRing.Proofs.Ring.Announcements
import Mathlib.Data.List.Induction

/-!
# Audiences of rings

A run of a ring is a run of calls on its audience: the host's own calls, and an announcement for
the first success of each unit.
-/

namespace CompletionRing.Ring

/-- What an operation with its answer does to the audience. -/
def call? (earlier : List Nat) : Op → Except Fault Reply → Option Audience.Call
  | .audience held op, _ => some (.use held op)
  | .cancel id, _ => some (.cancel id)
  | .query held sequence, answer =>
    (firstSuccess earlier (.query held sequence) answer).head?.map (.announce held)
  | _, _ => none

/-- The operations that answered the first success of their unit, with the snapshots. -/
def firstSuccesses (earlier : List Nat) : List Entry → List (Entry × Snapshot)
  | [] => []
  | entry :: rest =>
    (firstSuccess earlier entry.op entry.answer).map (entry, ·) ++
      firstSuccesses (earlier ++ (success? entry.op entry.answer).toList) rest

/-- Does an operation cancel what has the identifier? -/
def Entry.cancels (id : UInt32) (entry : Entry) : Bool :=
  match entry.op with
  | .cancel other => other = id
  | .audience _ (.cancel place) => (entry.ring.audience.subscriptions[place]?).any (·.id = id)
  | _ => false

/-- Why the subscription at a position did not take what an operation announced. -/
def Entry.refusal? (entry : Entry) (position : Nat) : Option Refusal :=
  (deliveries entry.events)[entry.ring.audience.place position]? >>= fun delivery =>
    delivery.failure?.map (·.2)

variable {ring : Ring} {op : Op} {run : Run Ring Reply} {earlier : List Nat} {position : Nat}
  {subscription : Subscription} {id : UInt32} {name : String} {consumer : Consumer} {active : Bool}

/-! ### Steps -/

lemma call?_of_first {held : Frame → Bool} {sequence : Nat} {snapshot : Snapshot}
    {answer : Except Fault Reply}
    (hfirst : firstSuccess earlier (.query held sequence) answer = [snapshot]) :
    call? earlier (.query held sequence) answer = some (.announce held snapshot) := by
  rw [call?, hfirst]
  rfl

/-- The audience takes part in a step by the call that it is for it. -/
theorem Step.audience_next (hheard : ring.Heard earlier) (hstep : Step ring op run) :
    run.state.audience =
      (call? earlier op run.trace.result).elim ring.audience ring.audience.next := by
  have hannounces := hstep.announces hheard
  cases hstep with
  | audience hop =>
    rw [call?, Option.elim_some, Audience.next, Audience.use_of_ok hop]
    rfl
  | audienceFault hop =>
    rw [call?, Option.elim_some, Audience.next, Audience.use_of_error hop]
    rfl
  | queriedSettled | queriedEvaluated =>
    rw [call?, ← hannounces rfl]
    rfl
  | @queriedCompleted held sequence store slot slot' =>
    obtain ⟨-, htold, -, -⟩ := ring.audience.announce_spec held slot'.snapshot
    rw [call?, ← hannounces rfl, htold, List.head?_cons, Option.map_some, Option.elim_some,
      Audience.next_announce]
    rfl
  | _ => rfl

lemma cancels_entry (h : ring.WellFormed) (hheard : ring.Heard earlier) (op : Op) (id : UInt32) :
    (ring.entry op).cancels id = decide
      ((call? earlier op (ring.answer op)).bind ring.audience.cancelled? = some id) := by
  cases op with
  | cancel other => exact decide_eq_decide.mpr (Option.some.injEq other id).symm.to_iff
  | query held sequence =>
    rw [call?]
    cases (firstSuccess earlier (.query held sequence)
      (ring.answer (.query held sequence))).head? <;> rfl
  | audience held use =>
    cases use with
    | cancel place =>
      have hnext := (step h (.audience held (.cancel place))).audience_next hheard
      have hids : ((ring.next (.audience held (.cancel place))).audience.subscriptions[place]?).map
          (·.id) = (ring.audience.subscriptions[place]?).map (·.id) := by
        rw [next_eq, hnext]
        exact Audience.ids_next rfl place
      change ((ring.next (.audience held (.cancel place))).audience.subscriptions[place]?).any
        (·.id = id) = decide ((ring.audience.subscriptions[place]?).map (·.id) = some id)
      rw [← hids]
      cases (ring.next (.audience held (.cancel place))).audience.subscriptions[place]? <;> simp
    | _ => rfl
  | _ => rfl

lemma subscription_next (h : ring.WellFormed) (hheard : ring.Heard earlier)
    (hat : ring.audience.subscriptions[position]? = some ⟨id, name, consumer, active⟩) (op : Op) :
    (ring.next op).audience.subscriptions[position]? = some ⟨id, name,
      (call? earlier op (ring.answer op)).elim consumer
        (ring.audience.served position ⟨id, name, consumer, active⟩),
      active && !(ring.entry op).cancels id⟩ := by
  have hnext := (step h op).audience_next hheard
  rw [← next_eq, ← answer_eq] at hnext
  rw [hnext, cancels_entry h hheard]
  cases call? earlier op (ring.answer op) with
  | none =>
    rw [Option.elim_none, hat]
    simp
  | some call =>
    rw [Option.elim_some, Audience.subscription_next hat call, ← decide_not]
    rfl

lemma answer_audience {held : Frame → Bool} {use : Audience.Op} {reply : Audience.Reply}
    {audience : Audience} (h : ring.audience.perform held use = .ok (reply, audience)) :
    ring.answer (.audience held use) = .ok (.audience reply) := by
  rw [answer, perform, h]
  rfl

lemma next_audience {held : Frame → Bool} {use : Audience.Op} {reply : Audience.Reply}
    {audience : Audience} (h : ring.audience.perform held use = .ok (reply, audience)) :
    ring.next (.audience held use) = { ring with audience } := by
  rw [next, perform, h]
  rfl

lemma subscription_of_subscribed {held : Frame → Bool} {setup : ConsumerSetup}
    (h : ring.answer (.audience held (.subscribe name setup)) = .ok (.audience (.subscribed id))) :
    ∃ consumer, setup.make = .ok consumer ∧
      (ring.next (.audience held (.subscribe name setup))).audience.subscriptions[
        ring.audience.subscriptions.length]? = some ⟨id, name, consumer, true⟩ := by
  rcases ring.audience.perform_cases held (.subscribe name setup) with
    ⟨reply, audience', hperform, hcases⟩ | ⟨_, _, fault, -, -, hperform⟩
  · rw [answer_audience hperform] at h
    rw [next_audience hperform]
    cases hcases with
    | @subscribed _ _ consumer hmake =>
      cases h
      refine ⟨consumer, hmake, ?_⟩
      exact List.getElem?_concat_length
  · rw [answer, perform, hperform] at h
    cases h

lemma Step.deliveries_first {held : Frame → Bool} {sequence : Nat} {snapshot : Snapshot}
    (hheard : ring.Heard earlier) (hstep : Step ring (.query held sequence) run)
    (hfirst : snapshot ∈ firstSuccess earlier (.query held sequence) run.trace.result) :
    deliveries run.trace.events = ring.audience.deliveriesOf held snapshot ∧
      run.state.audience = (ring.audience.told held snapshot).2 := by
  have hannounces := hstep.announces hheard
  cases hstep with
  | queriedCompleted =>
    obtain ⟨-, htold, -, -⟩ := ring.audience.announce_spec held _
    rw [← hannounces rfl, htold, List.mem_singleton] at hfirst
    rw [hfirst]
    exact ⟨ring.audience.deliveries_announce held _, rfl⟩
  | queriedOverflow => cases hfirst
  | _ =>
    rw [← hannounces rfl] at hfirst
    cases hfirst

lemma refusal?_of_first {held : Frame → Bool} {sequence : Nat} {snapshot : Snapshot}
    (h : ring.WellFormed) (hheard : ring.Heard earlier)
    (hat : ring.audience.subscriptions[position]? = some subscription)
    (hactive : subscription.active)
    (hfirst : snapshot ∈
      firstSuccess earlier (.query held sequence) (ring.answer (.query held sequence))) :
    (ring.entry (.query held sequence)).refusal? position =
      match (subscription.consumer.taking (ring.audience.keepsAlive held) snapshot).1 with
      | .error refusal => some refusal
      | .ok () => none := by
  have hstep := step h (.query held sequence)
  obtain ⟨hdeliveries, haudience⟩ := hstep.deliveries_first hheard hfirst
  have hevents : deliveries (ring.events (.query held sequence)) =
      ring.audience.deliveriesOf held snapshot := by
    rw [← hdeliveries]
    exact (deliveries_filter _).symm
  unfold Entry.refusal? entry
  dsimp only
  rw [hevents, next_eq, haudience, Audience.place_told,
    Audience.getElem?_deliveriesOf hat hactive]
  unfold Subscription.delivery
  cases (subscription.consumer.taking (ring.audience.keepsAlive held) snapshot).1 <;> rfl

lemma Heard.next (hheard : ring.Heard earlier) (h : ring.WellFormed) (op : Op) :
    (ring.next op).Heard (earlier ++ (success? op (ring.answer op)).toList) := by
  rw [next_eq, answer_eq]
  exact (step h op).heard h hheard

lemma Heard.audience (hheard : ring.Heard earlier) (h : ring.WellFormed) (held : Frame → Bool)
    (use : Audience.Op) : (ring.next (.audience held use)).Heard earlier := by
  have hnext := hheard.next h (.audience held use)
  have hnone : success? (.audience held use) (ring.answer (.audience held use)) = none := rfl
  rwa [hnone, Option.toList_none, List.append_nil] at hnext

lemma IsNew.heard_after (hnew : ring.IsNew) (ops : List Op) :
    (ring.after ops).Heard (successes (ring.entries ops)) := by
  have hall := Ring.heard_after hnew.wellFormed hnew.heard ops
  rwa [List.nil_append] at hall

/-! ### First successes -/

lemma entries_append (ring : Ring) (ops rest : List Op) :
    ring.entries (ops ++ rest) = ring.entries ops ++ (ring.after ops).entries rest := by
  induction ops generalizing ring with
  | nil => rfl
  | cons op ops ih =>
    rw [List.cons_append, entries, entries, ih, List.cons_append]
    rfl

lemma firstSuccess_cases (earlier : List Nat) (op : Op) (answer : Except Fault Reply) :
    firstSuccess earlier op answer = [] ∨
      ∃ snapshot, firstSuccess earlier op answer = [snapshot] := by
  unfold firstSuccess
  split
  · split
    · exact Or.inr ⟨_, rfl⟩
    · exact Or.inl rfl
  · exact Or.inl rfl

lemma firstSuccesses_entries_cons (earlier : List Nat) (ring : Ring) (op : Op) (rest : List Op) :
    firstSuccesses earlier (ring.entries (op :: rest)) =
      (firstSuccess earlier op (ring.answer op)).map (ring.entry op, ·) ++
        firstSuccesses (earlier ++ (success? op (ring.answer op)).toList)
          ((ring.next op).entries rest) := rfl

lemma firstSuccess_of_success {answer : Except Fault Reply} {sequence : Nat}
    (h : success? op answer = some sequence) :
    ∃ held snapshot, op = .query held sequence ∧ answer = .ok (.snapshot snapshot) ∧
      firstSuccess earlier op answer = if sequence ∈ earlier then [] else [snapshot] := by
  obtain ⟨held, snapshot, rfl, rfl, hstatus⟩ := success?_eq_some h
  refine ⟨held, snapshot, rfl, rfl, ?_⟩
  by_cases hmem : sequence ∈ earlier <;> simp [firstSuccess, hstatus, hmem]

lemma firstSuccess_eq_nil {answer : Except Fault Reply} (h : success? op answer = none) :
    firstSuccess earlier op answer = [] := by
  unfold firstSuccess
  split
  · next held sequence snapshot =>
    rw [success?_snapshot] at h
    by_cases hstatus : snapshot.status = .successful
    · rw [if_pos hstatus] at h
      cases h
    · simp [hstatus]
  · rfl

lemma eraseDups_concat (earlier : List Nat) (sequence : Nat) :
    (earlier ++ [sequence]).eraseDups =
      earlier.eraseDups ++ if sequence ∈ earlier then [] else [sequence] := by
  rw [List.eraseDups_append]
  by_cases hmem : sequence ∈ earlier <;> simp [List.removeAll, hmem, List.eraseDups_cons]

lemma nodup_eraseDups (sequences : List Nat) : sequences.eraseDups.Nodup := by
  induction sequences using List.reverseRecOn with
  | nil => exact List.nodup_nil
  | append_singleton before sequence ih =>
    rw [eraseDups_concat]
    by_cases hmem : sequence ∈ before
    · rw [if_pos hmem, List.append_nil]
      exact ih
    · rw [if_neg hmem, List.nodup_append]
      refine ⟨ih, by simp, ?_⟩
      rintro other hother _ hsame rfl
      rw [List.mem_singleton.mp hsame, List.mem_eraseDups] at hother
      exact hmem hother

/-- The first successes are of the units that were answered with a success, once each. -/
theorem sequences_firstSuccesses (h : ring.WellFormed) (earlier : List Nat) (ops : List Op) :
    earlier.eraseDups ++ (firstSuccesses earlier (ring.entries ops)).map (·.2.sequence) =
      (earlier ++ successes (ring.entries ops)).eraseDups := by
  induction ops generalizing ring earlier with
  | nil => simp [entries, firstSuccesses, successes]
  | cons op rest ih =>
    have hrest := ih (h.next op) (earlier ++ (success? op (ring.answer op)).toList)
    have hsuccesses : successes (ring.entries (op :: rest)) =
        (success? op (ring.answer op)).toList ++ successes ((ring.next op).entries rest) :=
      noted_entries_cons success? ring op rest
    rw [hsuccesses, ← List.append_assoc, ← hrest, firstSuccesses_entries_cons, List.map_append,
      List.map_map, ← List.append_assoc]
    congr 1
    cases hsuccess : success? op (ring.answer op) with
    | none =>
      rw [firstSuccess_eq_nil hsuccess]
      simp
    | some sequence =>
      obtain ⟨held, snapshot, rfl, hanswer, hfirst⟩ := firstSuccess_of_success hsuccess
      have hsequence : snapshot.sequence = sequence := by
        have hstep := step h (.query held sequence)
        rw [answer_eq] at hanswer
        rw [← hstep.view_of_query h hanswer]
        exact sequence_view (hstep.wellFormed h) sequence
      rw [hfirst, Option.toList_some, eraseDups_concat]
      by_cases hmem : sequence ∈ earlier <;> simp [hmem, hsequence]

lemma nodup_firstSuccesses (h : ring.WellFormed) (earlier : List Nat) (ops : List Op) :
    ((firstSuccesses earlier (ring.entries ops)).map (·.2.sequence)).Nodup := by
  have hnodup := nodup_eraseDups (earlier ++ successes (ring.entries ops))
  rw [← sequences_firstSuccesses h] at hnodup
  exact hnodup.sublist (List.sublist_append_right _ _)

end CompletionRing.Ring

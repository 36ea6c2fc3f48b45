import CompletionRing.Ring.Device
import CompletionRing.Ring.Host
import CompletionRing.Ring.Lifetime
import Mathlib.Tactic.Common

/-!
# Runs of a ring

What the host, the audience and the device do to a ring is data, and a run is a list of it. A
fault answers an operation and leaves the ring as it was; the run goes on.
-/

namespace CompletionRing.Ring

inductive Op where
  | begin (number : UInt32) (frame : Option Frame)
  | prepareRetry (sequence : Nat)
  /-- Frames that are `held` elsewhere than by the audience are alive. -/
  | query (held : Frame → Bool) (sequence : Nat)
  | force (sequence : Nat) (outOfRange : Bool)
  | audience (held : Frame → Bool) (op : Audience.Op)
  | cancel (id : UInt32)
  /-- Gives the regions back to the `pool`. -/
  | destroy (pool : Pool)
  | write (engine : Engine) (sequence : Nat) (field : Field) (datum : UInt32)
  | retire (sequence : Nat)

/-- The unit whose place in the shared memory the device writes to. -/
def Op.touched? : Op → Option Nat
  | .write _ sequence _ _ | .retire sequence => some sequence
  | _ => none

inductive Reply where
  | ticket (answer : Except Error Ticket)
  | snapshot (snapshot : Snapshot)
  | audience (reply : Audience.Reply)
  | cancelled (found : Bool)
  | destroyed
  | written (known : Option Bool)
  | retired (index : Option Nat)

def perform (ring : Ring) : Op → Run Ring Reply
  | .begin number frame => .ofTraced ring do
    let (answer, ring) ← ring.begin number frame
    return (.ticket answer, ring)
  | .prepareRetry sequence => .ofTraced ring do
    let (answer, ring) ← ring.prepareRetry sequence
    return (.ticket answer, ring)
  | .query held sequence => .ofTraced ring do
    let (snapshot, ring) ← ring.query held sequence
    return (.snapshot snapshot, ring)
  | .force sequence outOfRange => .ofTraced ring do
    let (snapshot, ring) ← ring.force sequence outOfRange
    return (.snapshot snapshot, ring)
  | .audience held op => .ofTraced ring do
    let (reply, audience) ← ring.audience.perform held op
    return (.audience reply, { ring with audience })
  | .cancel id =>
    let (found, audience) := ring.audience.cancel id
    .done { ring with audience } (.cancelled found)
  | .destroy pool => .ofTraced ring do
    let (ring, _) ← ring.destroy pool
    return (.destroyed, ring)
  | .write engine sequence field datum => .ofTraced ring do
    let (known, ring) ← ring.write engine sequence field datum
    return (.written known, ring)
  | .retire sequence => .ofTraced ring do
    let (index, ring) ← ring.retire sequence
    return (.retired index, ring)

/-- The ring after an operation. -/
def next (ring : Ring) (op : Op) : Ring := (ring.perform op).state

/-- What an operation answers. -/
def answer (ring : Ring) (op : Op) : Except Fault Reply := (ring.perform op).trace.result

/-- The events that an operation leaves. -/
def events (ring : Ring) (op : Op) : List Event := (ring.perform op).trace.events

/-- The ring after a run. -/
def after (ring : Ring) (ops : List Op) : Ring := ops.foldl next ring

/-- One operation of a run. -/
structure Entry where
  op : Op
  answer : Except Fault Reply
  events : List Event
  /-- The ring that the operation left. -/
  ring : Ring

/-- The operations of a run one after the other. -/
def entries (ring : Ring) : List Op → List Entry
  | [] => []
  | op :: rest => ⟨op, ring.answer op, ring.events op, ring.next op⟩ :: (ring.next op).entries rest

/-- What somebody notes down who sees the operations of a run and their answers. -/
def noted {α : Type} (note? : Op → Except Fault Reply → Option α) (entries : List Entry) :
    List α :=
  entries.filterMap fun entry => note? entry.op entry.answer

/-- Was the ring made just now, and from a pool? -/
def IsNew (ring : Ring) : Prop :=
  ∃ setup pool pool', (create setup pool).result = .ok (.ok ring, pool')

@[simp] theorem after_nil (ring : Ring) : ring.after [] = ring := rfl

@[simp] theorem after_cons (ring : Ring) (op : Op) (rest : List Op) :
    ring.after (op :: rest) = (ring.next op).after rest := rfl

@[simp] theorem after_append (ring : Ring) (ops rest : List Op) :
    ring.after (ops ++ rest) = (ring.after ops).after rest :=
  List.foldl_append

theorem after_induction {P : Ring → Prop} {ring : Ring} (h : P ring)
    (hnext : ∀ ring op, P ring → P (ring.next op)) (ops : List Op) : P (ring.after ops) := by
  induction ops generalizing ring with
  | nil => exact h
  | cons op rest ih => exact ih (hnext ring op h)

lemma noted_entries_cons {α : Type} (note? : Op → Except Fault Reply → Option α) (ring : Ring)
    (op : Op) (rest : List Op) :
    noted note? (ring.entries (op :: rest)) =
      (note? op (ring.answer op)).toList ++ noted note? ((ring.next op).entries rest) := by
  unfold noted
  rw [entries, List.filterMap_cons]
  cases note? op (ring.answer op) <;> rfl

/-- What every operation keeps of a ring and the notes so far holds after every run. -/
theorem noted_induction {α : Type} {note? : Op → Except Fault Reply → Option α}
    {P : Ring → List α → Prop} {ring : Ring} {earlier : List α} (h : P ring earlier)
    (hnext : ∀ ring earlier op, P ring earlier →
      P (ring.next op) (earlier ++ (note? op (ring.answer op)).toList)) (ops : List Op) :
    P (ring.after ops) (earlier ++ noted note? (ring.entries ops)) := by
  induction ops generalizing ring earlier with
  | nil =>
    rw [entries, noted, List.filterMap_nil, List.append_nil]
    exact h
  | cons op rest ih =>
    rw [noted_entries_cons, ← List.append_assoc]
    exact ih (hnext ring earlier op h)

/-- What one operation shows of itself is shown by each operation of a run, on the ring that the
operations before it left. -/
theorem exists_of_entries_eq {ring : Ring} {ops : List Op} {before after : List Entry}
    {entry : Entry} (h : ring.entries ops = before ++ entry :: after) :
    ∃ earlier later, ops = earlier ++ entry.op :: later ∧ before = ring.entries earlier ∧
      entry = ⟨entry.op, (ring.after earlier).answer entry.op, (ring.after earlier).events entry.op,
        (ring.after earlier).next entry.op⟩ := by
  induction ops generalizing ring before with
  | nil => simp [entries] at h
  | cons op rest ih =>
    cases before with
    | nil =>
      rw [entries, List.nil_append, List.cons.injEq] at h
      obtain ⟨rfl, -⟩ := h
      exact ⟨[], rest, rfl, rfl, rfl⟩
    | cons first before =>
      rw [entries, List.cons_append, List.cons.injEq] at h
      obtain ⟨rfl, hrest⟩ := h
      obtain ⟨earlier, later, hops, hbefore, hentry⟩ := ih hrest
      refine ⟨op :: earlier, later, ?_, ?_, hentry⟩
      · rw [hops, List.cons_append]
      · rw [hbefore, entries]

end CompletionRing.Ring

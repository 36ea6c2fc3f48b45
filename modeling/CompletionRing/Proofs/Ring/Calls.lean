import CompletionRing.Proofs.Ring.Slots

/-!
# Calls

Who holds a ring calls its functions. Each call is an operation of a run: it gives what the
operation answers and leaves the ring that the operation leaves.
-/

namespace CompletionRing

namespace Ring

variable {ring : Ring} {run : Run Ring Reply} {number : UInt32} {frame : Option Frame}
  {sequence : Nat} {held : Frame → Bool} {store : RecordStore} {slot : Slot} {fault : Fault}

/-! ### What an operation answers is what the call gives -/

lemma begin_of_answer {answer : Except Error Ticket}
    (h : ring.answer (.begin number frame) = .ok (.ticket answer)) :
    (ring.begin number frame).result = .ok (answer, ring.next (.begin number frame)) := by
  obtain ⟨_, ⟨⟩, hresult⟩ := Run.exists_of_ofTraced_ok h
  exact hresult

lemma begin_of_fault (h : ring.answer (.begin number frame) = .error fault) :
    (ring.begin number frame).result = .error fault :=
  Run.of_ofTraced_error h

lemma prepareRetry_of_answer {answer : Except Error Ticket}
    (h : ring.answer (.prepareRetry sequence) = .ok (.ticket answer)) :
    (ring.prepareRetry sequence).result = .ok (answer, ring.next (.prepareRetry sequence)) := by
  obtain ⟨_, ⟨⟩, hresult⟩ := Run.exists_of_ofTraced_ok h
  exact hresult

lemma query_of_answer {snapshot : Snapshot}
    (h : ring.answer (.query held sequence) = .ok (.snapshot snapshot)) :
    (ring.query held sequence).result = .ok (snapshot, ring.next (.query held sequence)) := by
  obtain ⟨_, ⟨⟩, hresult⟩ := Run.exists_of_ofTraced_ok h
  exact hresult

lemma query_of_fault (h : ring.answer (.query held sequence) = .error fault) :
    (ring.query held sequence).result = .error fault :=
  Run.of_ofTraced_error h

lemma abandon_of_answer {snapshot : Snapshot}
    (h : ring.answer (.force sequence false) = .ok (.snapshot snapshot)) :
    (ring.abandon sequence).result = .ok (snapshot, ring.next (.force sequence false)) := by
  obtain ⟨_, ⟨⟩, hresult⟩ := Run.exists_of_ofTraced_ok h
  exact hresult

end Ring

end CompletionRing

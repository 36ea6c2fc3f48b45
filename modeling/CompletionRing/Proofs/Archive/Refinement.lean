import CompletionRing.Proofs.Archive.Simulation

/-!
# A ring is an archive with a window

Whoever watches a run of a ring sees what a run of an archive shows, as long as the device writes
to live units only: indices that are used again are never told apart from records of their own.
-/

namespace CompletionRing

/-- What an operation and the counters after it show. -/
structure Observation where
  answer : Except Fault Ring.Reply
  notices : List Event
  submitted : Nat
  reported : Nat
  outstanding : Nat
  refusals : Nat

namespace Ring

def observe (ring : Ring) (op : Op) : Observation where
  answer := ring.answer op
  notices := (ring.events op).filter Event.isNotice
  submitted := (ring.next op).submitted
  reported := (ring.next op).reported
  outstanding := (ring.next op).outstanding
  refusals := (ring.next op).refusals

def observations (ring : Ring) : List Op → List Observation
  | [] => []
  | op :: rest => ring.observe op :: (ring.next op).observations rest

/-- Does the device write to units only while they are live? -/
def touchesLive (ring : Ring) : List Op → Bool
  | [] => true
  | op :: rest => op.touched?.all ring.holds && (ring.next op).touchesLive rest

end Ring

namespace Archive

def next (archive : Archive) (op : Ring.Op) : Archive := (archive.perform op).state

def observe (archive : Archive) (op : Ring.Op) : Observation where
  answer := (archive.perform op).trace.result
  notices := (archive.perform op).trace.events
  submitted := (archive.next op).submitted
  reported := (archive.next op).reported
  outstanding := (archive.next op).outstanding
  refusals := (archive.next op).refusals

def observations (archive : Archive) : List Ring.Op → List Observation
  | [] => []
  | op :: rest => archive.observe op :: (archive.next op).observations rest

end Archive

namespace Ring

variable {ring : Ring} {archive : Archive}

lemma mirrors_fresh {name : String} {capacity : Nat} {store : RecordStore}
    (hzero : ∀ index, store.fenceNumber index = 0) :
    (fresh name capacity store).Mirrors (.new name capacity store.layouts) where
  name := rfl
  window := rfl
  submitted := rfl
  destroyed := rfl
  audience := rfl
  refusals := rfl
  outstanding := by
    change 0 + List.countP Dossier.isOpen (List.drop (0 - capacity) []) = 0
    rw [List.drop_nil, List.countP_nil]
  layouts := by
    rintro _ ⟨⟩
    rfl
  fences := by
    rintro _ ⟨⟩ index
    rw [hzero]
    exact Nat.zero_le _
  slots := by rintro sequence dossier ⟨⟩
  records := by rintro _ ⟨⟩ sequence dossier ⟨⟩

lemma Mirrors.next (hring : ring.WellFormed) (h : ring.Mirrors archive) {op : Op}
    (hdevice : op.touched?.all ring.holds) :
    (archive.perform op).trace = (ring.perform op).quiet.trace ∧
      (ring.next op).Mirrors (archive.next op) := by
  apply h.simulated hring (step hring op)
  intro sequence htouched
  rw [htouched] at hdevice
  exact hdevice

lemma Mirrors.observe (hring : ring.WellFormed) (h : ring.Mirrors archive) {op : Op}
    (hdevice : op.touched?.all ring.holds) : ring.observe op = archive.observe op := by
  obtain ⟨htrace, hnext⟩ := h.next hring hdevice
  have houtstanding := hnext.outstanding
  have hsubmitted : (archive.next op).submitted = (ring.next op).submitted := hnext.submitted
  have hreported : (archive.next op).reported = (ring.next op).reported := by
    unfold Archive.reported
    omega
  have hopen : (archive.next op).outstanding = (ring.next op).outstanding := by
    unfold Ring.outstanding
    omega
  unfold Ring.observe Archive.observe
  rw [htrace, hsubmitted, hreported, hopen, hnext.refusals]
  rfl

lemma Mirrors.observations (hring : ring.WellFormed) (h : ring.Mirrors archive) {ops : List Op}
    (hdevice : ring.touchesLive ops) : ring.observations ops = archive.observations ops := by
  induction ops generalizing ring archive with
  | nil => rfl
  | cons op rest ih =>
    rw [touchesLive, Bool.and_eq_true] at hdevice
    obtain ⟨hnow, hlater⟩ := hdevice
    rw [Ring.observations, Archive.observations, h.observe hring hnow,
      ih (hring.next op) (h.next hring hnow).2 hlater]

/-- Every run of a ring made from any setup, in which the device writes to live units only, shows
the same answers, notices and counters as the run of an archive with the setup's engines. -/
theorem observations_eq_archive {setup : RingSetup} {pool pool' : Pool}
    (hcreate : (create setup pool).result = .ok (.ok ring, pool')) (ops : List Op)
    (hdevice : ring.touchesLive ops) :
    ring.observations ops =
      (Archive.new setup.name setup.capacity.toNat setup.layouts).observations ops := by
  have hnew : ring.IsNew := ⟨setup, pool, pool', hcreate⟩
  have hring := hnew.wellFormed
  obtain ⟨-, store, rfl, -, hzero, hlayouts⟩ := fresh_of_create hcreate
  rw [← hlayouts]
  exact (mirrors_fresh hzero).observations hring hdevice

/-- Two units that share an index, of which the first one succeeds and the second one waits. -/
def reuse : List Op :=
  [.begin 7 none, .write ⟨0⟩ 0 .marker doneMarker, .retire 0, .query (fun _ => true) 0,
    .begin 8 none, .query (fun _ => true) 0, .query (fun _ => true) 1]

theorem observations_eq_archive_single :
    single.observations reuse = (Archive.new "ring" 1 [(⟨0⟩, .compact)]).observations reuse := by
  have hcreate : (create ⟨"ring", 1, [⟨⟨0⟩, "engine", .compact, true⟩]⟩ (.new none)).result =
      .ok (.ok single, ⟨none, 2, 24⟩) := rfl
  exact observations_eq_archive hcreate reuse rfl

end Ring

end CompletionRing

import CompletionRing.Run
import CompletionRing.Text.Description

/-!
# Galleries

An audience without a ring, and the frames that its host holds.
-/

namespace CompletionRing

structure Gallery where
  audience : Audience
  frames : Frames

namespace Gallery

def new : Gallery := ⟨.empty, .empty⟩

inductive Op where
  | audience (op : Audience.Op)
  | createFrame (id : Nat)
  | releaseFrame (id : Nat)
  /-- Announces a snapshot, for the frame that the host holds under an id. -/
  | announce (snapshot : Snapshot) (frame : Option Nat)
  | describe

inductive Reply where
  | audience (reply : Audience.Reply)
  | frame (answer : Bool)
  | announced (fanOut : FanOut)
  | described (text : String)

def perform (gallery : Gallery) : Op → Run Gallery Reply
  | .audience op => .ofTraced gallery do
    let (reply, audience) ← gallery.audience.perform gallery.frames.holds op
    return (.audience reply, { gallery with audience })
  | .createFrame id =>
    let (free, frames) := gallery.frames.create id
    .done { gallery with frames } (.frame free)
  | .releaseFrame id =>
    let (found, frames) := gallery.frames.release id
    .done { gallery with frames } (.frame found)
  | .announce snapshot frame => .ofTraced gallery do
    let snapshot := { snapshot with frame := frame.bind gallery.frames.find? }
    let (fanOut, audience) ← gallery.audience.announce gallery.frames.holds snapshot
    return (.announced fanOut, { gallery with audience })
  | .describe => .done gallery (.described gallery.audience.describe)

end Gallery

end CompletionRing

import CompletionRing.Observer.Audience
import CompletionRing.Text.Quoted

/-!
# Descriptions

One-line texts of snapshots and audiences for a person to read.
-/

namespace CompletionRing

open Text

def Report.describe (report : Report) : String :=
  record "EngineReport" [
    ("engine", wrapped "EngineId" (toString report.engine.number)),
    ("completion", report.completion.label),
    ("error_bits", toString report.errorBits),
    ("checksum", optional (report.checksum.map toString)),
    ("work_count", optional (report.workCount.map toString)),
    ("lane_ids", bracketed (report.lanes.map toString))]

def Snapshot.describe (snapshot : Snapshot) : String :=
  record "StatusSnapshot" [
    ("sequence", toString snapshot.sequence),
    ("report_number", optional (snapshot.number.map toString)),
    ("has_resource", toString snapshot.frame.isSome),
    ("codec_status", snapshot.status.label),
    ("engines", bracketed (snapshot.reports.map Report.describe))]

def Subscription.describe (subscription : Subscription) : String :=
  record "Registered" [
    ("id", wrapped "ObserverId" (toString subscription.id)),
    ("name", quote subscription.name),
    ("handle", subscription.consumer.kind.label)]

def Audience.describe (audience : Audience) : String :=
  record "ObserverRegistry" [
    ("next_id", toString audience.nextId),
    ("observers", bracketed (audience.active.map Subscription.describe))]

end CompletionRing

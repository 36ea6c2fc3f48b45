/-!
# Refusals
-/

namespace CompletionRing

/-- Why a consumer did not take a snapshot. -/
inductive Refusal where
  | disconnected
  | full
  | rejected (reason : String)
  deriving DecidableEq

def Refusal.message : Refusal → String
  | .disconnected => "observer channel disconnected"
  | .full => "observer channel full"
  | .rejected reason => s!"observer rejected snapshot: {reason}"

/-- How a consumer is attached: a function of its own, one end of a channel, or an object that
the caller goes on using. -/
inductive ConsumerKind where
  | callback
  | channel
  | shared
  deriving DecidableEq

def ConsumerKind.label : ConsumerKind → String
  | .callback => "callback"
  | .channel => "channel"
  | .shared => "shared"

end CompletionRing

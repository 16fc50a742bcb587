import TxnLiveness.Remediation
/-!
# Counters

What a node counts of its own activity.
-/

namespace TxnLiveness

structure Counters where
  ticks : Nat := 0
  recoveries : Nat := 0
  fetches : Nat := 0
  invalidations : Nat := 0
  homeInforms : Nat := 0
  announcements : Nat := 0
  staleCompletions : Nat := 0
  remoteFailures : Nat := 0
  remoteTimeouts : Nat := 0
  uncaughtErrors : Nat := 0
deriving DecidableEq

namespace Counters

/-- The remediations of every kind together. -/
def escalations (c : Counters) : Nat :=
  c.recoveries + c.fetches + c.invalidations + c.homeInforms + c.announcements

/-- Counts a remediation under its kind. -/
def launch (c : Counters) : Remediation → Counters
  | .recover .. => { c with recoveries := c.recoveries + 1 }
  | .fetchToApply .. | .fetchKnowledge .. => { c with fetches := c.fetches + 1 }
  | .invalidate .. => { c with invalidations := c.invalidations + 1 }
  | .informHome .. => { c with homeInforms := c.homeInforms + 1 }
  | .announceDurable .. => { c with announcements := c.announcements + 1 }

def tick (c : Counters) : Counters := { c with ticks := c.ticks + 1 }

def stale (c : Counters) : Counters := { c with staleCompletions := c.staleCompletions + 1 }

def remoteFailure (c : Counters) : Counters := { c with remoteFailures := c.remoteFailures + 1 }

def remoteTimeout (c : Counters) : Counters := { c with remoteTimeouts := c.remoteTimeouts + 1 }

def uncaught (c : Counters) : Counters := { c with uncaughtErrors := c.uncaughtErrors + 1 }

end Counters

end TxnLiveness

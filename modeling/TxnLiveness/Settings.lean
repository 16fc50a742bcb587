import TxnLiveness.Text.Blank
import TxnLiveness.Text.Numeral
/-!
# Settings

How often a node audits, how long it waits for a remote call and how many announcements it makes at
a time. Each may be set in the environment to a positive machine integer, blanks around it aside.
Any other value is passed over.
-/

namespace TxnLiveness

structure Settings where
  /-- The period between audits, in nanoseconds. -/
  tick : Nat := 200_000_000
  /-- The bound on a single remote call, in nanoseconds. -/
  remoteTimeout : Nat := 2_000_000_000
  /-- How many announcements of one transaction may be under way at a time. -/
  fanout : Nat := 16
deriving DecidableEq

namespace Settings

/-- Reads a positive machine integer between blanks. -/
def positive? (raw : String) : Option Nat :=
  (Text.unsigned? Text.wordBound (Text.trim raw.toList)).filter (0 < ·)

/-! ## Variables -/

def tickVar : String := "HOLO_PROGRESS_TICK_MS"

def timeoutVar : String := "HOLO_PROGRESS_REMOTE_TIMEOUT_MS"

def fanoutVar : String := "HOLO_PROGRESS_FANOUT_CONCURRENCY"

/-- The default settings with what the environment sets. -/
def ofEnv (env : String → Option String) : Settings :=
  let read name := (env name).bind positive?
  let defaults : Settings := {}
  { tick := (read tickVar).elim defaults.tick (· * 1_000_000)
    remoteTimeout := (read timeoutVar).elim defaults.remoteTimeout (· * 1_000_000)
    fanout := (read fanoutVar).getD defaults.fanout }

end Settings

end TxnLiveness

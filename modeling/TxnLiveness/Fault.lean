import TxnLiveness.Progress
import TxnLiveness.Remediation
/-!
# Faults

Why an event, an audit or a completion was refused, one constructor per cause, and the message that
reports each.
-/

namespace TxnLiveness

inductive Fault
  /-- Blocking was recorded on no key. -/
  | emptyKeySet (txn : TxnId)
  | unnamedBlock
  /-- A blocked transaction escalated with nothing recorded to ask. -/
  | noRecordedKeys (txn : TxnId)
  | noAskedParticipants (txn : TxnId)
  | noInvalidationKey (txn : TxnId)
  /-- A coordinate tracker escalated in a status that has nothing to recover. -/
  | nothingToRecover (txn : TxnId) (status : CoordinateStatus)
  | durableWithoutExecuteAt (txn : TxnId)
  | durableWithoutRoute (txn : TxnId)
  | recoverWithoutHome (txn : TxnId)
  | informWithoutHome (txn : TxnId)
  | readyWithoutRoute (txn : TxnId)
  | readyWithoutExecuteAt (txn : TxnId)
  /-- A command reached the state of another transaction. -/
  | wrongTransaction (got own : TxnId)
  | wrongCompletion (tracker : TrackerKind) (txn : TxnId) (completion : Completion)
  | indeterminatePreAccept (txn : TxnId)
  | indeterminateStatus (status : CoordinateStatus) (txn : TxnId)
  /-- A shard that is not the home shard holds coordination state. -/
  | coordinatedElsewhere (txn : TxnId) (role : Role)

def Fault.message : Fault → String
  | .emptyKeySet txn => s!"{txn} cannot block on an empty key set"
  | .unnamedBlock => "blocking must name at least one key or range"
  | .noRecordedKeys txn => s!"txn {txn} blocked with no keys recorded"
  | .noAskedParticipants txn => s!"txn {txn} fetched without recorded participants"
  | .noInvalidationKey txn => s!"txn {txn} has no key to invalidate on"
  | .nothingToRecover txn status =>
    s!"coordinate tracker for {txn} reached no progress in status {status.name}"
  | .durableWithoutExecuteAt txn => s!"durable txn {txn} has no executeAt"
  | .durableWithoutRoute txn => s!"durable txn {txn} has no route"
  | .recoverWithoutHome txn => s!"cannot recover {txn} without a home key"
  | .informWithoutHome txn => s!"cannot inform home of {txn} without a home key"
  | .readyWithoutRoute txn => s!"ready txn {txn} lost its route"
  | .readyWithoutExecuteAt txn => s!"ready txn {txn} lost its executeAt"
  | .wrongTransaction got own => s!"event for {got} delivered to progress state of {own}"
  | .wrongCompletion tracker txn completion =>
    s!"{tracker.name} tracker of {txn} cannot apply {completion.describe}"
  | .indeterminatePreAccept txn => s!"pre-accept of {txn} recorded with indeterminate shard role"
  | .indeterminateStatus status txn =>
    s!"{status.name} of {txn} recorded with indeterminate shard role"
  | .coordinatedElsewhere txn role =>
    s!"{txn} has home-shard coordination state on a {role.name} shard"

end TxnLiveness

import TxnLiveness.Remediation
/-!
# What belongs to which tracker

Each kind of tracker dispatches remediations of its own, and each remediation ends in a completion
of its kind.
-/

namespace TxnLiveness

/-- Whether a tracker of this kind dispatches such remediations. -/
def Remediation.fits : Remediation → TrackerKind → Bool
  | .recover .., .coordinate | .fetchToApply .., .coordinate | .announceDurable .., .disseminate
  | .fetchKnowledge .., .blocking | .invalidate .., .blocking | .informHome .., .delegation => true
  | _, _ => false

theorem Remediation.fits_fetchKnowledge {required : Known} {participants : Participants}
    {executeAt : Option Timestamp} {epoch : Epoch} {kind : TrackerKind} :
    (fetchKnowledge required participants executeAt epoch).fits kind = true ↔ kind = .blocking := by
  cases kind <;> simp [fits]

theorem Remediation.fits_invalidate {participants : Participants} {kind : TrackerKind} :
    (invalidate participants).fits kind = true ↔ kind = .blocking := by
  cases kind <;> simp [fits]

theorem Remediation.fits_informHome {homeKey : Key} {kind : TrackerKind} :
    (informHome homeKey).fits kind = true ↔ kind = .delegation := by
  cases kind <;> simp [fits]

namespace Completion

/-- Whether a tracker of this kind takes such completions. -/
def fits : Completion → TrackerKind → Bool
  | .recovered _, .coordinate | .fetched _, .coordinate | .fetched _, .blocking
  | .invalidated _, .blocking | .acknowledged _, .disseminate | .roundFinished, .disseminate
  | .informedHome _, .delegation => true
  | _, _ => false

/-- Whether the completion ends its remediation. The acknowledgements of an announcement do not. -/
def isFinal : Completion → Bool
  | .acknowledged _ => false
  | _ => true

def isRecovery : Completion → Bool
  | .recovered _ => true
  | _ => false

/-- Whether the completion is of the kind that the remediation brings about. -/
def answers : Completion → Remediation → Bool
  | .recovered _, .recover .. | .fetched _, .fetchToApply .. | .fetched _, .fetchKnowledge ..
  | .invalidated _, .invalidate .. | .informedHome _, .informHome .. => true
  | .acknowledged node, .announceDurable targets _ => node ∈ targets
  | .roundFinished, .announceDurable .. => true
  | _, _ => false

theorem fits_of_answers {c : Completion} {r : Remediation} {kind : TrackerKind}
    (h : c.answers r = true) (hr : r.fits kind = true) : c.fits kind = true := by
  cases c <;> cases r <;> simp only [answers, reduceCtorEq] at h <;> cases kind <;>
    simp_all [Remediation.fits, fits]

end Completion

end TxnLiveness

import TxnLiveness.Remediation
/-!
# Topology

A read-only view of the cluster: which epochs are known here, which is current, and the replicas of
the shards that a route touches.
-/

namespace TxnLiveness

structure Topology where
  current : Epoch
  hasEpoch : Epoch → Bool
  /-- Every replica of every shard that a route touches from one epoch to another. -/
  nodes : Route → Epoch → Epoch → SortedSet NodeId

namespace Topology

/-- Fails unless the epoch is known here. -/
def awaitEpoch (t : Topology) (e : Epoch) : Except RemoteFault Unit :=
  if t.hasEpoch e then .ok () else .error (.epochUnknown e)

end Topology

end TxnLiveness

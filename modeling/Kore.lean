import Kore.Proofs.ReplicationOffsets
import Kore.Proofs.AofDatabase
import Kore.Proofs.LogOrder
import Kore.Proofs.AofFidelity
import Kore.Proofs.ReplicaFidelity
import Kore.Proofs.TransactionIsolation
import Kore.Proofs.ScanCoverage
import Kore.Proofs.ExpirationSafety
import Kore.Proofs.ContainerRaces
import Kore.Proofs.KeyPermissions
import Kore.Proofs.SlotMigration
import Kore.Proofs.MemoryLimit
import Kore.Proofs.HelloConvergence
import Kore.Proofs.AofCrash
import Kore.Proofs.LockExclusion
import Kore.Proofs.ReadonlyScripts
import Kore.Proofs.SearchCoherence
import Kore.Proofs.RespChunking
import Kore.Proofs.RespRoundTrip
import Kore.Proofs.VoteFencing
import Kore.Proofs.GossipConvergence
import Kore.Proofs.FullsyncConveyance
import Kore.Proofs.StreamIds
import Kore.Proofs.FeedContinuation
import Kore.Proofs.DeadlockExchange
import Kore.Proofs.LeaderUniqueness
import Kore.Proofs.SlotHandover
import Kore.Proofs.ListRanges
import Kore.Proofs.ElectionUniqueness
import Kore.Proofs.SaveTearing
import Kore.Proofs.GetterRaces
import Kore.Proofs.CounterArithmetic
import Kore.Proofs.GlobLanguage
import Kore.Proofs.LockAttempts
import Kore.Proofs.PendingSizes
import Kore.Proofs.ScriptKills
import Kore.Proofs.SetDeadlocks
import Kore.Proofs.ScriptBytes
import Kore.Proofs.DirtyChanges
import Kore.Proofs.AckAttribution
import Kore.Proofs.SearchPages
import Kore.Proofs.FailQuorum

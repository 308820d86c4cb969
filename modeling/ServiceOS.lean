import ServiceOS.Backup.Restore
import ServiceOS.Manager.Activation
import ServiceOS.Manager.Supervision
import ServiceOS.Ipc.Authority
import ServiceOS.Ipc.ConcurrentReceive
import ServiceOS.Memory.HeapCompleteness
import ServiceOS.Memory.ReclaimedSlots
import ServiceOS.Network.Firewall
import ServiceOS.Network.RingConsumer
import ServiceOS.Network.TransmitRing
import ServiceOS.Object.Pipe
import ServiceOS.Packages.Attestation
import ServiceOS.Ssh.Authentication
import ServiceOS.Ssh.ChannelFlow
import ServiceOS.Ssh.ChannelOrder
import ServiceOS.Ssh.Framing
import ServiceOS.Ssh.Totality
import ServiceOS.Storage.BlobSessions
import ServiceOS.Storage.Confinement
import ServiceOS.Storage.Grepping
import ServiceOS.Storage.IndexMirror
import ServiceOS.Storage.ReadOnly
import ServiceOS.Storage.Repair
import ServiceOS.Storage.SnapshotSize
import ServiceOS.Storage.TableRules
import ServiceOS.Storage.Unmount
import ServiceOS.Task.Convergence
import ServiceOS.Task.Exclusivity
import ServiceOS.Task.Lookups
import ServiceOS.Task.MatchedWakeups
import ServiceOS.Task.Reclaim
import ServiceOS.Time.Ordering
import ServiceOS.User.Backing
import ServiceOS.User.FailedLoads
import ServiceOS.User.SegmentTables
import ServiceOS.User.SharedBand
import ServiceOS.User.Spawn
import ServiceOS.User.SymbolWalks
import ServiceOS.Audio.Stream
import ServiceOS.Display.Damage
import ServiceOS.Ssh.Mpint

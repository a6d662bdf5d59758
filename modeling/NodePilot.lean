import NodePilot.Agent.DiskCreation
import NodePilot.Agent.StorageCommands
import NodePilot.Devices
import NodePilot.DiskNames
import NodePilot.Edits
import NodePilot.Laws.AddressRange
import NodePilot.Laws.Announcements
import NodePilot.Laws.BackingFiles
import NodePilot.Laws.Cancel
import NodePilot.Laws.ChunkUpload
import NodePilot.Laws.CloneFidelity
import NodePilot.Laws.CloneNames
import NodePilot.Laws.ConnectionFlag
import NodePilot.Laws.ConsoleRelay
import NodePilot.Laws.CorruptBackup
import NodePilot.Laws.CreateOnce
import NodePilot.Laws.CredentialLife
import NodePilot.Laws.DataTenancy
import NodePilot.Laws.Deletable
import NodePilot.Laws.DeletedBackups
import NodePilot.Laws.DeliveryRetries
import NodePilot.Laws.DiskGrowth
import NodePilot.Laws.DiskXml
import NodePilot.Laws.Dispatch
import NodePilot.Laws.DomainDocument
import NodePilot.Laws.DomainIdentity
import NodePilot.Laws.EarlyEnds
import NodePilot.Laws.Escaping
import NodePilot.Laws.ExclusiveAddress
import NodePilot.Laws.FailedClone
import NodePilot.Laws.Feeds
import NodePilot.Laws.FinishedImage
import NodePilot.Laws.FullClones
import NodePilot.Laws.InterfaceNames
import NodePilot.Laws.InterfaceXml
import NodePilot.Laws.JobMachine
import NodePilot.Laws.JsonText
import NodePilot.Laws.Lifecycle
import NodePilot.Laws.ListRetrieve
import NodePilot.Laws.LockExpiry
import NodePilot.Laws.LockSafety
import NodePilot.Laws.MetricsWindow
import NodePilot.Laws.NetworkConvergence
import NodePilot.Laws.NetworkRemoval
import NodePilot.Laws.NetworkTeardown
import NodePilot.Laws.Outages
import NodePilot.Laws.Overcommit
import NodePilot.Laws.OwnNode
import NodePilot.Laws.PatchFrame
import NodePilot.Laws.PhantomDevices
import NodePilot.Laws.PinnedHosts
import NodePilot.Laws.Placement
import NodePilot.Laws.PoolRanges
import NodePilot.Laws.PoolScope
import NodePilot.Laws.Quota
import NodePilot.Laws.ReceiveLoop
import NodePilot.Laws.Redelivery
import NodePilot.Laws.Refusals
import NodePilot.Laws.Replays
import NodePilot.Laws.RestoreSafety
import NodePilot.Laws.RestoreTarget
import NodePilot.Laws.RoleSeeding
import NodePilot.Laws.Rollback
import NodePilot.Laws.ScheduleRequests
import NodePilot.Laws.SeededImage
import NodePilot.Laws.SingleUse
import NodePilot.Laws.StaleGrants
import NodePilot.Laws.StatusTruth
import NodePilot.Laws.StrandedVolumes
import NodePilot.Laws.Tenancy
import NodePilot.Laws.TokenScope
import NodePilot.Laws.VersionGate
import NodePilot.Laws.VlanIsolation
import NodePilot.Laws.VmSamples
import NodePilot.Laws.VolumeIds
import NodePilot.Lib.Xml
import NodePilot.Pinning
import NodePilot.Resizes
import NodePilot.Urls

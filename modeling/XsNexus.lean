import XsNexus.Delivery
import XsNexus.HelloReplay
import XsNexus.RejectedDatagrams
import XsNexus.Nonces
import XsNexus.RelayForwarding
import XsNexus.RelayReplay
import XsNexus.NodeState
import XsNexus.RelayManager
import XsNexus.PeerDirectory
import XsNexus.AcceptedConfiguration
import XsNexus.DirectoryChecks
import XsNexus.StandardFormats
import XsNexus.ApplicableConfiguration
import XsNexus.Database
import XsNexus.Publication
import XsNexus.Advertisements
import XsNexus.PolicyManagement
import XsNexus.ControllerRuns
import XsNexus.ControllerSteps
import XsNexus.PublishedCandidates
import XsNexus.JsonText
import XsNexus.MapLoops
import XsNexus.RelayUpkeep
import XsNexus.LostLeases
import XsNexus.DataPlane
import XsNexus.ConfigurationUpdate
import XsNexus.FailedUpdate
import XsNexus.KeptSessions
import XsNexus.KeyUpdates
import XsNexus.KeyLockstep
import XsNexus.EpochRetirement
import XsNexus.HandshakeAgreement
import XsNexus.Retransmissions
import XsNexus.DataPlaneRuns
import XsNexus.ActivePaths
import XsNexus.RelayPayloads
import XsNexus.RelayedDatagrams
import XsNexus.OversizedPackets
import XsNexus.ReadCommitted
import XsNexus.Transactions
import XsNexus.LockOrder
import XsNexus.Deadlocks
import XsNexus.CommittedVersions
import XsNexus.PublishedVersions
import XsNexus.CurrentConfiguration
import XsNexus.Releases
import XsNexus.UpdateRollout
import XsNexus.RolledOutUpdates
import XsNexus.CandidateDiscovery
import XsNexus.RouteDiscovery
import XsNexus.HonestAdvertisements
import XsNexus.AddressLeases
import XsNexus.AddressSafety
import XsNexus.AddressText
import XsNexus.CredentialLayout
import XsNexus.NetworkPlan
import XsNexus.IssuedCredentials
import XsNexus.UsableEnrollments
import XsNexus.HostPrograms
import XsNexus.WindowsRoutes
import XsNexus.RouteConflicts
import XsNexus.WindowsProvision
import XsNexus.RouteRecovery
import XsNexus.RecoveredRoutes
import XsNexus.ReplayWindows
import XsNexus.Omissions
import XsNexus.InvisibleRejections
import XsNexus.LinuxNetwork
import XsNexus.ByteSlices
import XsNexus.CanonicalFrames
import XsNexus.AddressSets
import XsNexus.CompiledRoutes
import XsNexus.RouteResolution
import XsNexus.PrefixSpelling
import XsNexus.AclMeaning
import XsNexus.ConfigurationDelivery
import XsNexus.QueuedAuthorization
import XsNexus.LinuxCalls
import XsNexus.ForeignTables
import XsNexus.CanonicalManifests
import XsNexus.RoleSets
import XsNexus.RouteTransactions
import XsNexus.RateWindows
import XsNexus.RelayRates
import XsNexus.ByteMemory
import XsNexus.DriverAbi
import XsNexus.DriverBatches
import XsNexus.DriverQueueSteps
import XsNexus.PacketFifo
import XsNexus.CompleteFallback
import XsNexus.MapTotals
import XsNexus.PathProbes
import XsNexus.PathUpgrades
import XsNexus.PeerTelemetry
import XsNexus.PublishedTotals
import XsNexus.GrantCounters
import XsNexus.OrderedFrames
import XsNexus.ConvergingUpdates
import XsNexus.BatchAgreement
import XsNexus.DriverSession
import XsNexus.QueueAccounting
import XsNexus.SessionAnswers
import XsNexus.SessionSafety
import XsNexus.DiscoveryExchange
import XsNexus.Netlink
import XsNexus.NftAgreement
import XsNexus.CanonicalPolicies
import XsNexus.PolicyArrangements
import XsNexus.OversizedNetworks
import XsNexus.AgentGenerations

import Pokrov.Android.JournalRuns
import Pokrov.Android.LocalDpiFallback
import Pokrov.Android.LocalDpiHolders
import Pokrov.Android.RequestHistories
import Pokrov.Android.RuntimeProof
import Pokrov.AppShell.Bootstrap.ChainNormalization
import Pokrov.AppShell.Bootstrap.DnsLanes
import Pokrov.AppShell.CacheAlternatives
import Pokrov.AppShell.CatalogFloor
import Pokrov.AppShell.InvitationRuns
import Pokrov.AppShell.LedgerRuns
import Pokrov.AppShell.ManifestFloor
import Pokrov.AppShell.Routing.LanSubnets
import Pokrov.AppShell.SelectionPace
import Pokrov.AppShell.SmartAccess.RevokedProfiles
import Pokrov.AppShell.TrustedTime
import Pokrov.Linux.Network.Completion
import Pokrov.Linux.Network.Outcomes
import Pokrov.Linux.Service.ContextWindows
import Pokrov.Linux.Service.CoreReplies
import Pokrov.Linux.Service.PhaseKeeping
import Pokrov.Linux.Service.Receipts
import Pokrov.Linux.Service.Stopping
import Pokrov.Observability.CrashMarkRuns
import Pokrov.Observability.LegacyRuns
import Pokrov.Observability.MirrorRuns
import Pokrov.SupportBundle.CodeReading
import Pokrov.SupportBundle.DeliveryProtocol
import Pokrov.Windows.Service.ContextReferences
import Pokrov.Windows.Service.EventFence
import Pokrov.Windows.Service.GuardRuns
import Pokrov.Windows.Service.LocalDpiCommand
import Pokrov.Windows.Service.LocalDpiRetry
import Pokrov.Windows.Service.NetworkState
import Pokrov.Windows.Service.PipeSession
import Pokrov.Windows.Service.ProfileBundle
import Pokrov.Windows.Service.Promotion
import Pokrov.Windows.Service.Revocation
import Pokrov.Windows.Service.RoundTrips
import Pokrov.Windows.Service.TruthfulPhase

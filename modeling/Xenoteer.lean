import Xenoteer.Accessibility.CorrelationOrder
import Xenoteer.Accessibility.Noninterference
import Xenoteer.Artifacts.Copy
import Xenoteer.Clipboard.OwnershipRuns
import Xenoteer.Clipboard.Publication
import Xenoteer.Clipboard.TransferRuns
import Xenoteer.Coordinator.ExactlyOnce
import Xenoteer.Coordinator.Exclusive
import Xenoteer.Coordinator.LedgerRetention
import Xenoteer.Daemon.CommandStatus
import Xenoteer.Daemon.EventSink
import Xenoteer.Daemon.ProcessIdentityRuns
import Xenoteer.Daemon.ResyncBarrier
import Xenoteer.Input.MappingRestore
import Xenoteer.Input.Ownership
import Xenoteer.Input.ResetConverges
import Xenoteer.Input.ResetSoundness
import Xenoteer.Input.Waypoints
import Xenoteer.Observe.LaneRuns
import Xenoteer.Processd.ExitHistory
import Xenoteer.Processd.LaunchRuns
import Xenoteer.Processd.Supervisor
import Xenoteer.Server.ViewerTicketRuns
import Xenoteer.Server.Watches
import Xenoteer.Window.Settle

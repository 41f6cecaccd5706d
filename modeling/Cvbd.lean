import Cvbd.AcbCore
import Cvbd.AcbDriver
import Cvbd.AcbTotal
import Cvbd.AgreementChecks
import Cvbd.AgreementCore
import Cvbd.AgreementDriver
import Cvbd.AgreementTotal
import Cvbd.AsyncContent
import Cvbd.AsyncCore
import Cvbd.AsyncDeadlock
import Cvbd.AsyncDriver
import Cvbd.AsyncInv
import Cvbd.AsyncMoves
import Cvbd.AsyncOrder
import Cvbd.AsyncOutcome
import Cvbd.AsyncPrivate
import Cvbd.AsyncProgress
import Cvbd.AsyncProject
import Cvbd.AsyncRanged
import Cvbd.AsyncReads
import Cvbd.AsyncSendFails
import Cvbd.AsyncServe
import Cvbd.AsyncStatus
import Cvbd.AsyncSteps
import Cvbd.AsyncSubmitted
import Cvbd.AsyncSurvivors
import Cvbd.AsyncTotal
import Cvbd.AsyncTrace
import Cvbd.Client
import Cvbd.ClientCore
import Cvbd.ClientShutdownChecks
import Cvbd.ClientShutdownCore
import Cvbd.ClientShutdownDriver
import Cvbd.ClientShutdownTotal
import Cvbd.Control
import Cvbd.ControlCore
import Cvbd.ControlLength
import Cvbd.ControlOpen
import Cvbd.DiskChecks
import Cvbd.DiskCore
import Cvbd.DiskDriver
import Cvbd.DiskProgress
import Cvbd.DiskTotal
import Cvbd.DrainChecks
import Cvbd.DrainCore
import Cvbd.DrainDriver
import Cvbd.DrainTotal
import Cvbd.Driver
import Cvbd.DriverCore
import Cvbd.DriverOpen
import Cvbd.ExchangeCore
import Cvbd.ExchangeMoves
import Cvbd.HandlerChecks
import Cvbd.Iov
import Cvbd.IovTotal
import Cvbd.IsolationChecks
import Cvbd.IsolationCore
import Cvbd.IsolationTotal
import Cvbd.Lib.Blocks
import Cvbd.Lib.CString
import Cvbd.Lib.ExactInt64
import Cvbd.Lib.Ledger
import Cvbd.Lib.LittleEndian
import Cvbd.Lib.Machine
import Cvbd.Lib.Region
import Cvbd.Lib.Scatter
import Cvbd.Lib.TwoRuns
import Cvbd.MatchingChecks
import Cvbd.MatchingCore
import Cvbd.MatchingDriver
import Cvbd.MatchingServer
import Cvbd.MatchingTotal
import Cvbd.Message
import Cvbd.MessageCore
import Cvbd.MessageTotal
import Cvbd.MountCore
import Cvbd.MountDriver
import Cvbd.MountTotal
import Cvbd.NonAlignedCopy
import Cvbd.NonAlignedCopyTotal
import Cvbd.OpenTotal
import Cvbd.OutageCore
import Cvbd.OutageDriver
import Cvbd.OutageTotal
import Cvbd.PlainReadChecks
import Cvbd.PlainReadCore
import Cvbd.PlainReadDriver
import Cvbd.PlainReadTotal
import Cvbd.Posix
import Cvbd.PosixCore
import Cvbd.RecoveryCore
import Cvbd.RecoveryDriver
import Cvbd.RecoveryTotal
import Cvbd.ReleaseCore
import Cvbd.ReleaseDriver
import Cvbd.ReleaseTotal
import Cvbd.RendezvousCore
import Cvbd.RendezvousDriver
import Cvbd.RendezvousTotal
import Cvbd.RoutingCore
import Cvbd.RoutingDriver
import Cvbd.RoutingTotal
import Cvbd.Separate
import Cvbd.SequencerChecks
import Cvbd.SequencerCore
import Cvbd.SequencerDriver
import Cvbd.SequencerTotal
import Cvbd.ServerCore
import Cvbd.ServerShutdownCore
import Cvbd.ServerShutdownDriver
import Cvbd.ServerShutdownTotal
import Cvbd.Service
import Cvbd.ServiceCore
import Cvbd.ServiceProgress
import Cvbd.SessionCore
import Cvbd.SessionDriver
import Cvbd.SessionInv
import Cvbd.SessionServer
import Cvbd.SessionTotal
import Cvbd.SharedCore
import Cvbd.Storage
import Cvbd.SyncChecks
import Cvbd.SyncCore
import Cvbd.SyncDriver
import Cvbd.SyncLoop
import Cvbd.SyncTotal
import Cvbd.Transfer
import Cvbd.TransportChecks
import Cvbd.TransportCore
import Cvbd.TransportDriver
import Cvbd.TransportReads
import Cvbd.TransportTotal
import Cvbd.WireCore
import Cvbd.WireFidelity
import Cvbd.WireReply

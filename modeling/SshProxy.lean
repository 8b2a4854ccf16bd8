import SshProxy.Proofs.OpenTcpResidue
import SshProxy.Proofs.StreamIds
import SshProxy.Proofs.FixedTargets
import SshProxy.Proofs.TunnelHalfClose
import SshProxy.Proofs.ListenerAuth
import SshProxy.Proofs.HttpRelayInterim
import SshProxy.Proofs.HttpRelayIdle
import SshProxy.Proofs.QuicWatchdog
import SshProxy.Proofs.StreamHeaderRoundTrip
import SshProxy.Proofs.ControlFrames
import SshProxy.Proofs.BridgeWriter
import SshProxy.Proofs.SshNativeDead
import SshProxy.Proofs.NodeToken
import SshProxy.Proofs.ConfigPrecedence
import SshProxy.Proofs.ExplicitSshArgs
import SshProxy.Proofs.RemoteExit
import SshProxy.Proofs.PlainTcpOptIn
import SshProxy.Proofs.CleanupFrame
import SshProxy.Proofs.ServiceArgs
import SshProxy.Proofs.TerminalFinal
import SshProxy.Proofs.ReuseReal
import SshProxy.Proofs.OneRunner
import SshProxy.Proofs.StaysStopped
import SshProxy.Proofs.SessionAgrees
import SshProxy.Proofs.SessionRestore
import SshProxy.Proofs.RouteReadiness
import SshProxy.Proofs.RouteUpdates
import SshProxy.Proofs.RouteForgotten
import SshProxy.Proofs.RouteRestarts
import SshProxy.Proofs.Redacted
import SshProxy.Proofs.FrameNormal
import SshProxy.Proofs.FrameEnd
import SshProxy.Proofs.QuicSelection
import SshProxy.Proofs.QuicFlowCounts
import SshProxy.Proofs.SshChannelCounts
import SshProxy.Proofs.SpxTunnelCounts
import SshProxy.Proofs.AtomicMax
import SshProxy.Proofs.PeerSetupAgrees
import SshProxy.Proofs.SessionSpecs
import SshProxy.Proofs.UdpPackets
import SshProxy.Proofs.JobHistory
import SshProxy.Proofs.VectoredWrites
import SshProxy.Proofs.StagedBinary
import SshProxy.Proofs.SessionAddress
import SshProxy.Proofs.PairTargets
import SshProxy.Proofs.SessionIsolation
import SshProxy.Proofs.SessionKeys

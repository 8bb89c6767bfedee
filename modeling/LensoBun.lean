import LensoBun.Wire.Frames
import LensoBun.PluginV1.Secrecy
import LensoBun.PluginV1.RequestJson
import LensoBun.ProcessV1.ChildStarts
import LensoBun.ProcessV1.ChildRetired
import LensoBun.AuthoringV2.Scope
import LensoBun.AuthoringV2.BridgeSequences
import LensoBun.Provider.EventOrder
import LensoBun.Provider.EventCounts
import LensoBun.Provider.StreamFlags
import LensoBun.Provider.Credits
import LensoBun.Provider.SendOrder
import LensoBun.Transport.ProcessExit
import LensoBun.Transport.OutputLines
import LensoBun.Transport.FramedDeath
import LensoBun.Transport.FramedReplies
import LensoBun.Transport.CancelRoom
import LensoBun.Transport.WireOrder
import LensoBun.Transport.ReceiveFlight
import LensoBun.Transport.SessionRetry
import LensoBun.ProcessV1.TerminalRuns
import LensoBun.ProcessV1.RequestOutcome
import LensoBun.Transport.RpcRegistries
import LensoBun.AuthoringV2.ChildStop
import LensoBun.AuthoringV2.ChildSession
import LensoBun.AuthoringV2.StreamSends
import LensoBun.AuthoringV2.HostTables
import LensoBun.Adapter.RpcRoom
import LensoBun.Embedded.WorkerRuns

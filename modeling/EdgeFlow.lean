import EdgeFlow.Manager.Framing
import EdgeFlow.Manager.Ports
import EdgeFlow.Manager.Connections
import EdgeFlow.Manager.Verdict
import EdgeFlow.Network.OutputStream
import EdgeFlow.Network.ClientStop
import EdgeFlow.Network.ClientStart
import EdgeFlow.Library.Json.Syntax
import EdgeFlow.Node.Survival
import EdgeFlow.System.Sessions
import EdgeFlow.System.Registration
import EdgeFlow.System.Envelope
import EdgeFlow.System.Headers
import EdgeFlow.Node.ExitRace
import EdgeFlow.Node.Correlation
import EdgeFlow.Network.Lifecycle
import EdgeFlow.Manager.TcpComm
import EdgeFlow.System.FirstInference
import EdgeFlow.System.Chat
import EdgeFlow.Node.JobQueue
import EdgeFlow.Comm.Bounds
import EdgeFlow.Manager.Remote
import EdgeFlow.Manager.Publishing
import EdgeFlow.Node.ChannelObj
import EdgeFlow.Node.Targets
import EdgeFlow.Manager.KeyValue
import EdgeFlow.Manager.Exhaustion
import EdgeFlow.System.KeyValue
import EdgeFlow.System.Payload
import EdgeFlow.Node.Shutdown
import EdgeFlow.System.Generation
import EdgeFlow.System.Audio
import EdgeFlow.Node.TtsTask
import EdgeFlow.System.Speech
import EdgeFlow.Gateway.Transcription
import EdgeFlow.Gateway.Cleanup
import EdgeFlow.Node.StartUp
import EdgeFlow.Node.Base64
import EdgeFlow.Web.Resampling
import EdgeFlow.Gateway.Reception
import EdgeFlow.Network.Poller
import EdgeFlow.Network.RawBuffer
import EdgeFlow.Network.EventLoop
import EdgeFlow.Node.Reassembly
import EdgeFlow.System.Transcription
import EdgeFlow.Library.Json.Compact
import EdgeFlow.System.Replies
import EdgeFlow.System.Completion
import EdgeFlow.System.Synthesis
import EdgeFlow.System.Relay
import EdgeFlow.Network.EventLoopThread
import EdgeFlow.System.Dialogue
import EdgeFlow.System.Recording

import RtspServer.Base.Bytes
import RtspServer.Base.StartCode
import RtspServer.Base.Rtp
import RtspServer.Base.Hevc
import RtspServer.Base.H264
import RtspServer.Base.CString
import RtspServer.Base.Decimal
import RtspServer.Base.Runs
import RtspServer.Base.Loop
import RtspServer.Base.Ring
import RtspServer.Session.State
import RtspServer.Session.Parser
import RtspServer.Session.Requests
import RtspServer.Session.ParserRelation
import RtspServer.Session.Text
import RtspServer.Session.HeaderLines
import RtspServer.Session.HeaderLoop
import RtspServer.Session.Rendering
import RtspServer.Session.Answers
import RtspServer.Session.Correlation
import RtspServer.Media.Avc
import RtspServer.Media.SimStreamer
import RtspServer.Media.Splitting
import RtspServer.Media.RtpEnc
import RtspServer.Media.NalSender
import RtspServer.Media.FragmentShape
import RtspServer.Media.H264Sender
import RtspServer.Media.H264Stream
import RtspServer.Media.StapBuffer
import RtspServer.Media.H264Aggregation
import RtspServer.Media.HevcSender
import RtspServer.Media.Worker
import RtspServer.Media.FileLength
import RtspServer.Media.WorkerThread
import RtspServer.Media.ThreadRefinement
import RtspServer.Media.BufferPackets
import RtspServer.Session.UdpHandles
import RtspServer.Media.TcpClient
import RtspServer.Media.Aggregation
import RtspServer.Media.Packetizers
import RtspServer.Session.Connection
import RtspServer.Session.Fragments
import RtspServer.Session.Server
import RtspServer.Session.ClientList
import RtspServer.Session.ClientRuns
import RtspServer.Session.RefCount
import RtspServer.Session.Streaming
import RtspServer.Session.Isolation
import RtspServer.Media.FanOut
import RtspServer.Media.SenderRuns
import RtspServer.Media.PacketHeaders
import RtspServer.Media.Interleaved
import RtspServer.Media.SafeSplitting
import RtspServer.Media.Timestamp
import RtspServer.Session.UdpPorts
import RtspServer.Session.UriStores
import RtspServer.Session.SubParameters
import RtspServer.Session.HeaderRounds
import RtspServer.Session.Sentinel
import RtspServer.Session.Termination
import RtspServer.Session.ReadBounds
import RtspServer.Session.Rejection
import RtspServer.Session.ClientPorts
import RtspServer.Session.HeaderBlocks
import RtspServer.Session.Folding
import RtspServer.Base.Components
import RtspServer.Base.Framing
import RtspServer.Session.Responses
import RtspServer.Session.ResponseStream
import RtspServer.Session.SharedBuffer
import RtspServer.Session.Describe
import RtspServer.Session.Truncation
import RtspServer.Session.ServiceRuns
import RtspServer.Media.FileStream
import RtspServer.Media.Processes
import RtspServer.Media.Viewer
import RtspServer.Base.Descriptors
import RtspServer.Session.PosixPorts
import RtspServer.Session.PosixSearch

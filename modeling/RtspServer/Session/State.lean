import RtspServer.Base.CString

/-!
# Sessions and the streamer

The fields of `CRtspSession` and of `CStreamer` that request handling uses, and
the responses with their texts.
-/

namespace RtspServer

inductive RTSP_CMD_TYPES where
  | RTSP_OPTIONS
  | RTSP_DESCRIBE
  | RTSP_SETUP
  | RTSP_PLAY
  | RTSP_TEARDOWN
  | RTSP_UNKNOWN
  deriving DecidableEq, Repr

def RTSP_BUFFER_SIZE : Nat := 500

def RTSP_PARAM_STRING_MAX : Nat := 50

def MAX_HOSTNAME_LEN : Nat := 56

/-- The parts of the request are kept as the characters before the NUL. -/
structure CRtspSession where
  m_RtspSessionID : Int
  m_StreamID : Int
  m_ClientRTPPort : UInt16
  m_ClientRTCPPort : UInt16
  m_TcpTransport : Bool
  m_RtspCmdType : RTSP_CMD_TYPES
  m_CommandPresentationPart : Bytes
  m_CommandStreamPart : Bytes
  m_CommandHostPort : Bytes
  m_CSeq : UInt32
  m_ContentLength : UInt32
  m_RtpClientPort : UInt16
  m_RtcpClientPort : UInt16
  m_streaming : Bool
  m_stopped : Bool
  deriving DecidableEq, Repr

/-- `newCommandInit`; it leaves `m_RtspCmdType` and `m_CSeq` alone. -/
def CRtspSession.newCommandInit (s : CRtspSession) : CRtspSession :=
  { s with m_CommandPresentationPart := [], m_CommandStreamPart := [], m_CommandHostPort := [],
           m_ContentLength := 0 }

/-- The constructor, where `random` is the value of `getRandom()`, in `[0, 2^31)`. -/
def CRtspSession.create (random : Nat) : CRtspSession where
  m_RtspSessionID := random - 2 ^ 31
  m_StreamID := -1
  m_ClientRTPPort := 0
  m_ClientRTCPPort := 0
  m_TcpTransport := false
  m_RtspCmdType := .RTSP_UNKNOWN
  m_CommandPresentationPart := []
  m_CommandStreamPart := []
  m_CommandHostPort := []
  m_CSeq := 0
  m_ContentLength := 0
  m_RtpClientPort := 0
  m_RtcpClientPort := 0
  m_streaming := false
  m_stopped := false

/-- The UDP sockets of the system: the ports that can be bound, the next handle
and the handles closed so far. -/
structure UdpSockets where
  bindable : Nat → Bool
  next : Nat
  closed : List Nat

def NULLSOCKET : Nat := 0

structure CStreamer where
  m_RtpSocket : Nat
  m_RtcpSocket : Nat
  m_RtpServerPort : UInt16
  m_RtcpServerPort : UInt16
  m_udpRefCount : Int
  m_URIPresentation : Bytes
  m_URIStream : Bytes
  udp : UdpSockets

def CStreamer.create (udp : UdpSockets) : CStreamer where
  m_RtpSocket := NULLSOCKET
  m_RtcpSocket := NULLSOCKET
  m_RtpServerPort := 0
  m_RtcpServerPort := 0
  m_udpRefCount := 0
  m_URIPresentation := ascii "live"
  m_URIStream := ascii "1"
  udp := udp

def CStreamer.setURI (st : CStreamer) (pres stream : Bytes) : CStreamer :=
  { st with m_URIPresentation := pres, m_URIStream := stream }

/-! ### UDP transport -/

/-- `udpsocketcreate`: a fresh handle, or `NULLSOCKET` when the port cannot be bound. -/
def UdpSockets.udpsocketcreate (udp : UdpSockets) (port : Nat) : Nat × UdpSockets :=
  if udp.bindable port then (udp.next + 1, { udp with next := udp.next + 1 }) else (NULLSOCKET, udp)

def UdpSockets.udpsocketclose (udp : UdpSockets) (s : Nat) : UdpSockets :=
  { udp with closed := udp.closed ++ [s] }

namespace CStreamer

/-- The body of the loop over the ports; the loop ends when it returns true. -/
def bindPair (st : CStreamer) (P : Nat) : CStreamer × Bool :=
  let (rtp, udp) := st.udp.udpsocketcreate P
  let st := { st with m_RtpSocket := rtp, udp }
  if rtp ≠ NULLSOCKET then
    let (rtcp, udp) := st.udp.udpsocketcreate (P + 1)
    let st := { st with m_RtcpSocket := rtcp, udp }
    if rtcp ≠ NULLSOCKET then
      ({ st with m_RtpServerPort := UInt16.ofNat P, m_RtcpServerPort := UInt16.ofNat (P + 1) }, true)
    else ({ st with udp := (st.udp.udpsocketclose rtp).udpsocketclose rtcp }, false)
  else (st, false)

/-- The loop over the last `n` even ports below `0xFFFE`. -/
def bindFrom : Nat → CStreamer → CStreamer
  | 0, st => st
  | n + 1, st =>
    match st.bindPair (0xFFFE - 2 * (n + 1)) with
    | (st, true) => st
    | (st, false) => bindFrom n st

def InitUdpTransport (st : CStreamer) : CStreamer :=
  let st := if st.m_udpRefCount ≠ 0 then st else bindFrom ((0xFFFE - 6970) / 2) st
  { st with m_udpRefCount := st.m_udpRefCount + 1 }

def ReleaseUdpTransport (st : CStreamer) : CStreamer :=
  let st := { st with m_udpRefCount := st.m_udpRefCount - 1 }
  if st.m_udpRefCount = 0 then
    { st with
      m_RtpServerPort := 0
      m_RtcpServerPort := 0
      udp := (st.udp.udpsocketclose st.m_RtpSocket).udpsocketclose st.m_RtcpSocket
      m_RtpSocket := NULLSOCKET
      m_RtcpSocket := NULLSOCKET }
  else st

end CStreamer

/-! ### Responses -/

inductive TransportReply where
  | tcp
  | udp (clientRtp clientRtcp serverRtp serverRtcp : UInt16)
  deriving DecidableEq, Repr

/-- A response with the values it is printed from. -/
inductive Response where
  | badRequest (cseq : UInt32)
  | option (cseq : UInt32)
  | notFound (cseq : UInt32)
  | describe (cseq : UInt32) (host pres stream : Bytes)
  | setup (cseq : UInt32) (transport : TransportReply) (id : Int)
  | play (cseq : UInt32) (id : Int)
  deriving DecidableEq, Repr

def Response.cseq : Response → UInt32
  | badRequest n | option n | notFound n | describe n _ _ _ | setup n _ _ | play n _ => n

def TransportReply.text : TransportReply → Bytes
  | tcp => snprintf 180 (ascii "RTP/AVP/TCP;unicast;interleaved=0-1")
  | udp rtp rtcp serverRtp serverRtcp => snprintf 180 (
      ascii "RTP/AVP;unicast;destination=127.0.0.1;source=127.0.0.1;client_port=" ++
      decimal rtp.toNat ++ ascii "-" ++ decimal rtcp.toNat ++ ascii ";server_port=" ++
      decimal serverRtp.toNat ++ ascii "-" ++ decimal serverRtcp.toNat)

def SDPBuf : Bytes := snprintf 256 (ascii ("v=0\r\no=- 0 0 IN IP4 127.0.0.1\r\ni=H.265\r\n" ++
  "m=video 1234 RTP/AVP 96\r\na=rtpmap:96 H265/90000\r\na=framerate:10\r\nc=IN IP4 0.0.0.0\r\n" ++
  "s=Video Streaming\r\n"))

/-- The bytes given to `socketsend`; `date` is the text of `DateHeader()`. -/
def Response.text (date : Bytes) : Response → Bytes
  | badRequest n =>
    snprintf RTSP_BUFFER_SIZE (ascii "RTSP/1.0 400 Bad Request\r\nCSeq: " ++ decimal n.toNat ++ ascii "\r\n\r\n")
  | option n =>
    snprintf 100 (ascii "RTSP/1.0 200 OK\r\nCSeq: " ++ decimal n.toNat ++
      ascii "\r\nPublic: DESCRIBE, SETUP, TEARDOWN, PLAY, PAUSE\r\n\r\n")
  | notFound n =>
    snprintf 512 (ascii "RTSP/1.0 404 Stream Not Found\r\nCSeq: " ++ decimal n.toNat ++ CRLF ++ date ++ CRLF)
  | describe n host pres stream =>
    let URLBuf := snprintf 75 (ascii "rtsp://" ++ host ++ ascii "/" ++ pres ++ ascii "/" ++ stream)
    snprintf 512 (ascii "RTSP/1.0 200 OK\r\nCSeq: " ++ decimal n.toNat ++ CRLF ++ date ++
      ascii "\r\nContent-Base: " ++ URLBuf ++ ascii "/\r\nContent-Type: application/sdp\r\nContent-Length: " ++
      decimal SDPBuf.length ++ ascii "\r\n\r\n" ++ SDPBuf)
  | setup n transport id =>
    snprintf 300 (ascii "RTSP/1.0 200 OK\r\nCSeq: " ++ decimal n.toNat ++ CRLF ++ date ++
      ascii "\r\nTransport: " ++ transport.text ++ ascii "\r\nSession: " ++ decimal id ++ ascii "\r\n\r\n")
  | play n id =>
    snprintf 220 (ascii "RTSP/1.0 200 OK\r\nCSeq: " ++ decimal n.toNat ++ CRLF ++ date ++
      ascii "\r\nRange: npt=0.000-\r\nSession: " ++ decimal id ++
      ascii "\r\nRTP-Info: url=rtsp://127.0.0.1:554/live/1/track1\r\n\r\n")

end RtspServer

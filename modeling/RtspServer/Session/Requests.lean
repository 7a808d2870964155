import RtspServer.Session.Parser

/-!
# Handling requests

The command handlers, `Handle_RtspRequest` and `CRtspSession::handleRequests`
with its static receive buffer, which all sessions share.
-/

namespace RtspServer

namespace CRtspSession

def Handle_RtspOPTION (s : CRtspSession) : List Response := [.option s.m_CSeq]

def is_number (text : Bytes) : Bool := text ≠ [] ∧ text.all isdigit

def requestedStream (st : CStreamer) (s : CRtspSession) : Int :=
  if st.m_URIPresentation = s.m_CommandPresentationPart ∧ is_number s.m_CommandStreamPart ∧
      strstr st.m_URIStream s.m_CommandStreamPart then
    atoi s.m_CommandStreamPart
  else -1

def Handle_RtspDESCRIBE (st : CStreamer) (s : CRtspSession) : CRtspSession × List Response :=
  let m_StreamID := s.requestedStream st
  ({ s with m_StreamID },
    if m_StreamID = -1 then [.notFound s.m_CSeq]
    else [.describe s.m_CSeq s.m_CommandHostPort s.m_CommandPresentationPart s.m_CommandStreamPart])

def InitTransport (st : CStreamer) (s : CRtspSession) (aRtpPort aRtcpPort : UInt16) : CStreamer × CRtspSession :=
  (if s.m_TcpTransport then st else st.InitUdpTransport,
    { s with m_RtpClientPort := aRtpPort, m_RtcpClientPort := aRtcpPort })

def Handle_RtspSETUP (st : CStreamer) (s : CRtspSession) : CStreamer × CRtspSession × List Response :=
  let (st, s) := s.InitTransport st s.m_ClientRTPPort s.m_ClientRTCPPort
  let Transport := if s.m_TcpTransport then TransportReply.tcp
    else .udp s.m_ClientRTPPort s.m_ClientRTCPPort st.m_RtpServerPort st.m_RtcpServerPort
  (st, s, [.setup s.m_CSeq Transport s.m_RtspSessionID])

def Handle_RtspPLAY (s : CRtspSession) : List Response := [.play s.m_CSeq s.m_RtspSessionID]

def dispatch (st : CStreamer) (s : CRtspSession) : CStreamer × CRtspSession × List Response :=
  match s.m_RtspCmdType with
  | .RTSP_OPTIONS => (st, s, s.Handle_RtspOPTION)
  | .RTSP_DESCRIBE => (st, s.Handle_RtspDESCRIBE st)
  | .RTSP_SETUP => s.Handle_RtspSETUP st
  | .RTSP_PLAY => (st, s, s.Handle_RtspPLAY)
  | .RTSP_TEARDOWN | .RTSP_UNKNOWN => (st, s, [])

/-- The result is `m_RtspCmdType`, whether or not the request was parsed. -/
def Handle_RtspRequest (st : CStreamer) (s : CRtspSession) (aRequest : Bytes) (aRequestSize : Nat) :
    Run (CStreamer × CRtspSession × List Response) := do
  match ← ParseRtspRequest s aRequest aRequestSize with
  | (s, true) => return s.dispatch st
  | (s, false) => return (st, s, [])

end CRtspSession

/-! ### The receive buffer -/

inductive HdrState where
  | hdrStateUnknown
  | hdrStateGotMethod
  | hdrStateInvalid
  deriving DecidableEq, Repr

/-- `received` are the first `bufPos` bytes of `RecvBuf`. What follows them is NUL
from the reset on; at `bufPos = 0` nothing is read before the next reset. -/
structure Receiver where
  received : Bytes
  state : HdrState
  fits : received.length < RTSP_BUFFER_SIZE
  deriving DecidableEq

namespace Receiver

def empty : Receiver := ⟨[], .hdrStateUnknown, by decide⟩

def bufPos (r : Receiver) : Nat := r.received.length

def RecvBuf (r : Receiver) : Bytes :=
  r.received ++ List.replicate (RTSP_BUFFER_SIZE - r.bufPos) NUL

/-- The next read starts a new request. -/
def Idle (r : Receiver) : Prop := r.bufPos = 0 ∨ r.bufPos ≥ RTSP_BUFFER_SIZE - 1

instance (r : Receiver) : Decidable r.Idle := inferInstanceAs (Decidable (_ ∨ _))

/-- The reset in front of the read. -/
def refresh (r : Receiver) : Receiver := if r.Idle then empty else r

def append (r : Receiver) (bytes : Bytes) (fits : (r.received ++ bytes).length < RTSP_BUFFER_SIZE) : Receiver :=
  { r with received := r.received ++ bytes, fits }

end Receiver

/-- What `socketread` returns; no bytes mean that the client closed the socket. -/
inductive SocketRead where
  | data (bytes : Bytes)
  | timeout
  deriving DecidableEq, Repr

abbrev SocketRead.closed : SocketRead := .data []

/-- The command recognised at the start of the buffer. -/
def recognise (RecvBuf : Bytes) : RTSP_CMD_TYPES :=
  let s := if CRLF <+: RecvBuf then RecvBuf.drop 2 else RecvBuf
  if ascii "OPTIONS " <+: s then .RTSP_OPTIONS
  else if ascii "DESCRIBE " <+: s then .RTSP_DESCRIBE
  else if ascii "SETUP " <+: s then .RTSP_SETUP
  else if ascii "PLAY " <+: s then .RTSP_PLAY
  else if ascii "TEARDOWN " <+: s then .RTSP_TEARDOWN
  else .RTSP_UNKNOWN

/-- What a call of `handleRequests` leaves and sends, with its result. -/
structure Turn where
  streamer : CStreamer
  session : CRtspSession
  receiver : Receiver
  sent : List Response
  result : Bool

def findMethod (s : CRtspSession) (r : Receiver) : CRtspSession × Receiver :=
  if r.state = .hdrStateUnknown ∧ r.bufPos ≥ 6 ∧ strstr r.RecvBuf CRLF then
    let s := { s.newCommandInit with m_RtspCmdType := recognise r.RecvBuf }
    (s, { r with state := if s.m_RtspCmdType ≠ .RTSP_UNKNOWN then .hdrStateGotMethod else .hdrStateInvalid })
  else (s, r)

/-- The end of the header is in the last four bytes received. -/
def endOfHeader (r : Receiver) : Prop :=
  strstr (if r.bufPos > 4 then r.RecvBuf.drop (r.bufPos - 4) else r.RecvBuf) (CRLF ++ CRLF)

instance (r : Receiver) : Decidable (endOfHeader r) := inferInstanceAs (Decidable (strstr _ _))

def CRtspSession.markCommand (s : CRtspSession) : CRtspSession :=
  match s.m_RtspCmdType with
  | .RTSP_PLAY => { s with m_streaming := true }
  | .RTSP_TEARDOWN => { s with m_stopped := true }
  | _ => s

/-- The part after the method was looked for: `res` is the length of the last read. -/
def answer (st : CStreamer) (s : CRtspSession) (r : Receiver) (res : Nat) : Run Turn :=
  if r.state ≠ .hdrStateUnknown ∧ ¬ endOfHeader r then return ⟨st, s, r, [], true⟩
  else if r.state = .hdrStateInvalid then
    return ⟨st, s, { Receiver.empty with state := r.state }, [.badRequest s.m_CSeq], false⟩
  else do
    let (st, s, sent) ← s.Handle_RtspRequest st r.RecvBuf res
    return ⟨st, s.markCommand, Receiver.empty, sent, true⟩

/-- `CRtspSession::handleRequests`. A read longer than asked for leaves the buffer. -/
def CRtspSession.handleRequests (st : CStreamer) (s : CRtspSession) (r : Receiver) (read : SocketRead) :
    Run Turn :=
  if s.m_stopped then return ⟨st, s, r, [], false⟩
  else
    let r := r.refresh
    match read with
    | .data bytes =>
      if bytes = [] then return ⟨st, { s with m_stopped := true }, r, [], true⟩
      else if fits : (r.received ++ bytes).length < RTSP_BUFFER_SIZE then
        let (s, r) := findMethod s (r.append bytes fits)
        answer st s r bytes.length
      else .error .outOfBounds
    | .timeout => return ⟨st, s, r, [], false⟩

end RtspServer

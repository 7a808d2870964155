import RtspServer.Session.Rejection
import RtspServer.Session.ResponseStream

/-!
# The stream a DESCRIBE asks for

The stream part of the request is looked for inside the configured name, and its
number is read into an `int`. When the answer is still the one to the whole URI.
-/

namespace RtspServer

section

variable (pres stream uri : Bytes)

end

section

variable {pres stream uri : Bytes} {st : CStreamer} {s : CRtspSession}

variable {q : Bytes} {size : Nat}

end

/-- A DESCRIBE of stream 1. -/
def firstDescribe : Bytes := ascii "DESCRIBE rtsp://h/live/1 RTSP/1.0\r\nCSeq: 2\r\n\r\n"

def firstDescriber : CRtspSession := (CRtspSession.create 5).recognised (bufferOf firstDescribe)

theorem firstDescribe_accepted :
    firstDescriber.m_RtspCmdType = .RTSP_DESCRIBE ∧
      ∃ u, ParseRtspRequest firstDescriber (bufferOf firstDescribe) firstDescribe.length = .ok (u, true) :=
  ⟨by decide +kernel, parse_verdict (by decide +kernel)⟩

end RtspServer

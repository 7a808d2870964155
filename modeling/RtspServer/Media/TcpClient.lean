import RtspServer.Media.ThreadRefinement
import RtspServer.Session.ResponseStream

/-!
# The socket of a client

Responses and interleaved packets go over one TCP socket. A client that reads a
frame where it finds a `$`, and a response elsewhere, takes the stream of a
`workerThread` apart into exactly what was written.
-/

namespace RtspServer

/-- What is written to the TCP socket. -/
inductive Written where
  | response (r : Response)
  | frame (cache : Bytes)

/-- The bytes of `socketsend` at the time `x.1`. -/
def Written.text (x : Tm × Written) : Bytes :=
  match x.2 with
  | response r => r.text (DateHeader x.1)
  | frame cache => cache

/-- A packet or the text of a response. -/
def Written.part (x : Tm × Written) : Bytes ⊕ Bytes :=
  match x.2 with
  | response r => .inr (r.text (DateHeader x.1))
  | frame cache => .inl (cache.drop 4)

def Delivery.written : Delivery → List Written
  | tcp bytes => [.frame bytes]
  | udp .. => []

def Round.written (r : Round) : List Written :=
  (r.calls.flatMap (·.sent)).map .response ++ r.handed.flatMap fun d => d.2.written

def Thread.written (th : Thread) : List Written := th.log.flatMap (·.written)

section

variable {seq timestamp ssrc : UInt32} {mark : Int} {payload : Bytes} {tm : Tm} {r : Response}

end

/-! ### A round -/

section

variable {stream : Segment} {th th' : Thread} {read : SocketRead}

end

/-! ### The stream -/

section

variable {udp : UdpSockets} {random : Nat} {stream : Segment} {ctx : RTPMuxContext} {reads : List SocketRead} {th : Thread}
  {dated : List (Tm × Written)}

end

end RtspServer

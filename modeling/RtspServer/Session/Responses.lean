import RtspServer.Base.Framing
import RtspServer.Session.Rendering

/-!
# The responses as messages

Each response is printed into a buffer that holds it whole. All but one of the texts
are messages: a status line, header lines, a blank line, and the body announced.
-/

namespace RtspServer

/-! ### The date -/

/-- What `gmtime` gives. -/
structure Tm where
  tm_sec : Fin 61
  tm_min : Fin 60
  tm_hour : Fin 24
  tm_mday : Fin 32
  tm_mon : Fin 12
  tm_year : Int
  tm_wday : Fin 7
  range : -2 ^ 31 ≤ tm_year ∧ tm_year < 2 ^ 31

/-- Thursday, January 1, 1970 -/
def Tm.epoch : Tm := ⟨0, 0, 0, 1, 0, 70, 4, by decide⟩

/-- `%a` -/
def weekday (day : Fin 7) : Bytes := ascii (["Sun", "Mon", "Tue", "Wed", "Thu", "Fri", "Sat"].get day)

/-- `%b` -/
def monthName (mon : Fin 12) : Bytes :=
  ascii (["Jan", "Feb", "Mar", "Apr", "May", "Jun", "Jul", "Aug", "Sep", "Oct", "Nov", "Dec"].get mon)

/-- `%d`, `%H`, `%M` and `%S` -/
def twoDigits (n : Nat) : Bytes := [digit (n / 10), digit (n % 10)]

/-- What `strftime` prints with `"Date: %a, %b %d %Y %H:%M:%S GMT"`. -/
def DateHeader (tm : Tm) : Bytes :=
  ascii "Date: " ++ weekday tm.tm_wday ++ ascii ", " ++ monthName tm.tm_mon ++ ascii " " ++ twoDigits tm.tm_mday ++ ascii " " ++
    decimal (tm.tm_year + 1900) ++ ascii " " ++ twoDigits tm.tm_hour ++ ascii ":" ++ twoDigits tm.tm_min ++ ascii ":" ++
    twoDigits tm.tm_sec ++ ascii " GMT"

/-! ### Messages -/

/-- A header line. -/
def field (name value : Bytes) : Bytes := name ++ ascii ": " ++ value

/-- The length that the head of a message announces for its body. -/
def contentLength (head : List Bytes) : Nat :=
  ((head.find? fun l => ascii "Content-Length:" <+: l).map fun l =>
    digitsValue (RequestText.numberOf (ascii "Content-Length:") l)).getD 0

def IsStatusLine (l : Bytes) : Prop := ascii "RTSP/1.0 " <+: l ∧ ∀ c ∈ l, IsPlain c

def IsHeaderLine (l : Bytes) : Prop :=
  (∃ name value, l = name ++ COLON :: value ∧ name ≠ [] ∧ COLON ∉ name) ∧ ∀ c ∈ l, IsPlain c

/-- A status line, header lines, and a body as long as they say. -/
structure IsResponse (m : Framing.Message UInt8) : Prop where
  lines : ∃ status headers, m.head = status :: headers ∧ IsStatusLine status ∧ ∀ l ∈ headers, IsHeaderLine l
  length : m.body.length = contentLength m.head

/-- How a receiver splits the stream. -/
def receive (stream : Bytes) : Option (List Bytes) :=
  (Framing.split (Framing.readMessage CR LF contentLength) stream).map (·.map (·.text CR LF))

namespace Response

def URLBuf (host pres stream : Bytes) : Bytes := snprintf 75 (ascii "rtsp://" ++ host ++ ascii "/" ++ pres ++ ascii "/" ++ stream)

/-- The head that a response has by its purpose. -/
def head (date : Bytes) : Response → List Bytes
  | badRequest n => [ascii "RTSP/1.0 400 Bad Request", field (ascii "CSeq") (decimal n.toNat)]
  | option n =>
    [ascii "RTSP/1.0 200 OK", field (ascii "CSeq") (decimal n.toNat),
      field (ascii "Public") (ascii "DESCRIBE, SETUP, TEARDOWN, PLAY, PAUSE")]
  | notFound n => [ascii "RTSP/1.0 404 Stream Not Found", field (ascii "CSeq") (decimal n.toNat), date]
  | describe n host pres stream =>
    [ascii "RTSP/1.0 200 OK", field (ascii "CSeq") (decimal n.toNat), date,
      field (ascii "Content-Base") (URLBuf host pres stream ++ ascii "/"), field (ascii "Content-Type") (ascii "application/sdp"),
      field (ascii "Content-Length") (decimal SDPBuf.length)]
  | setup n transport id =>
    [ascii "RTSP/1.0 200 OK", field (ascii "CSeq") (decimal n.toNat), date, field (ascii "Transport") transport.text,
      field (ascii "Session") (decimal id)]
  | play n id =>
    [ascii "RTSP/1.0 200 OK", field (ascii "CSeq") (decimal n.toNat), date, field (ascii "Range") (ascii "npt=0.000-"),
      field (ascii "Session") (decimal id), field (ascii "RTP-Info") (ascii "url=rtsp://127.0.0.1:554/live/1/track1")]

def body : Response → Bytes
  | describe _ _ _ _ => SDPBuf
  | _ => []

/-- The parts of a URI hold no line end, and the session id is an `int`. -/
def Printable : Response → Prop
  | describe _ host pres stream => ∀ c ∈ host ++ pres ++ stream, IsPlain c
  | setup _ _ id | play _ id => -2 ^ 31 ≤ id ∧ id < 2 ^ 31
  | _ => True

end Response

/-! ### Numbers and dates -/

theorem decimal_length {n : Int} (range : n.natAbs < 10 ^ 10) : (decimal n).length ≤ 11 := by
  have digits := decimal_length_le (by decide : 0 < 10) range
  rw [decimal_natCast] at digits
  unfold decimal
  dsimp only
  split
  · exact Nat.succ_le_succ digits
  · exact Nat.le_succ_of_le digits

theorem cseq_length (n : UInt32) : (decimal n.toNat).length ≤ 10 :=
  decimal_length_le (by decide) (Nat.lt_trans n.toNat_lt (by decide))

theorem weekday_text (day : Fin 7) : (weekday day).length = 3 ∧ ∀ c ∈ weekday day, IsPlain c := by
  have all : ∀ day, (weekday day).length = 3 ∧ isPlainText (weekday day) = true := by decide +kernel
  exact ⟨(all day).1, plain_of_test (all day).2⟩

theorem monthName_text (mon : Fin 12) : (monthName mon).length = 3 ∧ ∀ c ∈ monthName mon, IsPlain c := by
  have all : ∀ mon, (monthName mon).length = 3 ∧ isPlainText (monthName mon) = true := by decide +kernel
  exact ⟨(all mon).1, plain_of_test (all mon).2⟩

theorem DateHeader_length (tm : Tm) : (DateHeader tm).length ≤ 42 := by
  have year : (decimal (tm.tm_year + 1900)).length ≤ 11 := decimal_length (by have := tm.range; omega)
  unfold DateHeader
  simp only [List.length_append, (weekday_text _).1, (monthName_text _).1, twoDigits, ascii_length, String.reduceToList,
    List.length_cons, List.length_nil]
  omega

/-! ### The buffers -/

theorem snprintf_fits {size : Nat} {text : Bytes} (fits : text.length < size) : snprintf size text = text :=
  List.take_of_length_le (Nat.le_sub_one_of_lt fits)

/-- A call of `snprintf`: the size of its array, and all that it has to print there. -/
structure Print where
  size : Nat
  text : Bytes

def Print.result (p : Print) : Bytes := snprintf p.size p.text

/-- It produces fewer characters than the array holds. -/
def Print.Fits (p : Print) : Prop := p.text.length < p.size

theorem Print.result_length (p : Print) : p.result.length ≤ p.size - 1 := List.length_take_le _ _

theorem Print.Fits.result {p : Print} (fits : p.Fits) : p.result = p.text := snprintf_fits fits

def TransportReply.print : TransportReply → Print
  | tcp => ⟨180, ascii "RTP/AVP/TCP;unicast;interleaved=0-1"⟩
  | udp rtp rtcp serverRtp serverRtcp => ⟨180,
      ascii "RTP/AVP;unicast;destination=127.0.0.1;source=127.0.0.1;client_port=" ++
      decimal rtp.toNat ++ ascii "-" ++ decimal rtcp.toNat ++ ascii ";server_port=" ++
      decimal serverRtp.toNat ++ ascii "-" ++ decimal serverRtcp.toNat⟩

def printSDP : Print := ⟨256, ascii ("v=0\r\no=- 0 0 IN IP4 127.0.0.1\r\ni=H.265\r\n" ++
  "m=video 1234 RTP/AVP 96\r\na=rtpmap:96 H265/90000\r\na=framerate:10\r\nc=IN IP4 0.0.0.0\r\n" ++
  "s=Video Streaming\r\n")⟩

def printURL (host pres stream : Bytes) : Print :=
  ⟨75, ascii "rtsp://" ++ host ++ ascii "/" ++ pres ++ ascii "/" ++ stream⟩

/-- The last call for a response. -/
def Response.print (date : Bytes) : Response → Print
  | badRequest n =>
    ⟨RTSP_BUFFER_SIZE, ascii "RTSP/1.0 400 Bad Request\r\nCSeq: " ++ decimal n.toNat ++ ascii "\r\n\r\n"⟩
  | option n =>
    ⟨100, ascii "RTSP/1.0 200 OK\r\nCSeq: " ++ decimal n.toNat ++
      ascii "\r\nPublic: DESCRIBE, SETUP, TEARDOWN, PLAY, PAUSE\r\n\r\n"⟩
  | notFound n =>
    ⟨512, ascii "RTSP/1.0 404 Stream Not Found\r\nCSeq: " ++ decimal n.toNat ++ CRLF ++ date ++ CRLF⟩
  | describe n host pres stream =>
    ⟨512, ascii "RTSP/1.0 200 OK\r\nCSeq: " ++ decimal n.toNat ++ CRLF ++ date ++
      ascii "\r\nContent-Base: " ++ (printURL host pres stream).result ++
      ascii "/\r\nContent-Type: application/sdp\r\nContent-Length: " ++
      decimal printSDP.result.length ++ ascii "\r\n\r\n" ++ printSDP.result⟩
  | setup n transport id =>
    ⟨300, ascii "RTSP/1.0 200 OK\r\nCSeq: " ++ decimal n.toNat ++ CRLF ++ date ++
      ascii "\r\nTransport: " ++ transport.print.result ++ ascii "\r\nSession: " ++ decimal id ++ ascii "\r\n\r\n"⟩
  | play n id =>
    ⟨220, ascii "RTSP/1.0 200 OK\r\nCSeq: " ++ decimal n.toNat ++ CRLF ++ date ++
      ascii "\r\nRange: npt=0.000-\r\nSession: " ++ decimal id ++
      ascii "\r\nRTP-Info: url=rtsp://127.0.0.1:554/live/1/track1\r\n\r\n"⟩

/-- The calls in front of it. -/
def Response.innerPrints : Response → List Print
  | describe _ host pres stream => [printSDP, printURL host pres stream]
  | setup _ transport _ => [transport.print]
  | _ => []

theorem SDPBuf_print : SDPBuf = printSDP.result := by
  unfold SDPBuf Print.result printSDP
  dsimp only

theorem TransportReply.text_print (t : TransportReply) : t.text = t.print.result := by
  cases t <;> rfl

theorem Response.text_print (date : Bytes) (r : Response) : r.text date = (r.print date).result := by
  cases r with
  | setup n transport id =>
    unfold Response.text Response.print
    dsimp only
    rw [transport.text_print]
    rfl
  | describe n host pres stream =>
    unfold Response.text Response.print
    dsimp only
    rw [SDPBuf_print]
    rfl
  | _ => rfl

section

variable (tm : Tm) (n : UInt32)

theorem print_fits {r : Response} (printable : r.Printable) : (r.print (DateHeader tm)).Fits := by
  have number := cseq_length r.cseq
  have date := DateHeader_length tm
  unfold Print.Fits Response.print
  cases r with
  | badRequest n =>
    change (decimal n.toNat).length ≤ 10 at number
    simp only [RTSP_BUFFER_SIZE, List.length_append, ascii_length, String.reduceToList, List.length_cons, List.length_nil]
    omega
  | option n =>
    change (decimal n.toNat).length ≤ 10 at number
    simp only [List.length_append, ascii_length, String.reduceToList, List.length_cons, List.length_nil]
    omega
  | notFound n =>
    change (decimal n.toNat).length ≤ 10 at number
    simp only [List.length_append, ascii_length, String.reduceToList, List.length_cons, List.length_nil]
    omega
  | describe n host pres stream =>
    have url : (printURL host pres stream).result.length ≤ 74 := Print.result_length _
    have body : printSDP.result.length ≤ 255 := Print.result_length _
    have length : (decimal printSDP.result.length).length ≤ 3 := decimal_length_le (by decide) (by omega)
    change (decimal n.toNat).length ≤ 10 at number
    simp only [List.length_append, ascii_length, String.reduceToList, List.length_cons, List.length_nil]
    omega
  | setup n transport id =>
    have ports : transport.print.result.length ≤ 179 := by cases transport <;> exact Print.result_length _
    have session : (decimal id).length ≤ 11 := decimal_length (by have := printable.1; have := printable.2; omega)
    change (decimal n.toNat).length ≤ 10 at number
    simp only [List.length_append, ascii_length, String.reduceToList, List.length_cons, List.length_nil]
    omega
  | play n id =>
    have session : (decimal id).length ≤ 11 := decimal_length (by have := printable.1; have := printable.2; omega)
    change (decimal n.toNat).length ≤ 10 at number
    simp only [List.length_append, ascii_length, String.reduceToList, List.length_cons, List.length_nil]
    omega

end

theorem IsStatusLine.ne_nil {l : Bytes} (h : IsStatusLine l) : l ≠ [] := by
  rintro rfl
  exact absurd h.1 (by decide +kernel)

theorem IsHeaderLine.ne_nil {l : Bytes} (h : IsHeaderLine l) : l ≠ [] := by
  obtain ⟨⟨name, value, rfl, -⟩, -⟩ := h
  exact List.append_ne_nil_of_right_ne_nil _ (List.cons_ne_nil _ _)

theorem IsResponse.closed {m : Framing.Message UInt8} (h : IsResponse m) : m.Closed CR contentLength := by
  obtain ⟨⟨status, headers, head, first, rest⟩, length⟩ := h
  have all : ∀ l ∈ m.head, l ≠ [] ∧ ∀ c ∈ l, IsPlain c := by
    rw [head]
    exact List.forall_mem_cons.mpr ⟨⟨first.ne_nil, first.2⟩, fun l member => ⟨(rest l member).ne_nil, (rest l member).2⟩⟩
  exact ⟨fun l member cr => ((all l member).2 CR cr).2.1 rfl, fun l member => (all l member).1, length⟩

end RtspServer

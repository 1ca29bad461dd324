import Screenscrab.Session.Reading
import Screenscrab.Session.Termination

/-! Two models of one loop. The worker of the two threads takes the calls of a session one at a
time, between those of the calling thread; `HostLoop` takes an iteration at once. Between the join
of a client and the end of its session the worker goes through iterations of `HostLoop`. -/
namespace Screenscrab.Session
open Protocol LittleEndian
open Transition (exec Along)

/-- What the worker shows of the session: `error` is what was published last, and `handed` what
has been handed to `handle_packet` since the loop was entered. -/
structure View where
  transport : Transport
  framesSent : UInt64
  lastPing : UInt64
  error : Int32 × Bytes
  handed : List (Bytes × Settings)

/-- After the next `disconnect`. -/
def View.closed (v : View) : View := { v with transport := v.transport.disconnect }

/-- After a packet that has been handled with this result. -/
def View.settled (v : View) (packet : Bytes × Settings) (result : Bool) : View :=
  let next := { v with handed := v.handed ++ [packet] }
  if result then next else next.closed

namespace HostLoop
variable {start l : HostLoop} {c next : Incoming} {v v' : View}

/-- What a state of the loop has in common with the worker. -/
structure Shows (start l : HostLoop) (v : View) : Prop where
  transport : l.incoming.transport = v.transport
  framesSent : l.framesSent = v.framesSent
  lastPing : l.lastPing = v.lastPing
  error : ∀ e ∈ l.incoming.errors.getLast?, e = v.error
  handled : l.incoming.handled.map Prod.fst =
    start.incoming.handled.map Prod.fst ++ v.handed.map Prod.fst
  calls : l.incoming.calls = start.incoming.calls ++ v.handed.filterMap callOf

/-- Between two iterations. -/
def Between (start : HostLoop) (v : View) : Prop :=
  ∃ l, Arrives start l ∧ Shows start l v

/-- In the receive loop of an iteration. -/
def Serving (start : HostLoop) (v : View) : Prop :=
  ∃ l c, Arrives start l ∧ l.connected = true ∧ Reads l c ∧ Shows start (l.serving c) v

/-- Behind the receive loop of an iteration. -/
def Ending (start : HostLoop) (v : View) : Prop :=
  ∃ l c, Arrives start l ∧ l.connected = true ∧ HasRead l c ∧ Shows start (l.serving c) v

/-- How far the loop has come when the worker stands at `pc`. An error that is on its way to
`last_error_` is already in the loop, and so is a connection that is about to be closed. -/
def Stands (start : HostLoop) : Pc → View → Prop
  | .readError message next, v =>
    Stands start next { v with error := (v.transport.lastError, ascii message) }
  | .applyError code message next, v =>
    Stands start next { v with error := (code, ascii message) }
  | .innerHead, v | .innerConnected, v | .endDisconnect, v => Between start v
  | .capture, v | .encode, v | .sendMetadata, v | .sendFrame, v | .countFrame, v =>
    Between start v ∧ v.transport.connected = true
  | .sendFailed, v => Between start v.closed
  | .processHead, v | .processConnected, v => Serving start v
  | .processPoll, v | .receiveHeader, v | .handlePacket _, v =>
    Serving start v ∧ v.transport.connected = true
  | .receivePayload _ payloadSize, v =>
    Serving start v ∧ v.transport.connected = true ∧ payloadSize ≠ 0
  | .sendPong, v =>
    ∃ packet settings call earlier, Framed packet ∧ v.handed = earlier ++ [(packet, settings)] ∧
      handlePacket settings packet = some (.calls call) ∧
      Serving start { v with handed := earlier } ∧ v.transport.connected = true
  | .handlerDisconnect, v | .processDisconnect, v => Serving start v.closed
  | .pingDue, v => Ending start v
  | .sendPing, v =>
    ∃ earlier, v.lastPing - earlier > 1000000 ∧ Ending start { v with lastPing := earlier }
  | _, _ => False

theorem applyError_last (c : Incoming) (code : Int32) (message : Bytes) :
    ∀ e ∈ (c.applyError code message).errors.getLast?, e = (code, message) := by
  intro e last
  have shown : (c.applyError code message).errors.getLast? = some (code, message) :=
    List.getLast?_concat
  exact Option.some.inj ((Option.mem_def.mp last).symm.trans shown)

theorem Between.captureFailed (between : Between start v)
    (connected : v.transport.connected = true) :
    Between start { v with error := (-3, ascii "capture failed") } := by
  obtain ⟨l, arrives, shows_⟩ := between
  rw [← shows_.transport] at connected
  exact ⟨_, arrives.captureFailed connected, shows_.transport, shows_.framesSent, shows_.lastPing,
    applyError_last _ _ _, shows_.handled, shows_.calls⟩

theorem Between.encodeFailed (between : Between start v)
    (connected : v.transport.connected = true) :
    Between start { v with error := (-4, ascii "encode failed") } := by
  obtain ⟨l, arrives, shows_⟩ := between
  rw [← shows_.transport] at connected
  exact ⟨_, arrives.encodeFailed connected, shows_.transport, shows_.framesSent, shows_.lastPing,
    applyError_last _ _ _, shows_.handled, shows_.calls⟩

theorem Between.sendFailed (between : Between start v) (connected : v.transport.connected = true) :
    Between start
      { v with error := (v.transport.lastError, ascii "frame send failed") }.closed := by
  obtain ⟨l, arrives, shows_⟩ := between
  rw [← shows_.transport] at connected ⊢
  exact ⟨_, arrives.sendFailed connected, rfl, shows_.framesSent, shows_.lastPing,
    applyError_last _ _ _, shows_.handled, shows_.calls⟩

theorem Between.frameSent (between : Between start v) (connected : v.transport.connected = true) :
    Serving start { v with framesSent := v.framesSent + 1 } := by
  obtain ⟨l, arrives, shows_⟩ := between
  rw [← shows_.transport] at connected
  refine ⟨l, l.incoming, arrives, connected, .initial l, ?_⟩
  exact ⟨shows_.transport, congrArg (· + 1) shows_.framesSent, shows_.lastPing, shows_.error,
    shows_.handled, shows_.calls⟩

theorem Ending.early (ending : Ending start v) {now : UInt64}
    (early : ¬now - v.lastPing > 1000000) : Between start v := by
  obtain ⟨l, c, arrives, running, read, shows_⟩ := ending
  have before : l.lastPing = v.lastPing := shows_.lastPing
  have next := arrives.frameSent running read now false
  rw [finished, if_neg (by rw [before]; exact early)] at next
  exact ⟨_, next, shows_⟩

theorem Ending.pinged {earlier : UInt64} (ending : Ending start { v with lastPing := earlier })
    (due : v.lastPing - earlier > 1000000) (ping : Bool) :
    Between start { v with transport := (v.transport.sendAll ping).1 } := by
  obtain ⟨l, c, arrives, running, read, shows_⟩ := ending
  have before : l.lastPing = earlier := shows_.lastPing
  have same : c.transport = v.transport := shows_.transport
  have next := arrives.frameSent running read v.lastPing ping
  rw [finished, if_pos (by rw [before]; exact due), same] at next
  exact ⟨_, next, rfl, shows_.framesSent, rfl, shows_.error, shows_.handled, shows_.calls⟩

/-- The same, with one more packet handled. -/
theorem Shows.settled (shows_ : Shows start (l.serving c) v) {packet : Bytes} {settings : Settings}
    (result : Bool) (transport : next.transport = v.transport ∨ result = false)
    (handled : next.handled = c.handled)
    (calls : next.calls = c.calls ++ (callOf (packet, settings)).toList)
    (error : ∀ e ∈ next.errors.getLast?, e = v.error)
    (closes : next.transport.disconnect = v.transport.disconnect) :
    Shows start (l.serving (next.settled packet result)) (v.settled (packet, settings) result) := by
  have before : c.handled.map Prod.fst =
      start.incoming.handled.map Prod.fst ++ v.handed.map Prod.fst := shows_.handled
  have called : c.calls = start.incoming.calls ++ v.handed.filterMap callOf := shows_.calls
  have logged : (next.handled ++ [(packet, result)]).map Prod.fst =
      start.incoming.handled.map Prod.fst ++
        (v.handed ++ [(packet, settings)]).map Prod.fst := by
    rw [handled, List.map_append, List.map_append, before, List.append_assoc]
    rfl
  have made : next.calls =
      start.incoming.calls ++ (v.handed ++ [(packet, settings)]).filterMap callOf := by
    rw [calls, called, List.filterMap_append, List.append_assoc]
    cases call : callOf (packet, settings) <;> simp [call]
  cases result with
  | true =>
      have same := transport.resolve_right (by decide)
      exact ⟨same, shows_.framesSent, shows_.lastPing, error, logged, made⟩
  | false => exact ⟨closes, shows_.framesSent, shows_.lastPing, error, logged, made⟩

section
variable (serving_ : Serving start v) (connected : v.transport.connected = true) {packet : Bytes}
  (framed : Framed packet) {settings : Settings}
include serving_ connected framed

theorem Serving.step (settings : Settings) (callResult : Bool)
    (handles : ∀ l c, c.transport = v.transport → Shows start (HostLoop.serving l c) v →
      ∃ next, c.handle (reading packet settings callResult) packet = some next ∧
        Shows start (l.serving next) v') : Serving start v' := by
  obtain ⟨l, c, arrives, running, reads, shows_⟩ := serving_
  have same : c.transport = v.transport := shows_.transport
  have received : Shows start (l.serving (c.received packet)) v :=
    ⟨same, shows_.framesSent, shows_.lastPing, shows_.error, shows_.handled, shows_.calls⟩
  obtain ⟨next, handled, shown⟩ := handles l (c.received packet) same received
  have open_ : c.transport.connected = true := by
    rw [same]
    exact connected
  exact ⟨l, next, arrives, running, reads.handle open_ framed settings callResult handled, shown⟩

theorem Serving.returns {result : Bool}
    (handled : handlePacket settings packet = some (.returns result)) :
    Serving start (v.settled (packet, settings) result) := by
  have silent : callOf (packet, settings) = none := by
    rw [callOf, handled]
  refine serving_.step connected framed settings false ?_
  intro l c same shows_
  refine ⟨_, Incoming.handle_returns handled,
    shows_.settled result (.inl same) rfl ?_ shows_.error ?_⟩
  · rw [silent]
    exact (List.append_nil _).symm
  · exact congrArg Transport.disconnect same

theorem Serving.calls {call : HandlerCall}
    (handled : handlePacket settings packet = some (.calls call)) (callResult : Bool) :
    Serving start (v.settled (packet, settings) callResult) := by
  have made : callOf (packet, settings) = some call := by
    rw [callOf, handled]
  refine serving_.step connected framed settings callResult ?_
  intro l c same shows_
  refine ⟨_, Incoming.handle_calls handled,
    shows_.settled callResult (.inl same) rfl ?_ shows_.error ?_⟩
  · rw [made]
    rfl
  · exact congrArg Transport.disconnect same

theorem Serving.disconnects (handled : handlePacket settings packet = some .disconnects) :
    Serving start (v.settled (packet, settings) false) := by
  have silent : callOf (packet, settings) = none := by
    rw [callOf, handled]
  refine serving_.step connected framed settings false ?_
  intro l c same shows_
  refine ⟨_, Incoming.handle_disconnects handled,
    shows_.settled false (.inr rfl) rfl ?_ shows_.error ?_⟩
  · rw [silent]
    exact (List.append_nil _).symm
  · change c.transport.disconnect = v.transport.disconnect
    rw [same]

theorem Serving.invalid (handled : handlePacket settings packet = some .invalid) :
    Serving start
      ({ v with error := (-8, ascii "invalid packet") }.settled (packet, settings) false) := by
  have silent : callOf (packet, settings) = none := by
    rw [callOf, handled]
  refine serving_.step connected framed settings false ?_
  intro l c same shows_
  have refused : Shows start (l.serving (c.applyError (-8) (ascii "invalid packet")))
      { v with error := (-8, ascii "invalid packet") } :=
    ⟨same, shows_.framesSent, shows_.lastPing, applyError_last _ _ _, shows_.handled,
      shows_.calls⟩
  refine ⟨_, Incoming.handle_invalid handled,
    refused.settled false (.inr rfl) rfl ?_ (applyError_last _ _ _) ?_⟩
  · rw [silent]
    exact (List.append_nil _).symm
  · exact congrArg Transport.disconnect same

end

/-- The answers with which a packet is not read: its header, if `header` is `[24]`, and no
payload. -/
def stalling (header : List Nat) : Answers where
  stopRequested := false
  poll := .ok true
  header
  payload := []
  settings := ⟨false, false, 0⟩
  callResult := false

/-- The receive loop ends with an error that closes the connection. -/
theorem Serving.refuses (serving_ : Serving start v) (connected : v.transport.connected = true)
    (bytes : Bytes) (schedule : List Nat) {message : Bytes} {code : Int32}
    (taken : ∀ c : Incoming, c.transport = v.transport → ∀ rest,
      (c.on (bytes ++ rest)).receivePacket (stalling schedule) =
        some (((c.received bytes).applyError code message).disconnect.on rest)) :
    Serving start { v with error := (code, message) }.closed := by
  obtain ⟨l, c, arrives, running, reads, shows_⟩ := serving_
  have same : c.transport = v.transport := shows_.transport
  have open_ : c.transport.connected = true := by
    rw [same]
    exact connected
  refine ⟨l, _, arrives, running, reads.receive open_ rfl rfl (taken c same), ?_⟩
  exact ⟨congrArg Transport.disconnect same, shows_.framesSent, shows_.lastPing,
    applyError_last c code message, shows_.handled, shows_.calls⟩

variable (connected : v.transport.connected = true)
include connected

theorem Serving.header_lost (serving_ : Serving start v) :
    Serving start { v with
      error := (v.transport.lastError, ascii "packet header receive failed") }.closed := by
  refine serving_.refuses connected [] [] ?_
  intro c same rest
  have open_ : c.transport.connected = true := by
    rw [same]
    exact connected
  have stops := Incoming.receiveAll_nothing open_ ([] ++ rest) (show 24 ≠ 0 by decide)
  have nothing : c.received [] = c := by
    rw [Incoming.received, List.append_nil]
  rw [Incoming.receivePacket, show (stalling []).header = [] from rfl, stops, nothing, ← same]
  rfl

section
variable {header : Bytes} (size : header.length = 24)
include size

theorem receiveHeader_whole {c : Incoming} (same : c.transport = v.transport) (rest : Bytes) :
    (c.on (header ++ rest)).receiveAll 24 (stalling [24]).header =
      ((c.received header).on rest, some header) := by
  have open_ : c.transport.connected = true := by
    rw [same]
    exact connected
  have read := Incoming.receiveAll_whole open_ (size.trans_lt (by decide)) rest
  rw [size] at read
  exact read

theorem Serving.header_wrong (serving_ : Serving start v)
    (wrong : word header 0 4 ≠ wireMagic ∨ word header 4 2 ≠ wireVersion) :
    Serving start { v with error := (-6, ascii "wire header mismatch") }.closed := by
  refine serving_.refuses connected header [24] ?_
  intro c same rest
  rw [Incoming.receivePacket_header (receiveHeader_whole connected size same rest) size,
    if_pos wrong]
  rfl

theorem Serving.header_large (serving_ : Serving start v)
    (known : ¬(word header 0 4 ≠ wireMagic ∨ word header 4 2 ≠ wireVersion))
    (large : word header 12 4 > 1024 * 1024) :
    Serving start { v with error := (-7, ascii "packet payload too large") }.closed := by
  refine serving_.refuses connected header [24] ?_
  intro c same rest
  rw [Incoming.receivePacket_header (receiveHeader_whole connected size same rest) size,
    if_neg known, if_pos large]
  rfl

theorem Serving.payload_lost (serving_ : Serving start v)
    (known : ¬(word header 0 4 ≠ wireMagic ∨ word header 4 2 ≠ wireVersion))
    (small : ¬word header 12 4 > 1024 * 1024) (some_ : word header 12 4 ≠ 0) :
    Serving start { v with
      error := (v.transport.lastError, ascii "packet payload receive failed") }.closed := by
  refine serving_.refuses connected header [24] ?_
  intro c same rest
  have open_ : (c.received header).transport.connected = true := by
    rw [show (c.received header).transport = v.transport from same]
    exact connected
  have stops := Incoming.receiveAll_nothing open_ rest some_
  rw [Incoming.receivePacket_header (receiveHeader_whole connected size same rest) size,
    if_neg known, if_neg small, if_neg some_, show (stalling [24]).payload = [] from rfl, stops,
    ← same]
  rfl

end

omit connected

/-- The receive loop ends where its condition fails. -/
theorem Serving.ends (serving_ : Serving start v) (a : Answers) {transport : Transport}
    (ended : ∀ c : Incoming, c.transport = v.transport →
      c.awaits a = ({ c with transport }, false)) : Ending start { v with transport } := by
  obtain ⟨l, c, arrives, running, reads, shows_⟩ := serving_
  have same : c.transport = v.transport := shows_.transport
  refine ⟨l, { c with transport }, arrives, running, ?_, ?_⟩
  · exact reads.ends fun rest => ended (c.on rest) same
  · exact ⟨rfl, shows_.framesSent, shows_.lastPing, shows_.error, shows_.handled, shows_.calls⟩

/-- No more is read once a stop is requested or the connection is closed. -/
theorem Serving.leaves (serving_ : Serving start v) (stopRequested : Bool)
    (over_ : stopRequested = true ∨ v.transport.connected = false) : Ending start v := by
  refine serving_.ends { stalling [] with stopRequested } ?_
  intro c same
  have ended : stopRequested = true ∨ ¬c.transport.connected = true := by
    rw [same]
    exact over_.imp_right Bool.eq_false_iff.mp
  rw [Incoming.awaits, if_pos ended, ← same]

/-- No more is read when the poll finds nothing, or fails. -/
theorem Serving.silent (serving_ : Serving start v) (connected : v.transport.connected = true)
    {answer : Except Int32 Bool} {transport : Transport}
    (polled : v.transport.pollReadable answer = (transport, false)) :
    Ending start { v with transport } := by
  have waits (a : Answers) (running : a.stopRequested = false) (poll : a.poll = answer)
      (c : Incoming) (same : c.transport = v.transport) :
      c.awaits a = ({ c with transport }, false) := by
    have awaited : ¬(a.stopRequested = true ∨ ¬c.transport.connected = true) := by
      rw [running, same]
      exact fun ended => ended.elim Bool.false_ne_true (fun closed => closed connected)
    rw [Incoming.awaits, if_neg awaited, poll, same, polled]
  exact serving_.ends { stalling [] with poll := answer } (waits _ rfl rfl)

end HostLoop

namespace SessionManager
open HostLoop (Between Serving Ending Stands Arrives Reads)

def settings (m : SessionManager) (os : OsAnswers) : Settings where
  inputEnabled := m.guarded.inputEnabled
  clipboardEnabled := m.guarded.clipboardEnabled
  nowMicros := os.now

/-- What a step of the worker hands to `handle_packet`, with the settings of that moment. -/
def handing (m : SessionManager) (w : Worker) (os : OsAnswers) : List (Bytes × Settings) :=
  match w.pc with
  | .handlePacket packet => [(packet, m.settings os)]
  | _ => []

def view (m : SessionManager) (w : Worker) (past : List (Bytes × Settings)) : View where
  transport := m.transport
  framesSent := m.framesSent
  lastPing := w.lastPing
  error := (m.guarded.lastError, m.guarded.lastErrorMessage)
  handed := past

/-- The worker goes on at `pc` with nothing but its place changed. -/
theorem goto_stands {start : HostLoop} {m : SessionManager} {w : Worker} {pc : Pc}
    {past : List (Bytes × Settings)} (stands : Stands start pc (m.view w past)) :
    ∃ w', (m.goto w pc).worker = some w' ∧
      Stands start w'.pc ((m.goto w pc).view w' (past ++ [])) := by
  rw [List.append_nil]
  exact ⟨_, rfl, stands⟩

section
variable {start : HostLoop} {m next : SessionManager} {lastPing : UInt64} {os : OsAnswers}
  {past : List (Bytes × Settings)}

/-- Behind a header stands its packet, its payload, or the end of the loop with its error. -/
theorem receiveHeader_stands (serving_ : Serving start (m.view ⟨.receiveHeader, lastPing⟩ past))
    (connected : m.transport.connected = true)
    (taken : m.work ⟨.receiveHeader, lastPing⟩ os = some next) :
    ∃ w', next.worker = some w' ∧ Stands start w'.pc (next.view w' (past ++ [])) := by
  simp only [work, Transport.receiveAll_connected connected] at taken
  cases received : os.received.filter (·.length = 24) with
  | none =>
      rw [received] at taken
      cases taken
      exact goto_stands (serving_.header_lost connected)
  | some header =>
      obtain ⟨_, size⟩ := Option.filter_eq_some_iff.mp received
      have size := of_decide_eq_true size
      rw [received] at taken
      simp only [afterHeader_eq size, Option.map_some] at taken
      cases taken
      refine goto_stands ?_
      split
      · next wrong => exact serving_.header_wrong connected size wrong
      next known =>
      split
      · next large => exact serving_.header_large connected size known large
      split
      · exact ⟨serving_, connected⟩
      · next some_ => exact ⟨serving_, connected, some_⟩

theorem receivePayload_stands {header : Bytes} {payloadSize : Nat}
    (checked : (Pc.receivePayload header payloadSize).Checked)
    (stands : Stands start (.receivePayload header payloadSize)
      (m.view ⟨.receivePayload header payloadSize, lastPing⟩ past))
    (taken : m.work ⟨.receivePayload header payloadSize, lastPing⟩ os = some next) :
    ∃ w', next.worker = some w' ∧ Stands start w'.pc (next.view w' (past ++ [])) := by
  obtain ⟨serving_, connected, some_⟩ := stands
  obtain ⟨size, magic, version, announced, small⟩ := checked
  have open_ : m.transport.connected = true := connected
  simp only [work, Transport.receiveAll_connected open_] at taken
  cases received : os.received.filter (·.length = payloadSize) with
  | none =>
      rw [received] at taken
      cases taken
      have known : ¬(word header 0 4 ≠ wireMagic ∨ word header 4 2 ≠ wireVersion) := by
        rw [magic, version]
        exact fun wrong => wrong.elim (fun no => no rfl) (fun no => no rfl)
      rw [← announced] at small some_
      exact goto_stands (serving_.payload_lost connected size known (by omega) some_)
  | some payload =>
      rw [received] at taken
      cases taken
      exact goto_stands ⟨serving_, connected⟩

/-- What `handle_packet` answers is settled as the receive loop settles it, and a pong is still
to be sent. -/
theorem handlePacket_stands {packet : Bytes} (framed : Framed packet)
    (serving_ : Serving start (m.view ⟨.handlePacket packet, lastPing⟩ past))
    (connected : m.transport.connected = true)
    (taken : m.work ⟨.handlePacket packet, lastPing⟩ os = some next) :
    ∃ w', next.worker = some w' ∧
      Stands start w'.pc (next.view w' (past ++ [(packet, m.settings os)])) := by
  obtain ⟨pc, after, rfl⟩ := Option.map_eq_some_iff.mp taken
  simp only [afterPacket, Option.bind_eq_bind, Option.bind_eq_some_iff,
    Option.pure_def] at after
  obtain ⟨handling, handled, chosen⟩ := after
  refine ⟨_, rfl, ?_⟩
  cases handling with
  | returns result =>
      cases chosen
      have settled := serving_.returns connected framed handled
      cases result <;> exact settled
  | calls call =>
      cases call with
      | sendPong pong =>
          cases chosen
          exact ⟨packet, _, _, past, framed, rfl, handled, serving_, connected⟩
      | _ =>
          cases chosen
          have settled := serving_.calls connected framed handled os.ok
          cases ok : os.ok <;> rw [ok] at settled <;> exact settled
  | invalid =>
      cases chosen
      exact serving_.invalid connected framed handled
  | disconnects =>
      cases chosen
      exact serving_.disconnects connected framed handled

/-- One step of the worker inside a session. -/
theorem work_stands {w : Worker} (stands : Stands start w.pc (m.view w past))
    (checked : w.pc.Checked) (inside : w.pc ≠ .endDisconnect) (taken : m.work w os = some next) :
    ∃ w', next.worker = some w' ∧
      Stands start w'.pc (next.view w' (past ++ m.handing w os)) := by
  obtain ⟨pc, lastPing⟩ := w
  cases pc with
  | listen | inputInitialize | captureInitialize | hostReady | outerHead | accept | acceptFailed
  | clientJoined | sendHello | sendCapabilities | sendSessionStart | startPing | endSession
  | connect | clientReady | clientHead | clientConnected | clientDisconnect | clientEnded
  | exited =>
      cases stands
  | endDisconnect => exact absurd rfl inside
  | readError message pc =>
      cases taken
      exact goto_stands stands
  | applyError code message pc =>
      cases taken
      refine ⟨_, rfl, ?_⟩
      rw [handing, List.append_nil]
      exact stands
  | innerHead =>
      cases taken
      refine goto_stands ?_
      split <;> exact stands
  | innerConnected =>
      cases taken
      refine goto_stands ?_
      split
      · next connected => exact ⟨stands, connected⟩
      · exact stands
  | capture =>
      cases taken
      refine goto_stands ?_
      split
      · exact stands
      · exact stands.1.captureFailed stands.2
  | encode =>
      cases taken
      refine goto_stands ?_
      split
      · exact stands
      · exact stands.1.encodeFailed stands.2
  | sendMetadata | sendFrame =>
      have connected : m.transport.connected = true := stands.2
      simp only [work, Transport.sendAll_connected connected] at taken
      cases taken
      refine goto_stands ?_
      split
      · exact stands
      · exact stands.1.sendFailed stands.2
  | sendFailed =>
      cases taken
      exact goto_stands stands
  | countFrame =>
      cases taken
      exact goto_stands (stands.1.frameSent stands.2)
  | processHead =>
      cases taken
      refine goto_stands ?_
      split
      · exact Serving.leaves stands true (.inl rfl)
      · exact stands
  | processConnected =>
      cases taken
      refine goto_stands ?_
      split
      · next connected => exact ⟨stands, connected⟩
      · next closed => exact Serving.leaves stands false (.inr (Bool.eq_false_iff.mpr closed))
  | processPoll =>
      obtain ⟨serving_, connected⟩ := stands
      simp only [work] at taken
      cases polled : m.transport.pollReadable os.poll with
      | mk transport ready =>
          rw [polled] at taken
          cases taken
          refine goto_stands ?_
          cases ready with
          | true =>
              obtain rfl := Transport.pollReadable_ready polled
              exact ⟨serving_, connected⟩
          | false =>
              exact serving_.silent connected polled
  | receiveHeader => exact receiveHeader_stands stands.1 stands.2 taken
  | receivePayload header payloadSize => exact receivePayload_stands checked stands taken
  | handlePacket packet => exact handlePacket_stands checked stands.1 stands.2 taken
  | handlerDisconnect =>
      cases taken
      exact goto_stands stands
  | sendPong =>
      obtain ⟨packet, settings, call, earlier, framed, last, handled, serving_, open_⟩ := stands
      have connected : m.transport.connected = true := open_
      simp only [work, Transport.sendAll_connected connected] at taken
      cases taken
      refine goto_stands ?_
      have settled := serving_.calls open_ framed handled os.ok
      rw [View.settled, ← last] at settled
      split
      · next ok =>
          rw [if_pos ok] at settled
          exact settled
      · next failed =>
          rw [if_neg failed] at settled
          exact settled
  | processDisconnect =>
      cases taken
      refine goto_stands (HostLoop.Serving.leaves stands false (.inr ?_))
      rfl
  | pingDue =>
      simp only [work] at taken
      split at taken
      · next due =>
          cases taken
          exact ⟨_, rfl, by rw [handing, List.append_nil]; exact ⟨lastPing, due, stands⟩⟩
      · next early =>
          cases taken
          exact goto_stands (Ending.early stands early)
  | sendPing =>
      cases taken
      obtain ⟨earlier, due, ending⟩ := stands
      exact goto_stands (ending.pinged due os.ok)

/-- The worker stands in a session that was entered at `start`. -/
def Follows (start : HostLoop) (m : SessionManager) (past : List (Bytes × Settings)) : Prop :=
  ∃ w, m.worker = some w ∧ Stands start w.pc (m.view w past)

/-- What happens while the session goes on: the worker has not come to its end, and the calling
thread has not closed the connection. -/
def Continues (m : SessionManager) : Label → Prop
  | .worker _ => ∀ w, m.worker = some w → w.pc ≠ .endDisconnect
  | .api => ∃ call, m.api = .requestStop call
  | _ => True

def handsOver (m : SessionManager) : Label → List (Bytes × Settings)
  | .worker os => (m.worker.map fun w => m.handing w os).getD []
  | _ => []

/-- What a run hands to `handle_packet`. -/
def handed (m : SessionManager) : List Label → List (Bytes × Settings)
  | [] => []
  | label :: labels =>
    m.handsOver label ++ ((m.step label).map fun next => next.handed labels).getD []

theorem step_follows {label : Label} (follows : Follows start m past) (runs : Runs m)
    (continues : m.Continues label) (taken : m.step label = some next) :
    Follows start next (past ++ m.handsOver label) := by
  obtain ⟨w, present, stands⟩ := follows
  have aside {s : SessionManager} (here : Follows start s past) : Follows start s (past ++ []) := by
    rw [List.append_nil]
    exact here
  cases label with
  | worker os =>
      obtain ⟨w', present', working⟩ := Option.bind_eq_some_iff.mp taken
      obtain rfl := Option.some.inj (present.symm.trans present')
      have over_ : m.handsOver (.worker os) = m.handing w os := by
        rw [handsOver, present]
        rfl
      rw [over_]
      exact work_stands stands (runs.worker w present).1 (continues w present) working
  | call call =>
      simp only [SessionManager.step] at taken
      split at taken <;> cases taken
      exact aside ⟨w, present, stands⟩
  | api =>
      obtain ⟨call, requested⟩ := continues
      simp only [SessionManager.step, callStep, requested] at taken
      cases taken
      exact aside ⟨w, present, stands⟩
  | setMonitorIndex | setInputEnabled | setClipboardEnabled | setAudioEnabled =>
      cases taken
      exact aside ⟨w, present, stands⟩

theorem exec_follows {labels : List Label} (follows : Follows start m past) (runs : Runs m)
    (continues : Along step (fun s label => s.Continues label) m labels)
    (run : exec step m labels = some next) : Follows start next (past ++ m.handed labels) := by
  induction labels generalizing m past with
  | nil =>
      cases run
      rw [handed, List.append_nil]
      exact follows
  | cons label labels ih =>
      obtain ⟨between, taken, rest⟩ := Transition.exec_cons_some run
      have first := step_follows follows runs continues.head taken
      have later := ih first (runs.step taken) (continues.tail taken) rest
      rw [handed, taken, ← List.append_assoc]
      exact later

end

/-- The loop as the worker enters it. -/
def enters (m : SessionManager) (w : Worker) (wire : Bytes) : HostLoop where
  incoming := .start m.transport wire
  framesSent := m.framesSent
  lastPing := w.lastPing

/-- A session of the worker, in steps of two threads, is a run of whole iterations of the loop,
which receives the same packets, makes the same calls for them, sends as many frames, and leaves
the same connection and the same error, as long as the calling thread does not close the
connection. -/
theorem session_refines_loop {m next : SessionManager} {w w' : Worker} {labels : List Label}
    (reached : Transition.Reachable step {} m) (worker : m.worker = some w)
    (entered : w.pc = .innerHead)
    (continues : Along step (fun s label => s.Continues label) m labels)
    (run : exec step m labels = some next) (worker' : next.worker = some w')
    (outside : w'.pc = .innerHead ∨ w'.pc = .endDisconnect) :
    ∃ (received : Bytes) (iterations : List Iteration) (l : HostLoop),
      (∀ rest, exec HostLoop.step (m.enters w (received ++ rest)) iterations = some (l.on rest)) ∧
      l.incoming.transport = next.transport ∧ l.framesSent = next.framesSent ∧
      l.lastPing = w'.lastPing ∧
      (∀ e ∈ l.incoming.errors.getLast?,
        e = (next.guarded.lastError, next.guarded.lastErrorMessage)) ∧
      l.incoming.handled.map Prod.fst = (m.handed labels).map Prod.fst ∧
      l.incoming.calls = (m.handed labels).filterMap callOf := by
  have start : Follows (m.enters w []) m [] := by
    refine ⟨w, worker, ?_⟩
    rw [entered]
    exact ⟨_, .refl _, rfl, rfl, rfl, nofun, rfl, rfl⟩
  obtain ⟨w'', present, stands⟩ := exec_follows start (runs_of_reachable reached) continues run
  obtain rfl := Option.some.inj (worker'.symm.trans present)
  have between : Between (m.enters w []) (next.view w' ([] ++ m.handed labels)) := by
    rcases outside with at_ | at_
    · rw [at_] at stands
      exact stands
    · rw [at_] at stands
      exact stands
  obtain ⟨l, ⟨received, iterations, runs⟩, shows_⟩ := between
  exact ⟨received, iterations, l, runs, shows_.transport, shows_.framesSent, shows_.lastPing,
    shows_.error, shows_.handled, shows_.calls⟩

/-- The first client of a host is there. A frame is sent to it, and a packet comes from it. -/
def firstTurn : List Label :=
  let plain : OsAnswers := {}
  (List.replicate 9 plain ++ [{ poll := .ok true }, { received := some (makePacket .hello 0 [] 7) },
    plain, plain, plain, plain, plain]).map .worker

/-- Where the worker stands after so many steps of the turn. -/
def placeAfter (m : SessionManager) (n : Nat) : Option Pc :=
  ((exec step m (firstTurn.take n)).bind SessionManager.worker).map Worker.pc

theorem firstTurn_facts :
    (exec step {} (hostRun (List.replicate 11 {}))).bind (fun m =>
      (exec step m firstTurn).map fun next =>
        decide (m.worker = some ⟨.innerHead, 0⟩ ∧ next.worker = some ⟨.innerHead, 0⟩ ∧
          next.framesSent = 1 ∧ (m.handed firstTurn).map Prod.fst = [makePacket .hello 0 [] 7] ∧
          ∀ n < 16, placeAfter m n ≠ some .endDisconnect)) = some true := by
  decide +kernel

theorem session_refines_loop_once :
    ∃ l : HostLoop, l.framesSent = 1 ∧
      l.incoming.handled.map Prod.fst = [makePacket .hello 0 [] 7] := by
  obtain ⟨m, reached, rest⟩ := Option.bind_eq_some_iff.mp firstTurn_facts
  obtain ⟨next, run, same⟩ := Option.map_eq_some_iff.mp rest
  obtain ⟨entered, left, sent, handed, inside⟩ := of_decide_eq_true same
  have continues : Along step (fun s label => s.Continues label) m firstTurn := by
    intro before label after t split at_
    have member : label ∈ firstTurn := by
      rw [split]
      exact List.mem_append_right before List.mem_cons_self
    obtain ⟨os, _, rfl⟩ := List.mem_map.mp member
    intro w present ended
    have short : before.length < 16 := by
      have size : firstTurn.length = 16 := rfl
      rw [split, List.length_append, List.length_cons] at size
      omega
    have front : firstTurn.take before.length = before := by
      rw [split]
      exact List.take_left
    have place := inside before.length short
    rw [placeAfter, front, at_, Option.bind_some, present, Option.map_some, ended] at place
    exact place rfl
  obtain ⟨_, _, l, _, _, frames, _, _, packets, _⟩ :=
    session_refines_loop ⟨_, reached⟩ entered rfl continues run left (.inl rfl)
  exact ⟨l, frames.trans sent, packets.trans handed⟩

end SessionManager
end Screenscrab.Session

import ModHttp3.Lib.Ledger
import ModHttp3.Lib.SwapRemove

/-!
# The event thread

Model of `h3_event_thread` (`h3_threads.c`) and of the functions of `h3_io.c` and `h3_session.c`
that pass QUIC connections along: `h3_io_at_connection_limit`, `remove_pending_handshake`,
`spawn_serviced_session`, `progress_pending_handshakes`, `prepare_accepted_connection`,
`service_session_pass`, and the parts of `h3_session_create`, `h3_session_create_control_streams`
and `h3_session_destroy` that touch the connection.

C → Lean naming: the `h3_` prefix is dropped and the rest is in camel case. `step` is one turn from
one loop head of the thread to the next (`Pc`), with the answers of OpenSSL, nghttp3, APR and the
clock as an argument; it returns the operations on connections it performed. Connections are
numbered in the order `h3q_engine_accept_conn` returns them. `step` is `none` if the answer is not
for this loop head, or if an array would be indexed out of bounds.
-/

namespace ModHttp3.Listener
open ModHttp3.Lib

/-- A connection, by its order of acceptance. -/
abbrev Conn := Nat

/-- The functions of `h3q_conn.h` and `h3q.h` applied to a connection, with what they answered. -/
inductive ConnUse where
  | prepare (ok : Bool)
  | peerAddr
  | isClosed (closed : Bool)
  | isHandshakeDone (done : Bool)
  | closeReason
  | openUniStream (opened : Bool)
  | acceptStream (returned : Bool)
  | shutdown (isRapid : Bool) (error : UInt64) (reason : Option String) (done : Bool)
deriving DecidableEq

abbrev ConnOp := ResOp ConnUse

/-- The part of `h3_session` the event thread decides on. -/
structure Session where
  qconn : Option Conn
  ngh3 : Bool
  controlStreamsCreated : Bool
  goawayDeadline : Int
  aborted : Bool
  ngh3Dead : Bool
  abortQuicErrorCode : UInt64
  abortReason : Option String
deriving DecidableEq

/-- A connection whose handshake is not finished (C `h3_pending_handshake`). -/
structure PendingHandshake where
  conn : Conn
  acceptedAt : Int
deriving DecidableEq

/-- The listener (C `h3_io_t`); `connAdded` and `connRemoved` count the calls of `note_conn_added`
and `note_conn_removed`, `accepted` the connections OpenSSL returned. -/
structure Io where
  threadRunning : Bool
  maxConnections : UInt32
  handshakeTimeout : UInt32
  activeSessions : List Session
  pendingHandshakes : List PendingHandshake
  activeSessionCount : UInt32
  totalConnections : UInt32
  totalStreams : UInt32
  connAdded : Nat
  connRemoved : Nat
  accepted : Nat
deriving DecidableEq

/-- C `apr_time_from_sec`. -/
def timeFromSec (sec : Nat) : Int := sec * 1000000

/-- C `H3_GOAWAY_GRACE_SECS`. -/
def goawayGraceSecs : Nat := 3

/-- C `h3_io_at_connection_limit`. -/
def Io.atConnectionLimit (io : Io) : Bool :=
  UInt32.ofNat io.activeSessions.length + UInt32.ofNat io.pendingHandshakes.length ≥
    io.maxConnections

/-- An operation on a nullable connection; the wrappers ignore a null one. -/
def use (u : ConnUse) (conn : Option Conn) : List ConnOp := conn.toList.map (.use u)

/-- C `remove_pending_handshake`. -/
def removePendingHandshake (io : Io) (index : Nat) (freeConn : Bool) :
    Option (Io × List ConnOp) := do
  let pending ← io.pendingHandshakes[index]?
  let ops := if freeConn then [.free pending.conn] else []
  some ({ io with pendingHandshakes := swapRemove io.pendingHandshakes index }, ops)

/-- What the environment answers while a session is set up. -/
structure SpawnAnswer where
  allocator : Bool
  pool : Bool
  mutex : Bool
  server : Bool
  opened : Fin 3 → Bool
  bindControl : Bool
  bindQpack : Bool
  closed : Bool
  connPool : Bool

/-- C `h3_session_create`. -/
def sessionCreate (qconn : Conn) (a : SpawnAnswer) : Option Session :=
  if !a.mutex || !a.server then
    none
  else
    some
      { qconn := some qconn, ngh3 := true, controlStreamsCreated := false, goawayDeadline := 0
        aborted := false, ngh3Dead := false, abortQuicErrorCode := 0, abortReason := none }

/-- The calls for the control stream and the two QPACK streams. -/
def openControlStreams (a : SpawnAnswer) : List ConnUse :=
  [.openUniStream (a.opened 0), .openUniStream (a.opened 1), .openUniStream (a.opened 2)]

/-- C `h3_session_create_control_streams`: the three streams are opened even if one of them
fails. -/
def sessionCreateControlStreams (s : Session) (a : SpawnAnswer) : Session × List ConnOp × Bool :=
  if s.controlStreamsCreated then
    (s, [], true)
  else
    let ops := (openControlStreams a).flatMap (use · s.qconn)
    if !(a.opened 0) || !(a.opened 1) || !(a.opened 2) || !a.bindControl || !a.bindQpack then
      ({ s with ngh3 := false }, ops, false)
    else
      ({ s with controlStreamsCreated := true }, ops, true)

/-- C `h3_session_destroy`. -/
def sessionDestroy (s : Session) : List ConnOp := s.qconn.toList.map .free

/-- C `spawn_serviced_session`. -/
def spawnServicedSession (io : Io) (conn : Conn) (a : SpawnAnswer) : Io × List ConnOp :=
  if !a.allocator || !a.pool then
    (io, [.free conn])
  else
    match sessionCreate conn a with
    | none => (io, [.free conn])
    | some session =>
      let (session, opened, ok) := sessionCreateControlStreams session a
      if !ok then
        (io, opened ++ sessionDestroy session)
      else
        let ops := opened ++ [.use (.isClosed a.closed) conn]
        if a.closed then
          (io, ops ++ sessionDestroy session)
        else if !a.connPool then
          (io, ops ++ sessionDestroy session)
        else
          ({ io with
              activeSessions := io.activeSessions ++ [session]
              activeSessionCount := io.activeSessionCount + 1
              connAdded := io.connAdded + 1 },
            ops ++ use .peerAddr session.qconn)

/-- What the environment answers about a pending handshake. -/
structure HandshakeAnswer where
  closed : Bool
  handshakeDone : Bool
  spawn : SpawnAnswer

/-- One turn of the loop in `progress_pending_handshakes`, with the next index. -/
def progressPendingHandshake (io : Io) (now : Int) (i : Nat) (a : HandshakeAnswer) :
    Option (Io × List ConnOp × Nat) := do
  let pending ← io.pendingHandshakes[i]?
  let conn := pending.conn
  if now - pending.acceptedAt ≥ timeFromSec io.handshakeTimeout.toNat then
    let (io, ops) ← removePendingHandshake io i true
    some (io, ops, i)
  else if a.closed then
    let (io, ops) ← removePendingHandshake io i true
    some (io, [.use (.isClosed true) conn, .use .closeReason conn] ++ ops, i)
  else if a.handshakeDone then
    let (io, ops) := spawnServicedSession io conn a.spawn
    let (io, ops') ← removePendingHandshake io i false
    some (io, [.use (.isClosed false) conn, .use (.isHandshakeDone true) conn] ++ ops ++ ops', i)
  else
    some (io, [.use (.isClosed false) conn, .use (.isHandshakeDone false) conn], i + 1)

/-- C `prepare_accepted_connection`. -/
def prepareAcceptedConnection (io : Io) (conn : Conn) (prepared : Bool) (now : Int) :
    Io × List ConnOp × Bool :=
  if !prepared then
    (io, [.use (.prepare false) conn], false)
  else
    ({ io with
        pendingHandshakes := io.pendingHandshakes ++ [{ conn := conn, acceptedAt := now }]
        totalConnections := io.totalConnections + 1 },
      [.use (.prepare true) conn], true)

/-- One turn of the accept loop in `h3_event_thread`, for a connection that was returned. -/
def acceptConn (io : Io) (prepared : Bool) (now : Int) : Io × List ConnOp :=
  let conn := io.accepted
  let io := { io with accepted := io.accepted + 1 }
  if io.atConnectionLimit then
    (io, [.free conn])
  else
    match prepareAcceptedConnection io conn prepared now with
    | (io, ops, true) => (io, ops)
    | (io, ops, false) => (io, ops ++ [.free conn])

/-- What the environment answers during one service pass over a session. `streams` counts the
streams OpenSSL returns; `noticeDied`, `shutdownDied`, `drainDied` and `flushDied` are the errors
nghttp3 reports in the four places it is driven from, if it fails there; `corrupted` is the runaway
hash iteration of `drain_ready_streams`. -/
structure PassAnswer where
  noticeDied : Option (UInt64 × String)
  drained : Bool
  now : Int
  later : Int
  shutdownDied : Option (UInt64 × String)
  closed : Bool
  scratch : Bool
  streams : Nat
  corrupted : Bool
  drainDied : Option (UInt64 × String)
  flushDied : Option (UInt64 × String)
  dataRead : Bool

/-- C `mark_ngh3_dead`, if there was an error. -/
def Session.markNgh3Dead (s : Session) : Option (UInt64 × String) → Session
  | none => s
  | some (error, reason) =>
    { s with ngh3Dead := true, abortQuicErrorCode := error, abortReason := some reason }

/-- The GOAWAY part of `service_session_pass`, and whether the session is given up. -/
def goaway (s : Session) (a : PassAnswer) : Session × Bool :=
  let s := s.markNgh3Dead a.noticeDied
  let s :=
    if s.goawayDeadline = 0 then
      { s with goawayDeadline := a.now + timeFromSec goawayGraceSecs }
    else
      s
  if a.drained || decide (a.later ≥ s.goawayDeadline) then
    ({ s.markNgh3Dead a.shutdownDied with aborted := true }, true)
  else
    (s, false)

/-- The calls of the accept loop of `service_session_pass`, up to the one that returns no stream. -/
def acceptStreams (streams : Nat) : List ConnUse :=
  List.replicate streams (.acceptStream true) ++ [.acceptStream false]

/-- The rest of `service_session_pass`: new streams, requests and responses. -/
def serviceStreams (io : Io) (s : Session) (a : PassAnswer) : Io × Session × List ConnOp × Bool :=
  let ops := use (.isClosed a.closed) s.qconn
  if a.closed then
    (io, { s with aborted := true }, ops, false)
  else if !a.scratch then
    (io, s, ops, false)
  else
    let io := { io with totalStreams := io.totalStreams + UInt32.ofNat a.streams }
    let ops := ops ++ (acceptStreams a.streams).flatMap (use · s.qconn)
    let s := { s.markNgh3Dead a.drainDied with aborted := s.aborted || a.corrupted }
    if s.ngh3Dead then
      (io, { s with aborted := true }, ops, false)
    else
      (io, s.markNgh3Dead a.flushDied, ops, a.dataRead)

/-- C `service_session_pass`. -/
def serviceSessionPass (io : Io) (s : Session) (a : PassAnswer) :
    Io × Session × List ConnOp × Bool :=
  if s.aborted then
    (io, s, [], false)
  else if io.threadRunning then
    serviceStreams io s a
  else
    match goaway s a with
    | (s, true) => (io, s, [], false)
    | (s, false) => serviceStreams io s a

/-- The part of the session loop that retires an aborted session, with the next index. -/
def retireSession (io : Io) (i : Nat) (shutdownDone : Bool) (activeTasks : UInt32) :
    Option (Io × List ConnOp × Nat) := do
  let session ← io.activeSessions[i]?
  if session.aborted then
    let reason := if session.ngh3Dead then session.abortReason else none
    let shutdown := .shutdown (!io.threadRunning) session.abortQuicErrorCode reason shutdownDone
    let ops := use shutdown session.qconn
    if shutdownDone && activeTasks == 0 then
      some
        ({ io with
            activeSessions := swapRemove io.activeSessions i
            activeSessionCount := io.activeSessionCount - 1
            connRemoved := io.connRemoved + 1 },
          ops ++ sessionDestroy session, i)
    else
      some (io, ops, i + 1)
  else
    some (io, [], i + 1)

/-- The loop heads of the event thread: the main loop, its body after the condition, the accept
loop, the handshake loop, the session loop before and after the service pass, and the exit loop. -/
inductive Pc where
  | loop
  | body
  | accept
  | handshakes (now : Int) (i : Nat)
  | sessions (i : Nat)
  | serviced (i : Nat)
  | exit
  | done
deriving DecidableEq

/-- The event thread. -/
structure State where
  io : Io
  pc : Pc
  workPending : Bool
  listenerFailed : Bool
deriving DecidableEq

/-- A thread that is about to start. -/
def State.init (maxConnections handshakeTimeout : UInt32) : State where
  io :=
    { threadRunning := true, maxConnections := maxConnections, handshakeTimeout := handshakeTimeout
      activeSessions := [], pendingHandshakes := [], activeSessionCount := 0, totalConnections := 0
      totalStreams := 0, connAdded := 0, connRemoved := 0, accepted := 0 }
  pc := .loop
  workPending := false
  listenerFailed := false

/-- What the environment answers in a turn: `stop` is another thread clearing `thread_running`,
`accept` carries `h3q_conn_prepare` and the time for a connection, `idle` the time when there is
none. -/
inductive Answer where
  | stop
  | tick
  | pumped (rv : Int)
  | accept (prepared : Bool) (now : Int)
  | idle (now : Int)
  | handshake (a : HandshakeAnswer)
  | pass (a : PassAnswer)
  | retire (shutdownDone : Bool) (activeTasks : UInt32)

/-- One turn of the event thread. -/
def step (s : State) (a : Answer) : Option (State × List ConnOp) :=
  match s.pc, a with
  | _, .stop => some ({ s with io := { s.io with threadRunning := false } }, [])
  | .loop, .tick =>
    if s.io.threadRunning || !s.io.activeSessions.isEmpty then
      some ({ s with pc := .body }, [])
    else
      some ({ s with pc := .exit }, [])
  | .body, .pumped rv =>
    -- a negative result latches `listener_failed` and leaves `work_pending` at zero
    some
      ({ s with
          workPending := decide (rv > 0)
          listenerFailed := decide (rv < 0)
          pc := if s.io.threadRunning then .accept else .sessions 0 }, [])
  | .accept, .accept prepared now =>
    let (io, ops) := acceptConn s.io prepared now
    some ({ s with io := io }, ops)
  | .accept, .idle now => some ({ s with pc := .handshakes now 0 }, [])
  | .handshakes now i, .handshake a => do
    let (io, ops, i) ← progressPendingHandshake s.io now i a
    some ({ s with io := io, pc := .handshakes now i }, ops)
  | .handshakes _ i, .tick =>
    if i < s.io.pendingHandshakes.length then none else some ({ s with pc := .sessions 0 }, [])
  | .sessions i, .pass a => do
    let session ← s.io.activeSessions[i]?
    let (io, session, ops, dataRead) := serviceSessionPass s.io session a
    some
      ({ s with
          io := { io with activeSessions := io.activeSessions.set i session }
          pc := .serviced i
          workPending := s.workPending || dataRead }, ops)
  | .sessions i, .tick =>
    if i < s.io.activeSessions.length then none else some ({ s with pc := .loop }, [])
  | .serviced i, .retire shutdownDone activeTasks => do
    let (io, ops, i) ← retireSession s.io i shutdownDone activeTasks
    some ({ s with io := io, pc := .sessions i }, ops)
  | .exit, .tick =>
    if s.io.pendingHandshakes.isEmpty then
      some ({ s with pc := .done }, [])
    else do
      let (io, ops) ← removePendingHandshake s.io 0 true
      some ({ s with io := io }, ops)
  | _, _ => none

/-- The event thread as a step relation, labelled by the operations on connections. -/
def Step (s : State) (ops : List ConnOp) (t : State) : Prop := ∃ a, step s a = some (t, ops)

end ModHttp3.Listener

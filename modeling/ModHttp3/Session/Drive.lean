import ModHttp3.Lib.Script
import ModHttp3.Session.Callbacks

/-!
# Driving a session

Model of the event thread's work on a session: `h3_stream.c` (tracking, draining and flushing
streams), `h3_session_create_control_streams` and `h3_session_destroy` (`h3_session.c`) and the
accept loop of `service_session_pass` (`h3_io.c`). QUIC, nghttp3 and APR are the environment: a
`Script` asks them and an `Answer` is what they return. One property of QUIC is part of what counts
as an answer: the server's own streams have server-initiated ids (`openUniStream`).

C → Lean naming: `track_stream` → `trackStream`, `flush_nghttp3` → `flushNghttp3`,
`drain_one_stream` → `drainOneStream`, `drain_ready_streams` → `drainReadyStreams`,
`h3q_stream_is_read_finished` → `isReadFinished`, and so on. The order in which a hash is iterated
is an answer too. Left out are the statistics, the log messages and the guard against a hash that
iterates without end.
-/

namespace ModHttp3.H3
open ModHttp3.Lib ModHttp3.Lib.Script

/-- What the environment returns. -/
inductive Answer where
  | opened (sid : Option Int)
  | accepted (sid : Option Int)
  | bound (rv : Int)
  | condCreated (ok : Bool)
  | order (refs : List Ref)
  | writeBlocked (blocked : Bool)
  | states (rstate : ReadState) (wstate : WriteState)
  | read (result : ReadResult)
  | written (result : WriteResult)
  | called (cbs : List Cb) (rv : Int)
  | writev (cbs : List Cb) (nvec : Int) (sid : Int) (fin : Bool) (lens : List Nat)
deriving DecidableEq

/-- The event thread's programs. -/
abbrev Prog := Script Session Answer

/-- The tracked stream with an id (C `h3_stream_find`). -/
def Session.find (s : Session) (sid : Int) : Option Ref :=
  s.streams.find? fun r => (s.objs r).streamId == sid

/-- The transport hands out the next handle. -/
def Session.acquire (s : Session) (sid : Int) : Session :=
  { s with handles := s.handles + 1, held := s.handles :: s.held }.emit (.got s.handles sid)

/-- Release a handle that a local variable holds (C `h3q_stream_free`). -/
def Session.freeHeld (s : Session) (h : Handle) : Session :=
  { s with held := s.held.erase h }.emit (.op (.free h))

/-- A new stream object for a held handle. -/
def Session.track (s : Session) (sid : Int) (h : Handle) : Session :=
  { s with
    objs := Function.update s.objs s.next (.init sid (some h))
    next := s.next + 1
    streams := s.streams ++ [s.next]
    held := s.held.erase h }

/-- Give a held handle to a stream object that is there; nothing refers to the handle it had. -/
def Session.retrack (s : Session) (r : Ref) (h : Handle) : Session :=
  { s.modifyObj r fun x => { x with qstream := some h } with
    held := (s.objs r).qstream.toList ++ s.held.erase h }

/-- Register a handle under its stream id (C `track_stream`). -/
def trackStream (sid : Int) (h : Handle) : Prog (Option Ref) := do
  let s ← get
  match s.find sid with
  | some r =>
    modify (·.retrack r h)
    pure (some r)
  | none =>
    let ok ← ask fun | .condCreated ok => some ok | _ => none
    if ok then
      modify (·.track sid h)
      pure (some s.next)
    else
      pure none

/-- Open a server stream (C `h3q_conn_open_uni_stream`). -/
def openUniStream : Prog (Option (Handle × Int)) := do
  let sid ← ask fun
    | .opened none => some none
    | .opened (some sid) => if sidIsServer sid then some (some sid) else none
    | _ => none
  match sid with
  | none => pure none
  | some sid =>
    let s ← get
    modify (·.acquire sid)
    pure (some (s.handles, sid))

/-- Bind the control stream in nghttp3 and, if that succeeded, the two QPACK streams. -/
def bindStreams : Prog Bool := do
  let rv ← ask fun | .bound rv => some rv | _ => none
  if rv = 0 then
    let rv ← ask fun | .bound rv => some rv | _ => none
    pure (rv == 0)
  else
    pure false

/-- The failure exit of `h3_session_create_control_streams`. -/
def failControlStreams (opened : List (Handle × Int)) : Prog Bool := do
  modify fun s => opened.foldl (fun s c => s.freeHeld c.1) s
  modify fun s => { s with ngh3 := false }
  pure false

/-- Open and bind the control streams (C `h3_session_create_control_streams`). -/
def createControlStreams : Prog Bool := do
  let s ← get
  if s.controlStreamsCreated then
    pure true
  else
    let c0 ← openUniStream
    let c1 ← openUniStream
    let c2 ← openUniStream
    match c0, c1, c2 with
    | some a, some b, some c =>
      let bound ← bindStreams
      if bound then
        let _ ← trackStream a.2 a.1
        let _ ← trackStream b.2 b.1
        let _ ← trackStream c.2 c.1
        modify fun s => { s with controlStreamsCreated := true }
        pure true
      else
        failControlStreams [a, b, c]
    | _, _, _ => failControlStreams (c0.toList ++ c1.toList ++ c2.toList)

/-- One turn of the accept loop of `service_session_pass`; the flag says whether there was a
stream. -/
def acceptStream : Prog Bool := do
  let sid ← ask fun | .accepted sid => some sid | _ => none
  match sid with
  | none => pure false
  | some sid =>
    let s ← get
    modify (·.acquire sid)
    modify (·.emit (.op (.use (.id sid) s.handles)))
    -- a stream without an id is never tracked
    if sid < 0 then
      modify (·.freeHeld s.handles)
    else
      let tracked ← trackStream sid s.handles
      if tracked.isNone then
        modify (·.freeHeld s.handles)
    pure true

/-- Call nghttp3, which makes callbacks before it returns. -/
def callNgh3 (c : Call) : Prog Int := do
  let (cbs, rv) ← ask fun | .called cbs rv => some (cbs, rv) | _ => none
  modify fun s => runCbs (s.emit (.call c cbs rv)) cbs
  pure rv

/-- nghttp3 failed (C `mark_ngh3_dead`). -/
def markNgh3Dead : Prog Unit := modify fun s => { s with ngh3Dead := true }

/-- The order in which a hash is iterated. -/
def iterate : Prog (List Ref) := do
  let s ← get
  ask fun | .order refs => if refs.isPerm s.streams then some refs else none | _ => none

/-- A stream is no longer write-blocked. -/
def Session.unblock (s : Session) (r : Ref) : Session :=
  { s.modifyObj r fun x => { x with writeBlocked := false } with
    blockedStreams := s.blockedStreams - 1 }

/-- A stream is write-blocked. -/
def Session.block (s : Session) (r : Ref) : Session :=
  { s.modifyObj r fun x => { x with writeBlocked := true } with
    blockedStreams := s.blockedStreams + 1 }

/-- The QUIC send buffer of a stream is full (C `h3q_stream_is_write_blocked`). -/
def isWriteBlocked (h : Handle) : Prog Bool := do
  let blocked ← ask fun | .writeBlocked blocked => some blocked | _ => none
  modify (·.emit (.op (.use (.isWriteBlocked blocked) h)))
  pure blocked

/-- Re-enable streams whose send buffer has room again (C `unblock_writable_streams`). -/
def unblockWritableStreams : Prog Unit := do
  let s ← get
  if s.blockedStreams ≤ 0 then
    pure ()
  else
    let refs ← iterate
    forEach refs fun r => do
      let s ← get
      if (s.objs r).writeBlocked then
        let full ←
          match (s.objs r).qstream with
          | none => pure false
          | some h => isWriteBlocked h
        if full then
          pure true
        else
          modify (·.unblock r)
          let _ ← callNgh3 (.unblockStream (s.objs r).streamId)
          pure true
      else
        pure true

/-- Tell nghttp3 that bytes were written and acknowledged. -/
def addOffsets (sid : Int) (n : Nat) : Prog Unit := do
  let _ ← callNgh3 (.addWriteOffset sid n)
  let _ ← callNgh3 (.addAckOffset sid n)

/-- Release the handles of the deferred list, last one first. -/
def Session.freePending : Nat → Session → Session
  | 0, s => s
  | n + 1, s =>
    match s.pendingFree.getLast? with
    | none => s
    | some h =>
      freePending n ({ s with pendingFree := s.pendingFree.dropLast }.emit (.op (.free h)))

/-- One turn of the loop of `flush_nghttp3`; the flag says whether it goes on. -/
def flushTurn : Prog Bool := do
  let (cbs, nvec, sid, fin, lens) ← ask fun
    | .writev cbs nvec sid fin lens => some (cbs, nvec, sid, fin, lens)
    | _ => none
  modify fun s => runCbs (s.emit (.call (.writevStream sid fin lens) cbs nvec)) cbs
  if nvec < 0 then
    markNgh3Dead
    pure false
  else if nvec = 0 ∧ sid < 0 then
    pure false
  else
    let expected := lens.sum
    let s ← get
    match s.find sid with
    | none =>
      -- the stream is gone: swallow its bytes
      addOffsets sid expected
      pure true
    | some r =>
      match (s.objs r).qstream with
      | none =>
        addOffsets sid expected
        pure true
      | some h =>
        let res ← ask fun | .written res => some res | _ => none
        modify (·.emit (.op (.use (.write lens fin res) h)))
        -- the peer reset the stream: the whole vector counts as written
        if res.broken then
          addOffsets sid expected
          pure true
        else
          addOffsets sid res.accepted
          if res.blocked then
            let s ← get
            -- `blocked_streams` counts a stream once
            if (s.objs r).writeBlocked then
              pure true
            else
              modify (·.block r)
              let _ ← callNgh3 (.blockStream sid)
              pure true
          else
            pure true

/-- Write what nghttp3 has to send, then release the deferred handles (C `flush_nghttp3`). -/
def flushNghttp3 : Prog Unit := do
  let s ← get
  if s.ngh3Dead then
    pure ()
  else
    unblockWritableStreams
    loop flushTurn
    modify fun s => s.freePending s.pendingFree.length

/-- Whether both sides of a stream are finished (C `h3q_stream_is_read_finished`). -/
def isReadFinished (rstate : ReadState) (wstate : WriteState) : Bool × Bool :=
  let closed := rstate = .connClosed ∨ rstate = .resetRemote
  -- the write state of such a stream is not asked for
  let wstate := if closed then .finished else wstate
  (decide (rstate = .finished ∨ rstate = .resetRemote ∨ rstate = .connClosed),
    decide (wstate = .finished ∨ wstate = .resetLocal))

/-- nghttp3 is told that the stream ended, and the request counts as complete. -/
def Session.feedFin (s : Session) (r : Ref) (cbs : List Cb) (rv : Int) : Session :=
  let s := runCbs (s.emit (.call (.readStream (s.objs r).streamId [] true) cbs rv)) cbs
  { s with ngh3Dead := s.ngh3Dead || decide (rv < 0) }.modifyObj r
    fun x => { x with bodyComplete := true }

/-- Tell nghttp3 that the stream ended (C `feed_stream_fin`). -/
def feedStreamFin (r : Ref) : Prog Unit := do
  let (cbs, consumed) ← ask fun | .called cbs rv => some (cbs, rv) | _ => none
  modify (·.feedFin r cbs consumed)

/-- The state in which nghttp3 makes its callbacks for bytes that were read from a stream: a header
block that begins can bind the stream. -/
def Session.reading (s : Session) (r : Ref) (h : Handle) (data : List UInt8) (cbs : List Cb)
    (rv : Int) :
    Session :=
  let sid := (s.objs r).streamId
  let s := s.emit (.op (.use (.read (.data data)) h))
  { s with pendingSid := sid, pendingH3s := some r }.emit
    (.call (.readStream sid data false) cbs rv)

/-- Bytes that were read from a stream are passed to nghttp3, which may fail. -/
def Session.feed (s : Session) (r : Ref) (h : Handle) (data : List UInt8) (cbs : List Cb)
    (rv : Int) :
    Session :=
  let s := { runCbs (s.reading r h data cbs rv) cbs with pendingSid := -1, pendingH3s := none }
  { s with ngh3Dead := s.ngh3Dead || decide (rv < 0) }

/-- What is left of the read budget of a pass. -/
structure Budget where
  reads : Nat
  bytes : Nat

/-- The read loop of `drain_one_stream`. A turn that goes on uses up one read. -/
def readLoop (r : Ref) : Nat → Nat → Prog Budget
  | 0, bytes => pure { reads := 0, bytes }
  | reads + 1, bytes => do
    let s ← get
    if bytes = 0 then
      pure { reads := reads + 1, bytes }
    else
      match (s.objs r).qstream with
      | none =>
        modify (·.modifyObj r fun x => { x with done := true })
        pure { reads := reads + 1, bytes }
      | some h =>
        let readSize := min s.streamBufferSize bytes
        let result ← ask fun
          | .read (.data data) =>
            if 0 < data.length ∧ data.length ≤ readSize then some (.data data) else none
          | .read result => some result
          | _ => none
        match result with
        | .data data =>
          let (cbs, consumed) ← ask fun | .called cbs rv => some (cbs, rv) | _ => none
          modify (·.feed r h data cbs consumed)
          let budget : Budget := { reads, bytes := bytes - data.length }
          if consumed < 0 then
            modify (·.modifyObj r fun x => { x with done := true })
            pure budget
          else
            let s ← get
            if (s.objs r).done then pure budget else readLoop r reads budget.bytes
        -- neither the end of the stream nor an empty read is charged to the budget
        | .fin =>
          modify (·.emit (.op (.use (.read .fin) h)))
          feedStreamFin r
          pure { reads := reads + 1, bytes }
        | .nothing =>
          modify (·.emit (.op (.use (.read .nothing) h)))
          pure { reads := reads + 1, bytes }

/-- The stream has a complete request that was not dispatched. -/
def H3Stream.ready (x : H3Stream) : Bool :=
  x.isBidi && x.headersComplete && x.bodyComplete && !x.dispatched

/-- Ask whether the two sides of a stream are finished, if it has a handle. -/
def queryFinished (r : Ref) : Prog (Bool × Bool) := do
  let s ← get
  match (s.objs r).qstream with
  | none => pure (false, false)
  | some h =>
    let (rstate, wstate) ← ask fun | .states rstate wstate => some (rstate, wstate) | _ => none
    modify (·.emit (.op (.use (.isReadFinished rstate wstate) h)))
    pure (isReadFinished rstate wstate)

/-- Close a finished stream in nghttp3, if it still has a handle. -/
def closeFinished (r : Ref) (writeFinished : Bool) : Prog Unit := do
  let s ← get
  if (s.objs r).qstream.isSome && writeFinished then
    -- the object lets go of its handle in the callback that this makes
    let _ ← callNgh3 (.closeStream (s.objs r).streamId)

/-- The result of `drain_one_stream`. -/
def drained (r : Ref) (budget : Budget) : Prog (Bool × Budget) := do
  let s ← get
  pure ((s.objs r).ready, budget)

/-- Read one stream (C `drain_one_stream`); the flag says whether it is to be dispatched. -/
def drainOneStream (r : Ref) (budget : Budget) : Prog (Bool × Budget) := do
  let finished ← queryFinished r
  if finished.1 then
    let s ← get
    -- a reset of the peer ends the body like a FIN
    if (s.objs r).bodyComplete then pure () else feedStreamFin r
    closeFinished r finished.2
    drained r budget
  else
    let budget ← readLoop r budget.reads budget.bytes
    drained r budget

/-- The loop of `drain_ready_streams` over the snapshot, from the cursor on. -/
def drainLoop (n : Nat) : List (Ref × Nat) → Budget → Prog Unit
  | [], _ => pure ()
  | (r, i) :: rest, budget => do
    let s ← get
    if s.ngh3Dead then
      pure ()
    else if (s.objs r).done || (s.objs r).qstream.isNone || sidIsServer (s.objs r).streamId then
      drainLoop n rest budget
    else
      let (ready, budget) ← drainOneStream r budget
      modify fun s =>
        if ready && !s.ngh3Dead then { s with completed := s.completed ++ [r] } else s
      if budget.reads = 0 ∨ budget.bytes = 0 then
        -- the next pass starts behind the stream that spent the budget
        modify fun s => { s with streamDrainCursor := (i + 1) % n }
      else
        drainLoop n rest budget

/-- The condition of the reclaim loop of `drain_ready_streams`. -/
def H3Stream.reclaimable (x : H3Stream) : Bool :=
  x.isBidi && !sidIsServer x.streamId && x.done && x.qstream.isNone && x.dispatched && x.workerDone

/-- Reclaim one stream of the snapshot, if it is finished. -/
def Session.reclaim (s : Session) (r : Ref) : Session :=
  if (s.objs r).reclaimable then
    let s := if (s.objs r).writeBlocked then s.unblock r else s
    { s with streams := s.streams.erase r }
  else
    s

/-- `H3_STREAM_DRAIN_READ_BUDGET` and `H3_STREAM_DRAIN_BYTE_BUDGET`. -/
def drainBudget : Budget where
  reads := 256
  bytes := 1024 * 1024

/-- The snapshot in the order the streams are visited, with the positions. -/
def visits (snapshot : List Ref) (cursor : Nat) : List (Ref × Nat) :=
  let start := if snapshot.length = 0 then 0 else cursor % snapshot.length
  snapshot.zipIdx.drop start ++ snapshot.zipIdx.take start

/-- Read all streams, collect those to dispatch and reclaim the finished ones
(C `drain_ready_streams`). -/
def drainReadyStreams : Prog Unit := do
  let snapshot ← iterate
  modify fun s => { s with completed := [] }
  let s ← get
  drainLoop snapshot.length (visits snapshot s.streamDrainCursor) drainBudget
  modify fun s => snapshot.foldl Session.reclaim s

/-- Destroy the session (C `h3_session_destroy`). -/
def destroySession : Prog Unit := do
  modify fun s => { s with ngh3 := false }
  modify fun s => s.streams.foldl
    (fun s r => s.modifyObj r fun x => { x with responseCancelled := true }) s
  modify fun s => s.freePending s.pendingFree.length

/-- What the access checker returns for a stream (C `h3_hook_access_checker`, with `OK` as 0). -/
def hookAccessChecker (x : H3Stream) : Nat :=
  if x.requestBodyOverflow then 413 else if x.bodyTruncated then 400 else 0

/-- The critical sections of a session: those of the event thread, and what `h3_process_request` and
the workers do to a stream in between. -/
inductive Sect where
  | create
  | accept
  | drain
  | flush
  | destroy
  /-- `h3_process_request` sets `dispatched` -/
  | dispatch (r : Ref)
  /-- a failed dispatch or a worker's early exit clears it again -/
  | undispatch (r : Ref)
  /-- the worker is in `ap_process_request` and the access checker runs -/
  | process (r : Ref)
  /-- the worker sets `worker_done` -/
  | workerDone (r : Ref)

/-- When a section can be entered. -/
def Sect.enabled (s : Session) : Sect → Bool
  | .create => s.phase == .created
  | .accept | .drain | .flush => s.phase == .serving
  | .destroy => s.phase == .serving || s.phase == .failed
  | .dispatch r => s.phase == .serving && s.completed.contains r && !s.ngh3Dead
  | .undispatch r | .process r | .workerDone r =>
    s.phase == .serving && (s.objs r).dispatched && !(s.objs r).workerDone

/-- Run a section. -/
def exec : Sect → Prog Unit
  | .create => do
    let ok ← createControlStreams
    modify fun s => { s with phase := if ok then .serving else .failed }
  | .accept => do
    let _ ← acceptStream
  | .drain => drainReadyStreams
  | .flush => flushNghttp3
  | .destroy => do
    destroySession
    modify fun s => { s with phase := .destroyed }
  | .dispatch r => modify (·.modifyObj r fun x => { x with dispatched := true })
  | .undispatch r => modify (·.modifyObj r fun x => { x with dispatched := false })
  | .process r => modify fun s => s.emit (.processed r (hookAccessChecker (s.objs r)))
  | .workerDone r => modify (·.modifyObj r fun x => { x with workerDone := true })

/-- One section from its beginning to its end. -/
def Step (s : Session) (c : Sect) (t : Session) : Prop :=
  c.enabled s = true ∧ ∃ as rest, exec c s as = (t, some ((), rest))

/-- Run a section on given answers; `none` when it cannot be entered or does not come to its end. -/
def runSect (s : Session) (op : Sect × List Answer) : Option (Session × Sect) :=
  if op.1.enabled s then
    match exec op.1 s op.2 with
    | (_, none) => none
    | (t, some _) => some (t, op.1)
  else
    none

/-- `runSect` runs a section. -/
lemma runSect_step (s : Session) (op : Sect × List Answer) (t : Session) (c : Sect)
    (eq : runSect s op = some (t, c)) : Step s c t := by
  rw [runSect] at eq
  split at eq
  · rename_i enabled
    split at eq
    · cases eq
    · rename_i t' r run
      cases eq
      exact ⟨enabled, op.2, r.2, run⟩
  · cases eq

/-- The control streams and the first request stream of a connection are open. -/
def requestOpen : List (Sect × List Answer) :=
  [(.create, [.opened (some 3), .opened (some 7), .opened (some 11), .bound 0, .bound 0,
      .condCreated true, .condCreated true, .condCreated true]),
    (.accept, [.accepted (some 0), .condCreated true])]

/-- A request is read to its end and dispatched. -/
def dispatchedGet : List (Sect × List Answer) :=
  requestOpen ++
  [(.drain, [.order [0, 1, 2, 3], .states .ok .ok, .read (.data [1, 2, 0, 0]),
      .called [.beginHeaders 0, .recvHeader 0 .method [] [71, 69, 84], .endHeaders 0 false] 4,
      .read .fin,
      .called [] 0]),
    (.dispatch 3, [])]

end ModHttp3.H3

import ModHttp3.Response.Queue
import ModHttp3.Session.Drive

/-!
# Servicing a session

Model of `service_session_pass` (`h3_io.c`) with all its sections, of the end of a session in the
loop of the event thread (`h3_threads.c`), and of the calls the workers make into nghttp3 meanwhile:
`submit_response_nva` (`h3_request.c`), `h3_stream_response_append` and
`h3_stream_response_complete` (`h3_session.c`).

A pass is cut where it releases the lock; `Pc` is where the event thread is. Workers run in between,
each of their steps under the lock. What a worker's stream has queued is not tracked here: a step
takes any state of the response queue that agrees with the session on the flags that guard it
(`Service.agrees`). The clock, the state of the connection and the allocator are choices of an
action.

C → Lean naming: `nghttp3_conn_submit_shutdown_notice` and what follows it under one lock →
`shutdownNotice`, `nghttp3_conn_shutdown` likewise → `shutdown`; `goaway` says that
`goaway_deadline` is set, and `active_tasks == 0` is `Session.noTasks`.
-/

namespace ModHttp3.H3
open ModHttp3.Lib ModHttp3.Lib.Script

/-- Where the event thread is with a session. -/
inductive Pc where
  /-- the control streams are not open yet -/
  | creating
  /-- between two passes -/
  | idle
  /-- in a pass that found `thread_running` cleared -/
  | notice
  /-- all streams are drained, or the grace period is over -/
  | leaving
  /-- before the check of the connection -/
  | checking
  | accepting
  | draining
  | dispatching (todo : List Ref)
  | flushing
  | destroyed
deriving DecidableEq

/-- A session in service. -/
structure Service where
  session : Session
  aborted : Bool
  /-- `goaway_deadline` is set -/
  goaway : Bool
  threadRunning : Bool
  pc : Pc

/-- A session that was just created. -/
def Service.init (streamBufferSize maxRequestBodySize : Nat) : Service where
  session := .init streamBufferSize maxRequestBodySize
  aborted := false
  goaway := false
  threadRunning := true
  pc := .creating

/-- The first section of a pass that found `thread_running` cleared; the result is that of
`nghttp3_conn_is_drained2`. -/
def shutdownNotice (goaway : Bool) : Prog Bool := do
  if !goaway then
    let _ ← callNgh3 .submitShutdownNotice
  flushNghttp3
  let drained ← callNgh3 .isDrained2
  pure (drained != 0)

/-- Its second section. -/
def shutdown : Prog Unit := do
  let _ ← callNgh3 .shutdown
  flushNghttp3

/-- The section that reads all streams and writes what nghttp3 has to send. -/
def drainAndFlush : Prog Unit := do
  drainReadyStreams
  flushNghttp3

/-- A program on the session. -/
def onSession {β : Type} (m : Prog β) : Script Service Answer β :=
  focus Service.session (fun s x => { x with session := s }) m

/-- The response half of a stream as the session's flags have it. -/
def Service.agrees (x : Service) (r : Ref) (w : Response.Stream) : Bool :=
  w.aborted == x.aborted && w.ngh3Dead == x.session.ngh3Dead && w.ngh3 == x.session.ngh3 &&
    w.responseCancelled == (x.session.objs r).responseCancelled

/-- No worker is on a stream of the session (`active_tasks` is 0). -/
def Session.noTasks (s : Session) : Bool :=
  (List.range s.next).all fun r => !(s.objs r).dispatched || (s.objs r).workerDone

/-- What the event thread and the workers do. -/
inductive Act where
  /-- the control streams are opened; `ok` says that the session then goes into service -/
  | create (ok : Bool)
  /-- a pass begins -/
  | start
  /-- `late` says that the grace period is over -/
  | notice (late : Bool)
  | leave
  /-- the connection is found closed -/
  | closed
  /-- there is no memory for the pass -/
  | noPool
  /-- the pass goes on -/
  | proceed
  | accept
  | drain
  /-- `h3_process_request`; `ok` says that a worker was found -/
  | dispatch (ok : Bool)
  | dispatched
  | flush
  | destroy
  /-- the server is asked to stop -/
  | stop
  /-- a worker submits the response headers of a stream -/
  | submit (r : Ref) (w : Response.Stream)
  /-- a worker is in the loop of `h3_stream_response_append` -/
  | append (r : Ref) (w : Response.Stream) (data : List UInt8) (malloc : Option Ptr)
  /-- a worker completes a response -/
  | complete (r : Ref) (w : Response.Stream)
  /-- a worker leaves early -/
  | undispatch (r : Ref)
  /-- a worker is in `ap_process_request` -/
  | process (r : Ref)
  /-- a worker is done with a stream -/
  | workerDone (r : Ref)

/-- When an action is possible. -/
def Act.enabled (x : Service) : Act → Bool
  | .create _ => x.pc == .creating
  | .start => x.pc == .idle && !x.aborted
  | .notice _ => x.pc == .notice
  | .leave => x.pc == .leaving
  | .closed | .noPool | .proceed => x.pc == .checking
  | .accept => x.pc == .accepting
  | .drain => x.pc == .draining
  | .dispatch _ => match x.pc with | .dispatching (_ :: _) => true | _ => false
  | .dispatched => x.pc == .dispatching []
  | .flush => x.pc == .flushing
  | .destroy => x.pc == .idle && x.aborted && x.session.noTasks
  | .stop => true
  | .submit r w | .append r w _ _ | .complete r w =>
    (Sect.process r).enabled x.session && x.agrees r w
  | .undispatch r => (Sect.undispatch r).enabled x.session
  | .process r => (Sect.process r).enabled x.session
  | .workerDone r => (Sect.workerDone r).enabled x.session

/-- The event thread is somewhere else. -/
def goto (pc : Pc) : Script Service Answer Unit := modify fun x => { x with pc }

/-- The session is aborted. -/
def abort : Script Service Answer Unit := modify fun x => { x with aborted := true, pc := .idle }

/-- A worker left the response half of a stream as `w`. -/
def Session.respond (s : Session) (r : Ref) (w : Response.Stream) : Session :=
  s.modifyObj r fun x => { x with responseCancelled := x.responseCancelled || w.responseCancelled }

/-- Submit the response headers (C `submit_response_nva`). -/
def submitResponse (r : Ref) (w : Response.Stream) : Prog Unit := do
  let s ← get
  -- whether nghttp3 is called does not depend on what it returns
  if (Response.submitResponseNva w 0).2.2 then
    let rv ← callNgh3 (.submitResponse (s.objs r).streamId)
    modify (·.respond r (Response.submitResponseNva w rv).1)

/-- Leave the response half of a stream as `w`, and resume the stream in nghttp3 if `resumed`. -/
def resumeResponse (r : Ref) (w : Response.Stream) (resumed : Bool) : Prog Unit := do
  let s ← get
  modify (·.respond r w)
  if resumed then
    let _ ← callNgh3 (.resumeStream (s.objs r).streamId)

/-- One turn of the loop of `h3_stream_response_append`. -/
def appendResponse (r : Ref) (w : Response.Stream) (data : List UInt8) (malloc : Option Ptr) :
    Prog Unit :=
  match Response.streamResponseAppendStep w data malloc with
  | some (w, .chunk _ resumed) => resumeResponse r w resumed
  | some (w, _) => resumeResponse r w false
  | none => pure ()

/-- Complete a response (C `h3_stream_response_complete`). -/
def completeResponse (r : Ref) (w : Response.Stream) : Prog Unit :=
  resumeResponse r (Response.streamResponseComplete w).1 (Response.streamResponseComplete w).2

/-- Carry out an action. -/
def act : Act → Script Service Answer Unit
  | .create ok => do
    onSession (exec .create)
    let x ← get
    if x.session.phase = .serving ∧ ok then
      goto .idle
    else
      onSession (exec .destroy)
      goto .destroyed
  | .start => modify fun x => { x with pc := if x.threadRunning then .checking else .notice }
  | .notice late => do
    let x ← get
    let drained ← onSession (shutdownNotice x.goaway)
    -- the mark of a dead connection is not looked at here
    modify fun x => { x with goaway := true, pc := if drained || late then .leaving else .checking }
  | .leave => do
    onSession shutdown
    abort
  | .closed => abort
  | .noPool => goto .idle
  | .proceed => goto .accepting
  | .accept => do
    let more ← onSession acceptStream
    goto (if more then .accepting else .draining)
  | .drain => do
    onSession drainAndFlush
    let x ← get
    -- a dead connection leaves the pass before its streams are dispatched
    if x.session.ngh3Dead then abort else goto (.dispatching x.session.completed)
  | .dispatch ok => modify fun x =>
    match x.pc with
    | .dispatching (r :: todo) =>
      { x with session := x.session.modifyObj r fun o => { o with dispatched := o.dispatched || ok }
               pc := .dispatching todo }
    | _ => x
  | .dispatched => goto .flushing
  | .flush => do
    onSession flushNghttp3
    goto .idle
  | .destroy => do
    onSession (exec .destroy)
    goto .destroyed
  | .stop => modify fun x => { x with threadRunning := false }
  | .submit r w => onSession (submitResponse r w)
  | .append r w data malloc => onSession (appendResponse r w data malloc)
  | .complete r w => onSession (completeResponse r w)
  | .undispatch r => onSession (exec (.undispatch r))
  | .process r => onSession (exec (.process r))
  | .workerDone r => onSession (exec (.workerDone r))

/-- One action from its beginning to its end. -/
def Acts (x : Service) (a : Act) (y : Service) : Prop :=
  a.enabled x = true ∧ ∃ as rest, act a x as = (y, some ((), rest))

/-- Carry out an action on given answers. -/
def runAct (x : Service) (op : Act × List Answer) : Option (Service × Act) :=
  if op.1.enabled x then
    match act op.1 x op.2 with
    | (_, none) => none
    | (y, some _) => some (y, op.1)
  else
    none

/-- `runAct` runs a section of the service. -/
lemma runAct_acts (x : Service) (op : Act × List Answer) (y : Service) (a : Act)
    (eq : runAct x op = some (y, a)) : Acts x a y := by
  rw [runAct] at eq
  split at eq
  · rename_i enabled
    split at eq
    · cases eq
    · rename_i y' r run
      cases eq
      exact ⟨enabled, op.2, r.2, run⟩
  · cases eq

end ModHttp3.H3

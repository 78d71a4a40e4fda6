import Mathlib.Logic.Function.Basic
import ModHttp3.Lib.Run
import ModHttp3.Worker.Moves

/-!
# Dispatching requests to workers

Model of the life of a request between the event thread and the worker threads of one session:
`h3_process_request`, `set_stream_dispatched` and `stream_worker` (`h3_request.c`), the reclaim loop
of `drain_ready_streams` (`h3_stream.c`), the loop over its result in `service_session_pass`
(`h3_io.c`) and the condition under which `h3_event_thread` (`h3_threads.c`) destroys a session.

A step is one operation of one thread that other threads can observe: one critical section under
`session->lock`, one atomic operation on `active_tasks`, one call that can fail. `EvPc` and `TaskPc`
say where the event thread and a worker are. A step that touches a stream takes it from `streams`,
from which reclaiming removes it; `active_tasks` is an integer, so that it could become negative.

C → Lean naming: `h3_stream` → `H3Stream`, `h3_stream_task` → `Task`. Stream objects are numbered in
the order `track_stream` creates them.
-/

namespace ModHttp3.Dispatch
open ModHttp3.Lib ModHttp3.Worker

/-- A stream object, by its order of creation. -/
abbrev Ref := Nat

/-- The part of `h3_stream` the dispatcher decides on, with the response half of the stream. -/
structure H3Stream where
  isBidi : Bool
  isServer : Bool
  done : Bool
  /-- `qstream` is not null -/
  qstream : Bool
  headersComplete : Bool
  bodyComplete : Bool
  requestBodyOverflow : Bool
  dispatched : Bool
  workerDone : Bool
  response : Response.Stream

/-- A stream as `track_stream` creates it. -/
def H3Stream.init (isBidi isServer : Bool) (limit : UInt64) : H3Stream where
  isBidi := isBidi
  isServer := isServer
  done := false
  qstream := true
  headersComplete := false
  bodyComplete := false
  requestBodyOverflow := false
  dispatched := false
  workerDone := false
  response := .init limit

/-- The stream is returned for dispatch (the result of `drain_one_stream`). -/
def H3Stream.ready (x : H3Stream) : Bool :=
  x.isBidi && x.headersComplete && x.bodyComplete && !x.dispatched

/-- The condition of the reclaim loop of `drain_ready_streams`. -/
def H3Stream.reclaimable (x : H3Stream) : Bool :=
  x.isBidi && !x.isServer && x.done && !x.qstream && x.dispatched && x.workerDone

/-- Where a task is: reserved by the event thread and not yet pushed, dropped by it after a failed
push, or pushed and in `stream_worker`: before `ap_create_request`, before the request context,
about to clear `dispatched`, to decrement and to destroy its pool after an early failure; about to
run the request, producing the response, about to set `worker_done`, to decrement, and returned. -/
inductive TaskPc where
  | reserved
  | dropped
  | queued
  | started
  | failed
  | cleared
  | unwinding
  | ready
  | responding (w : Responder)
  | finished
  | marked
  | returned

/-- A task (C `h3_stream_task`). -/
structure Task where
  stream : Ref
  pc : TaskPc

/-- The task was reserved and has not executed its final decrement. -/
def TaskPc.outstanding : TaskPc → Bool
  | .unwinding | .returned => false
  | _ => true

/-- The task has steps ahead of it that touch its stream. -/
def TaskPc.needsStream : TaskPc → Bool
  | .reserved | .queued | .started | .failed | .ready | .responding _ | .finished => true
  | _ => false

/-- Where the event thread is: between passes, in the loop over the streams to dispatch, in
`h3_process_request` after setting `dispatched`, after a failed pool creation, before the push of a
task, after a failed push, after clearing `dispatched` again; or past the destruction of the
session. -/
inductive EvPc where
  | idle
  | dispatching (todo : List Ref)
  | reserving (r : Ref) (todo : List Ref)
  | unreserving (r : Ref) (todo : List Ref)
  | pushing (i : Nat) (todo : List Ref)
  | pushFailed (i : Nat) (todo : List Ref)
  | pushCleared (i : Nat) (todo : List Ref)
  | destroyed

/-- A session with its streams and tasks. -/
structure State where
  streams : Ref → Option H3Stream
  next : Ref
  tasks : List Task
  activeTasks : Int
  pc : EvPc

/-- A session without streams. -/
def State.init : State where
  streams := fun _ => none
  next := 0
  tasks := []
  activeTasks := 0
  pc := .idle

/-- What the event thread does to a stream besides dispatching it: the nghttp3 callbacks set its
flags, read, acknowledge and cancel its response, and the session can be aborted or die. -/
inductive Update : H3Stream → H3Stream → Prop where
  | flags {x} (done qstream headersComplete bodyComplete requestBodyOverflow : Bool) :
    Update x { x with done, qstream, headersComplete, bodyComplete, requestBodyOverflow }
  | read {x s veccnt r} :
    Response.sessionReadData x.response veccnt = some (s, r) →
    Update x { x with response := s }
  | ack {x s n} :
    Response.streamResponseAckLocked x.response n = some s →
    Update x { x with response := s }
  | cancel {x} :
    Update x { x with response := Response.streamResponseCancelLocked x.response }
  | session {x} (aborted ngh3Dead ngh3 : Bool) :
    Update x { x with response := { x.response with aborted, ngh3Dead, ngh3 } }

/-- What a worker does. -/
inductive TaskAct where
  | createRequest (ok : Bool)
  | createContext (ok : Bool)
  | clear
  | decrement
  | destroyPool
  /-- `die`: the request is answered by `ap_die` instead of `ap_process_request` -/
  | run (die : Bool)
  | respond (act : Act)
  | finish
  | markDone

/-- The worker reads or writes its stream. -/
def TaskAct.touchesStream : TaskAct → Bool
  | .createContext _ | .clear | .run _ | .respond _ | .finish | .markDone => true
  | .createRequest _ | .decrement | .destroyPool => false

/-- The worker reads or writes its session. -/
def TaskAct.touchesSession : TaskAct → Bool
  | .destroyPool => false
  | _ => true

/-- What a step does. -/
inductive Event where
  | track (r : Ref)
  | update (r : Ref)
  | drain (completed : List Ref)
  | skip
  | process (r : Ref)
  | reserve (r : Ref) (ok : Bool)
  | push (r : Ref) (ok : Bool)
  | clear (r : Ref)
  | decrement (r : Ref)
  | destroy
  | task (r : Ref) (act : TaskAct)

/-- Replace a stream. -/
def State.setStream (s : State) (r : Ref) (x : H3Stream) : State :=
  { s with streams := Function.update s.streams r (some x) }

/-- Move a task on. -/
def State.setTask (s : State) (i : Nat) (t : Task) : State := { s with tasks := s.tasks.set i t }

section
variable {s : State} {r : Ref} {x : H3Stream} {i : Nat} {t : Task}

/-- The streams after one was set. -/
@[simp] lemma State.setStream_streams :
    (s.setStream r x).streams = Function.update s.streams r (some x) := rfl
/-- Setting a stream creates none. -/
@[simp] lemma State.setStream_next : (s.setStream r x).next = s.next := rfl
/-- Setting a stream leaves the tasks. -/
@[simp] lemma State.setStream_tasks : (s.setStream r x).tasks = s.tasks := rfl
/-- Setting a stream leaves the counter. -/
@[simp] lemma State.setStream_activeTasks : (s.setStream r x).activeTasks = s.activeTasks := rfl
/-- Setting a stream leaves the event thread where it is. -/
@[simp] lemma State.setStream_pc : (s.setStream r x).pc = s.pc := rfl
/-- Setting a task leaves the streams. -/
@[simp] lemma State.setTask_streams : (s.setTask i t).streams = s.streams := rfl
/-- Setting a task creates no stream. -/
@[simp] lemma State.setTask_next : (s.setTask i t).next = s.next := rfl
/-- The tasks after one was set. -/
@[simp] lemma State.setTask_tasks : (s.setTask i t).tasks = s.tasks.set i t := rfl
/-- Setting a task leaves the counter. -/
@[simp] lemma State.setTask_activeTasks : (s.setTask i t).activeTasks = s.activeTasks := rfl
/-- Setting a task leaves the event thread where it is. -/
@[simp] lemma State.setTask_pc : (s.setTask i t).pc = s.pc := rfl

end

/-- The steps of the event thread and of the workers. -/
inductive Step : State → Event → State → Prop where
  /-- `track_stream` -/
  | track {s} (isBidi isServer : Bool) (limit : UInt64) :
    s.pc = .idle →
    Step s (.track s.next)
      { s.setStream s.next (.init isBidi isServer limit) with next := s.next + 1 }
  /-- the callbacks, during a drain or a flush -/
  | update {s r x x'} :
    s.pc ≠ .destroyed →
    s.streams r = some x →
    Update x x' →
    Step s (.update r) (s.setStream r x')
  /-- `drain_ready_streams`: collect the streams to dispatch, then reclaim -/
  | drain {s} (completed : List Ref) :
    s.pc = .idle →
    (∀ r ∈ completed, ∃ x, s.streams r = some x ∧ x.ready = true) →
    Step s (.drain completed)
      { s with
        streams := fun r => (s.streams r).filter fun x => !x.reclaimable
        pc := .dispatching completed }
  /-- the end of the loop in `service_session_pass`, or its return because nghttp3 died -/
  | skip {s todo} :
    s.pc = .dispatching todo →
    Step s .skip { s with pc := .idle }
  /-- `h3_process_request` on a stream that was dispatched in the meantime -/
  | again {s r todo x} :
    s.pc = .dispatching (r :: todo) →
    s.streams r = some x →
    x.dispatched = true →
    Step s (.process r) { s with pc := .dispatching todo }
  /-- `h3_process_request` sets `dispatched` -/
  | process {s r todo x} :
    s.pc = .dispatching (r :: todo) →
    s.streams r = some x →
    x.dispatched = false →
    Step s (.process r) { s.setStream r { x with dispatched := true } with pc := .reserving r todo }
  /-- the pools were created and `active_tasks` is incremented -/
  | reserve {s r todo} :
    s.pc = .reserving r todo →
    Step s (.reserve r true)
      { s with
        tasks := s.tasks ++ [{ stream := r, pc := .reserved }]
        activeTasks := s.activeTasks + 1
        pc := .pushing s.tasks.length todo }
  | reserveFailed {s r todo} :
    s.pc = .reserving r todo →
    Step s (.reserve r false) { s with pc := .unreserving r todo }
  | unreserve {s r todo x} :
    s.pc = .unreserving r todo →
    s.streams r = some x →
    Step s (.clear r) { s.setStream r { x with dispatched := false } with pc := .dispatching todo }
  /-- `apr_thread_pool_push` -/
  | push {s i todo t} :
    s.pc = .pushing i todo →
    s.tasks[i]? = some t →
    Step s (.push t.stream true)
    { s.setTask i { t with pc := .queued } with pc := .dispatching todo }
  | pushFailed {s i todo t} :
    s.pc = .pushing i todo →
    s.tasks[i]? = some t →
    Step s (.push t.stream false) { s with pc := .pushFailed i todo }
  | pushClear {s i todo t x} :
    s.pc = .pushFailed i todo →
    s.tasks[i]? = some t →
    s.streams t.stream = some x →
    Step s (.clear t.stream)
      { (s.setStream t.stream
        { x with dispatched := false }).setTask i { t with pc := .dropped } with
        pc := .pushCleared i todo }
  | pushDrop {s i todo t} :
    s.pc = .pushCleared i todo →
    s.tasks[i]? = some t →
    Step s (.decrement t.stream)
      { s.setTask i { t with pc := .returned } with
        activeTasks := s.activeTasks - 1
        pc := .dispatching todo }
  /-- `h3_event_thread` destroys an aborted session, and the pools of its streams with it -/
  | destroy {s} :
    s.pc = .idle →
    s.activeTasks = 0 →
    Step s .destroy { s with streams := fun _ => none, pc := .destroyed }
  /-- `ap_create_request` -/
  | createRequest {s i r} (ok : Bool) :
    s.tasks[i]? = some ⟨r, .queued⟩ →
    Step s (.task r (.createRequest ok)) (s.setTask i ⟨r, if ok then .started else .failed⟩)
  /-- the request is filled in from the stream, and the pool of its context is created -/
  | createContext {s i r x} (ok : Bool) :
    s.tasks[i]? = some ⟨r, .started⟩ →
    s.streams r = some x →
    Step s (.task r (.createContext ok)) (s.setTask i ⟨r, if ok then .ready else .failed⟩)
  /-- an early failure clears `dispatched` -/
  | clear {s i r x} :
    s.tasks[i]? = some ⟨r, .failed⟩ →
    s.streams r = some x →
    Step s (.task r .clear) ((s.setStream r { x with dispatched := false }).setTask i ⟨r, .cleared⟩)
  | decrement {s i r} :
    s.tasks[i]? = some ⟨r, .cleared⟩ →
    Step s (.task r .decrement)
      { s.setTask i ⟨r, .unwinding⟩ with activeTasks := s.activeTasks - 1 }
  | destroyPool {s i r} :
    s.tasks[i]? = some ⟨r, .unwinding⟩ →
    Step s (.task r .destroyPool) (s.setTask i ⟨r, .returned⟩)
  /-- `ap_process_request`, or `ap_die` for a request that httpd refused or whose body was too
  large -/
  | run {s i r x} (refused : Bool) (maxResponseBodySize : Nat) :
    s.tasks[i]? = some ⟨r, .ready⟩ →
    s.streams r = some x →
    Step s (.task r (.run (refused || x.requestBodyOverflow)))
      (s.setTask i ⟨r, .responding { ctx := .init maxResponseBodySize, phase := .handler }⟩)
  /-- the output filter and the tail of the worker -/
  | respond {s i r x w a w' y act} :
    s.tasks[i]? = some ⟨r, .responding w⟩ →
    s.streams r = some x →
    step w x.response a = some (w', y, act) →
    Step s (.task r (.respond act))
      ((s.setStream r { x with response := y }).setTask i ⟨r, .responding w'⟩)
  /-- the length of the response is logged and the pool of the request is destroyed -/
  | finish {s i r x w} :
    s.tasks[i]? = some ⟨r, .responding w⟩ →
    w.phase = .returned →
    s.streams r = some x →
    Step s (.task r .finish) (s.setTask i ⟨r, .finished⟩)
  | markDone {s i r x} :
    s.tasks[i]? = some ⟨r, .finished⟩ →
    s.streams r = some x →
    Step s (.task r .markDone) ((s.setStream r { x with workerDone := true }).setTask i
      ⟨r, .marked⟩)
  | decrementDone {s i r} :
    s.tasks[i]? = some ⟨r, .marked⟩ →
    Step s (.task r .decrement)
      { s.setTask i ⟨r, .returned⟩ with activeTasks := s.activeTasks - 1 }

/-- What a worker is told to do, with the answers of the environment. -/
inductive TaskOp where
  | createRequest (ok : Bool)
  | createContext (ok : Bool)
  | clear
  | decrement
  | destroyPool
  | run (refused : Bool) (maxResponseBodySize : Nat)
  | respond (a : Answer)
  | finish
  | markDone

/-- A step as a command to be run. Of the callbacks, only those that set the flags of a stream. -/
inductive Op where
  | track (isBidi isServer : Bool) (limit : UInt64)
  | flags (r : Ref) (done qstream headersComplete bodyComplete requestBodyOverflow : Bool)
  | drain (completed : List Ref)
  | skip
  | process
  | reserve (ok : Bool)
  | clear
  | push (ok : Bool)
  | decrement
  | destroy
  | task (i : Nat) (op : TaskOp)

/-- The stream is there and ready for dispatch. -/
def State.readyAt (s : State) (r : Ref) : Bool := ((s.streams r).map H3Stream.ready).getD false

/-- A request that is ready is that of a stream which is there. -/
lemma State.readyAt_iff {s : State} {r : Ref} :
    s.readyAt r = true ↔ ∃ x, s.streams r = some x ∧ x.ready = true := by
  cases eq : s.streams r <;> simp [State.readyAt, eq]

/-- Run one command of worker `i`; `none` when it is not possible in this state. -/
def execTask (s : State) (i : Nat) (op : TaskOp) : Option (State × Event) := do
  let ⟨r, pc⟩ ← s.tasks[i]?
  match pc, op with
  | .queued, .createRequest ok =>
    some (s.setTask i ⟨r, if ok then .started else .failed⟩, .task r (.createRequest ok))
  | .started, .createContext ok =>
    let _ ← s.streams r
    some (s.setTask i ⟨r, if ok then .ready else .failed⟩, .task r (.createContext ok))
  | .failed, .clear =>
    let x ← s.streams r
    some ((s.setStream r { x with dispatched := false }).setTask i ⟨r, .cleared⟩, .task r .clear)
  | .cleared, .decrement =>
    some ({ s.setTask i ⟨r, .unwinding⟩ with activeTasks := s.activeTasks - 1 }, .task r .decrement)
  | .unwinding, .destroyPool => some (s.setTask i ⟨r, .returned⟩, .task r .destroyPool)
  | .ready, .run refused max =>
    let x ← s.streams r
    some (s.setTask i ⟨r, .responding { ctx := .init max, phase := .handler }⟩,
      .task r (.run (refused || x.requestBodyOverflow)))
  | .responding w, .respond a =>
    let x ← s.streams r
    let (w', y, act) ← step w x.response a
    some ((s.setStream r { x with response := y }).setTask i ⟨r, .responding w'⟩,
      .task r (.respond act))
  | .responding w, .finish =>
    let _ ← s.streams r
    guard (w.phase = .returned)
    some (s.setTask i ⟨r, .finished⟩, .task r .finish)
  | .finished, .markDone =>
    let x ← s.streams r
    some ((s.setStream r { x with workerDone := true }).setTask i ⟨r, .marked⟩, .task r .markDone)
  | .marked, .decrement =>
    some ({ s.setTask i ⟨r, .returned⟩ with activeTasks := s.activeTasks - 1 }, .task r .decrement)
  | _, _ => none

/-- Run one command of the event thread; `none` when it is not possible in this state. -/
def execEvent (s : State) (op : Op) : Option (State × Event) :=
  match s.pc, op with
  | .idle, .track isBidi isServer limit =>
    some ({ s.setStream s.next (.init isBidi isServer limit) with next := s.next + 1 },
      .track s.next)
  | .idle, .drain completed => do
    guard (completed.all s.readyAt = true)
    some
      ({ s with
          streams := fun r => (s.streams r).filter fun x => !x.reclaimable
          pc := .dispatching completed }, .drain completed)
  | .idle, .destroy => do
    guard (s.activeTasks = 0)
    some ({ s with streams := fun _ => none, pc := .destroyed }, .destroy)
  | .dispatching _, .skip => some ({ s with pc := .idle }, .skip)
  | .dispatching (r :: todo), .process => do
    let x ← s.streams r
    if x.dispatched then
      some ({ s with pc := .dispatching todo }, .process r)
    else
      some ({ s.setStream r { x with dispatched := true } with pc := .reserving r todo },
        .process r)
  | .reserving r todo, .reserve true =>
    some
      ({ s with
          tasks := s.tasks ++ [{ stream := r, pc := .reserved }]
          activeTasks := s.activeTasks + 1
          pc := .pushing s.tasks.length todo }, .reserve r true)
  | .reserving r todo, .reserve false =>
    some ({ s with pc := .unreserving r todo }, .reserve r false)
  | .unreserving r todo, .clear => do
    let x ← s.streams r
    some ({ s.setStream r { x with dispatched := false } with pc := .dispatching todo }, .clear r)
  | .pushing i todo, .push true => do
    let t ← s.tasks[i]?
    some ({ s.setTask i { t with pc := .queued } with pc := .dispatching todo },
      .push t.stream true)
  | .pushing i todo, .push false => do
    let t ← s.tasks[i]?
    some ({ s with pc := .pushFailed i todo }, .push t.stream false)
  | .pushFailed i todo, .clear => do
    let t ← s.tasks[i]?
    let x ← s.streams t.stream
    some
      ({ (s.setStream t.stream
        { x with dispatched := false }).setTask i { t with pc := .dropped } with
          pc := .pushCleared i todo }, .clear t.stream)
  | .pushCleared i todo, .decrement => do
    let t ← s.tasks[i]?
    some
      ({ s.setTask i { t with pc := .returned } with
          activeTasks := s.activeTasks - 1
          pc := .dispatching todo }, .decrement t.stream)
  | _, _ => none

/-- Run one command; `none` when it is not possible in this state. -/
def exec (s : State) : Op → Option (State × Event)
  | .task i op => execTask s i op
  | .flags r done qstream headersComplete bodyComplete requestBodyOverflow =>
    match s.pc with
    | .destroyed => none
    | _ => do
      let x ← s.streams r
      some
        (s.setStream r { x with done, qstream, headersComplete, bodyComplete, requestBodyOverflow },
          .update r)
  | op => execEvent s op

/-- A command of a worker is a step. -/
lemma execTask_step {s t : State} {i : Nat} {op : TaskOp} {e : Event}
    (eq : execTask s i op = some (t, e)) : Step s e t := by
  simp only [execTask, Option.bind_eq_bind, Option.bind_eq_some_iff] at eq
  obtain ⟨⟨r, pc⟩, get, eq⟩ := eq
  dsimp only at eq
  split at eq
  case h_1 => cases eq; exact .createRequest _ get
  case h_2 =>
    obtain ⟨x, hx, eq⟩ := Option.bind_eq_some_iff.mp eq
    cases eq
    exact .createContext _ get hx
  case h_3 =>
    obtain ⟨x, hx, eq⟩ := Option.bind_eq_some_iff.mp eq
    cases eq
    exact .clear get hx
  case h_4 => cases eq; exact .decrement get
  case h_5 => cases eq; exact .destroyPool get
  case h_6 =>
    obtain ⟨x, hx, eq⟩ := Option.bind_eq_some_iff.mp eq
    cases eq
    exact .run _ _ get hx
  case h_7 =>
    obtain ⟨x, hx, eq⟩ := Option.bind_eq_some_iff.mp eq
    obtain ⟨⟨w', y, act⟩, hw, eq⟩ := Option.bind_eq_some_iff.mp eq
    cases eq
    exact .respond get hx hw
  case h_8 =>
    obtain ⟨x, hx, eq⟩ := Option.bind_eq_some_iff.mp eq
    obtain ⟨_, hp, eq⟩ := Option.bind_eq_some_iff.mp eq
    cases eq
    exact .finish get (by simpa using hp) hx
  case h_9 =>
    obtain ⟨x, hx, eq⟩ := Option.bind_eq_some_iff.mp eq
    cases eq
    exact .markDone get hx
  case h_10 => cases eq; exact .decrementDone get
  case h_11 => cases eq

/-- A command of the event thread is a step. -/
lemma execEvent_step {s t : State} {op : Op} {e : Event} (eq : execEvent s op = some (t, e)) :
    Step s e t := by
  unfold execEvent at eq
  split at eq
  case h_1 pc => cases eq; exact .track _ _ _ pc
  case h_2 completed pc =>
    obtain ⟨_, hr, eq⟩ := Option.bind_eq_some_iff.mp eq
    cases eq
    refine .drain _ pc ?_
    intro r mem
    have all : completed.all s.readyAt = true := by simpa using hr
    exact State.readyAt_iff.mp (List.all_eq_true.mp all r mem)
  case h_3 pc =>
    obtain ⟨_, hz, eq⟩ := Option.bind_eq_some_iff.mp eq
    cases eq
    exact .destroy pc (by simpa using hz)
  case h_4 pc => cases eq; exact .skip pc
  case h_5 pc =>
    obtain ⟨x, hx, eq⟩ := Option.bind_eq_some_iff.mp eq
    split at eq
    case isTrue hd => cases eq; exact .again pc hx hd
    case isFalse hd => cases eq; exact .process pc hx (by simpa using hd)
  case h_6 pc => cases eq; exact .reserve pc
  case h_7 pc => cases eq; exact .reserveFailed pc
  case h_8 pc =>
    obtain ⟨x, hx, eq⟩ := Option.bind_eq_some_iff.mp eq
    cases eq
    exact .unreserve pc hx
  case h_9 pc =>
    obtain ⟨u, hu, eq⟩ := Option.bind_eq_some_iff.mp eq
    cases eq
    exact .push pc hu
  case h_10 pc =>
    obtain ⟨u, hu, eq⟩ := Option.bind_eq_some_iff.mp eq
    cases eq
    exact .pushFailed pc hu
  case h_11 pc =>
    obtain ⟨u, hu, eq⟩ := Option.bind_eq_some_iff.mp eq
    obtain ⟨x, hx, eq⟩ := Option.bind_eq_some_iff.mp eq
    cases eq
    exact .pushClear pc hu hx
  case h_12 pc =>
    obtain ⟨u, hu, eq⟩ := Option.bind_eq_some_iff.mp eq
    cases eq
    exact .pushDrop pc hu
  case h_13 => cases eq

/-- A command is a step. -/
lemma exec_step (s : State) (op : Op) (t : State) (e : Event) (eq : exec s op = some (t, e)) :
    Step s e t := by
  unfold exec at eq
  split at eq
  case h_1 => exact execTask_step eq
  case h_2 =>
    split at eq
    case h_1 => cases eq
    case h_2 live =>
      obtain ⟨x, hx, eq⟩ := Option.bind_eq_some_iff.mp eq
      cases eq
      exact .update live hx (.flags _ _ _ _ _)
  case h_3 => exact execEvent_step eq

end ModHttp3.Dispatch

import ModHttp3.Lib.Doorbell
import ModHttp3.Listener.Effect
import ModHttp3.Listener.Wake

/-!
# Waking the event thread

Model of `h3_wakeup_create`, `h3_wakeup_signal` and `h3_wakeup_drain` (`h3_socket.c`), of
`h3q_engine_want` (`h3q.c`) and of `wait_for_event` (`h3_io.c`), with the turns of `Listener.step`
between two waits. The workers leave response data, headers and completions in a session and then
call `wake_event_thread`; `teardown` clears `thread_running` and then signals. Other threads run
between any two steps, so a signal can come at any point of the wait.

`Attended` with `Waking.ahead` is the invariant: what was signalled for is announced by the wakeup
socket, or the event thread comes to it before it waits again. So the thread does not sleep on work
(`no_sleep_on_work`).

C → Lean naming: the pollfds of `wait_for_event` → `PollSet`, the result of `SSL_get_event_timeout`
is `timer`, with `none` for an infinite one. The socket pair is a queue of datagrams of one byte;
the kernel may drop one only if others are queued. `poll` is level-triggered: it reports the wakeup
socket as readable exactly if there is a datagram. The milliseconds of the timer are computed in
`int64_t`, where they do not wrap for any number of seconds below 2^53.
-/

namespace ModHttp3.Listener
open ModHttp3.Lib

/-- The wakeup pair (C `h3_wakeup`); the flags say that a socket is not null. -/
structure Wakeup where
  reader : Bool
  writer : Bool
  readerFd : Int
deriving DecidableEq

/-- The calls of `h3_wakeup_create` that can fail. -/
inductive WakeupCall where
  | loopbackInfo | createReader | bindReader | readerAddr | createWriter | writerInfo | bindWriter
  | connectWriter
  | writerAddr | connectReader | readerTimeout | writerTimeout | osSock
deriving DecidableEq

/-- Their order. -/
def WakeupCall.order : List WakeupCall :=
  [.loopbackInfo, .createReader, .bindReader, .readerAddr, .createWriter, .writerInfo, .bindWriter,
    .connectWriter, .writerAddr, .connectReader, .readerTimeout, .writerTimeout, .osSock]

/-- The uncreated pair. -/
def Wakeup.none : Wakeup where
  reader := false
  writer := false
  readerFd := -1

/-- The created pair. -/
def Wakeup.created (readerFd : Int) : Wakeup where
  reader := true
  writer := true
  readerFd := readerFd

/-- C `h3_wakeup_create`, with the status each call returns (0 is `APR_SUCCESS`). The first failure
is returned, and the pair is uncreated then. -/
def wakeupCreate (rv : WakeupCall → Int) (osSock : Int) : Int × Wakeup :=
  match WakeupCall.order.find? (rv · ≠ 0) with
  | some call => (rv call, .none)
  | Option.none => (0, .created osSock)

/-- What OpenSSL returns to `h3q_engine_want`. -/
structure WantAnswer where
  netRead : Bool
  netWrite : Bool
  /-- seconds and microseconds -/
  timer : Option (Int × Int)

/-- C `h3q_engine_want`: what to poll for, and for how many milliseconds at most. -/
def engineWant (sslListener : Bool) (a : WantAnswer) (timeoutMs : Int) : Bool × Bool × Int :=
  if !sslListener then
    (false, false, 1000)
  else
    let timeoutMs :=
      match a.timer with
      | some (sec, usec) =>
        let ms := sec * 1000 + usec.tdiv 1000
        if 0 ≤ ms ∧ ms < timeoutMs then ms else timeoutMs
      | none => timeoutMs
    -- a timer that is due must not make the caller spin
    (a.netRead, a.netWrite, if timeoutMs < 1 then 1 else timeoutMs)

/-- What `wait_for_event` passes to `h3_poll`. -/
structure PollSet where
  udpIn : Bool
  udpOut : Bool
  wakeupFd : Option Int
  timeoutMs : Int
deriving DecidableEq

/-- The first part of `wait_for_event`. -/
def pollSet (w : Wakeup) (sslListener : Bool) (a : WantAnswer) : PollSet :=
  let (wantRead, wantWrite, timeoutMs) := engineWant sslListener a 1000
  { -- without an event the socket is polled for reading
    udpIn := wantRead || !wantWrite
    udpOut := wantWrite
    wakeupFd := if w.reader ∧ w.readerFd ≠ -1 then some w.readerFd else none
    timeoutMs }

/-- Where the event thread is in `wait_for_event`: not called in this turn, in `h3_poll`, in the
loop of `h3_wakeup_drain` after some turns, or back. -/
inductive Wait where
  | idle
  | polling (set : PollSet)
  | draining (n : Nat)
  | back
deriving DecidableEq

/-- What another thread leaves for the event thread: something to send on a connection, or the
request to stop. -/
inductive Work where
  | response (conn : Conn)
  | stop
deriving DecidableEq

/-- The event thread and those that wake it. -/
structure Waking where
  thread : State
  sslListener : Bool
  wakeup : Wakeup
  wait : Wait
  bell : Doorbell Work
  /-- the connections whose last service pass found no memory -/
  starved : List Conn

/-- The thread starts with a wakeup pair. -/
def Waking.init (maxConnections handshakeTimeout : UInt32) (wakeup : Wakeup) : Waking where
  thread := .init maxConnections handshakeTimeout
  sslListener := true
  wakeup := wakeup
  wait := .idle
  bell := .silent
  starved := []

/-- C `h3_wakeup_signal`; `sent` says that the kernel took the datagram. -/
def wakeupSignal (w : Wakeup) (bell : Doorbell Work) (sent : Bool) : Doorbell Work :=
  if w.writer then bell.ring sent else { bell with owed := bell.owed - 1 }

/-- The bound on the loop of `h3_wakeup_drain`. -/
def drainTurns : Nat := 64

/-- The rest of `wait_for_event` after `h3_poll` returned `rv`. -/
def Waking.polled (x : Waking) (set : PollSet) (rv : Int) : Option Waking :=
  -- after a failure the events are not looked at
  if rv < 0 then
    some { x with wait := .back }
  else if set.wakeupFd.isSome ∧ 0 < x.bell.queue then
    if rv = 0 then
      none
    else if x.wakeup.reader then
      some { x with wait := .draining 0 }
    else
      some { x with wait := .back }
  else
    some { x with wait := .back }

/-- A turn of the loop of `h3_wakeup_drain`; `ok` says that `apr_socket_recv` returned a
datagram. -/
def Waking.recv (x : Waking) (n : Nat) (ok : Bool) : Option Waking :=
  if ok then
    if 0 < x.bell.queue then
      some { x with bell := x.bell.answer,
                    wait := if n + 1 < drainTurns then .draining (n + 1) else .back }
    else
      none
  else
    some { x with wait := .back }

/-- The connection of the session that a turn services, and whether the pass came to its streams or
gave the session up; without memory for its pool it does neither. -/
def State.passed (s : State) (a : Answer) : Option (Conn × Bool) :=
  match s.pc, a with
  | .sessions i, .pass p => do
    let session ← s.io.activeSessions[i]?
    let conn ← session.qconn
    some (conn, p.scratch || (serviceSessionPass s.io session p).2.1.aborted)
  | _, _ => none

/-- The work that a turn from `s` looks at: a service pass that came to the streams at that of its
session, the condition of the main loop at `thread_running`. -/
def State.sees (s : State) (a : Answer) : Work → Bool
  | .response conn => s.passed a == some (conn, true)
  | .stop =>
    match s.pc, a with
    | .loop, .tick => true
    | _, _ => false

/-- The connections whose last service pass found no memory, after one more turn. -/
def State.starves (s : State) (a : Answer) (starved : List Conn) : List Conn :=
  match s.passed a with
  | some (conn, true) => starved.filter (· != conn)
  | some (conn, false) => conn :: starved
  | none => starved

/-- What happens. -/
inductive Move where
  /-- a worker leaves something in a session -/
  | publish (conn : Conn)
  /-- `teardown` clears `thread_running` -/
  | stop
  /-- the thread that did one of these signals -/
  | signal (sent : Bool)
  /-- the event thread calls `h3_poll` -/
  | poll (a : WantAnswer)
  | polled (rv : Int)
  | recv (ok : Bool)
  /-- a turn of the event thread that does not wait -/
  | turn (a : Answer)

/-- One step of one thread. -/
def wake (x : Waking) : Move → Option Waking
  | .publish conn => some { x with bell := x.bell.leave (.response conn) }
  | .stop => (step x.thread .stop).map fun r => { x with thread := r.1, bell := x.bell.leave .stop }
  | .signal sent =>
    if 0 < x.bell.owed ∧ (sent = true ∨ 0 < x.bell.queue) then
      some { x with bell := wakeupSignal x.wakeup x.bell sent }
    else
      none
  | .poll a =>
    if x.thread.waits ∧ x.wait = .idle then
      some { x with wait := .polling (pollSet x.wakeup x.sslListener a) }
    else
      none
  | .polled rv =>
    match x.wait with
    | .polling set => x.polled set rv
    | _ => none
  | .recv ok =>
    match x.wait with
    | .draining n => x.recv n ok
    | _ => none
  | .turn .stop => none
  | .turn a =>
    -- `wait_for_event` comes between the condition of the loop and the pump, unless work is left
    if x.thread.waits ∧ x.wait ≠ .back then
      none
    else
      (step x.thread a).map fun r =>
        { x with
          thread := r.1
          wait := .idle
          bell := x.bell.see (x.thread.sees a)
          starved := x.thread.starves a x.starved }

/-- The step relation. -/
def Wakes (x : Waking) (m : Move) (y : Waking) : Prop := wake x m = some y

/-- The connections of some sessions. -/
def conns (sessions : List Session) : List Conn := sessions.filterMap Session.qconn

/-- The thread is past `h3_poll`. -/
def Wait.awake : Wait → Bool
  | .draining _ | .back => true
  | .idle | .polling _ => false

/-- The connections whose sessions are serviced before the thread waits. -/
def State.todo (s : State) (w : Wait) : List Conn :=
  match s.pc with
  | .loop => if s.workPending then conns s.io.activeSessions else []
  | .body => if s.workPending || w.awake then conns s.io.activeSessions else []
  | .accept | .handshakes _ _ => conns s.io.activeSessions
  | .sessions i => conns (s.io.activeSessions.drop i)
  | .serviced i => conns (s.io.activeSessions.drop (i + 1))
  | .exit | .done => []

/-- The work that the thread comes to before it waits. -/
def State.ahead (s : State) (wait : Wait) : Work → Prop
  | .response conn => conn ∈ conns s.io.activeSessions → conn ∈ s.todo wait
  | .stop => s.waits = false ∨ wait.awake = true

/-- The work that the thread comes to before it waits, and that for which a pass found no memory. -/
def Waking.expects (x : Waking) (w : Work) : Prop :=
  x.thread.ahead x.wait w ∨ ∃ conn ∈ x.starved, w = .response conn

/-- The pair was created, nothing that was signalled for is lost, and the thread waits only where
`wait_for_event` is called. -/
structure Ready (osSock : Int) (x : Waking) : Prop where
  sslListener : x.sslListener = true
  wakeup : x.wakeup = .created osSock
  attended : Attended x.expects x.bell
  waits : x.wait ≠ .idle → x.thread.waits = true
  set : ∀ set, x.wait = .polling set → ∃ a, set = pollSet x.wakeup x.sslListener a

section
variable {x y : Waking} {s t : State} {a : Answer} {ops : List ConnOp} {i : Nat} {conn : Conn}
  {osSock : Int}

/-- The wait is bounded from both sides, whatever the timer says. -/
lemma engineWant_timeout (w : WantAnswer) :
    1 ≤ (engineWant true w 1000).2.2 ∧ (engineWant true w 1000).2.2 ≤ 1000 := by
  simp only [engineWant, Bool.not_true, Bool.false_eq_true, if_false]
  split
  · split
    · split
      · omega
      · omega
    · split
      · omega
      · omega
  · split
    · omega
    · omega

/-- The UDP socket is always polled for something. -/
lemma pollSet_udp (w : Wakeup) (sslListener : Bool) (want : WantAnswer) :
    (pollSet w sslListener want).udpIn = true ∨ (pollSet w sslListener want).udpOut = true := by
  simp only [pollSet, Bool.or_eq_true, Bool.not_eq_true']
  cases (engineWant sslListener want 1000).2.1 with
  | true => exact .inr rfl
  | false => exact .inl (.inr rfl)

/-- Awake, the thread has everything ahead of it. -/
lemma State.ahead_awake {wait : Wait} (waits : s.waits = true) (awake : wait.awake = true)
    (w : Work) :
    s.ahead wait w := by
  cases w with
  | stop => exact .inr awake
  | response conn =>
    intro mem
    rw [State.waits, Bool.and_eq_true, beq_iff_eq] at waits
    rw [State.todo, waits.1]
    simpa [awake] using mem

/-- What is ahead depends on the rest of the thread only. -/
lemma State.ahead_threadRunning {wait : Wait} {w : Work} {running : Bool} (h : s.ahead wait w) :
    ({ s with io := { s.io with threadRunning := running } } : State).ahead wait w := by
  cases w with
  | stop => exact h
  | response conn => exact h

/-- The thread comes to where it waits through the condition of the main loop only. -/
lemma Effect.waits (eff : Effect s a t ops) (other : a ≠ .stop) (waits : t.waits = true) :
    s.pc = .loop ∧ a = .tick := by
  rw [State.waits, Bool.and_eq_true, beq_iff_eq] at waits
  obtain ⟨body, -⟩ := waits
  cases eff with
  | stop => exact absurd rfl other
  | enter pc _ => exact ⟨pc, rfl⟩
  | leave pc _ _ => cases body
  | pumped pc =>
    dsimp only at body
    split at body
    · cases body
    · cases body
  | accept pc => cases body
  | idle pc => cases body
  | handshake pc _ => cases body
  | progressed pc _ => cases body
  | pass pc _ _ => cases body
  | serviced pc _ => cases body
  | retire pc _ => cases body
  | drop pc _ => cases body
  | done pc _ => cases body

/-- A service pass takes its session off what is ahead, and no other one. -/
lemma conns_drop {xs : List Session} {session : Session} (hs : xs[i]? = some session)
    (mem : conn ∈ conns (xs.drop i)) (other : session.qconn ≠ some conn) :
    conn ∈ conns (xs.drop (i + 1)) := by
  obtain ⟨lt, rfl⟩ := List.getElem?_eq_some_iff.mp hs
  rw [conns, List.drop_eq_getElem_cons lt, List.filterMap_cons] at mem
  split at mem
  · exact mem
  · rename_i conn' eq
    rcases List.mem_cons.mp mem with rfl | mem
    · exact absurd eq other
    · exact mem

/-- A session that is retired is not ahead any more; the others are. -/
lemma conns_swapRemove {xs : List Session} {session : Session} (hs : xs[i]? = some session) :
    conn ∈ conns ((swapRemove xs i).drop i) ↔ conn ∈ conns (xs.drop (i + 1)) :=
  ((swapRemove_drop hs).filterMap Session.qconn).mem_iff

/-- The sessions that are left after one was retired were there before. -/
lemma conns_of_swapRemove {xs : List Session} {session : Session} (hs : xs[i]? = some session)
    (mem : conn ∈ conns (swapRemove xs i)) : conn ∈ conns xs := by
  have perm := (swapRemove_perm hs).filterMap Session.qconn
  refine perm.mem_iff.mp ?_
  rw [List.filterMap_cons]
  split
  · exact mem
  · exact List.mem_cons_of_mem _ mem

/-- A service pass is over the connection of its session. -/
lemma State.passed_pass {p : PassAnswer} {session : Session} (pc : s.pc = .sessions i)
    (hs : s.io.activeSessions[i]? = some session) (hq : session.qconn = some conn) :
    s.passed (.pass p) =
      some (conn, p.scratch || (serviceSessionPass s.io session p).2.1.aborted) := by
  simp [State.passed, pc, hs, hq]

/-- A turn keeps the work of a session ahead until the session is serviced. -/
lemma Effect.response {wait : Wait} (eff : Effect s a t ops) (other : a ≠ .stop)
    (unseen : ∀ looked, s.passed a ≠ some (conn, looked)) (h : s.ahead wait (.response conn)) :
    t.ahead .idle (.response conn) := by
  intro mem
  cases eff with
  | stop => exact absurd rfl other
  | enter pc _ =>
    have todo := h mem
    rw [State.todo, pc] at todo
    simpa [State.todo, Wait.awake] using todo
  | leave pc _ inactive =>
    have : conn ∈ conns [] := inactive ▸ mem
    cases this
  | pumped pc =>
    rw [State.todo]
    cases s.io.threadRunning with
    | true => exact mem
    | false => exact mem
  | accept pc => exact mem
  | idle pc => exact mem
  | handshake pc _ => exact mem
  | progressed pc _ => exact mem
  | @pass a i session io after ops dataRead pc hs eq =>
    obtain ⟨⟨n, hio⟩, hq, -⟩ := serviceSessionPass_spec s.io session a
    rw [eq] at hio hq
    dsimp only at hio hq
    subst hio
    have before : conn ∈ conns s.io.activeSessions := by
      rw [conns, ← filterMap_qconn_set hs hq]
      exact mem
    have todo := h before
    rw [State.todo, pc] at todo
    have ne : session.qconn ≠ some conn := by
      intro here
      exact unseen _ (State.passed_pass pc hs here)
    have rest := conns_drop hs todo ne
    simpa [State.todo, List.drop_set] using rest
  | @serviced i pc past =>
    have todo := h mem
    rw [State.todo, pc] at todo
    have : conn ∈ conns [] := List.drop_eq_nil_of_le past ▸ todo
    cases this
  | @retire shutdownDone activeTasks i io j ops pc eq =>
    obtain ⟨session, hs, -⟩ := Option.bind_eq_some_iff.mp eq
    obtain ⟨io', ops', j', eq', effect⟩ := retireSession_spec hs shutdownDone activeTasks
    rw [eq] at eq'
    cases eq'
    rw [State.ahead, State.todo, pc] at h
    split at effect
    · obtain ⟨active, rfl⟩ := effect
      rw [active] at mem
      simp only [State.todo, active]
      exact (conns_swapRemove hs).mpr (h (conns_of_swapRemove hs mem))
    · obtain ⟨active, rfl⟩ := effect
      rw [active] at mem
      simp only [State.todo, active]
      exact h mem
  | drop pc eq =>
    have active := removePendingHandshake_active eq
    rw [active] at mem
    have todo := h mem
    rw [State.todo, pc] at todo
    cases todo
  | done pc _ =>
    have todo := h mem
    rw [State.todo, pc] at todo
    cases todo

/-- A turn keeps the request to stop ahead until the condition of the main loop looks at it. -/
lemma Effect.stopping {wait : Wait} (eff : Effect s a t ops) (other : a ≠ .stop)
    (unseen : s.sees a .stop = false) : t.ahead wait .stop := by
  refine .inl ?_
  rw [← Bool.not_eq_true]
  intro waits
  obtain ⟨pc, rfl⟩ := eff.waits other waits
  simp [State.sees, pc] at unseen

/-- A connection stays starved until its session is serviced. -/
lemma State.starves_keep {starved : List Conn} (mem : conn ∈ starved)
    (unseen : s.sees a (.response conn) = false) : conn ∈ s.starves a starved := by
  rw [State.starves]
  split
  · rename_i conn' passed
    refine List.mem_filter.mpr ⟨mem, ?_⟩
    rw [State.sees, passed] at unseen
    rw [bne_iff_ne]
    rintro rfl
    simp at unseen
  · exact List.mem_cons_of_mem _ mem
  · exact mem

/-- A pass that does not look at the work of its session starves it. -/
lemma State.starves_new {starved : List Conn} {looked : Bool}
    (passed : s.passed a = some (conn, looked)) (unseen : s.sees a (.response conn) = false) :
    conn ∈ s.starves a starved := by
  cases looked with
  | true => simp [State.sees, passed] at unseen
  | false =>
    rw [State.starves, passed]
    exact List.mem_cons_self

/-- A turn keeps all that is expected and that it does not look at. -/
lemma Waking.expects_turn {w : Work} (eff : Effect x.thread a t ops) (other : a ≠ .stop)
    (unseen : x.thread.sees a w = false) (h : x.expects w) :
    t.ahead .idle w ∨ ∃ conn ∈ x.thread.starves a x.starved, w = .response conn := by
  cases w with
  | stop => exact .inl (eff.stopping other unseen)
  | response conn =>
    rcases h with ahead | ⟨_, mem, is⟩
    · by_cases passed : ∃ looked, x.thread.passed a = some (conn, looked)
      · obtain ⟨looked, passed⟩ := passed
        exact .inr ⟨conn, State.starves_new passed unseen, rfl⟩
      · exact .inl (eff.response other (not_exists.mp passed) ahead)
    · cases is
      exact .inr ⟨conn, State.starves_keep mem unseen, rfl⟩

/-- What is expected where the thread waits. -/
lemma Waking.expects_at {wait : Wait} {w : Work} (here : x.wait = wait) (h : x.expects w) :
    x.thread.ahead wait w ∨ ∃ conn ∈ x.starved, w = .response conn :=
  here ▸ h

/-- Waiting again, the thread has ahead what it had. -/
lemma State.ahead_polling {w : Work} {set : PollSet} (h : s.ahead .idle w) :
    s.ahead (.polling set) w := by
  cases w with
  | stop => exact h
  | response conn =>
    intro mem
    exact h mem

/-- The thread leaves `h3_poll` with everything ahead of it. -/
lemma Ready.awake {wait : Wait} (h : Ready osSock x) (idle : x.wait ≠ .idle)
    (awake : wait.awake = true) :
    Ready osSock { x with wait := wait } where
  sslListener := h.sslListener
  wakeup := h.wakeup
  attended := h.attended.mono fun w _ _ => .inl (State.ahead_awake (h.waits idle) awake w)
  waits _ := h.waits idle
  set set eq := by
    cases eq
    cases awake

/-- After `poll` the thread is as ready as before. -/
lemma Ready.polled {set : PollSet} {rv : Int} (h : Ready osSock x) (wait : x.wait = .polling set)
    (eq : x.polled set rv = some y) : Ready osSock y := by
  have idle : x.wait ≠ .idle := by
    rw [wait]
    exact nofun
  rw [Waking.polled] at eq
  split at eq
  · cases eq
    exact h.awake idle rfl
  split at eq
  · split at eq
    · cases eq
    · have reader : x.wakeup.reader = true := by
        rw [h.wakeup]
        rfl
      rw [if_pos reader] at eq
      cases eq
      exact h.awake idle rfl
  · cases eq
    exact h.awake idle rfl

/-- Emptying the wakeup socket keeps the thread ready. -/
lemma Ready.recv {n : Nat} {ok : Bool} (h : Ready osSock x) (wait : x.wait = .draining n)
    (eq : x.recv n ok = some y) :
    Ready osSock y := by
  have idle : x.wait ≠ .idle := by
    rw [wait]
    exact nofun
  rw [Waking.recv] at eq
  split at eq
  · split at eq
    · cases eq
      have awake : (if n + 1 < drainTurns then Wait.draining (n + 1) else .back).awake = true := by
        split
        · rfl
        · rfl
      have next := h.awake idle awake
      -- a datagram is taken off the queue after `h3_poll` only
      exact
        { next with attended := next.attended.answer fun w _ => .inl (State.ahead_awake
          (h.waits idle) awake w) }
    · cases eq
  · cases eq
    exact h.awake idle rfl

/-- A turn of the thread keeps it ready. -/
lemma Ready.turn (h : Ready osSock x) (other : a ≠ .stop) (eq : step x.thread a = some (t, ops)) :
    Ready osSock
      { x with
        thread := t
        wait := .idle
        bell := x.bell.see (x.thread.sees a)
        starved := x.thread.starves a x.starved } where
  sslListener := h.sslListener
  wakeup := h.wakeup
  attended := h.attended.see fun _ _ => Waking.expects_turn (step_effect eq) other
  waits := absurd rfl
  set _ := nofun

/-- Every step of every thread keeps this. -/
lemma Ready.step {m : Move} (h : Ready osSock x) (st : Wakes x m y) : Ready osSock y := by
  cases m with
  | publish conn =>
    cases st
    exact { h with attended := h.attended.leave _ }
  | stop =>
    simp only [Wakes, wake, Option.map_eq_some_iff] at st
    obtain ⟨⟨t, ops⟩, eq, rfl⟩ := st
    obtain ⟨rfl, -⟩ := step_stop eq
    exact
      { h with attended := (h.attended.mono fun _ _ => Or.imp_left
        State.ahead_threadRunning).leave _ }
  | signal sent =>
    simp only [Wakes, wake] at st
    split at st
    · rename_i law
      cases st
      have writer : x.wakeup.writer = true := by
        rw [h.wakeup]
        rfl
      rw [wakeupSignal, if_pos writer]
      have queued : sent = false → 0 < x.bell.queue := by
        rintro rfl
        exact law.2.resolve_left Bool.false_ne_true
      exact { h with attended := .ring queued }
    · cases st
  | poll a =>
    simp only [Wakes, wake] at st
    split at st
    · rename_i now
      cases st
      exact
        { h with
          attended := h.attended.mono fun _ _ e =>
            (Waking.expects_at now.2 e).imp_left State.ahead_polling
          waits := fun _ => now.1
          set := fun set eq => ⟨a, by cases eq; rfl⟩ }
    · cases st
  | polled rv =>
    simp only [Wakes, wake] at st
    split at st
    · rename_i set wait
      exact h.polled wait st
    · cases st
  | recv ok =>
    simp only [Wakes, wake] at st
    split at st
    · rename_i n wait
      exact h.recv wait st
    · cases st
  | turn a =>
    cases a with
    | stop => cases st
    | _ =>
      simp only [Wakes, wake] at st
      split at st
      · cases st
      · obtain ⟨⟨t, ops⟩, eq, rfl⟩ := Option.map_eq_some_iff.mp st
        exact h.turn nofun eq

/-- The thread starts ready if its wakeup pair was created. -/
lemma Ready.init {max timeout : UInt32} {rv : WakeupCall → Int} {wakeup : Wakeup}
    (created : wakeupCreate rv osSock = (0, wakeup)) : Ready osSock (.init max timeout wakeup) := by
  have eq : wakeup = .created osSock := by
    rw [wakeupCreate] at created
    split at created
    · rename_i call found
      have failed := List.find?_some found
      rw [decide_eq_true_eq] at failed
      exact absurd (congrArg Prod.fst created) failed
    · cases created
      rfl
  subst eq
  exact
    { sslListener := rfl
      wakeup := rfl
      attended := .silent
      waits := absurd rfl
      set := fun _ => nofun }

end

/-- Whatever the workers leave in the sessions, and whenever `teardown` asks the thread to stop:
while the event thread sleeps in `h3_poll`, with no datagram on its wakeup socket, it has looked at
everything that was signalled for, but for the sessions whose last service pass found no memory, and
for what was left since then a signal is still to come. The wakeup socket is polled then, next to
the UDP socket, and the sleep is no longer than a second. -/
theorem no_sleep_on_work {max timeout : UInt32} {rv : WakeupCall → Int} {osSock : Int}
    {wakeup : Wakeup} (created : wakeupCreate rv osSock = (0, wakeup)) (valid : osSock ≠ -1)
    {ms : List Move} {x : Waking} (run : Run Wakes (.init max timeout wakeup) ms x) {set : PollSet}
    (sleeping : x.wait = .polling set) (silent : x.bell.queue = 0) :
    (∀ session ∈ x.thread.io.activeSessions, ∀ conn ∈ session.qconn,
        conn ∉ x.starved → .response conn ∉ x.bell.rung) ∧
      .stop ∉ x.bell.rung ∧
      (x.bell.fresh ≠ [] → 0 < x.bell.owed) ∧
      set.wakeupFd = some osSock ∧ (set.udpIn = true ∨ set.udpOut = true) ∧ 1 ≤ set.timeoutMs ∧
      set.timeoutMs ≤ 1000 := by
  have h := run.invariant (P := Ready osSock) (fun _ _ _ => Ready.step) (.init created)
  have waits := h.waits (by rw [sleeping]; exact nofun)
  have seen {w : Work} (rung : w ∈ x.bell.rung) :=
    Waking.expects_at sleeping (h.attended.seen silent rung)
  obtain ⟨want, rfl⟩ := h.set set sleeping
  rw [h.sslListener, h.wakeup]
  refine ⟨?_, ?_, h.attended.fresh, ?_, pollSet_udp _ _ want, engineWant_timeout want⟩
  · intro session mem conn hq fed rung
    rcases seen rung with ahead | ⟨_, starved, is⟩
    case inr =>
      cases is
      exact fed starved
    have todo := ahead (List.mem_filterMap.mpr ⟨session, mem, hq⟩)
    rw [State.waits, Bool.and_eq_true, beq_iff_eq, Bool.not_eq_true'] at waits
    rw [State.todo, waits.1, waits.2] at todo
    cases todo
  · intro rung
    rcases seen rung with (not | awake) | ⟨_, _, is⟩
    · rw [waits] at not
      cases not
    · cases awake
    · cases is
  · exact if_pos ⟨rfl, valid⟩

/-- Nothing to write, and a timer that is due in 20 ms. -/
def wantTwenty : WantAnswer := { netRead := true, netWrite := false, timer := some (0, 20000) }

/-- A client becomes a session, and a worker leaves something for it right after its pass. The
thread is asleep when the signal comes; it wakes, drains the socket, and services the session before
it sleeps again. -/
def lateSignal : List Move :=
  [.turn .tick, .poll wantTwenty, .polled 1, .turn (.pumped 1), .turn (.accept true 0),
    .turn (.idle 5),
    .turn (.handshake { closed := false, handshakeDone := true, spawn := spawnOk }), .turn .tick,
    .turn (.pass quietPass), .turn (.retire false 0), .turn .tick, .turn .tick, .turn (.pumped 0),
    .turn (.idle 6),
    .turn .tick, .turn (.pass quietPass), .publish 0, .turn (.retire false 0), .turn .tick,
    .turn .tick,
    .poll wantTwenty, .signal true, .polled 1, .recv true, .recv false, .turn (.pumped 0),
    .turn (.idle 7), .turn .tick,
    .turn (.pass quietPass), .turn (.retire false 0), .turn .tick, .turn .tick, .poll wantTwenty]

/-- At the end of `lateSignal` the thread sleeps again, and the session was serviced. -/
theorem no_sleep_on_work_lateSignal :
    ∃ ms x, Run Wakes (.init 2 10 (.created 7)) ms x ∧ .publish 0 ∈ ms ∧
      (∃ session ∈ x.thread.io.activeSessions, session.qconn = some 0) ∧
      x.wait = .polling { udpIn := true, udpOut := false, wakeupFd := some 7, timeoutMs := 20 } ∧
      x.bell.queue = 0 ∧ x.starved = [] ∧ .response 0 ∉ x.bell.rung := by
  have run :
    ((execAll (fun x m => (wake x m).map (·, m)) (Waking.init 2 10 (.created 7)) lateSignal).map
      fun r =>
      (r.1.wait, r.1.bell.queue + r.1.starved.length,
        r.1.thread.io.activeSessions.map Session.qconn,
        r.2.any fun | .publish conn => conn == 0 | _ => false)) =
      some (.polling { udpIn := true, udpOut := false, wakeupFd := some 7, timeoutMs := 20 }, 0,
        [some 0], true) := by
    decide +kernel
  obtain ⟨⟨x, ms⟩, run, e⟩ := Option.map_eq_some_iff.mp run
  simp only [Prod.mk.injEq] at e
  obtain ⟨sleeping, empty, one, published⟩ := e
  have silent : x.bell.queue = 0 := by omega
  have fed : x.starved = [] := List.eq_nil_of_length_eq_zero (by omega)
  have run : Run Wakes (.init 2 10 (.created 7)) ms x := by
    refine execAll_run ?_ run
    intro x m y m' eq
    obtain ⟨z, taken, same⟩ := Option.map_eq_some_iff.mp eq
    cases same
    exact taken
  have created : wakeupCreate (fun _ => 0) 7 = (0, .created 7) := by decide
  have mem : .publish 0 ∈ ms := by
    obtain ⟨m, mem, is⟩ := List.any_eq_true.mp published
    split at is
    · rw [beq_iff_eq] at is
      exact is ▸ mem
    · cases is
  obtain ⟨session, active, hq⟩ := List.mem_map.mp (one ▸ List.mem_singleton_self (some 0))
  refine ⟨ms, x, run, mem, ⟨session, active, hq⟩, sleeping, silent, fed, ?_⟩
  exact (no_sleep_on_work created (by decide) run sleeping silent).1 session active 0 hq
    (by simp [fed])

end ModHttp3.Listener

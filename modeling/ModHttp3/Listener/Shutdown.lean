import ModHttp3.Listener.Effect
import ModHttp3.Worker.Lifetime

/-!
# Tearing the child down

The whole child: the event thread (`Listener.State`), the streams and tasks of each of its sessions
(`Dispatch.State`) and the main thread, which runs `teardown` (`h3_io.c`): it clears
`thread_running`, joins the event thread, destroys the worker pool, waits until there are no
sessions left, and destroys the engine and closes the UDP socket.

The event thread dispatches requests of a session only inside of the service pass over it, and it
reads `active_tasks` of the session it retires; workers run at any time. `apr_thread_pool_destroy`
waits for the tasks that run, and drops those that are still queued.

`Kept` is the invariant. It has `Sound` for each session, everything that is conserved by the event
thread, and says that `active_tasks` of a session that is not in service is zero. So the main thread
finds nothing left to wait for (`teardown_finds_nothing`).
-/

namespace ModHttp3.Shutdown
open ModHttp3.Lib ModHttp3.Listener

/-- Where the main thread is: before `teardown`, in `apr_thread_join`, after it, after
`apr_thread_pool_destroy`, after `h3q_engine_destroy` and after `h3_socket_close`. -/
inductive Main where
  | serving
  | joining
  | joined
  | poolDestroyed
  | engineDestroyed
  | closed
deriving DecidableEq

/-- The main thread has joined the event thread. -/
def Main.afterJoin : Main → Bool
  | .serving | .joining => false
  | _ => true

/-- It has destroyed the worker pool. -/
def Main.afterPool : Main → Bool
  | .serving | .joining | .joined => false
  | _ => true

/-- The child, with the streams and tasks of the session of each connection. -/
structure Server where
  thread : Listener.State
  sessions : Conn → Dispatch.State
  main : Main

/-- The event thread is about to start. -/
def Server.init (maxConnections handshakeTimeout : UInt32) : Server where
  thread := .init maxConnections handshakeTimeout
  sessions := fun _ => .init
  main := .serving

/-- The session that is being serviced. -/
def Server.current (x : Server) : Option Session :=
  match x.thread.pc with
  | .sessions i => x.thread.io.activeSessions[i]?
  | _ => none

/-- The session that the service pass has come back from. -/
def Server.retiring (x : Server) : Option Session :=
  match x.thread.pc with
  | .serviced i => x.thread.io.activeSessions[i]?
  | _ => none

/-- The connections that have a session. -/
def Server.active (x : Server) : List Conn := x.thread.io.activeSessions.filterMap Session.qconn

/-- Change the streams and tasks of a session. -/
def Server.setSession (x : Server) (conn : Conn) (d : Dispatch.State) : Server :=
  { x with sessions := Function.update x.sessions conn d }

/-- The turns of the event thread outside of the sessions. -/
def plain : Listener.Answer → Bool
  | .stop | .pass _ | .retire _ _ => false
  | _ => true

/-- The steps of the event thread inside of the service pass over a session. -/
def inPass : Dispatch.Event → Bool
  | .task _ _ | .destroy => false
  | _ => true

/-- What a step does. -/
inductive Event where
  | turn (ops : List ConnOp)
  | session (conn : Conn) (e : Dispatch.Event)
  /-- the main thread comes to `m` -/
  | main (m : Main)
  /-- it sleeps because there are sessions left -/
  | sleep

/-- The main thread takes the step. -/
def Event.byMain : Event → Bool
  | .main _ | .sleep => true
  | _ => false

/-- What is done with the connections. -/
def Event.ops : Event → List ConnOp
  | .turn ops => ops
  | .session _ _ | .main _ | .sleep => []

/-- The steps of the threads. -/
inductive Step : Server → Event → Server → Prop where
  | turn {x a t ops} :
    plain a = true →
    Listener.step x.thread a = some (t, ops) →
    Step x (.turn ops) { x with thread := t }
  /-- in `service_session_pass`, on the streams of the session -/
  | service {x session conn e d} :
    x.current = some session →
    session.aborted = false →
    session.qconn = some conn →
    inPass e = true →
    Dispatch.Step (x.sessions conn) e d →
    Step x (.session conn e) (x.setSession conn d)
  /-- the end of `service_session_pass` -/
  | pass {x a session conn t ops} :
    x.current = some session →
    session.qconn = some conn →
    (x.sessions conn).pc = .idle →
    Listener.step x.thread (.pass a) = some (t, ops) →
    Step x (.turn ops) { x with thread := t }
  /-- a session is not retired -/
  | keep {x session conn shutdownDone activeTasks t ops} :
    x.retiring = some session →
    session.qconn = some conn →
    (activeTasks.toNat : Int) = (x.sessions conn).activeTasks →
    (session.aborted && shutdownDone && activeTasks == 0) = false →
    Listener.step x.thread (.retire shutdownDone activeTasks) = some (t, ops) →
    Step x (.turn ops) { x with thread := t }
  /-- a session is destroyed -/
  | destroy {x session conn d t ops} :
    x.retiring = some session →
    session.qconn = some conn →
    session.aborted = true →
    Dispatch.Step (x.sessions conn) .destroy d →
    Listener.step x.thread (.retire true 0) = some (t, ops) →
    Step x (.turn ops) { x.setSession conn d with thread := t }
  | worker {x conn r act d} :
    Dispatch.Step (x.sessions conn) (.task r act) d →
    Step x (.session conn (.task r act)) (x.setSession conn d)
  | stop {x t ops} :
    x.main = .serving →
    Listener.step x.thread .stop = some (t, ops) →
    Step x (.main .joining) { x with thread := t, main := .joining }
  | join {x} :
    x.main = .joining →
    x.thread.pc = .done →
    Step x (.main .joined) { x with main := .joined }
  | destroyPool {x} :
    x.main = .joined →
    (∀ conn, ∀ t ∈ (x.sessions conn).tasks, t.pc = .queued ∨ t.pc = .returned) →
    Step x (.main .poolDestroyed) { x with main := .poolDestroyed }
  | sleep {x} :
    x.main = .poolDestroyed →
    x.thread.io.activeSessions ≠ [] →
    Step x .sleep x
  | destroyEngine {x} :
    x.main = .poolDestroyed →
    x.thread.io.activeSessions = [] →
    Step x (.main .engineDestroyed) { x with main := .engineDestroyed }
  | close {x} :
    x.main = .engineDestroyed →
    Step x (.main .closed) { x with main := .closed }

/-- A step as a command to be run. -/
inductive Op where
  | turn (a : Listener.Answer)
  | service (op : Dispatch.Op)
  | pass (a : PassAnswer)
  | retire (shutdownDone : Bool)
  | worker (conn : Conn) (i : Nat) (op : Dispatch.TaskOp)
  | stop
  | join

/-- The end of a session, or not, as the event thread finds `active_tasks`. -/
def Server.retire (x : Server) (session : Session) (conn : Conn) (shutdownDone : Bool) :
    Option (Server × Event) := do
  let activeTasks := UInt32.ofNat (x.sessions conn).activeTasks.toNat
  guard ((activeTasks.toNat : Int) = (x.sessions conn).activeTasks)
  let (t, ops) ← Listener.step x.thread (.retire shutdownDone activeTasks)
  if session.aborted && shutdownDone && activeTasks == 0 then
    match Dispatch.exec (x.sessions conn) .destroy with
    | some (d, .destroy) => some ({ x.setSession conn d with thread := t }, .turn ops)
    | _ => none
  else
    some ({ x with thread := t }, .turn ops)

/-- Run one command; `none` when it is not possible in this state. -/
def exec (x : Server) : Op → Option (Server × Event)
  | .turn a => do
    guard (plain a = true)
    let (t, ops) ← Listener.step x.thread a
    some ({ x with thread := t }, .turn ops)
  | .service op => do
    let session ← x.current
    let conn ← session.qconn
    guard (session.aborted = false)
    let (d, e) ← Dispatch.exec (x.sessions conn) op
    guard (inPass e = true)
    some (x.setSession conn d, .session conn e)
  | .pass a => do
    let session ← x.current
    let conn ← session.qconn
    match (x.sessions conn).pc with
    | .idle =>
      let (t, ops) ← Listener.step x.thread (.pass a)
      some ({ x with thread := t }, .turn ops)
    | _ => none
  | .retire shutdownDone => do
    let session ← x.retiring
    let conn ← session.qconn
    x.retire session conn shutdownDone
  | .worker conn i op =>
    match Dispatch.execTask (x.sessions conn) i op with
    | some (d, .task r act) => some (x.setSession conn d, .session conn (.task r act))
    | _ => none
  | .stop => do
    guard (x.main = .serving)
    let (t, _) ← Listener.step x.thread .stop
    some ({ x with thread := t, main := .joining }, .main .joining)
  | .join => do
    guard (x.main = .joining ∧ x.thread.pc = .done)
    some ({ x with main := .joined }, .main .joined)

/-- The child is in order. -/
structure Kept (max : UInt32) (log : List ConnOp) (x : Server) : Prop where
  heads : AtLoopHead max log x.thread
  sound : ∀ conn, Dispatch.Sound (x.sessions conn)
  idle : ∀ conn, conn ∉ x.active → (x.sessions conn).activeTasks = 0
  ended : x.main.afterJoin = true → x.thread.pc = .done
  drained : x.main.afterPool = true → ∀ conn, ∀ t ∈ (x.sessions conn).tasks, t.pc = .returned

section
variable {x y : Server} {s t : Listener.State} {a : Listener.Answer} {ops log : List ConnOp}
  {max : UInt32} {e : Event}
  {conn : Conn} {d d' : Dispatch.State}

/-- Outside of the sessions the event thread takes none away. -/
lemma plain_active (eff : Effect s a t ops) (is : plain a = true) {session : Session}
    (mem : session ∈ s.io.activeSessions) : session ∈ t.io.activeSessions := by
  cases eff with
  | stop => cases is
  | accept pc =>
    rw [acceptConn_active]
    exact mem
  | handshake pc progressed =>
    obtain ⟨-, -, -, same | ⟨p, -, added⟩⟩ := progressPendingHandshake_active progressed
    · rw [same]
      exact mem
    · rw [added]
      exact List.mem_append_left _ mem
  | pass pc _ _ => cases is
  | retire pc _ => cases is
  | drop pc removed =>
    rw [removePendingHandshake_active removed]
    exact mem
  | enter pc _ => exact mem
  | leave pc _ _ => exact mem
  | pumped pc => exact mem
  | idle pc => exact mem
  | progressed pc _ => exact mem
  | serviced pc _ => exact mem
  | done pc _ => exact mem

/-- No step leads on from the end of the event thread. -/
lemma done_stuck (done : s.pc = .done) (other : a ≠ .stop) : Listener.step s a = none := by
  cases a with
  | stop => exact absurd rfl other
  | _ => simp [Listener.step, done]

/-- A worker never makes `active_tasks` larger. -/
lemma worker_activeTasks {r : Dispatch.Ref} {act : Dispatch.TaskAct}
    (st : Dispatch.Step d (.task r act) d') :
    d'.activeTasks ≤ d.activeTasks := by
  cases st with
  | createRequest => exact le_rfl
  | createContext => exact le_rfl
  | clear => exact le_rfl
  | decrement => exact Int.sub_le_self _ (by decide)
  | destroyPool => exact le_rfl
  | run => exact le_rfl
  | respond => exact le_rfl
  | finish => exact le_rfl
  | markDone => exact le_rfl
  | decrementDone => exact Int.sub_le_self _ (by decide)

/-- A worker that takes a step has not returned. -/
lemma worker_runs {r : Dispatch.Ref} {act : Dispatch.TaskAct}
    (st : Dispatch.Step d (.task r act) d') :
    ∃ u ∈ d.tasks, u.pc ≠ .returned ∧ (u.pc.outstanding = true ∨ act = .destroyPool) := by
  cases st with
  | createRequest _ get => exact ⟨_, List.mem_of_getElem? get, nofun, .inl rfl⟩
  | createContext _ get _ => exact ⟨_, List.mem_of_getElem? get, nofun, .inl rfl⟩
  | clear get _ => exact ⟨_, List.mem_of_getElem? get, nofun, .inl rfl⟩
  | decrement get => exact ⟨_, List.mem_of_getElem? get, nofun, .inl rfl⟩
  | destroyPool get => exact ⟨_, List.mem_of_getElem? get, nofun, .inr rfl⟩
  | run _ _ get _ => exact ⟨_, List.mem_of_getElem? get, nofun, .inl rfl⟩
  | respond get _ _ => exact ⟨_, List.mem_of_getElem? get, nofun, .inl rfl⟩
  | finish get _ _ => exact ⟨_, List.mem_of_getElem? get, nofun, .inl rfl⟩
  | markDone get _ => exact ⟨_, List.mem_of_getElem? get, nofun, .inl rfl⟩
  | decrementDone get => exact ⟨_, List.mem_of_getElem? get, nofun, .inl rfl⟩

/-- The session the thread is at is an active one. -/
lemma Server.current_mem {session : Session} (h : x.current = some session) :
    session ∈ x.thread.io.activeSessions := by
  rw [Server.current] at h
  split at h
  · exact List.mem_of_getElem? h
  · cases h

/-- The connection of the session that is being serviced has a session. -/
lemma Server.current_active {session : Session} (h : x.current = some session)
    (hq : session.qconn = some conn) :
    conn ∈ x.active := List.mem_filterMap.mpr ⟨session, current_mem h, hq⟩

/-- A turn of the event thread that takes no session away. -/
lemma Kept.grow (h : Kept max log x) (st : Listener.Step x.thread ops t)
    (active : ∀ conn, conn ∈ x.active → conn ∈ t.io.activeSessions.filterMap Session.qconn)
    (goes : x.thread.pc ≠ .done) : Kept max (log ++ ops) { x with thread := t } where
  heads := h.heads.step st
  sound := h.sound
  idle conn out := h.idle conn fun mem => out (active conn mem)
  ended join := absurd (h.ended join) goes
  drained := h.drained

/-- A step in one session that is in service, or that keeps `active_tasks` at zero. -/
lemma Kept.setSession {ev : Dispatch.Event} (h : Kept max log x)
    (st : Dispatch.Step (x.sessions conn) ev d) (idle : conn ∉ x.active → d.activeTasks = 0)
    (goes : x.main.afterPool = false) :
    Kept max log (x.setSession conn d) where
  heads := h.heads
  sound c := by
    by_cases hc : c = conn
    · subst hc
      simp only [Server.setSession, Function.update_self]
      exact (h.sound c).step st
    · simp only [Server.setSession, Function.update_of_ne hc]
      exact h.sound c
  idle c out := by
    by_cases hc : c = conn
    · subst hc
      simp only [Server.setSession, Function.update_self]
      exact idle out
    · simp only [Server.setSession, Function.update_of_ne hc]
      exact h.idle c out
  ended := h.ended
  drained pool := by
    have pool : x.main.afterPool = true := pool
    rw [goes] at pool
    cases pool

/-- A worker that takes a step is not past `apr_thread_pool_destroy`. -/
lemma Kept.worker_early {r : Dispatch.Ref} {act : Dispatch.TaskAct} (h : Kept max log x)
    (st : Dispatch.Step (x.sessions conn) (.task r act) d) : x.main.afterPool = false := by
  rw [← Bool.not_eq_true]
  intro pool
  obtain ⟨u, mem, runs, -⟩ := worker_runs st
  exact runs (h.drained pool conn u mem)

/-- The worker pool is destroyed after the thread was joined. -/
lemma Main.afterPool_join {m : Main} (h : m.afterPool = true) : m.afterJoin = true := by
  cases m with
  | serving => cases h
  | joining => cases h
  | _ => rfl

/-- The event thread is not done while it services a session. -/
lemma Kept.servicing_early {session : Session} (h : Kept max log x)
    (current : x.current = some session) :
    x.main.afterPool = false := by
  rw [← Bool.not_eq_true]
  intro pool
  rw [Server.current, h.ended (Main.afterPool_join pool)] at current
  cases current

/-- Without a session, no task of the connection is outstanding. -/
lemma Kept.none_outstanding (h : Kept max log x) (out : conn ∉ x.active) {u : Dispatch.Task}
    (mem : u ∈ (x.sessions conn).tasks) : u.pc.outstanding = false := by
  have counted := (h.sound conn).counted
  rw [h.idle conn out] at counted
  have zero : (x.sessions conn).tasks.countP (fun t => t.pc.outstanding) = 0 := by omega
  have := List.countP_eq_zero.mp zero u mem
  simpa using this

/-- A session that is destroyed. -/
lemma Kept.destroy {session : Session} (h : Kept max log x) (retiring : x.retiring = some session)
    (hq : session.qconn = some conn) (aborted : session.aborted = true)
    (st : Dispatch.Step (x.sessions conn) .destroy d)
    (eq : Listener.step x.thread (.retire true 0) = some (t, ops)) :
    Kept max (log ++ ops) { x.setSession conn d with thread := t } := by
  have zero : d.activeTasks = 0 := by
    cases st with
    | destroy _ zero => exact zero
  have goes : x.main.afterJoin = false := by
    rw [← Bool.not_eq_true]
    intro join
    rw [Server.retiring, h.ended join] at retiring
    cases retiring
  have early : x.main.afterPool = false := by
    rw [← Bool.not_eq_true]
    intro pool
    rw [Main.afterPool_join pool] at goes
    cases goes
  have set := h.setSession st (fun _ => zero) early
  rw [Server.retiring] at retiring
  split at retiring
  · rename_i i pc
    obtain ⟨session', hs, -, effect⟩ := step_retire pc eq
    rw [retiring] at hs
    cases hs
    rw [if_pos (by rw [aborted]; rfl)] at effect
    have perm := (swapRemove_perm retiring).filterMap Session.qconn
    rw [List.filterMap_cons_some hq] at perm
    exact
      { heads := h.heads.step ⟨_, eq⟩
        sound := set.sound
        idle := by
          intro c out
          by_cases hc : c = conn
          · subst hc
            simpa [Server.setSession] using zero
          · simp only [Server.setSession, Function.update_of_ne hc]
            refine h.idle c ?_
            intro mem
            rcases List.mem_cons.mp (perm.mem_iff.mpr mem) with eq | mem
            · exact hc eq
            · rw [Server.active, effect.1] at out
              exact out mem
        ended := by
          intro join
          have join : x.main.afterJoin = true := join
          rw [goes] at join
          cases join
        drained := set.drained }
  · cases retiring

/-- Every step keeps the child in order. -/
lemma Kept.step (h : Kept max log x) (st : Step x e y) : Kept max (log ++ e.ops) y := by
  cases st with
  | @turn a t ops is eq =>
    refine h.grow ⟨a, eq⟩ ?_ ?_
    · intro conn mem
      obtain ⟨session, mem, hq⟩ := List.mem_filterMap.mp mem
      exact List.mem_filterMap.mpr ⟨session, plain_active (step_effect eq) is mem, hq⟩
    · intro done
      have stuck := done_stuck done (a := a) (by rintro rfl; cases is)
      rw [stuck] at eq
      cases eq
  | service current live hq inside st =>
    have set := h.setSession st (fun out => absurd (Server.current_active current hq) out)
      (h.servicing_early current)
    rw [Event.ops, List.append_nil]
    exact set
  | @pass a session conn t ops current hq idle eq =>
    rw [Server.current] at current
    split at current
    · rename_i i pc
      refine h.grow ⟨_, eq⟩ ?_ (by rw [pc]; exact nofun)
      intro c mem
      obtain ⟨session', hs, -, active, -⟩ := step_pass pc eq
      rw [active, filterMap_qconn_set hs (serviceSessionPass_spec _ _ _).2.1]
      exact mem
    · cases current
  | @keep session conn shutdownDone activeTasks t ops retiring hq law kept eq =>
    rw [Server.retiring] at retiring
    split at retiring
    · rename_i i pc
      refine h.grow ⟨_, eq⟩ ?_ (by rw [pc]; exact nofun)
      intro c mem
      obtain ⟨session', hs, -, effect⟩ := step_retire pc eq
      rw [retiring] at hs
      cases hs
      rw [if_neg (by rw [kept]; exact Bool.false_ne_true)] at effect
      rw [effect.1]
      exact mem
    · cases retiring
  | destroy retiring hq aborted st eq => exact h.destroy retiring hq aborted st eq
  | @worker conn r act d st =>
    have early := h.worker_early st
    rw [Event.ops, List.append_nil]
    refine h.setSession st ?_ early
    intro out
    have le := worker_activeTasks st
    have counted := ((h.sound conn).step st).counted
    rw [h.idle conn out] at le
    omega
  | @stop t ops serving eq =>
    have heads := h.heads.step ⟨_, eq⟩
    cases step_effect eq with
    | stop =>
      exact { heads := heads, sound := h.sound, idle := h.idle, ended := nofun, drained := nofun }
  | join joining done =>
    rw [Event.ops, List.append_nil]
    exact { h with ended := fun _ => done, drained := nofun }
  | destroyPool joined waits =>
    have done := h.ended (by rw [joined]; rfl)
    rw [Event.ops, List.append_nil]
    refine { h with ended := fun _ => done, drained := ?_ }
    intro _ conn u mem
    rcases waits conn u mem with queued | returned
    · have out : conn ∉ x.active := by
        rw [Server.active, h.heads.exit (.inr done)]
        exact List.not_mem_nil
      have gone := h.none_outstanding out mem
      rw [queued] at gone
      cases gone
    · exact returned
  | sleep _ _ =>
    rw [Event.ops, List.append_nil]
    exact h
  | destroyEngine pool idle =>
    rw [Event.ops, List.append_nil]
    exact
      { h with
        ended := fun _ => h.ended (by rw [pool]; rfl)
        drained := fun _ => h.drained (by rw [pool]; rfl) }
  | close engine =>
    rw [Event.ops, List.append_nil]
    exact
      { h with
        ended := fun _ => h.ended (by rw [engine]; rfl)
        drained := fun _ => h.drained (by rw [engine]; rfl) }

/-- The child is in order in every run. -/
lemma Kept.run {timeout : UInt32} {es : List Event} (run : Run Step (.init max timeout) es x) :
    Kept max (es.flatMap Event.ops) x := by
  refine run.invariant_hist (P := fun es x => Kept max (es.flatMap Event.ops) x) ?_ ?_
  · intro es x e y h st
    rw [List.flatMap_append, List.flatMap_singleton]
    exact h.step st
  · exact
      { heads := AtLoopHead.run .nil
        sound := fun _ => .init
        idle := fun _ _ => rfl
        ended := nofun
        drained := nofun }

/-- After the join the event thread takes no step any more. -/
lemma Kept.left (h : Kept max log x) (join : x.main.afterJoin = true) (st : Step x e y) :
    e.byMain = true ∨ ∃ conn r, e = .session conn (.task r .destroyPool) := by
  have done := h.ended join
  cases st with
  | @turn a t ops is eq =>
    rw [done_stuck done (a := a) (by rintro rfl; cases is)] at eq
    cases eq
  | service current _ _ _ _ =>
    rw [Server.current, done] at current
    cases current
  | pass current _ _ _ =>
    rw [Server.current, done] at current
    cases current
  | keep retiring _ _ _ _ =>
    rw [Server.retiring, done] at retiring
    cases retiring
  | destroy retiring _ _ _ _ =>
    rw [Server.retiring, done] at retiring
    cases retiring
  | @worker conn r act d st =>
    obtain ⟨u, mem, -, outstanding | rfl⟩ := worker_runs st
    · have out : conn ∉ x.active := by
        rw [Server.active, h.heads.exit (.inr done)]
        exact List.not_mem_nil
      rw [h.none_outstanding out mem] at outstanding
      cases outstanding
    · exact .inr ⟨conn, r, rfl⟩
  | stop _ _ => exact .inl rfl
  | join _ _ => exact .inl rfl
  | destroyPool _ _ => exact .inl rfl
  | sleep _ _ => exact .inl rfl
  | destroyEngine _ _ => exact .inl rfl
  | close _ => exact .inl rfl

/-- Retiring a session is a step of the child. -/
lemma Server.retire_step {session : Session} {shutdownDone : Bool}
    (retiring : x.retiring = some session) (hq : session.qconn = some conn)
    (eq : x.retire session conn shutdownDone = some (y, e)) : Step x e y := by
  obtain ⟨_, law, eq⟩ := Option.bind_eq_some_iff.mp eq
  obtain ⟨⟨t, ops⟩, stepped, eq⟩ := Option.bind_eq_some_iff.mp eq
  dsimp only at eq
  split at eq
  · rename_i all
    split at eq
    · rename_i d destroyed
      cases eq
      rw [Bool.and_eq_true, Bool.and_eq_true, beq_iff_eq] at all
      obtain ⟨⟨aborted, rfl⟩, zero⟩ := all
      rw [zero] at stepped
      exact .destroy retiring hq aborted (Dispatch.exec_step _ _ _ _ destroyed) stepped
    · cases eq
  · rename_i kept
    cases eq
    exact .keep retiring hq (by simpa using law) (Bool.not_eq_true _ ▸ kept) stepped

/-- A command is a step. -/
lemma exec_step (x : Server) (op : Op) (y : Server) (e : Event) (eq : exec x op = some (y, e)) :
    Step x e y := by
  cases op with
  | turn a =>
    obtain ⟨_, is, eq⟩ := Option.bind_eq_some_iff.mp eq
    obtain ⟨⟨t, ops⟩, stepped, eq⟩ := Option.bind_eq_some_iff.mp eq
    cases eq
    exact .turn (by simpa using is) stepped
  | service op =>
    obtain ⟨session, current, eq⟩ := Option.bind_eq_some_iff.mp eq
    obtain ⟨conn, hq, eq⟩ := Option.bind_eq_some_iff.mp eq
    obtain ⟨_, live, eq⟩ := Option.bind_eq_some_iff.mp eq
    obtain ⟨⟨d, e⟩, stepped, eq⟩ := Option.bind_eq_some_iff.mp eq
    obtain ⟨_, inside, eq⟩ := Option.bind_eq_some_iff.mp eq
    cases eq
    exact .service current (by simpa using live) hq (by simpa using inside)
      (Dispatch.exec_step _ _ _ _ stepped)
  | pass a =>
    obtain ⟨session, current, eq⟩ := Option.bind_eq_some_iff.mp eq
    obtain ⟨conn, hq, eq⟩ := Option.bind_eq_some_iff.mp eq
    split at eq
    · rename_i idle
      obtain ⟨⟨t, ops⟩, stepped, eq⟩ := Option.bind_eq_some_iff.mp eq
      cases eq
      exact .pass current hq idle stepped
    · cases eq
  | retire shutdownDone =>
    obtain ⟨session, retiring, eq⟩ := Option.bind_eq_some_iff.mp eq
    obtain ⟨conn, hq, eq⟩ := Option.bind_eq_some_iff.mp eq
    exact Server.retire_step retiring hq eq
  | worker conn i op =>
    simp only [exec] at eq
    split at eq
    · rename_i d r act stepped
      cases eq
      exact .worker (Dispatch.execTask_step stepped)
    · cases eq
  | stop =>
    obtain ⟨_, serving, eq⟩ := Option.bind_eq_some_iff.mp eq
    obtain ⟨⟨t, ops⟩, stepped, eq⟩ := Option.bind_eq_some_iff.mp eq
    cases eq
    exact .stop (by simpa using serving) stepped
  | join =>
    obtain ⟨_, both, eq⟩ := Option.bind_eq_some_iff.mp eq
    cases eq
    have both : x.main = .joining ∧ x.thread.pc = .done := by simpa using both
    exact .join both.1 both.2

end

/-- What `teardown` finds, whatever the threads did before and in which order. A connection without
a session has no task that is not past its final decrement. Once the event thread is joined there is
no session and no pending handshake left and every connection that was accepted was freed exactly
once; no task is queued that `apr_thread_pool_destroy` would drop, and of the workers only those can
still take a step that have to destroy their own pool. After the worker pool is destroyed no thread
but the main thread takes a step, so the engine and the socket are not used by another one when they
go; and the main thread never sleeps for a session to end. -/
theorem teardown_finds_nothing {max timeout : UInt32} {es : List Event} {x : Server}
    (run : Run Step (.init max timeout) es x) :
    (∀ conn ∉ x.active, ∀ u ∈ (x.sessions conn).tasks, u.pc.outstanding = false) ∧
      (x.main.afterJoin = true →
        x.thread.io.activeSessions = [] ∧ x.thread.io.pendingHandshakes = [] ∧
        (∀ conn < x.thread.io.accepted, (freed (es.flatMap Event.ops)).count conn = 1) ∧
        (∀ conn, ∀ u ∈ (x.sessions conn).tasks, u.pc.outstanding = false) ∧
        ∀ e y, Step x e y → e.byMain = true ∨ ∃ conn r, e = .session conn (.task r .destroyPool)) ∧
      (x.main.afterPool = true → ∀ e y, Step x e y → e.byMain = true) ∧
      ∀ y, ¬ Step x .sleep y := by
  have h := Kept.run run
  refine ⟨fun conn out u mem => h.none_outstanding out mem, ?_, ?_, ?_⟩
  · intro join
    have done := h.ended join
    have inactive := h.heads.exit (.inr done)
    refine ⟨inactive, h.heads.done done, ?_, ?_, fun e y st => h.left join st⟩
    · intro conn lt
      refine h.heads.conserved.ledger.count_freed lt ?_
      rw [Io.owned, inactive, h.heads.done done]
      exact List.not_mem_nil
    · intro conn u mem
      refine h.none_outstanding ?_ mem
      rw [Server.active, inactive]
      exact List.not_mem_nil
  · intro pool e y st
    rcases h.left (Main.afterPool_join pool) st with main | ⟨conn, r, rfl⟩
    · exact main
    · cases st with
      | service _ _ _ inside _ => cases inside
      | worker st =>
        rw [h.worker_early st] at pool
        cases pool
  · intro y st
    cases st with
    | sleep pool busy =>
      have done := h.ended (by rw [pool]; rfl)
      exact busy (h.heads.exit (.inr done))

/-- A client sends a request, and the child is stopped while its task is in the queue. The thread
comes to the session twice: the first time the task keeps it, and then the task has failed early. -/
def stoppedWithTask : List Op :=
  [.turn .tick, .turn (.pumped 1), .turn (.accept true 0), .turn (.idle 5),
    .turn (.handshake { closed := false, handshakeDone := true, spawn := spawnOk }), .turn .tick,
    .service (.track true false 1024), .service (.flags 0 true false true true false),
    .service (.drain [0]),
    .service .process, .service (.reserve true), .service (.push true), .service .skip,
    .pass quietPass, .retire false,
    .turn .tick, .stop, .turn .tick, .turn (.pumped 0), .pass quietPass, .retire true, .turn .tick,
    .worker 0 0 (.createRequest false), .turn .tick, .worker 0 0 .clear, .turn (.pumped 0),
    .pass quietPass,
    .worker 0 0 .decrement, .retire true, .turn .tick, .turn .tick, .turn .tick, .join]

/-- When the event thread of `stoppedWithTask` was joined, nothing is outstanding. -/
theorem teardown_finds_nothing_withTask :
    ∃ es x, Run Step (.init 2 10) es x ∧ x.main = .joined ∧ x.thread.io.accepted = 1 ∧
    (x.sessions 0).tasks.length = 1 ∧
      (∀ u ∈ (x.sessions 0).tasks, u.pc.outstanding = false) ∧
      (freed (es.flatMap Event.ops)).count 0 = 1 := by
  have run : ((execAll exec (.init 2 10) stoppedWithTask).map fun r =>
      (r.1.main, r.1.thread.io.accepted, (r.1.sessions 0).tasks.length)) =
      some (.joined, 1, 1) := by
    decide +kernel
  obtain ⟨⟨x, es⟩, run, e⟩ := Option.map_eq_some_iff.mp run
  simp only [Prod.mk.injEq] at e
  obtain ⟨joined, one, task⟩ := e
  have run := execAll_run exec_step run
  obtain ⟨-, -, freed, gone, -⟩ := (teardown_finds_nothing run).2.1 (by rw [joined]; rfl)
  rw [one] at freed
  exact ⟨es, x, run, joined, one, task, gone 0, freed 0 (by decide)⟩

end ModHttp3.Shutdown

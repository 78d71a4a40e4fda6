import ModHttp3.Lib.Run

/-!
# Who closes the UDP socket

Model of `h3_child_init`, `port_acquire_thread_fn` and `h3_c1_child_stopping` (`h3_server.c`) and of
`teardown`, `h3_io_listen_start` and `h3_io_listen_stop` (`h3_io.c`), as far as they pass the
descriptor of the UDP socket along. C → Lean naming: the `h3_` prefix is dropped and the rest is in
camel case.

`step` is a move of one of two threads: the child's main thread, which runs `h3_child_init` and
later `h3_c1_child_stopping`, and the port acquirer, which `h3_child_init` starts when another
process owns the port. They share `child_stopping` and `child_h3_io`. `h3_io_listen_start` is one
move: the other thread cannot tell, since the main thread does not look at `child_h3_io` before it
has joined the acquirer. What the system calls return is the argument of `step`; its result lists
the descriptors that `h3_socket_open` returned, what the calls in `h3_io_listen_start` returned, and
the descriptors that were passed to `h3_socket_close`, in order.

When `h3_io_listen_start` fails, its caller closes the descriptor. It was closed before if the call
that failed is one whose failure calls `teardown` (`descriptor_closed_once_iff`).
-/

namespace ModHttp3.Startup
open ModHttp3.Lib

/-- A descriptor; the C code has -1 for none. -/
abbrev Fd := Nat

/-- The part of `h3_io_t` that is set up and torn down. -/
structure Io where
  threadRunning : Bool
  eventThread : Bool
  workerPool : Bool
  qengine : Bool
  noteConnAdded : Bool
  noteConnRemoved : Bool
  udpFd : Option Fd
deriving DecidableEq

/-- C `teardown`, with what it passes to `h3_socket_close`. The event thread ends without sessions,
so that nothing is waited for after it was joined. -/
def teardown (io : Io) : Io × List Fd :=
  let io := if io.eventThread then { io with threadRunning := false, eventThread := false } else io
  let io := { io with workerPool := false, qengine := false }
  match io.udpFd with
  | some fd => ({ io with udpFd := none }, [fd])
  | none => (io, [])

/-- Which of the calls in `h3_io_listen_start` succeed. -/
structure StartAnswer where
  wakeup : Bool
  workerPool : Bool
  engine : Bool
  noteConnAdded : Bool
  noteConnRemoved : Bool
  threadattr : Bool
  thread : Bool
deriving DecidableEq

/-- All calls in `h3_io_listen_start` succeed. -/
def startOk : StartAnswer where
  wakeup := true
  workerPool := true
  engine := true
  noteConnAdded := true
  noteConnRemoved := true
  threadattr := true
  thread := true

/-- What `h3_io_listen_start` leaves in `child_h3_io`, what it passes to `h3_socket_close`, and
whether it returns `APR_SUCCESS`. -/
structure Started where
  childH3Io : Option Io
  closed : List Fd
  success : Bool

/-- C `h3_io_listen_start`. -/
def ioListenStart (childH3Io : Option Io) (udpFd : Fd) (a : StartAnswer) : Started :=
  let io : Io :=
    { threadRunning := false, eventThread := false, workerPool := false, qengine := false
      noteConnAdded := false, noteConnRemoved := false, udpFd := some udpFd }
  if !a.wakeup then
    { childH3Io, closed := [], success := false }
  else if !a.workerPool then
    { childH3Io, closed := [], success := false }
  else
    let io := { io with workerPool := true }
    if !a.engine then
      { childH3Io, closed := (teardown io).2, success := false }
    else
      let io :=
        { io with
          qengine := true
          noteConnAdded := a.noteConnAdded
          noteConnRemoved := a.noteConnRemoved }
      if !io.noteConnAdded || !io.noteConnRemoved then
        { childH3Io, closed := (teardown io).2, success := false }
      else
        let io := { io with threadRunning := true }
        if !a.threadattr || !a.thread then
          let io := { io with threadRunning := false }
          { childH3Io := none, closed := (teardown io).2, success := false }
        else
          { childH3Io := some { io with eventThread := true }, closed := [], success := true }

/-- C `h3_io_listen_stop` of `child_h3_io`, with what it passes to `h3_socket_close`. -/
def ioListenStop (childH3Io : Option Io) : Option Io × List Fd :=
  match childH3Io with
  | some io => (none, (teardown io).2)
  | none => (none, [])

/-- Where the main thread is: before `h3_child_init`, in it after `h3_socket_open`, after it, and in
`h3_c1_child_stopping` before and after the join. -/
inductive Main where
  | init
  | spawning
  | starting (udpFd : Fd)
  | serving
  | stopping
  | joined
  | stopped
deriving DecidableEq

/-- Where the port acquirer is: not started, before and after the test of its loop, after
`h3_socket_open`, before `h3_io_listen_start`, and at its end. -/
inductive Acquirer where
  | idle
  | head
  | opening
  | opened (udpFd : Fd)
  | starting (udpFd : Fd)
  | done
deriving DecidableEq

/-- A child process of the server. -/
structure Child where
  childStopping : Bool
  portAcquireThread : Bool
  childH3Io : Option Io
  main : Main
  acquirer : Acquirer
deriving DecidableEq

/-- A child before `h3_child_init`. -/
def Child.new : Child where
  childStopping := false
  portAcquireThread := false
  childH3Io := none
  main := .init
  acquirer := .idle

/-- What `h3_socket_open` returns. -/
inductive OpenAnswer where
  | ok (udpFd : Fd)
  | eagain
  | error

/-- A move of one of the threads, with what the calls it makes return. -/
inductive Move where
  | unconfigured
  | openSocket (a : OpenAnswer)
  | spawn (ok : Bool)
  | start (a : StartAnswer)
  | stop
  | join
  | listenStop
  | acquirerTest
  | acquirerOpen (a : OpenAnswer)
  | acquirerStart (a : StartAnswer)

/-- What was done about descriptors. -/
inductive Event where
  | opened (fd : Fd)
  | closed (fd : Fd)
  | start (a : StartAnswer)
deriving DecidableEq

/-- What is passed to `h3_socket_close` in `h3_io_listen_start` and, if that fails, after it in the
caller. -/
def Started.closes (r : Started) (udpFd : Fd) : List Event :=
  r.closed.map .closed ++ if r.success then [] else [.closed udpFd]

/-- One move. -/
def step (s : Child) (m : Move) : Option (Child × List Event) :=
  match m with
  | .unconfigured => if s.main = .init then some ({ s with main := .serving }, []) else none
  | .openSocket a =>
    if s.main = .init then
      match a with
      | .ok fd => some ({ s with main := .starting fd }, [.opened fd])
      | .eagain => some ({ s with main := .spawning }, [])
      | .error => some ({ s with main := .serving }, [])
    else
      none
  | .spawn ok =>
    if s.main = .spawning then
      if ok then
        some ({ s with main := .serving, portAcquireThread := true, acquirer := .head }, [])
      else
        some ({ s with main := .serving, portAcquireThread := false }, [])
    else
      none
  | .start a =>
    match s.main with
    | .starting fd =>
      let r := ioListenStart s.childH3Io fd a
      some ({ s with main := .serving, childH3Io := r.childH3Io }, .start a :: r.closes fd)
    | _ => none
  | .stop =>
    if s.main = .serving then
      some ({ s with main := .stopping, childStopping := true }, [])
    else
      none
  | .join =>
    if s.main = .stopping then
      if s.portAcquireThread then
        if s.acquirer = .done then
          some ({ s with main := .joined, portAcquireThread := false }, [])
        else
          none
      else
        some ({ s with main := .joined }, [])
    else
      none
  | .listenStop =>
    if s.main = .joined then
      let r := ioListenStop s.childH3Io
      some ({ s with main := .stopped, childH3Io := r.1 }, r.2.map .closed)
    else
      none
  | .acquirerTest =>
    match s.acquirer with
    | .head => some ({ s with acquirer := if s.childStopping then .done else .opening }, [])
    | .opened fd =>
      if s.childStopping then
        some ({ s with acquirer := .done }, [.closed fd])
      else
        some ({ s with acquirer := .starting fd }, [])
    | _ => none
  | .acquirerOpen a =>
    if s.acquirer = .opening then
      match a with
      | .ok fd => some ({ s with acquirer := .opened fd }, [.opened fd])
      | .eagain => some ({ s with acquirer := .head }, [])
      | .error => some ({ s with acquirer := .done }, [])
    else
      none
  | .acquirerStart a =>
    match s.acquirer with
    | .starting fd =>
      let r := ioListenStart s.childH3Io fd a
      some ({ s with acquirer := .done, childH3Io := r.childH3Io }, .start a :: r.closes fd)
    | _ => none

/-- The moves as a step relation, labelled by what was done about descriptors. -/
def Step (s : Child) (es : List Event) (t : Child) : Prop := ∃ m, step s m = some (t, es)

/-- A call fails in `h3_io_listen_start` after the worker pool was created, so that `teardown` is
called. -/
def StartAnswer.tearsDown (a : StartAnswer) : Bool := a.wakeup && a.workerPool && a != startOk

/-- `teardown` closes the descriptor the listener has. -/
lemma teardown_closes {io : Io} {fd : Fd} (h : io.udpFd = some fd) : (teardown io).2 = [fd] := by
  have kept :
      (if io.eventThread then
        { io with threadRunning := false, eventThread := false }
      else
        io).udpFd =
      some fd := by
    split
    · exact h
    · exact h
  rw [teardown]
  simp only [kept]

/-- `h3_io_listen_start` leaves the descriptor in `child_h3_io` if all its calls succeed. Otherwise
it fails, with the descriptor closed if it called `teardown`. -/
lemma ioListenStart_spec (fd : Fd) (a : StartAnswer) :
    (a = startOk ∧ ∃ io, ioListenStart none fd a =
      { childH3Io := some io, closed := [], success := true } ∧
        io.udpFd = some fd) ∨
      ioListenStart none fd a =
        { childH3Io := none, closed := if a.tearsDown then [fd] else [], success := false } := by
  obtain ⟨wakeup, workerPool, engine, noteConnAdded, noteConnRemoved, threadattr, thread⟩ := a
  cases wakeup with
  | false => exact .inr rfl
  | true =>
    cases workerPool with
    | false => exact .inr rfl
    | true =>
      cases engine with
      | false => exact .inr rfl
      | true =>
        cases noteConnAdded <;> cases noteConnRemoved <;> cases threadattr <;> cases thread
        all_goals first | exact .inr rfl | exact .inl ⟨rfl, _, rfl, rfl⟩

/-- The acquirer is running and has no descriptor. -/
def Acquirer.seeking : Acquirer → Bool
  | .head | .opening => true
  | _ => false

/-- The descriptor the acquirer has. -/
def Acquirer.holds : Acquirer → Option Fd
  | .opened fd | .starting fd => some fd
  | _ => none

/-- No thread has a descriptor or can come by one. -/
structure Settled (s : Child) : Prop where
  main : s.main = .serving ∨ s.main = .stopping ∨ s.main = .joined ∨ s.main = .stopped
  acquirer : s.acquirer = .idle ∨ s.acquirer = .done

/-- The acquirer runs: the main thread is not beyond the join. -/
structure Acquiring (s : Child) : Prop where
  thread : s.portAcquireThread = true
  main : s.main = .serving ∨ s.main = .stopping

/-- Everything done about descriptor `fd` until it was closed for good. -/
inductive Closed (fd : Fd) : List Event → Prop where
  | unused : Closed fd [.opened fd, .closed fd]
  | once {a : StartAnswer} : a.tearsDown = false → Closed fd [.opened fd, .start a, .closed fd]
  | twice {a : StartAnswer} : a.tearsDown = true →
    Closed fd [.opened fd, .start a, .closed fd, .closed fd]

/-- Where the descriptor is. -/
inductive Whereabouts (es : List Event) (s : Child) : Prop where
  /-- `h3_child_init` has not opened it yet. -/
  | early :
    es = [] → s.childH3Io = none → s.main = .init ∨ s.main = .spawning → s.acquirer = .idle →
    Whereabouts es s
  /-- The acquirer tries to open it. -/
  | sought :
    es = [] → s.childH3Io = none → Acquiring s → s.acquirer.seeking = true →
    Whereabouts es s
  /-- It was never opened. -/
  | never :
    es = [] → s.childH3Io = none → Settled s →
    Whereabouts es s
  /-- `h3_child_init` has it. -/
  | withMain {fd : Fd} :
    es = [.opened fd] → s.childH3Io = none → s.main = .starting fd → s.acquirer = .idle →
    Whereabouts es s
  /-- The acquirer has it. -/
  | withAcquirer {fd : Fd} :
    es = [.opened fd] → s.childH3Io = none → Acquiring s → s.acquirer.holds = some fd →
    Whereabouts es s
  /-- The listener has it. -/
  | withListener {fd : Fd} {io : Io} :
    es = [.opened fd, .start startOk] → s.childH3Io = some io → io.udpFd = some fd → Settled s →
    s.main ≠ .stopped →
    Whereabouts es s
  /-- It is closed. -/
  | closed (fd : Fd) :
    Closed fd es → s.childH3Io = none → Settled s →
    Whereabouts es s

section
variable {s t : Child} {m : Move} {es fs : List Event}

/-- When no thread has a descriptor, the main thread stops the listener at the end, and nothing is
done about descriptors before. -/
lemma Settled.step (h : Settled s) (eq : Startup.step s m = some (t, fs)) :
    Settled t ∧ ((fs = [] ∧ t.childH3Io = s.childH3Io ∧ t.main ≠ .stopped) ∨
      (fs = (ioListenStop s.childH3Io).2.map .closed ∧ t.childH3Io = none)) := by
  obtain ⟨childStopping, portAcquireThread, childH3Io, main, acquirer⟩ := s
  obtain ⟨hm, ha⟩ := h
  dsimp only at hm ha
  cases m with
  | stop =>
    simp only [Startup.step] at eq
    split at eq
    · cases eq
      exact ⟨⟨.inr (.inl rfl), ha⟩, .inl ⟨rfl, rfl, nofun⟩⟩
    · cases eq
  | join =>
    simp only [Startup.step] at eq
    split at eq
    · split at eq
      · split at eq
        · cases eq
          exact ⟨⟨.inr (.inr (.inl rfl)), ha⟩, .inl ⟨rfl, rfl, nofun⟩⟩
        · cases eq
      · cases eq
        exact ⟨⟨.inr (.inr (.inl rfl)), ha⟩, .inl ⟨rfl, rfl, nofun⟩⟩
    · cases eq
  | listenStop =>
    simp only [Startup.step] at eq
    split at eq
    · cases eq
      refine ⟨⟨.inr (.inr (.inr rfl)), ha⟩, .inr ⟨rfl, ?_⟩⟩
      cases childH3Io <;> rfl
    · cases eq
  | acquirerTest => rcases ha with rfl | rfl <;> cases eq
  | acquirerOpen a => rcases ha with rfl | rfl <;> cases eq
  | acquirerStart a => rcases ha with rfl | rfl <;> cases eq
  | _ => rcases hm with rfl | rfl | rfl | rfl <;> cases eq

/-- While the acquirer runs, all the main thread can do is to enter `h3_c1_child_stopping`. -/
lemma Acquiring.step (h : Acquiring s) (busy : s.acquirer ≠ .done)
    (eq : Startup.step s m = some (t, fs)) :
    (t = { s with main := .stopping, childStopping := true } ∧ fs = []) ∨ m = .acquirerTest ∨
      (∃ a, m = .acquirerOpen a) ∨ ∃ a, m = .acquirerStart a := by
  obtain ⟨childStopping, portAcquireThread, childH3Io, main, acquirer⟩ := s
  obtain ⟨rfl, hm⟩ := h
  dsimp only at hm busy
  cases m with
  | stop =>
    simp only [Startup.step] at eq
    split at eq
    · cases eq
      exact .inl ⟨rfl, rfl⟩
    · cases eq
  | join =>
    simp only [Startup.step, if_neg busy, if_true] at eq
    split at eq
    · cases eq
    · cases eq
  | acquirerTest => exact .inr (.inl rfl)
  | acquirerOpen a => exact .inr (.inr (.inl ⟨a, rfl⟩))
  | acquirerStart a => exact .inr (.inr (.inr ⟨a, rfl⟩))
  | _ => rcases hm with rfl | rfl <;> cases eq

/-- The main thread does not get past the join while the acquirer runs. -/
lemma Acquiring.not_stopped (h : Acquiring s) : s.main ≠ .stopped := by
  intro stopped
  have hm := h.main
  rw [stopped] at hm
  rcases hm with hm | hm
  · cases hm
  · cases hm

/-- After `h3_io_listen_start` and its caller, the listener has the descriptor or it is closed. -/
lemma Whereabouts.started {fd : Fd} {a : StartAnswer}
    (io : t.childH3Io = (ioListenStart none fd a).childH3Io) (settled : Settled t)
    (before : t.main ≠ .stopped) :
    Whereabouts ([.opened fd] ++ .start a :: (ioListenStart none fd a).closes fd) t := by
  rcases ioListenStart_spec fd a with ⟨rfl, io', eq, has⟩ | eq
  · rw [eq] at io ⊢
    exact .withListener rfl io has settled before
  · rw [eq] at io ⊢
    refine .closed fd ?_ io settled
    cases down : a.tearsDown with
    | true => exact .twice down
    | false => exact .once down

/-- The main thread in `h3_child_init`. -/
lemma Whereabouts.early_step (io : s.childH3Io = none) (hm : s.main = .init ∨ s.main = .spawning)
    (ha : s.acquirer = .idle) (eq : Startup.step s m = some (t, fs)) : Whereabouts fs t := by
  obtain ⟨childStopping, portAcquireThread, childH3Io, main, acquirer⟩ := s
  dsimp only at io hm ha
  subst io ha
  have serving : ∀ thread, Settled ⟨childStopping, thread, none, .serving, .idle⟩ :=
    fun _ => ⟨.inl rfl, .inl rfl⟩
  rcases hm with rfl | rfl
  · cases m with
    | unconfigured =>
      cases eq
      exact .never rfl rfl (serving _)
    | openSocket a =>
      cases a with
      | ok fd =>
        cases eq
        exact .withMain rfl rfl rfl rfl
      | eagain =>
        cases eq
        exact .early rfl rfl (.inr rfl) rfl
      | error =>
        cases eq
        exact .never rfl rfl (serving _)
    | _ => cases eq
  · cases m with
    | spawn ok =>
      cases ok with
      | true =>
        cases eq
        exact .sought rfl rfl ⟨rfl, .inl rfl⟩ rfl
      | false =>
        cases eq
        exact .never rfl rfl (serving _)
    | _ => cases eq

/-- The acquirer in its loop, before it has opened the socket. -/
lemma Whereabouts.sought_step (io : s.childH3Io = none) (acq : Acquiring s)
    (ha : s.acquirer.seeking = true) (eq : Startup.step s m = some (t, fs)) : Whereabouts fs t := by
  have busy : s.acquirer ≠ .done := by
    intro done
    rw [done] at ha
    cases ha
  have moves := acq.step busy eq
  obtain ⟨childStopping, portAcquireThread, childH3Io, main, acquirer⟩ := s
  obtain ⟨thread, hm⟩ := acq
  dsimp only at io thread hm ha
  subst io thread
  have ended : Settled ⟨childStopping, true, none, main, .done⟩ :=
    ⟨hm.elim .inl fun h => .inr (.inl h), .inr rfl⟩
  rcases moves with ⟨rfl, rfl⟩ | rfl | ⟨a, rfl⟩ | ⟨a, rfl⟩
  · exact .sought rfl rfl ⟨rfl, .inr rfl⟩ ha
  · cases acquirer with
    | head =>
      cases childStopping with
      | true =>
        cases eq
        exact .never rfl rfl ended
      | false =>
        cases eq
        exact .sought rfl rfl ⟨rfl, hm⟩ rfl
    | opening => cases eq
    | _ => cases ha
  · cases acquirer with
    | opening =>
      cases a with
      | ok fd =>
        cases eq
        exact .withAcquirer rfl rfl ⟨rfl, hm⟩ rfl
      | eagain =>
        cases eq
        exact .sought rfl rfl ⟨rfl, hm⟩ rfl
      | error =>
        cases eq
        exact .never rfl rfl ended
    | head => cases eq
    | _ => cases ha
  · cases acquirer with
    | head => cases eq
    | opening => cases eq
    | _ => cases ha

/-- The acquirer with a descriptor. -/
lemma Whereabouts.withAcquirer_step {fd : Fd} (io : s.childH3Io = none) (acq : Acquiring s)
    (ha : s.acquirer.holds = some fd) (eq : Startup.step s m = some (t, fs)) :
    Whereabouts ([.opened fd] ++ fs) t := by
  have busy : s.acquirer ≠ .done := by
    intro done
    rw [done] at ha
    cases ha
  have moves := acq.step busy eq
  have before := acq.not_stopped
  obtain ⟨childStopping, portAcquireThread, childH3Io, main, acquirer⟩ := s
  obtain ⟨thread, hm⟩ := acq
  dsimp only at io thread hm ha
  subst io thread
  have ended : ∀ io, Settled ⟨childStopping, true, io, main, .done⟩ :=
    fun _ => ⟨hm.elim .inl fun h => .inr (.inl h), .inr rfl⟩
  rcases moves with ⟨rfl, rfl⟩ | rfl | ⟨a, rfl⟩ | ⟨a, rfl⟩
  · exact .withAcquirer rfl rfl ⟨rfl, .inr rfl⟩ ha
  · cases acquirer with
    | opened fd' =>
      cases ha
      cases childStopping with
      | true =>
        cases eq
        exact .closed fd .unused rfl (ended none)
      | false =>
        cases eq
        exact .withAcquirer rfl rfl ⟨rfl, hm⟩ rfl
    | starting fd' => cases eq
    | _ => cases ha
  · cases acquirer with
    | opened fd' => cases eq
    | starting fd' => cases eq
    | _ => cases ha
  · cases acquirer with
    | starting fd' =>
      cases ha
      cases eq
      exact .started rfl (ended _) before
    | opened fd' => cases eq
    | _ => cases ha

/-- Every move takes the descriptor from one of these places to another. -/
lemma Whereabouts.step (h : Whereabouts es s) (st : Step s fs t) : Whereabouts (es ++ fs) t := by
  obtain ⟨m, eq⟩ := st
  cases h with
  | early es io hm ha =>
    subst es
    exact .early_step io hm ha eq
  | sought es io acq ha =>
    subst es
    exact .sought_step io acq ha eq
  | never es io settled =>
    subst es
    obtain ⟨settled', ⟨rfl, io', -⟩ | ⟨rfl, io'⟩⟩ := settled.step eq
    · exact .never rfl (io'.trans io) settled'
    · rw [io]
      exact .never rfl io' settled'
  | @withMain fd es io hm ha =>
    subst es
    obtain ⟨childStopping, portAcquireThread, childH3Io, main, acquirer⟩ := s
    dsimp only at io hm ha
    subst io hm ha
    cases m with
    | start a =>
      cases eq
      exact .started rfl ⟨.inl rfl, .inl rfl⟩ nofun
    | _ => cases eq
  | withAcquirer es io acq ha =>
    subst es
    exact .withAcquirer_step io acq ha eq
  | @withListener fd io es hio has settled before =>
    subst es
    obtain ⟨settled', ⟨rfl, io', before'⟩ | ⟨rfl, io'⟩⟩ := settled.step eq
    · exact .withListener rfl (io'.trans hio) has settled' before'
    · rw [hio]
      refine .closed fd ?_ io' settled'
      rw [ioListenStop, teardown_closes has]
      exact .once rfl
  | closed fd all io settled =>
    obtain ⟨settled', ⟨rfl, io', -⟩ | ⟨rfl, io'⟩⟩ := settled.step eq
    · rw [List.append_nil]
      exact .closed fd all (io'.trans io) settled'
    · rw [io]
      exact .closed fd (by rw [ioListenStop, List.map_nil, List.append_nil]; exact all) io' settled'

/-- A new child has opened nothing. -/
lemma Whereabouts.new : Whereabouts [] .new := .early rfl rfl (.inl rfl) rfl

/-- When the child has stopped, the descriptor was never opened or it is closed. -/
lemma Whereabouts.stopped (h : Whereabouts es s) (stopped : s.main = .stopped) :
    es = [] ∨ ∃ fd, Closed fd es := by
  cases h with
  | early _ _ hm _ =>
    rw [stopped] at hm
    rcases hm with hm | hm
    · cases hm
    · cases hm
  | sought _ _ acq _ => exact absurd stopped acq.not_stopped
  | never unopened _ _ => exact .inl unopened
  | withMain _ _ hm _ =>
    rw [stopped] at hm
    cases hm
  | withAcquirer _ _ acq _ => exact absurd stopped acq.not_stopped
  | withListener _ _ _ _ before => exact absurd stopped before
  | closed fd all _ _ => exact .inr ⟨fd, all⟩

end

/-- How often a descriptor was passed to `h3_socket_close`. -/
def closes (fd : Fd) (es : List Event) : Nat := es.count (.closed fd)

/-- A descriptor that was closed for good was closed once, unless `h3_io_listen_start` called
`teardown`. -/
lemma Closed.closes {fd : Fd} {es : List Event} (h : Closed fd es) :
    (Startup.closes fd es = 1 ↔ ∀ a, .start a ∈ es → a.tearsDown = false) ∧
      (Startup.closes fd es = 1 ∨ Startup.closes fd es = 2) := by
  cases h with
  | unused => simp [Startup.closes]
  | once down => simp [Startup.closes, down]
  | twice down => simp [Startup.closes, down]

/-- No other descriptor was opened. -/
lemma Closed.opened {fd fd' : Fd} {es : List Event} (h : Closed fd es) (opened : .opened fd' ∈ es) :
    fd' = fd := by
  cases h with
  | unused => simpa using opened
  | once _ => simpa using opened
  | twice _ => simpa using opened

/-- `teardown` is not called if a call up to the creation of the worker pool fails, or none. -/
lemma tearsDown_eq_false {a : StartAnswer} :
    a.tearsDown = false ↔ a.wakeup = false ∨ a.workerPool = false ∨ a = startOk := by
  rw [StartAnswer.tearsDown]
  cases a.wakeup <;> cases a.workerPool <;> simp

/-- When a child has stopped, each descriptor that `h3_socket_open` returned was passed to
`h3_socket_close` exactly once if and only if `h3_io_listen_start` was not called, or the creation
of the wakeup or of the worker pool failed in it, or all its calls succeeded. Otherwise, if the
creation of the engine, the notifications of the MPM or the event thread failed, it was closed
twice. -/
theorem descriptor_closed_once_iff {es : List (List Event)} {s : Child} {fd : Fd}
    (run : Run Step .new es s) (stopped : s.main = .stopped) (opened : .opened fd ∈ es.flatten) :
    (closes fd es.flatten = 1 ↔
        ∀ a, .start a ∈ es.flatten → a.wakeup = false ∨ a.workerPool = false ∨ a = startOk) ∧
      (closes fd es.flatten = 1 ∨ closes fd es.flatten = 2) := by
  have inv : Whereabouts es.flatten s := by
    refine run.invariant_hist (P := fun es s => Whereabouts es.flatten s) ?_ .new
    intro es s fs t h st
    rw [List.flatten_append, List.flatten_singleton]
    exact h.step st
  rcases inv.stopped stopped with never | ⟨fd', all⟩
  · rw [never] at opened
    cases opened
  · obtain rfl := all.opened opened
    obtain ⟨once, count⟩ := all.closes
    exact ⟨once.trans (forall_congr' fun a => imp_congr_right fun _ => tearsDown_eq_false), count⟩

/-- `h3_child_init` opens the socket, and then the worker pool cannot be created: only the caller
closes the socket. -/
theorem descriptor_closed_once_iff_workerPool :
    ∃ es s, Run Step .new es s ∧ s.main = .stopped ∧
      es.flatten = [.opened 7, .start { startOk with workerPool := false }, .closed 7] ∧
      closes 7 es.flatten = 1 := by
  have eq :
      (execAll step .new [.openSocket (.ok 7), .start { startOk with workerPool := false }, .stop,
        .join, .listenStop]).map (fun r => (r.1.main, r.2.flatten)) =
      some (.stopped, [.opened 7, .start { startOk with workerPool := false }, .closed 7]) := by
    decide +kernel
  obtain ⟨⟨s, es⟩, exec, h⟩ := Option.map_eq_some_iff.mp eq
  simp only [Prod.mk.injEq] at h
  obtain ⟨stopped, events⟩ := h
  have run : Run Step .new es s := execAll_run (fun _ m _ _ h => ⟨m, h⟩) exec
  refine ⟨es, s, run, stopped, events, (descriptor_closed_once_iff run stopped ?_).1.mpr ?_⟩
  · rw [events]
    decide
  · rw [events]
    simp

/-- The engine cannot be created, in `h3_child_init` or in the acquirer after a retry: the socket is
closed by `teardown` and once more by the caller. -/
theorem engine_failure_closes_twice :
    (∃ es s, Run Step .new es s ∧ s.main = .stopped ∧
      es.flatten = [.opened 7, .start { startOk with engine := false }, .closed 7, .closed 7] ∧
      closes 7 es.flatten = 2) ∧
    ∃ es s, Run Step .new es s ∧ s.main = .stopped ∧ s.acquirer = .done ∧
      es.flatten = [.opened 7, .start { startOk with engine := false }, .closed 7, .closed 7] ∧
      closes 7 es.flatten = 2 := by
  have main :
      (execAll step .new [.openSocket (.ok 7), .start { startOk with engine := false }, .stop,
        .join, .listenStop]).map (fun r => (r.1.main, r.2.flatten)) =
      some (.stopped,
        [.opened 7, .start { startOk with engine := false }, .closed 7, .closed 7]) := by
    decide +kernel
  have acquirer :
      (execAll step .new [.openSocket .eagain, .spawn true, .acquirerTest, .acquirerOpen .eagain,
        .acquirerTest, .acquirerOpen (.ok 7), .acquirerTest,
        .acquirerStart { startOk with engine := false }, .stop, .join, .listenStop]).map
        (fun r => (r.1.main, r.1.acquirer, r.2.flatten)) =
      some (.stopped, .done,
        [.opened 7, .start { startOk with engine := false }, .closed 7, .closed 7]) := by
    decide +kernel
  constructor
  · obtain ⟨⟨s, es⟩, exec, h⟩ := Option.map_eq_some_iff.mp main
    simp only [Prod.mk.injEq] at h
    refine ⟨es, s, execAll_run (fun _ m _ _ h => ⟨m, h⟩) exec, h.1, h.2, ?_⟩
    rw [h.2]
    decide
  · obtain ⟨⟨s, es⟩, exec, h⟩ := Option.map_eq_some_iff.mp acquirer
    simp only [Prod.mk.injEq] at h
    refine ⟨es, s, execAll_run (fun _ m _ _ h => ⟨m, h⟩) exec, h.1, h.2.1, h.2.2, ?_⟩
    rw [h.2.2]
    decide

end ModHttp3.Startup

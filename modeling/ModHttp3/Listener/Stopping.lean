import ModHttp3.Listener.Effect

/-!
# Stopping the event thread

`teardown` clears `thread_running` and joins the event thread, which has to service its sessions
until they are closed. From the next pump on nothing is accepted and no handshake is looked at. The
first service pass over a session then sets `goaway_deadline`, `H3_GOAWAY_GRACE_SECS` after it, and
a pass at or after the deadline gives the session up (`grace_period`). Once the grace period is over
the thread comes to its end, in a number of turns that the sessions and the pending handshakes
determine (`stop_terminates`), if OpenSSL closes the connections and the tasks are done.

The history of a run has the answers of the environment, and the connection of a service pass that
comes after `thread_running` was cleared. `apr_time_now` does not return a time before the epoch.
-/

namespace ModHttp3.Listener
open ModHttp3.Lib

/-- `H3_GOAWAY_GRACE_SECS` as a time. -/
def grace : Int := timeFromSec goawayGraceSecs

/-- The time of a service pass is not before the epoch. -/
def Answer.timely : Answer → Prop
  | .pass a => 0 ≤ a.now
  | _ => True

/-- The connection of the session that is serviced while the thread is stopping. -/
def State.closing (s : State) : Answer → Option Conn
  | .pass _ =>
    match s.pc with
    | .sessions i => if s.io.threadRunning then none else s.io.activeSessions[i]?.bind Session.qconn
    | _ => none
  | _ => none

/-- A turn: the answer of the environment, the connection that is serviced while the thread is
stopping, and what is done with the connections. -/
structure Entry where
  answer : Answer
  closing : Option Conn
  ops : List ConnOp

/-- The turns of the event thread, with all of this. -/
def Turned (s : State) (e : Entry) (t : State) : Prop :=
  e.answer.timely ∧ e.closing = s.closing e.answer ∧ step s e.answer = some (t, e.ops)

instance : DecidablePred Answer.timely
  | .pass a => inferInstanceAs (Decidable (0 ≤ a.now))
  | .stop | .tick | .pumped _ | .accept _ _ | .idle _ | .handshake _ | .retire _ _ => isTrue trivial

/-- A turn to be run. -/
def runTurned (s : State) (a : Answer) : Option (State × Entry) :=
  if a.timely then
    (step s a).map fun r => (r.1, { answer := a, closing := s.closing a, ops := r.2 })
  else
    none

/-- What was done with the connections. -/
def connOps (es : List Entry) : List ConnOp := es.flatMap Entry.ops

/-- The passes over the session of a connection while the thread is stopping. -/
def closingPasses (es : List Entry) (conn : Conn) : List PassAnswer :=
  es.filterMap fun e =>
    match e.answer, e.closing with
    | .pass a, some conn' => if conn' = conn then some a else none
    | _, _ => none

/-- A session in service: its deadline comes from its first pass, and no pass has reached it. -/
def InGrace (passes : List PassAnswer) (session : Session) : Prop :=
  match passes with
  | [] => session.goawayDeadline = 0
  | first :: _ =>
    session.goawayDeadline = first.now + grace ∧
      ∀ a ∈ passes, a.drained = false ∧ a.later < session.goawayDeadline

section
variable {s t : State} {io io' : Io} {ops : List ConnOp} {i j : Nat} {conn : Conn}
  {session after : Session}
  {a : PassAnswer} {dataRead : Bool} {es : List Entry} {e : Entry} {max : UInt32}
    {log : List ConnOp}
  {passes : Conn → List PassAnswer}

/-- Marking a session as dead leaves its deadline. -/
@[simp] lemma markNgh3Dead_goawayDeadline (s : Session) (e : Option (UInt64 × String)) :
    (s.markNgh3Dead e).goawayDeadline = s.goawayDeadline := by
  cases e with
  | _ => rfl

/-- Marking a session as dead does not abort it. -/
@[simp] lemma markNgh3Dead_aborted (s : Session) (e : Option (UInt64 × String)) :
    (s.markNgh3Dead e).aborted = s.aborted := by
  cases e with
  | _ => rfl

/-- The second half of a pass leaves the deadline alone. -/
lemma serviceStreams_deadline (io : Io) (session : Session) (a : PassAnswer) :
    (serviceStreams io session a).2.1.goawayDeadline = session.goawayDeadline := by
  simp only [serviceStreams]
  split
  · rfl
  split
  · rfl
  split
  · exact markNgh3Dead_goawayDeadline session _
  · rw [markNgh3Dead_goawayDeadline]
    exact markNgh3Dead_goawayDeadline session _

/-- A pass over a session that is given up does nothing. -/
lemma serviceSessionPass_aborted (aborted : session.aborted = true) :
    serviceSessionPass io session a = (io, session, [], false) := by
  rw [serviceSessionPass, if_pos aborted]

/-- A session in service was in service before. -/
lemma serviceSessionPass_live (live : (serviceSessionPass io session a).2.1.aborted = false) :
    session.aborted = false := by
  cases before : session.aborted with
  | true =>
    rw [serviceSessionPass_aborted before, before] at live
    cases live
  | false => rfl

/-- While the thread runs there is no deadline. -/
lemma serviceSessionPass_running (running : io.threadRunning = true) :
    (serviceSessionPass io session a).2.1.goawayDeadline = session.goawayDeadline := by
  rw [serviceSessionPass]
  split
  · rfl
  · exact serviceStreams_deadline io session a

/-- The deadline is set once, and the session is given up when it is reached. -/
lemma goaway_spec (session : Session) (a : PassAnswer) :
    (goaway session a).1.goawayDeadline =
        (if session.goawayDeadline = 0 then a.now + grace else session.goawayDeadline) ∧
      if (goaway session a).2 then (goaway session a).1.aborted = true
      else a.drained = false ∧ a.later < (goaway session a).1.goawayDeadline := by
  simp only [goaway]
  generalize hl : (if (session.markNgh3Dead a.noticeDied).goawayDeadline = 0 then _ else _) = left
  have deadline : left.goawayDeadline =
      if session.goawayDeadline = 0 then a.now + grace else session.goawayDeadline := by
    rw [← hl, markNgh3Dead_goawayDeadline]
    split
    · rfl
    · exact markNgh3Dead_goawayDeadline session _
  split
  · refine ⟨?_, rfl⟩
    dsimp only
    rw [markNgh3Dead_goawayDeadline, deadline]
  · rename_i not
    exact ⟨deadline, by simpa using not⟩

/-- While it stops, a pass sets the deadline if there is none, and gives the session up at the
deadline. -/
lemma serviceSessionPass_stopping (stopping : io.threadRunning = false)
    (live : (serviceSessionPass io session a).2.1.aborted = false) :
    (serviceSessionPass io session a).2.1.goawayDeadline =
        (if session.goawayDeadline = 0 then a.now + grace else session.goawayDeadline) ∧
      a.drained = false ∧ a.later < (serviceSessionPass io session a).2.1.goawayDeadline := by
  obtain ⟨deadline, rest⟩ := goaway_spec session a
  have before := serviceSessionPass_live live
  rw [serviceSessionPass, before, stopping] at live ⊢
  simp only [Bool.false_eq_true, if_false] at live ⊢
  cases hg : goaway session a with
  | mk left up =>
    rw [hg] at deadline rest
    cases up with
    | true =>
      have aborted : left.aborted = true := rest
      rw [hg] at live
      rw [aborted] at live
      cases live
    | false =>
      have same := serviceStreams_deadline io left a
      simp only
      rw [same]
      exact ⟨deadline, rest⟩

/-- So a session that was serviced while the thread stops has a deadline, or is given up. -/
lemma serviceSessionPass_marked (stopping : io.threadRunning = false) (now : 0 ≤ a.now) :
    (serviceSessionPass io session a).2.1.aborted = true ∨
    (serviceSessionPass io session a).2.1.goawayDeadline ≠ 0 := by
  have pos : (0 : Int) < grace := by decide
  cases live : (serviceSessionPass io session a).2.1.aborted with
  | true => exact .inl rfl
  | false =>
    refine .inr ?_
    rw [(serviceSessionPass_stopping stopping live).1]
    split
    · omega
    · assumption

/-- The deadline of a session is kept with the passes over it. -/
lemma InGrace.pass {passes : List PassAnswer} (h : InGrace passes session)
    (times : ∀ b ∈ passes, 0 ≤ b.now) (stopping : io.threadRunning = false)
    (live : (serviceSessionPass io session a).2.1.aborted = false) :
    InGrace (passes ++ [a]) (serviceSessionPass io session a).2.1 := by
  have pos : (0 : Int) < grace := by decide
  obtain ⟨deadline, undrained, early⟩ := serviceSessionPass_stopping stopping live
  cases passes with
  | nil =>
    have zero : session.goawayDeadline = 0 := h
    rw [if_pos zero] at deadline
    refine ⟨deadline, ?_⟩
    intro b mem
    cases List.mem_singleton.mp mem
    exact ⟨undrained, early⟩
  | cons first rest =>
    obtain ⟨set, earlier⟩ := h
    have := times first List.mem_cons_self
    have ne : session.goawayDeadline ≠ 0 := by omega
    rw [if_neg ne] at deadline
    refine ⟨deadline.trans set, ?_⟩
    intro b mem
    rw [deadline]
    rw [deadline] at early
    rcases List.mem_append.mp mem with mem | mem
    · exact earlier b mem
    · cases List.mem_singleton.mp mem
      exact ⟨undrained, early⟩

/-- The passes while the thread is stopping, by connection, and what they left of the sessions. -/
structure Graced (passes : Conn → List PassAnswer) (io : Io) : Prop where
  times : ∀ conn, ∀ a ∈ passes conn, 0 ≤ a.now
  known : ∀ conn, io.accepted ≤ conn → passes conn = []
  pending : ∀ p ∈ io.pendingHandshakes, passes p.conn = []
  running : io.threadRunning = true → ∀ conn, passes conn = []
  inGrace : ∀ x ∈ io.activeSessions, x.aborted = false → ∀ conn ∈ x.qconn, InGrace (passes conn) x

/-- A turn without a pass while stopping keeps this, if the sessions it leaves are old or new
ones. -/
lemma Graced.keep (h : Graced passes io) (accepted : io.accepted ≤ io'.accepted)
    (pending : ∀ p ∈ io'.pendingHandshakes, p ∈ io.pendingHandshakes ∨ p.conn = io.accepted)
    (running : io'.threadRunning = true → io.threadRunning = true)
    (active : ∀ x ∈ io'.activeSessions, x ∈ io.activeSessions ∨
      ∃ p ∈ io.pendingHandshakes, x = .spawned p.conn) :
    Graced passes io' where
  times := h.times
  known conn le := h.known conn (accepted.trans le)
  pending p mem := by
    rcases pending p mem with mem | new
    · exact h.pending p mem
    · exact h.known p.conn new.ge
  running is := h.running (running is)
  inGrace x mem live conn hq := by
    rcases active x mem with mem | ⟨p, hp, rfl⟩
    · exact h.inGrace x mem live conn hq
    · cases hq
      rw [h.pending p hp]
      rfl

/-- A pass while the thread runs. -/
lemma Graced.pass_running (h : Graced passes io) (running : io.threadRunning = true)
    (hs : io.activeSessions[i]? = some session)
    (eq : serviceSessionPass io session a = (io', after, ops, dataRead)) :
    Graced passes { io' with activeSessions := io'.activeSessions.set i after } := by
  obtain ⟨⟨n, hio⟩, hq, -⟩ := serviceSessionPass_spec io session a
  have deadline : after.goawayDeadline = session.goawayDeadline := by
    have same : (serviceSessionPass io session a).2.1.goawayDeadline = _ :=
      serviceSessionPass_running running
    rwa [eq] at same
  have before : after.aborted = false → session.aborted = false := by
    intro live
    have left : (serviceSessionPass io session a).2.1.aborted = false := by rwa [eq]
    exact serviceSessionPass_live left
  rw [eq] at hio hq
  dsimp only at hio hq
  subst hio
  refine { h with inGrace := ?_ }
  intro x mem live conn hx
  rcases List.mem_or_eq_of_mem_set mem with mem | rfl
  · exact h.inGrace x mem live conn hx
  · have zero := h.inGrace session (List.mem_of_getElem? hs) (before live) conn (hq ▸ hx)
    rw [h.running running conn] at zero ⊢
    exact deadline.trans zero

/-- A pass while it is stopping. -/
lemma Graced.pass_stopping (h : Graced passes io)
    (unique : (io.activeSessions.filterMap Session.qconn).Nodup) (lt : conn < io.accepted)
    (unpending : ∀ p ∈ io.pendingHandshakes, p.conn ≠ conn) (stopping : io.threadRunning = false)
    (now : 0 ≤ a.now) (hs : io.activeSessions[i]? = some session) (hc : session.qconn = some conn)
    (eq : serviceSessionPass io session a = (io', after, ops, dataRead)) :
    Graced (Function.update passes conn (passes conn ++ [a]))
      { io' with activeSessions := io'.activeSessions.set i after } := by
  obtain ⟨⟨n, hio⟩, hq, -⟩ := serviceSessionPass_spec io session a
  have inGrace : after.aborted = false → InGrace (passes conn ++ [a]) after := by
    intro live
    have same : after = (serviceSessionPass io session a).2.1 := by rw [eq]
    rw [same] at live ⊢
    have old := h.inGrace session (List.mem_of_getElem? hs) (serviceSessionPass_live live) conn hc
    exact old.pass (h.times conn) stopping live
  rw [eq] at hio hq
  dsimp only at hio hq
  subst hio
  obtain ⟨rest, perm, set⟩ := exists_rest hs
  have others : conn ∉ rest.filterMap Session.qconn := by
    have nodup := (perm.filterMap Session.qconn).nodup_iff.mp unique
    rw [List.filterMap_cons_some hc] at nodup
    exact (List.nodup_cons.mp nodup).1
  constructor
  case times =>
    intro c b mem
    by_cases hcc : c = conn
    · subst hcc
      rw [Function.update_self] at mem
      rcases List.mem_append.mp mem with mem | mem
      · exact h.times c b mem
      · cases List.mem_singleton.mp mem
        exact now
    · rw [Function.update_of_ne hcc] at mem
      exact h.times c b mem
  case known =>
    intro c le
    have ne : c ≠ conn := by
      rintro rfl
      exact absurd lt (Nat.not_lt.mpr le)
    rw [Function.update_of_ne ne]
    exact h.known c le
  case pending =>
    intro p mem
    rw [Function.update_of_ne (unpending p mem)]
    exact h.pending p mem
  case running =>
    intro running
    have running : io.threadRunning = true := running
    rw [stopping] at running
    cases running
  case inGrace =>
    intro x mem live c hx
    rcases List.mem_cons.mp ((set after).mem_iff.mp mem) with rfl | mem
    · have same : c = conn := by
        rw [hq, hc] at hx
        exact (Option.some.inj hx).symm
      subst same
      rw [Function.update_self]
      exact inGrace live
    · have ne : c ≠ conn := by
        rintro rfl
        exact others (List.mem_filterMap.mpr ⟨x, mem, hx⟩)
      rw [Function.update_of_ne ne]
      exact h.inGrace x (perm.mem_iff.mpr (List.mem_cons_of_mem _ mem)) live c hx

/-- A turn that is not a pass while stopping. -/
lemma closingPasses_none (unclosing : e.closing = none) :
    closingPasses (es ++ [e]) = closingPasses es := by
  funext conn
  rw [closingPasses, List.filterMap_append]
  simp [closingPasses, unclosing]

/-- A pass over a connection that is being closed is one more closing pass of it. -/
lemma closingPasses_pass (answer : e.answer = .pass a) (closing : e.closing = some conn) :
    closingPasses (es ++ [e]) = Function.update (closingPasses es) conn
      (closingPasses es conn ++ [a]) := by
  funext c
  rw [closingPasses, List.filterMap_append]
  by_cases hc : c = conn
  · subst hc
    rw [Function.update_self]
    simp [closingPasses, answer, closing]
  · rw [Function.update_of_ne hc]
    simp [closingPasses, answer, closing, Ne.symm hc]

/-- Every turn keeps this. -/
lemma Graced.step (heads : AtLoopHead max log s) (h : Graced (closingPasses es) s.io)
    (st : Turned s e t) :
    Graced (closingPasses (es ++ [e])) t.io := by
  obtain ⟨answer, closing, ops⟩ := e
  obtain ⟨timely, is, eq⟩ := st
  dsimp only at timely is eq
  -- only a pass while the thread is stopping changes the deadlines
  have quiet : s.closing answer = none → Graced (closingPasses es) t.io →
      Graced (closingPasses (es ++ [⟨answer, closing, ops⟩])) t.io := by
    intro unclosing h
    rwa [closingPasses_none (is.trans unclosing)]
  cases step_effect eq with
  | stop => exact quiet rfl (h.keep le_rfl (fun _ => .inl) nofun fun _ => .inl)
  | enter pc _ => exact quiet rfl h
  | leave pc _ _ => exact quiet rfl h
  | pumped pc => exact quiet rfl h
  | @accept prepared now pc =>
    obtain ⟨pending, running, accepted⟩ := acceptConn_spec s.io prepared now
    refine quiet rfl (h.keep (accepted ▸ Nat.le_succ _) pending (fun is => running ▸ is) ?_)
    intro x mem
    dsimp only at mem
    rw [acceptConn_active] at mem
    exact .inl mem
  | idle pc => exact quiet rfl h
  | handshake pc progressed =>
    obtain ⟨pending, running, accepted, active⟩ := progressPendingHandshake_active progressed
    refine quiet rfl (h.keep accepted.ge (fun p mem => .inl (pending p mem))
      (fun is => running ▸ is) ?_)
    intro x mem
    dsimp only at mem
    rcases active with same | ⟨p, hp, added⟩
    · exact .inl (same ▸ mem)
    · rw [added] at mem
      rcases List.mem_append.mp mem with mem | mem
      · exact .inl mem
      · exact .inr ⟨p, hp, List.mem_singleton.mp mem⟩
  | progressed pc _ => exact quiet rfl h
  | @pass a i session io after ops dataRead pc hs serviced =>
    have c := heads.conserved
    obtain ⟨conn, hq⟩ := Option.isSome_iff_exists.mp (c.live session (List.mem_of_getElem? hs))
    cases running : s.io.threadRunning with
    | true =>
      refine quiet ?_ (h.pass_running running hs serviced)
      simp [State.closing, pc, running]
    | false =>
      have closes : closing = some conn := by
        rw [is]
        simp [State.closing, pc, running, hs, hq]
      obtain ⟨-, unique, apart⟩ := List.nodup_append.mp (List.nodup_append.mp c.ledger.nodup).1
      have active : conn ∈ s.io.activeSessions.filterMap Session.qconn :=
        List.mem_filterMap.mpr ⟨session, List.mem_of_getElem? hs, hq⟩
      rw [closingPasses_pass rfl closes]
      refine h.pass_stopping unique (c.ledger.lt (List.mem_append_right _ active)) ?_ running timely
        hs hq serviced
      intro p mem
      exact apart p.conn (List.mem_map_of_mem mem) conn active
  | serviced pc _ => exact quiet rfl h
  | retire pc retired =>
    obtain ⟨active, pending, running, accepted, -⟩ := retireSession_sub retired
    refine quiet rfl (h.keep accepted.ge ?_ (fun is => running ▸ is) fun x mem => .inl
      (active x mem))
    intro p mem
    exact .inl (pending ▸ mem)
  | drop pc removed =>
    obtain ⟨same, sub⟩ := removePendingHandshake_spec removed
    refine quiet rfl (h.keep ?_ (fun p mem => .inl (sub p mem)) ?_ ?_)
    · rw [same]
    · rw [same]
      exact id
    · rw [same]
      exact fun _ => .inl
  | done pc _ => exact quiet rfl h

/-- `runTurned` runs a turn of the thread. -/
lemma runTurned_turned (s : State) (a : Answer) (t : State) (e : Entry)
    (eq : runTurned s a = some (t, e)) :
    Turned s e t := by
  rw [runTurned] at eq
  split at eq
  · rename_i timely
    obtain ⟨⟨u, ops⟩, stepped, eq⟩ := Option.map_eq_some_iff.mp eq
    cases eq
    exact ⟨timely, rfl, stepped⟩
  · cases eq

/-- A turn is a step. -/
lemma Turned.step (st : Turned s e t) : Step s e.ops t := ⟨e.answer, st.2.2⟩

/-- Both hold in every run. -/
lemma Graced.run {max timeout : UInt32} (run : Run Turned (.init max timeout) es s) :
    AtLoopHead max (connOps es) s ∧ Graced (closingPasses es) s.io := by
  refine run.invariant_hist (P := fun es s => AtLoopHead max (connOps es) s ∧
    Graced (closingPasses es) s.io) ?_ ?_
  · intro es s e t h st
    refine ⟨?_, h.2.step h.1 st⟩
    rw [connOps, List.flatMap_append, List.flatMap_singleton]
    exact h.1.step st.step
  · refine ⟨AtLoopHead.run .nil, ⟨?_, ?_, ?_, ?_, ?_⟩⟩
    · exact fun _ _ => nofun
    · exact fun _ _ => rfl
    · exact fun _ => nofun
    · exact fun _ _ => rfl
    · exact fun _ => nofun

end

/-- The grace period: while a session is in service, its deadline is `H3_GOAWAY_GRACE_SECS` after
the first pass that found `thread_running` cleared, no later pass moves it, and every pass since
then came before it. -/
theorem grace_period {max timeout : UInt32} {es : List Entry} {s : State}
    (run : Run Turned (.init max timeout) es s) {session : Session}
    (mem : session ∈ s.io.activeSessions) (live : session.aborted = false) {conn : Conn}
    (hq : session.qconn = some conn) :
    (closingPasses es conn = [] → session.goawayDeadline = 0) ∧
      ∀ first rest, closingPasses es conn = first :: rest →
        session.goawayDeadline = first.now + timeFromSec goawayGraceSecs ∧
          ∀ a ∈ first :: rest, a.later < first.now + timeFromSec goawayGraceSecs := by
  have inGrace := (Graced.run run).2.inGrace session mem live conn hq
  constructor
  · intro unpassed
    rw [unpassed] at inGrace
    exact inGrace
  · intro first rest eq
    rw [eq] at inGrace
    refine ⟨inGrace.1, ?_⟩
    intro a mem
    have early := (inGrace.2 a mem).2
    rwa [inGrace.1] at early

/-- A pass over a busy session. -/
def busyPass (time : Int) : PassAnswer :=
  { quietPass with drained := false, now := time, later := time }

/-- One of two clients is in service when the thread is stopped, and the other one is still shaking
hands. -/
def stoppedWithTwo : List Answer :=
  [.tick, .pumped 1, .accept true 0, .accept true 0, .idle 5,
    .handshake { closed := false, handshakeDone := true, spawn := spawnOk },
    .handshake { closed := false, handshakeDone := false, spawn := spawnOk }, .tick,
    .pass (busyPass 1000000),
    .retire false 0, .tick, .stop, .tick]

/-- A round of the main loop at `time` in which the session stays. -/
def busyRound (time : Int) : List Answer :=
  [.pumped 0, .pass (busyPass time), .retire false 0, .tick]

/-- Two rounds after the stop the session is still within its grace period. -/
theorem grace_period_twoRounds :
    ∃ es s session, Run Turned (.init 2 10) es s ∧ session ∈ s.io.activeSessions ∧
    session.aborted = false ∧
      (closingPasses es 0).map PassAnswer.now = [2000000, 3000000] ∧
      session.goawayDeadline = 5000000 := by
  have run : ((execAll runTurned (State.init 2 10)
      (stoppedWithTwo ++ busyRound 2000000 ++ [.tick] ++ busyRound 3000000)).map fun r =>
      (r.1.io.activeSessions.map fun x => (x.aborted, x.qconn),
        (closingPasses r.2 0).map PassAnswer.now)) =
      some ([(false, some 0)], [2000000, 3000000]) := by
    decide +kernel
  obtain ⟨⟨s, es⟩, run, e⟩ := Option.map_eq_some_iff.mp run
  simp only [Prod.mk.injEq] at e
  obtain ⟨one, times⟩ := e
  have run := execAll_run runTurned_turned run
  obtain ⟨session, active, is⟩ := List.mem_map.mp (one ▸ List.mem_singleton_self (false, some 0))
  obtain ⟨live, hq⟩ := Prod.mk.inj is
  obtain ⟨first, rest, eq, now, -⟩ := List.map_eq_cons_iff.mp times
  have deadline := ((grace_period run active live hq).2 first rest eq).1
  refine ⟨es, s, session, run, active, live, times, ?_⟩
  rw [deadline, now]
  decide

/-- A session that was serviced while the thread was stopping. -/
def Session.marked (session : Session) : Prop := session.aborted = true ∨ session.goawayDeadline ≠ 0

/-- The sessions that were serviced in this round of the main loop; outside of the session loop all
of them were. -/
def State.swept (s : State) : List Session :=
  match s.pc with
  | .sessions i => s.io.activeSessions.take i
  | .serviced i => s.io.activeSessions.take (i + 1)
  | .loop | .exit | .done => s.io.activeSessions
  | .body | .accept | .handshakes _ _ => []

/-- The places the thread comes to with `thread_running` set only. -/
def Pc.accepting : Pc → Bool
  | .accept | .handshakes _ _ => true
  | _ => false

/-- The thread is stopping and accepts nothing any more, and the sessions it has serviced since then
have a deadline. -/
structure Winding (accepted added : Nat) (s : State) : Prop where
  stopping : s.io.threadRunning = false
  accepted : s.io.accepted = accepted
  added : s.io.connAdded = added
  closed : s.pc.accepting = false
  marked : ∀ x ∈ s.swept, x.marked

/-- The answers of an environment that does not keep the thread: a pass comes at `time` or after it,
OpenSSL closes the connection at once and the tasks of the session are done. -/
def Answer.closes (time : Int) : Answer → Prop
  | .stop => False
  | .pass a => time ≤ a.later
  | .retire shutdownDone activeTasks => shutdownDone = true ∧ activeTasks = 0
  | _ => True

instance (time : Int) : DecidablePred (Answer.closes time)
  | .stop => isFalse id
  | .pass a => inferInstanceAs (Decidable (time ≤ a.later))
  | .retire shutdownDone activeTasks =>
    inferInstanceAs (Decidable (shutdownDone = true ∧ activeTasks = 0))
  | .tick | .pumped _ | .accept _ _ | .idle _ | .handshake _ => isTrue trivial

/-- The turns that are left then: one to enter the body, the pump, two for each session, one to
leave the session loop and one to leave the main loop; then one for each pending handshake and the
last one. -/
def State.turnsLeft (s : State) : Nat :=
  let n := s.io.activeSessions.length
  let m := s.io.pendingHandshakes.length
  match s.pc with
  | .loop => if n = 0 then m + 2 else 2 * n + m + 5
  | .body => 2 * n + m + 4
  | .sessions _ => 2 * n + m + 3
  | .serviced _ => 2 * n + m + 2
  | .exit => m + 1
  | .done | .accept | .handshakes _ _ => 0

/-- Where the thread is in its last round: it stays in the first slot of the sessions. -/
inductive LastPlace (s : State) : Prop where
  | loop : s.pc = .loop → LastPlace s
  | body : s.pc = .body → LastPlace s
  | sessions : s.pc = .sessions 0 → LastPlace s
  | serviced {x} :
    s.pc = .serviced 0 →
    s.io.activeSessions[0]? = some x →
    x.aborted = true →
    LastPlace s
  | exit :
    s.pc = .exit →
    s.io.activeSessions = [] →
    LastPlace s
  | done : s.pc = .done → LastPlace s

/-- The thread is in its last round, and the deadlines of its sessions are over at `time`. -/
structure LastRound (time : Int) (s : State) : Prop where
  stopping : s.io.threadRunning = false
  expired : ∀ x ∈ s.io.activeSessions, x.aborted = true ∨
    x.goawayDeadline ≠ 0 ∧ x.goawayDeadline ≤ time
  place : LastPlace s

section
variable {s t : State} {ops : List ConnOp} {accepted added : Nat} {time : Int} {e : Entry}

/-- A turn while the thread winds down. -/
lemma Winding.step (h : Winding accepted added s) (st : Turned s e t) :
    Winding accepted added t := by
  obtain ⟨stopping, acc, add, closed, marked⟩ := h
  obtain ⟨timely, -, eq⟩ := st
  have eff := step_effect eq
  generalize e.answer = answer at eff timely
  generalize e.ops = ops at eff
  cases eff with
  | stop => exact ⟨rfl, acc, add, closed, marked⟩
  | enter pc _ => exact ⟨stopping, acc, add, rfl, fun _ => nofun⟩
  | leave pc _ inactive =>
    rw [State.swept, pc] at marked
    exact ⟨stopping, acc, add, rfl, marked⟩
  | pumped pc =>
    refine ⟨stopping, acc, add, ?_, ?_⟩
    · simp [stopping, Pc.accepting]
    · simp [stopping, State.swept]
  | accept pc =>
    rw [pc] at closed
    cases closed
  | idle pc =>
    rw [pc] at closed
    cases closed
  | handshake pc _ =>
    rw [pc] at closed
    cases closed
  | progressed pc _ =>
    rw [pc] at closed
    cases closed
  | @pass a i session io after ops dataRead pc hs serviced =>
    rw [State.swept, pc] at marked
    obtain ⟨⟨n, hio⟩, -, -⟩ := serviceSessionPass_spec s.io session a
    have new : (serviceSessionPass s.io session a).2.1.marked :=
      serviceSessionPass_marked stopping timely
    rw [serviced] at hio new
    dsimp only at hio new
    subst hio
    refine ⟨stopping, acc, add, rfl, ?_⟩
    intro x mem
    have lt := (List.getElem?_eq_some_iff.mp hs).1
    have mem : x ∈ (s.io.activeSessions.set i after).take (i + 1) := mem
    rw [List.take_add_one, List.take_set_of_le le_rfl, List.getElem?_set_self lt] at mem
    rcases List.mem_append.mp mem with mem | mem
    · exact marked x mem
    · cases List.mem_singleton.mp mem
      exact new
  | @serviced i pc past =>
    rw [State.swept, pc] at marked
    refine ⟨stopping, acc, add, rfl, ?_⟩
    have all : s.io.activeSessions.take i = s.io.activeSessions := List.take_of_length_le past
    dsimp only at marked
    rw [all] at marked
    exact marked
  | @retire shutdownDone activeTasks i io j ops pc retired =>
    rw [State.swept, pc] at marked
    obtain ⟨-, -, running, acc', add'⟩ := retireSession_sub retired
    refine ⟨running.trans stopping, acc'.trans acc, add'.trans add, rfl, ?_⟩
    obtain ⟨session, hs, -⟩ := Option.bind_eq_some_iff.mp retired
    obtain ⟨io1, ops1, j1, eq1, effect⟩ := retireSession_spec hs shutdownDone activeTasks
    rw [retired] at eq1
    cases eq1
    intro x mem
    have mem : x ∈ io.activeSessions.take j := mem
    split at effect
    · obtain ⟨active, rfl⟩ := effect
      rw [active, swapRemove_take hs] at mem
      exact marked x (List.take_subset_take_left _ (Nat.le_succ _) mem)
    · obtain ⟨active, rfl⟩ := effect
      rw [active] at mem
      exact marked x mem
  | drop pc removed =>
    rw [State.swept, pc] at marked
    obtain ⟨same, -⟩ := removePendingHandshake_spec removed
    rw [same]
    exact ⟨stopping, acc, add, rfl, marked⟩
  | done pc _ =>
    rw [State.swept, pc] at marked
    exact ⟨stopping, acc, add, rfl, marked⟩

/-- After its deadline a session is given up. -/
lemma serviceSessionPass_expired {io : Io} {session : Session} {a : PassAnswer}
    (stopping : io.threadRunning = false)
    (expired : session.aborted = true ∨ session.goawayDeadline ≠ 0 ∧ session.goawayDeadline ≤ time)
    (late : time ≤ a.later) : (serviceSessionPass io session a).2.1.aborted = true := by
  rw [← Bool.not_eq_false]
  intro live
  obtain ⟨deadline, -, early⟩ := serviceSessionPass_stopping stopping live
  rcases expired with aborted | ⟨set, le⟩
  · rw [serviceSessionPass_live live] at aborted
    cases aborted
  · rw [deadline, if_neg set] at early
    omega

/-- In its last round the thread accepts nothing. -/
lemma LastPlace.closed (h : LastPlace s) : s.pc.accepting = false := by
  cases h with
  | loop pc => rw [pc]; rfl
  | body pc => rw [pc]; rfl
  | sessions pc => rw [pc]; rfl
  | serviced pc _ _ => rw [pc]; rfl
  | exit pc _ => rw [pc]; rfl
  | done pc => rw [pc]; rfl

/-- In its last round the thread is at the first session. -/
lemma LastPlace.slot {i : Nat} (h : LastPlace s) (here : s.pc = .sessions i) : i = 0 := by
  cases h with
  | loop pc => rw [pc] at here; cases here
  | body pc => rw [pc] at here; cases here
  | sessions pc => rw [pc] at here; cases here; rfl
  | serviced pc _ _ => rw [pc] at here; cases here
  | exit pc _ => rw [pc] at here; cases here
  | done pc => rw [pc] at here; cases here

/-- In its last round the thread retires the first session, which is aborted. -/
lemma LastPlace.retiring {i : Nat} (h : LastPlace s) (here : s.pc = .serviced i) :
    i = 0 ∧ ∃ x, s.io.activeSessions[0]? = some x ∧ x.aborted = true := by
  cases h with
  | loop pc => rw [pc] at here; cases here
  | body pc => rw [pc] at here; cases here
  | sessions pc => rw [pc] at here; cases here
  | serviced pc hx aborted => rw [pc] at here; cases here; exact ⟨rfl, _, hx, aborted⟩
  | exit pc _ => rw [pc] at here; cases here
  | done pc => rw [pc] at here; cases here

/-- A turn of the last round: one less is left. -/
lemma LastRound.step (h : LastRound time s) (st : Turned s e t) (closes : e.answer.closes time) :
    LastRound time t ∧ t.turnsLeft + 1 = s.turnsLeft := by
  obtain ⟨stopping, expired, place⟩ := h
  obtain ⟨-, -, eq⟩ := st
  have eff := step_effect eq
  generalize e.answer = answer at eff closes
  generalize e.ops = ops at eff
  cases eff with
  | stop => exact closes.elim
  | enter pc busy =>
    have ne : s.io.activeSessions.length ≠ 0 := by
      rw [stopping] at busy
      simpa using busy
    refine ⟨⟨stopping, expired, .body rfl⟩, ?_⟩
    simp only [State.turnsLeft, pc, if_neg ne]
  | leave pc _ inactive =>
    refine ⟨⟨stopping, expired, .exit rfl inactive⟩, ?_⟩
    simp only [State.turnsLeft, pc, inactive, List.length_nil, if_true]
  | pumped pc =>
    refine ⟨⟨stopping, expired, .sessions ?_⟩, ?_⟩
    · simp [stopping]
    · simp [State.turnsLeft, pc, stopping]
  | accept pc =>
    have closed := place.closed
    rw [pc] at closed
    cases closed
  | idle pc =>
    have closed := place.closed
    rw [pc] at closed
    cases closed
  | handshake pc _ =>
    have closed := place.closed
    rw [pc] at closed
    cases closed
  | progressed pc _ =>
    have closed := place.closed
    rw [pc] at closed
    cases closed
  | @pass a i session io after ops dataRead pc hs serviced =>
    obtain rfl := place.slot pc
    obtain ⟨⟨n, hio⟩, -, -⟩ := serviceSessionPass_spec s.io session a
    have aborted :=
      serviceSessionPass_expired stopping (expired session (List.mem_of_getElem? hs)) closes
    rw [serviced] at hio aborted
    dsimp only at hio aborted
    subst hio
    have lt := (List.getElem?_eq_some_iff.mp hs).1
    refine ⟨⟨stopping, ?_, .serviced rfl (List.getElem?_set_self lt) aborted⟩, ?_⟩
    · intro x mem
      rcases List.mem_or_eq_of_mem_set mem with mem | rfl
      · exact expired x mem
      · exact .inl aborted
    · simp only [State.turnsLeft, pc, List.length_set]
  | @serviced i pc past =>
    obtain rfl := place.slot pc
    have inactive : s.io.activeSessions = [] := List.eq_nil_of_length_eq_zero (Nat.le_zero.mp past)
    refine ⟨⟨stopping, expired, .loop rfl⟩, ?_⟩
    simp [State.turnsLeft, pc, inactive]
  | @retire shutdownDone activeTasks i io j ops pc retired =>
    obtain ⟨rfl, x, hx, aborted⟩ := place.retiring pc
    obtain ⟨rfl, rfl⟩ := closes
    obtain ⟨sub, pending, running, -, -⟩ := retireSession_sub retired
    obtain ⟨io1, ops1, j1, eq1, effect⟩ := retireSession_spec hx true 0
    rw [retired] at eq1
    cases eq1
    have all : (x.aborted && true && (0 : UInt32) == 0) = true := by
      rw [aborted]
      rfl
    rw [if_pos all] at effect
    obtain ⟨active, rfl⟩ := effect
    have len := swapRemove_length hx
    refine ⟨⟨running.trans stopping, fun y mem => expired y (sub y mem), .sessions rfl⟩, ?_⟩
    simp only [State.turnsLeft, pc, pending, active]
    omega
  | drop pc removed =>
    obtain ⟨p, hp, eq'⟩ := Option.bind_eq_some_iff.mp removed
    cases eq'
    have len := swapRemove_length hp
    have inactive : s.io.activeSessions = [] := by
      cases place with
      | exit _ inactive => exact inactive
      | _ => simp_all
    refine ⟨⟨stopping, expired, .exit rfl inactive⟩, ?_⟩
    simp only [State.turnsLeft, pc]
    omega
  | done pc empty =>
    refine ⟨⟨stopping, expired, .done rfl⟩, ?_⟩
    simp [State.turnsLeft, pc, empty]

/-- A step with a timely answer is a turn. -/
lemma Turned.of_step {a : Answer} (timely : a.timely) (steps : (Listener.step s a).isSome = true) :
    ∃ e t, Turned s e t ∧ e.answer = a := by
  obtain ⟨⟨t, ops⟩, eq⟩ := Option.isSome_iff_exists.mp steps
  exact ⟨⟨a, s.closing a, ops⟩, t, ⟨timely, rfl, eq⟩, rfl⟩

/-- An answer that lets the thread go on in its last round. -/
def State.closingAnswer (s : State) (time : Int) : Answer :=
  match s.pc with
  | .body => .pumped 0
  | .sessions _ =>
    if s.io.activeSessions.isEmpty then .tick else .pass { quietPass with later := time }
  | .serviced _ => .retire true 0
  | _ => .tick

/-- Until its end the thread can always go on. -/
lemma LastRound.goes (h : LastRound time s) (undone : s.pc ≠ .done) :
    ∃ e t, Turned s e t ∧ e.answer.closes time := by
  suffices goes : (Listener.step s (s.closingAnswer time)).isSome = true ∧
    (s.closingAnswer time).timely ∧
      (s.closingAnswer time).closes time by
    obtain ⟨e, t, st, is⟩ := Turned.of_step goes.2.1 goes.1
    exact ⟨e, t, st, is ▸ goes.2.2⟩
  cases h.place with
  | loop pc =>
    simp only [State.closingAnswer, pc, Listener.step]
    split
    · exact ⟨rfl, trivial, trivial⟩
    · exact ⟨rfl, trivial, trivial⟩
  | body pc =>
    simp only [State.closingAnswer, pc, Listener.step]
    exact ⟨rfl, trivial, trivial⟩
  | sessions pc =>
    simp only [State.closingAnswer, pc]
    cases hs : s.io.activeSessions with
    | nil => simp [Listener.step, pc, hs, Answer.timely, Answer.closes]
    | cons x xs => simp [Listener.step, pc, hs, Answer.timely, Answer.closes, quietPass]
  | serviced pc hx aborted =>
    obtain ⟨io, ops, j, eq, -⟩ := retireSession_spec hx true 0
    simp [State.closingAnswer, Listener.step, pc, eq, Answer.timely, Answer.closes]
  | exit pc _ =>
    simp only [State.closingAnswer, pc, Listener.step]
    cases hp : s.io.pendingHandshakes with
    | nil => simp [Answer.timely, Answer.closes]
    | cons p ps => simp [removePendingHandshake, hp, Answer.timely, Answer.closes]
  | done pc => exact absurd pc undone

/-- The turns of the last round are counted. -/
lemma LastRound.run {es : List Entry} (h : LastRound time s) (run : Run Turned s es t)
    (closes : ∀ e ∈ es, e.answer.closes time) :
    LastRound time t ∧ es.length + t.turnsLeft = s.turnsLeft := by
  induction run with
  | nil => exact ⟨h, Nat.zero_add _⟩
  | @snoc t u es e run st ih =>
    obtain ⟨h, left⟩ := ih fun e mem => closes e (List.mem_append_left _ mem)
    obtain ⟨h, less⟩ := h.step st (closes e (List.mem_append_right _ (List.mem_singleton_self e)))
    refine ⟨h, ?_⟩
    rw [List.length_append, List.length_singleton]
    omega

/-- Nothing is left to do exactly at the end. -/
lemma LastRound.done_iff (h : LastRound time s) : s.pc = .done ↔ s.turnsLeft = 0 := by
  cases h.place with
  | loop pc =>
    simp only [State.turnsLeft, pc]
    split
    · simp
    · simp
  | body pc => simp [State.turnsLeft, pc]
  | sessions pc => simp [State.turnsLeft, pc]
  | serviced pc _ _ => simp [State.turnsLeft, pc]
  | exit pc _ => simp [State.turnsLeft, pc]
  | done pc => simp [State.turnsLeft, pc]

/-- Once every session was serviced while the thread was stopping, and the grace period of each is
over, the last round comes. -/
lemma LastRound.of_winding {passes : Conn → List PassAnswer} (w : Winding accepted added s)
    (loop : s.pc = .loop) (graced : Graced passes s.io)
    (live : ∀ x ∈ s.io.activeSessions, x.qconn.isSome)
    (past : ∀ conn, ∀ a ∈ passes conn, a.now + grace ≤ time) : LastRound time s where
  stopping := w.stopping
  expired x mem := by
    have marked := w.marked x
    rw [State.swept, loop] at marked
    rcases marked mem with aborted | set
    · exact .inl aborted
    cases aborted : x.aborted with
    | true => exact .inl rfl
    | false =>
      obtain ⟨conn, hq⟩ := Option.isSome_iff_exists.mp (live x mem)
      have inGrace := graced.inGrace x mem aborted conn hq
      have past := past conn
      cases hp : passes conn with
      | nil =>
        rw [hp] at inGrace
        exact absurd inGrace set
      | cons first rest =>
        rw [hp] at inGrace past
        refine .inr ⟨set, ?_⟩
        rw [inGrace.1]
        exact past first List.mem_cons_self
  place := .loop loop

end

/-- Stopping comes to an end. Let the thread be in the body of its main loop with `thread_running`
cleared: from there on it accepts nothing and adds no session. Let it come to the head of the loop
again, and let `time` be at least a grace period after each pass up to there. If from then on the
passes come at `time` or later, OpenSSL closes the connections and the tasks are done, the thread
takes exactly the turns that `turnsLeft` counts, cannot get stuck before, and has freed every
connection once when it ends. -/
theorem stop_terminates {max timeout : UInt32} {es fs gs : List Entry} {s t u : State} {time : Int}
    (before : Run Turned (.init max timeout) es s) (stopping : s.io.threadRunning = false)
    (body : s.pc = .body) (round : Run Turned s fs t) (loop : t.pc = .loop)
    (past : ∀ e ∈ es ++ fs, ∀ a, e.answer = .pass a → a.now + timeFromSec goawayGraceSecs ≤ time)
    (last : Run Turned t gs u) (closes : ∀ e ∈ gs, e.answer.closes time) :
    u.io.accepted = s.io.accepted ∧ u.io.connAdded = s.io.connAdded ∧
      gs.length + u.turnsLeft = t.turnsLeft ∧
      (u.pc = .done ↔ u.turnsLeft = 0) ∧
      (u.pc ≠ .done → ∃ e v, Turned u e v ∧ e.answer.closes time) ∧
      (u.pc = .done → ∀ conn < u.io.accepted, (freed (connOps (es ++ fs ++ gs))).count conn =
        1) := by
  have wound : Winding s.io.accepted s.io.connAdded s := by
    refine ⟨stopping, rfl, rfl, ?_, ?_⟩
    · rw [body]
      rfl
    · rw [State.swept, body]
      exact fun _ => nofun
  have winding := round.invariant (P := Winding _ _) (fun _ _ _ => Winding.step) wound
  have ended := last.invariant (P := Winding _ _) (fun _ _ _ => Winding.step) winding
  obtain ⟨heads, graced⟩ := Graced.run (before.append round)
  have lastRound : LastRound time t := by
    refine .of_winding winding loop graced heads.conserved.live ?_
    intro conn a mem
    obtain ⟨e, mem, is⟩ := List.mem_filterMap.mp mem
    split at is
    · rename_i a' conn' answer _
      split at is
      · cases is
        exact past e mem a answer
      · cases is
    · cases is
  obtain ⟨lastRound, turns⟩ := lastRound.run last closes
  obtain ⟨heads, -⟩ := Graced.run ((before.append round).append last)
  refine ⟨ended.accepted, ended.added, turns, lastRound.done_iff, lastRound.goes, ?_⟩
  intro done conn lt
  refine heads.conserved.ledger.count_freed lt ?_
  rw [Io.owned, heads.exit (.inr done), heads.done done]
  exact List.not_mem_nil

/-- The turns of the last round, with a session and a pending handshake. -/
def lastTurns : List Answer :=
  [.tick, .pumped 0, .pass (busyPass 5000000), .retire true 0, .tick, .tick, .tick, .tick]

/-- After `stoppedWithTwo` the thread needs eight turns, and frees both connections. -/
theorem stop_terminates_withTwo :
    ∃ es fs gs s t u, Run Turned (.init 2 10) es s ∧ Run Turned s fs t ∧ Run Turned t gs u ∧
    t.turnsLeft = 8 ∧
      u.pc = .done ∧ (freed (connOps (es ++ fs ++ gs))).count 0 = 1 ∧
      (freed (connOps (es ++ fs ++ gs))).count 1 = 1 := by
  have run : ((execAll runTurned (State.init 2 10) stoppedWithTwo).bind fun r =>
      (execAll runTurned r.1 (busyRound 2000000)).bind
      fun r' => (execAll runTurned r'.1 lastTurns).map fun r'' =>
        (r.1.io.threadRunning, [r.1.pc, r'.1.pc, r''.1.pc], [r''.1.io.accepted, r'.1.turnsLeft],
          (r.2 ++ r'.2).all (fun e =>
            match e.answer with
            | .pass a => decide (a.now + timeFromSec goawayGraceSecs ≤ 5000000)
            | _ => true),
          r''.2.all fun e => decide (e.answer.closes 5000000))) =
      some (false, [.body, .loop, .done], [2, 8], true, true) := by
    decide +kernel
  obtain ⟨⟨s, es⟩, before, run⟩ := Option.bind_eq_some_iff.mp run
  obtain ⟨⟨t, fs⟩, round, run⟩ := Option.bind_eq_some_iff.mp run
  obtain ⟨⟨u, gs⟩, last, e⟩ := Option.map_eq_some_iff.mp run
  simp only [Prod.mk.injEq, List.cons.injEq, and_true] at e
  obtain ⟨stopping, ⟨body, loop, done⟩, ⟨two, eight⟩, past, closes⟩ := e
  have before := execAll_run runTurned_turned before
  have round := execAll_run runTurned_turned round
  have last := execAll_run runTurned_turned last
  have past : ∀ e ∈ es ++ fs, ∀ a, e.answer = .pass a →
      a.now + timeFromSec goawayGraceSecs ≤ 5000000 := by
    intro e mem a answer
    have := List.all_eq_true.mp past e mem
    rw [answer] at this
    exact of_decide_eq_true this
  have closes : ∀ e ∈ gs, e.answer.closes 5000000 := by
    intro e mem
    exact of_decide_eq_true (List.all_eq_true.mp closes e mem)
  have freed := (stop_terminates before stopping body round loop past last closes).2.2.2.2.2 done
  rw [two] at freed
  exact ⟨es, fs, gs, s, t, u, before, round, last, eight, done, freed 0 (by decide),
    freed 1 (by decide)⟩

end ModHttp3.Listener

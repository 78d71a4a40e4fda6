import ModHttp3.Listener.Sweep

/-!
# What a turn of the event thread can do

`Effect s a t ops` lists the turns of `Listener.step` by the place the thread is in, with the state
each one leaves. The invariants of whole runs are proved by cases on it.
-/

namespace ModHttp3.Listener
open ModHttp3.Lib

/-- The turns of the event thread. -/
inductive Effect (s : State) : Answer → State → List ConnOp → Prop where
  | stop : Effect s .stop { s with io := { s.io with threadRunning := false } } []
  | enter :
    s.pc = .loop →
    s.io.threadRunning = true ∨ s.io.activeSessions ≠ [] →
    Effect s .tick { s with pc := .body } []
  | leave :
    s.pc = .loop →
    s.io.threadRunning = false →
    s.io.activeSessions = [] →
    Effect s .tick { s with pc := .exit } []
  | pumped {rv} :
    s.pc = .body →
    Effect s (.pumped rv)
      { s with
        workPending := decide (rv > 0)
        listenerFailed := decide (rv < 0)
        pc := if s.io.threadRunning then .accept else .sessions 0 } []
  | accept {prepared now} :
    s.pc = .accept →
    Effect s (.accept prepared now) { s with io := (acceptConn s.io prepared now).1, pc := .accept }
      (acceptConn s.io prepared now).2
  | idle {now} :
    s.pc = .accept →
    Effect s (.idle now) { s with pc := .handshakes now 0 } []
  | handshake {a now i io j ops} :
    s.pc = .handshakes now i →
    progressPendingHandshake s.io now i a = some (io, ops, j) →
    Effect s (.handshake a) { s with io := io, pc := .handshakes now j } ops
  | progressed {now i} :
    s.pc = .handshakes now i →
    s.io.pendingHandshakes.length ≤ i →
    Effect s .tick { s with pc := .sessions 0 } []
  | pass {a i session io after ops dataRead} :
    s.pc = .sessions i →
    s.io.activeSessions[i]? = some session →
    serviceSessionPass s.io session a = (io, after, ops, dataRead) →
    Effect s (.pass a)
      { s with
        io := { io with activeSessions := io.activeSessions.set i after }
        pc := .serviced i
        workPending := s.workPending || dataRead } ops
  | serviced {i} :
    s.pc = .sessions i →
    s.io.activeSessions.length ≤ i →
    Effect s .tick { s with pc := .loop } []
  | retire {shutdownDone activeTasks i io j ops} :
    s.pc = .serviced i →
    retireSession s.io i shutdownDone activeTasks = some (io, ops, j) →
    Effect s (.retire shutdownDone activeTasks) { s with io := io, pc := .sessions j } ops
  | drop {io ops} :
    s.pc = .exit →
    removePendingHandshake s.io 0 true = some (io, ops) →
    Effect s .tick { s with io := io, pc := .exit } ops
  | done :
    s.pc = .exit →
    s.io.pendingHandshakes = [] →
    Effect s .tick { s with pc := .done } []

/-- What a session is when `spawn_serviced_session` adds it. -/
def Session.spawned (conn : Conn) : Session where
  qconn := some conn
  ngh3 := true
  controlStreamsCreated := true
  goawayDeadline := 0
  aborted := false
  ngh3Dead := false
  abortQuicErrorCode := 0
  abortReason := none

variable {s t : State} {ops : List ConnOp} {io io' : Io} {i j : Nat}

/-- The ticks, which end the loops. -/
lemma step_tick_effect (eq : step s .tick = some (t, ops)) : Effect s .tick t ops := by
  cases pc : s.pc with
  | loop =>
    simp only [step, pc] at eq
    split at eq
    · rename_i busy
      cases eq
      rw [Bool.or_eq_true, Bool.not_eq_true', List.isEmpty_eq_false_iff] at busy
      exact .enter pc busy
    · rename_i idle
      cases eq
      rw [Bool.or_eq_true, Bool.not_eq_true', List.isEmpty_eq_false_iff, not_or, Bool.not_eq_true,
        not_not] at idle
      exact .leave pc idle.1 idle.2
  | handshakes now i =>
    simp only [step, pc] at eq
    split at eq
    · cases eq
    · rename_i past
      cases eq
      exact .progressed pc (Nat.le_of_not_lt past)
  | sessions i =>
    simp only [step, pc] at eq
    split at eq
    · cases eq
    · rename_i past
      cases eq
      exact .serviced pc (Nat.le_of_not_lt past)
  | exit =>
    simp only [step, pc] at eq
    split at eq
    · rename_i empty
      cases eq
      exact .done pc (List.isEmpty_iff.mp empty)
    · obtain ⟨⟨io, ops'⟩, removed, eq⟩ := Option.bind_eq_some_iff.mp eq
      cases eq
      exact .drop pc removed
  | body => simp [step, pc] at eq
  | accept => simp [step, pc] at eq
  | serviced i => simp [step, pc] at eq
  | done => simp [step, pc] at eq

/-- Every turn is one of these. -/
theorem step_effect {a : Answer} (eq : step s a = some (t, ops)) : Effect s a t ops := by
  cases a with
  | stop =>
    obtain ⟨_, pc, _, _⟩ := s
    cases pc with
    | _ =>
      cases eq
      exact .stop
  | tick => exact step_tick_effect eq
  | pumped rv =>
    cases pc : s.pc with
    | body =>
      simp only [step, pc, Option.some.injEq, Prod.mk.injEq] at eq
      obtain ⟨rfl, rfl⟩ := eq
      exact .pumped pc
    | _ => simp [step, pc] at eq
  | accept prepared now =>
    cases pc : s.pc with
    | accept =>
      simp only [step, pc, Option.some.injEq, Prod.mk.injEq] at eq
      obtain ⟨rfl, rfl⟩ := eq
      exact .accept pc
    | _ => simp [step, pc] at eq
  | idle now =>
    cases pc : s.pc with
    | accept =>
      simp only [step, pc, Option.some.injEq, Prod.mk.injEq] at eq
      obtain ⟨rfl, rfl⟩ := eq
      exact .idle pc
    | _ => simp [step, pc] at eq
  | handshake a =>
    cases pc : s.pc with
    | handshakes now i =>
      simp only [step, pc, Option.bind_eq_bind, Option.bind_eq_some_iff] at eq
      obtain ⟨⟨io, ops', j⟩, progressed, eq⟩ := eq
      cases eq
      exact .handshake pc progressed
    | _ => simp [step, pc] at eq
  | pass a =>
    cases pc : s.pc with
    | sessions i =>
      simp only [step, pc, Option.bind_eq_bind, Option.bind_eq_some_iff] at eq
      obtain ⟨session, hs, eq⟩ := eq
      cases eq
      exact .pass pc hs rfl
    | _ => simp [step, pc] at eq
  | retire shutdownDone activeTasks =>
    cases pc : s.pc with
    | serviced i =>
      simp only [step, pc, Option.bind_eq_bind, Option.bind_eq_some_iff] at eq
      obtain ⟨⟨io, ops', j⟩, retired, eq⟩ := eq
      cases eq
      exact .retire pc retired
    | _ => simp [step, pc] at eq

/-- Accepting a connection leaves the sessions alone. -/
@[simp] lemma acceptConn_active (io : Io) (prepared : Bool) (now : Int) :
    (acceptConn io prepared now).1.activeSessions = io.activeSessions := by
  simp only [acceptConn]
  split
  · rfl
  · cases prepared with
    | _ => rfl

/-- So does dropping a pending handshake. -/
lemma removePendingHandshake_active {freeConn : Bool}
    (eq : removePendingHandshake io i freeConn = some (io', ops)) :
    io'.activeSessions = io.activeSessions := by
  obtain ⟨p, -, eq⟩ := Option.bind_eq_some_iff.mp eq
  cases eq
  rfl

/-- Setting up a session adds none, or a new one. -/
lemma spawnServicedSession_active (io : Io) (conn : Conn) (a : SpawnAnswer) :
    (spawnServicedSession io conn a).1 = io ∨
      (spawnServicedSession io conn a).1.activeSessions = io.activeSessions ++ [.spawned conn] ∧
        (spawnServicedSession io conn a).1.threadRunning = io.threadRunning ∧
        (spawnServicedSession io conn a).1.accepted = io.accepted := by
  rw [spawnServicedSession]
  split
  · exact .inl rfl
  cases hs : sessionCreate conn a with
  | none => exact .inl rfl
  | some created =>
    rw [sessionCreate] at hs
    split at hs
    · cases hs
    · cases hs
      simp only [sessionCreateControlStreams, Bool.false_eq_true, if_false]
      split
      · exact .inl rfl
      · simp only [Bool.not_true, Bool.false_eq_true, if_false]
        split
        · exact .inl rfl
        split
        · exact .inl rfl
        · exact .inr ⟨rfl, rfl, rfl⟩

/-- Removing a pending handshake leaves some of them, and everything else. -/
lemma removePendingHandshake_spec {freeConn : Bool}
    (eq : removePendingHandshake io i freeConn = some (io', ops)) :
    io' = { io with pendingHandshakes := io'.pendingHandshakes } ∧
      ∀ p ∈ io'.pendingHandshakes, p ∈ io.pendingHandshakes := by
  obtain ⟨p, hp, eq⟩ := Option.bind_eq_some_iff.mp eq
  cases eq
  refine ⟨rfl, ?_⟩
  intro q mem
  exact (swapRemove_perm hp).subset (List.mem_cons_of_mem p mem)

/-- A turn of the handshake loop: of the pending handshakes some are left, and at most one became a
session. -/
lemma progressPendingHandshake_active {now : Int} {a : HandshakeAnswer}
    (eq : progressPendingHandshake io now i a = some (io', ops, j)) :
    (∀ p ∈ io'.pendingHandshakes, p ∈ io.pendingHandshakes) ∧ io'.threadRunning = io.threadRunning ∧
      io'.accepted = io.accepted ∧
      (io'.activeSessions = io.activeSessions ∨
        ∃ p ∈ io.pendingHandshakes, io'.activeSessions =
          io.activeSessions ++ [.spawned p.conn]) := by
  obtain ⟨p, hp, eq⟩ := Option.bind_eq_some_iff.mp eq
  dsimp only at eq
  split at eq
  · obtain ⟨⟨io1, ops1⟩, eq1, eq⟩ := Option.bind_eq_some_iff.mp eq
    cases eq
    obtain ⟨same, sub⟩ := removePendingHandshake_spec eq1
    rw [same]
    exact ⟨sub, rfl, rfl, .inl rfl⟩
  split at eq
  · obtain ⟨⟨io1, ops1⟩, eq1, eq⟩ := Option.bind_eq_some_iff.mp eq
    cases eq
    obtain ⟨same, sub⟩ := removePendingHandshake_spec eq1
    rw [same]
    exact ⟨sub, rfl, rfl, .inl rfl⟩
  split at eq
  · obtain ⟨⟨io1, ops1⟩, eq1, eq⟩ := Option.bind_eq_some_iff.mp eq
    cases eq
    obtain ⟨same, sub⟩ := removePendingHandshake_spec eq1
    rw [spawnServicedSession_pending] at sub
    rw [same]
    rcases spawnServicedSession_active io p.conn a.spawn with unchanged | ⟨added, running, accepted⟩
    · rw [unchanged]
      exact ⟨sub, rfl, rfl, .inl rfl⟩
    · exact ⟨sub, running, accepted, .inr ⟨p, List.mem_of_getElem? hp, added⟩⟩
  · cases eq
    exact ⟨fun _ => id, rfl, rfl, .inl rfl⟩

/-- A connection that is accepted is a new one. -/
lemma acceptConn_spec (io : Io) (prepared : Bool) (now : Int) :
    (∀ p ∈ (acceptConn io prepared now).1.pendingHandshakes, p ∈ io.pendingHandshakes ∨
      p.conn = io.accepted) ∧ (acceptConn io prepared now).1.threadRunning = io.threadRunning ∧
      (acceptConn io prepared now).1.accepted = io.accepted + 1 := by
  simp only [acceptConn]
  split
  · exact ⟨fun _ => .inl, rfl, rfl⟩
  · cases prepared with
    | false => exact ⟨fun _ => .inl, rfl, rfl⟩
    | true =>
      refine ⟨?_, rfl, rfl⟩
      intro p mem
      rcases List.mem_append.mp mem with mem | mem
      · exact .inl mem
      · cases List.mem_singleton.mp mem
        exact .inr rfl

/-- Retiring a session takes at most this one away. -/
lemma retireSession_sub {shutdownDone : Bool} {activeTasks : UInt32}
    (eq : retireSession io i shutdownDone activeTasks = some (io', ops, j)) :
    (∀ x ∈ io'.activeSessions, x ∈ io.activeSessions) ∧
    io'.pendingHandshakes = io.pendingHandshakes ∧
      io'.threadRunning = io.threadRunning ∧ io'.accepted = io.accepted ∧
      io'.connAdded = io.connAdded := by
  obtain ⟨session, hs, eq⟩ := Option.bind_eq_some_iff.mp eq
  dsimp only at eq
  split at eq
  · split at eq
    · cases eq
      refine ⟨?_, rfl, rfl, rfl, rfl⟩
      intro x mem
      exact (swapRemove_perm hs).subset (List.mem_cons_of_mem session mem)
    · cases eq
      exact ⟨fun _ => id, rfl, rfl, rfl, rfl⟩
  · cases eq
    exact ⟨fun _ => id, rfl, rfl, rfl, rfl⟩

end ModHttp3.Listener

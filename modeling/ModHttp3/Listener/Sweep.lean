import ModHttp3.Listener.Conservation

/-!
# One pass over the connections

Both loops of a pass of the event thread remove entries from the array they go through:
`progress_pending_handshakes` from the pending handshakes, and the servicing loop from the active
sessions. `note` records what a turn of the thread looks at and what becomes of it. The entries that
were there when a loop began are each looked at once, and those that were not removed are left,
whatever was removed at which place (`each_connection_once`); both loops are sweeps.

Another thread can clear `thread_running` between any two turns.
-/

namespace ModHttp3.Listener
open ModHttp3.Lib

/-- What becomes of a pending handshake that is examined. -/
inductive Fate where
  | timedOut
  | closed
  | promoted
  | unfinished
deriving DecidableEq

/-- The fate of a pending handshake. -/
def Io.fate (io : Io) (now : Int) (pending : PendingHandshake) (a : HandshakeAnswer) : Fate :=
  if now - pending.acceptedAt ≥ timeFromSec io.handshakeTimeout.toNat then .timedOut
  else if a.closed then .closed
  else if a.handshakeDone then .promoted
  else .unfinished

/-- What a turn of the event thread does to an entry of one of the arrays. -/
inductive Note where
  | examined (pending : PendingHandshake) (fate : Fate)
  | serviced (before after : Session)
  | retired (session : Session) (destroyed : Bool)
  | other
deriving DecidableEq

/-- What the turn with answer `a` does to an entry. -/
def note (s : State) (a : Answer) : Note :=
  match s.pc, a with
  | .handshakes now i, .handshake a =>
    match s.io.pendingHandshakes[i]? with
    | some pending => .examined pending (s.io.fate now pending a)
    | none => .other
  | .sessions i, .pass a =>
    match s.io.activeSessions[i]? with
    | some session => .serviced session (serviceSessionPass s.io session a).2.1
    | none => .other
  | .serviced i, .retire shutdownDone activeTasks =>
    match s.io.activeSessions[i]? with
    | some session => .retired session (session.aborted && shutdownDone && activeTasks == 0)
    | none => .other
  | _, _ => .other

/-- The loop of `progress_pending_handshakes`. -/
def Pc.inHandshakes : Pc → Bool
  | .handshakes _ _ => true
  | _ => false

/-- The servicing loop of `h3_event_thread`. -/
def Pc.inSessions : Pc → Bool
  | .sessions _ | .serviced _ => true
  | _ => false

/-- The turns inside of a loop, labelled by what they do to an entry. -/
inductive Turn (inside : Pc → Bool) : State → Note → State → Prop where
  | step {s a t ops} :
    inside s.pc = true →
    inside t.pc = true →
    step s a = some (t, ops) →
    Turn inside s (note s a) t

/-- A turn inside of a loop to be run. -/
def runTurn (inside : Pc → Bool) (s : State) (a : Answer) : Option (State × Note) :=
  (step s a).bind fun r => if inside s.pc && inside r.1.pc then some (r.1, note s a) else none

/-- The handshakes that were examined, with their fates. -/
def examined (ns : List Note) : List (PendingHandshake × Fate) :=
  ns.filterMap fun | .examined pending fate => some (pending, fate) | _ => none

/-- Those that were not finished. -/
def unfinished (ns : List Note) : List PendingHandshake :=
  ((examined ns).filter (·.2 = .unfinished)).map Prod.fst

/-- The sessions `service_session_pass` was called for, before and after the call. -/
def serviced (ns : List Note) : List (Session × Session) :=
  ns.filterMap fun | .serviced before after => some (before, after) | _ => none

/-- The sessions after their call, and whether they were destroyed then. -/
def retired (ns : List Note) : List (Session × Bool) :=
  ns.filterMap fun | .retired session destroyed => some (session, destroyed) | _ => none

/-- Those that were not destroyed. -/
def surviving (ns : List Note) : List Session := ((retired ns).filter (!·.2)).map Prod.fst

/-- What was examined and what was found unfinished, after some turns of the handshake loop that
began with `initial`. -/
abbrev HandshakeSweep (initial : List PendingHandshake) (ns : List Note)
    (xs : List PendingHandshake) (i : Nat) :
    Prop :=
  Sweep initial ((examined ns).map Prod.fst) (unfinished ns) xs i

/-- The handshake loop, having begun with the entries `initial`. -/
def Handshaking (initial : List PendingHandshake) (ns : List Note) (s : State) : Prop :=
  ∃ now i, s.pc = .handshakes now i ∧ HandshakeSweep initial ns s.io.pendingHandshakes i

/-- The sessions that were serviced and those that survived, at the head of the servicing loop that
began with `initial`. -/
structure ServiceSweep (initial : List Session) (ns : List Note) (xs : List Session) (i : Nat) :
    Prop where
  sweep : Sweep initial ((serviced ns).map Prod.fst) (surviving ns) xs i
  agree : (retired ns).map Prod.fst = (serviced ns).map Prod.snd

/-- The same while the loop is with a session that `service_session_pass` has come back from. -/
structure ServiceAt (initial : List Session) (ns : List Note) (xs : List Session) (i : Nat)
    (session : Session) :
    Prop where
  here : Sweep.At initial ((serviced ns).map Prod.fst) (surviving ns) xs i session
  agree : (retired ns).map Prod.fst ++ [session] = (serviced ns).map Prod.snd

/-- The servicing loop, having begun with the sessions `initial`. -/
def Servicing (initial : List Session) (ns : List Note) (s : State) : Prop :=
  (∃ i, s.pc = .sessions i ∧ ServiceSweep initial ns s.io.activeSessions i) ∨
    ∃ i session, s.pc = .serviced i ∧ ServiceAt initial ns s.io.activeSessions i session

/-- The handshake loop that began in `s` and is in `t`: it goes on until as many handshakes were
examined as were pending, whatever is found out about the next one. Then each of them was examined
once, and the unfinished ones are left as they were. -/
structure ExaminedOnce (s : State) (ns : List Note) (t : State) : Prop where
  atMost : (examined ns).length ≤ s.io.pendingHandshakes.length
  goesOn : (examined ns).length < s.io.pendingHandshakes.length →
    step t .tick = none ∧ ∀ a, (step t (.handshake a)).isSome
  ends : (examined ns).length = s.io.pendingHandshakes.length →
    step t .tick = some ({ t with pc := .sessions 0 }, []) ∧
      ((examined ns).map Prod.fst).Perm s.io.pendingHandshakes ∧
      t.io.pendingHandshakes = unfinished ns

/-- The servicing loop that began in `s` and is in `t`: it goes on until as many sessions were
retired or kept as there were. Then `service_session_pass` was called once for each of them, and
those that were not destroyed are left as the call left them. -/
structure ServicedOnce (s : State) (ns : List Note) (t : State) : Prop where
  atMost : (retired ns).length ≤ s.io.activeSessions.length
  goesOn : (retired ns).length < s.io.activeSessions.length → step t .tick = none ∧
    ((∀ a, (step t (.pass a)).isSome) ∨ ∀ shutdownDone activeTasks,
      (step t (.retire shutdownDone activeTasks)).isSome)
  ends : (retired ns).length = s.io.activeSessions.length →
    step t .tick = some ({ t with pc := .loop }, []) ∧
      ((serviced ns).map Prod.fst).Perm s.io.activeSessions ∧
      (retired ns).map Prod.fst = (serviced ns).map Prod.snd ∧ t.io.activeSessions = surviving ns

section
variable {ns : List Note} {io : Io} {i : Nat}

/-- What was examined in two pieces of a sweep. -/
lemma examined_append {ms : List Note} : examined (ns ++ ms) = examined ns ++ examined ms :=
  List.filterMap_append

/-- What was found unfinished in two pieces of a sweep. -/
lemma unfinished_append {ms : List Note} :
    unfinished (ns ++ ms) = unfinished ns ++ unfinished ms := by
  rw [unfinished, examined_append, List.filter_append, List.map_append]
  rfl

/-- What was serviced in two pieces of a sweep. -/
lemma serviced_append {ms : List Note} : serviced (ns ++ ms) = serviced ns ++ serviced ms :=
  List.filterMap_append

/-- What was retired in two pieces of a sweep. -/
lemma retired_append {ms : List Note} : retired (ns ++ ms) = retired ns ++ retired ms :=
  List.filterMap_append

/-- What survived in two pieces of a sweep. -/
lemma surviving_append {ms : List Note} : surviving (ns ++ ms) = surviving ns ++ surviving ms := by
  rw [surviving, retired_append, List.filter_append, List.map_append]
  rfl

/-- Setting up a session leaves the pending handshakes alone. -/
lemma spawnServicedSession_pending (io : Io) (conn : Conn) (a : SpawnAnswer) :
    (spawnServicedSession io conn a).1.pendingHandshakes = io.pendingHandshakes := by
  rcases spawnServicedSession_cases io conn a with ⟨us, eq⟩ | ⟨us, s, -, eq⟩
  · rw [eq]
  · rw [eq]

/-- A pending handshake that is there can be removed, and the last one takes its slot. -/
lemma removePendingHandshake_some {p : PendingHandshake} (h : io.pendingHandshakes[i]? = some p)
    (freeConn : Bool) :
    ∃ io' ops, removePendingHandshake io i freeConn = some (io', ops) ∧
      io'.pendingHandshakes = swapRemove io.pendingHandshakes i := by
  refine ⟨{ io with pendingHandshakes := swapRemove io.pendingHandshakes i },
    if freeConn then [.free p.conn] else [], ?_, rfl⟩
  rw [removePendingHandshake, h]
  rfl

/-- A turn of the handshake loop keeps the entry and moves on if it is unfinished, and otherwise
removes it and stays. -/
lemma progressPendingHandshake_spec {p : PendingHandshake} (h : io.pendingHandshakes[i]? = some p)
    (now : Int) (a : HandshakeAnswer) :
    ∃ io' ops j, progressPendingHandshake io now i a = some (io', ops, j) ∧
      if io.fate now p a = .unfinished then io'.pendingHandshakes = io.pendingHandshakes ∧ j = i + 1
      else io'.pendingHandshakes = swapRemove io.pendingHandshakes i ∧ j = i := by
  have hs : (spawnServicedSession io p.conn a.spawn).1.pendingHandshakes[i]? = some p := by
    rw [spawnServicedSession_pending]
    exact h
  obtain ⟨io1, ops1, eq1, left1⟩ := removePendingHandshake_some h true
  obtain ⟨io2, ops2, eq2, left2⟩ := removePendingHandshake_some hs false
  rw [spawnServicedSession_pending] at left2
  simp only [progressPendingHandshake, Io.fate, h, Option.bind_eq_bind, Option.bind_some]
  split
  · exact ⟨io1, _, i, by rw [eq1]; rfl, by simpa using left1⟩
  split
  · exact ⟨io1, _, i, by rw [eq1]; rfl, by simpa using left1⟩
  split
  · exact ⟨io2, _, i, by rw [eq2]; rfl, by simpa using left2⟩
  · exact ⟨io, _, i + 1, rfl, by simp⟩

/-- `runTurn` runs a turn inside a sweep. -/
lemma runTurn_turn (inside : Pc → Bool) (s : State) (a : Answer) (t : State) (n : Note)
    (eq : runTurn inside s a = some (t, n)) : Turn inside s n t := by
  obtain ⟨⟨u, ops⟩, stepped, eq⟩ := Option.bind_eq_some_iff.mp eq
  split at eq
  · rename_i both
    cases eq
    rw [Bool.and_eq_true] at both
    exact .step both.1 both.2 stepped
  · cases eq

/-- Clearing `thread_running`. -/
lemma step_stop {s t : State} {ops : List ConnOp} (eq : step s .stop = some (t, ops)) :
    t = { s with io := { s.io with threadRunning := false } } ∧ note s .stop = .other := by
  obtain ⟨io, pc, workPending, listenerFailed⟩ := s
  cases pc with
  | _ =>
    cases eq
    exact ⟨rfl, rfl⟩

section
variable {initial xs : List PendingHandshake} {p : PendingHandshake} {fate : Fate}

/-- Any other turn leaves the sweep of the handshakes where it is. -/
lemma HandshakeSweep.other (sweep : HandshakeSweep initial ns xs i) :
    HandshakeSweep initial (ns ++ [.other]) xs i := by
  have empty : examined [.other] = [] ∧ unfinished [.other] = [] := ⟨rfl, rfl⟩
  rw [HandshakeSweep, examined_append, unfinished_append, empty.1, empty.2, List.append_nil,
    List.append_nil]
  exact sweep

/-- An unfinished handshake stays, and the sweep goes on behind it. -/
lemma HandshakeSweep.keep (sweep : HandshakeSweep initial ns xs i) (h : xs[i]? = some p) :
    HandshakeSweep initial (ns ++ [.examined p .unfinished]) xs (i + 1) := by
  rw [HandshakeSweep, examined_append, unfinished_append, List.map_append]
  exact (sweep.examine h).keep

/-- A finished handshake is removed, and the sweep goes on with the one in its slot. -/
lemma HandshakeSweep.remove (sweep : HandshakeSweep initial ns xs i) (h : xs[i]? = some p)
    (finished : fate ≠ .unfinished) :
    HandshakeSweep initial (ns ++ [.examined p fate]) (swapRemove xs i) i := by
  have empty : unfinished [.examined p fate] = [] := by simp [unfinished, examined, finished]
  rw [HandshakeSweep, examined_append, unfinished_append, List.map_append, empty, List.append_nil]
  exact (sweep.examine h).remove

end

/-- A turn of the handshake loop continues the sweep. -/
lemma Handshaking.turn {initial : List PendingHandshake} {s t : State} {n : Note}
    (h : Handshaking initial ns s) (turn : Turn Pc.inHandshakes s n t) :
    Handshaking initial (ns ++ [n]) t := by
  obtain ⟨now, i, pc, sweep⟩ := h
  cases turn with
  | @step a _ ops _ inside eq =>
    obtain ⟨io, pc', workPending, listenerFailed⟩ := s
    cases pc
    cases a with
    | stop =>
      obtain ⟨rfl, other⟩ := step_stop eq
      rw [other]
      exact ⟨now, i, rfl, sweep.other⟩
    | handshake a =>
      simp only [Listener.step, Option.bind_eq_bind, Option.bind_eq_some_iff] at eq
      obtain ⟨⟨io', ops', j⟩, eq', eq⟩ := eq
      cases eq
      cases hp : io.pendingHandshakes[i]? with
      | none =>
        rw [progressPendingHandshake, hp] at eq'
        cases eq'
      | some p =>
        obtain ⟨io1, ops1, j1, eq1, effect⟩ := progressPendingHandshake_spec hp now a
        rw [eq'] at eq1
        cases eq1
        have noted : note ⟨io, .handshakes now i, workPending, listenerFailed⟩ (.handshake a) =
            .examined p (io.fate now p a) := by
          simp only [note, hp]
        refine ⟨now, j, rfl, ?_⟩
        rw [noted]
        split at effect
        · rename_i unfinished
          obtain ⟨left, rfl⟩ := effect
          rw [unfinished, left]
          exact sweep.keep hp
        · rename_i finished
          obtain ⟨left, rfl⟩ := effect
          rw [left]
          exact sweep.remove hp finished
    | tick =>
      simp only [Listener.step] at eq
      split at eq
      · cases eq
      · cases eq
        cases inside
    | _ => cases eq

/-- Retiring keeps the session and moves on, or destroys and removes it and stays. -/
lemma retireSession_spec {session : Session} (h : io.activeSessions[i]? = some session)
    (shutdownDone : Bool) (activeTasks : UInt32) :
    ∃ io' ops j, retireSession io i shutdownDone activeTasks = some (io', ops, j) ∧
      if (session.aborted && shutdownDone && activeTasks == 0) = true then
        io'.activeSessions = swapRemove io.activeSessions i ∧ j = i
      else io'.activeSessions = io.activeSessions ∧ j = i + 1 := by
  simp only [retireSession, h, Option.bind_eq_bind, Option.bind_some]
  cases session.aborted with
  | false => exact ⟨io, [], i + 1, rfl, rfl, rfl⟩
  | true =>
    rw [Bool.true_and, if_pos rfl]
    split
    · exact ⟨_, _, i, rfl, rfl, rfl⟩
    · exact ⟨io, _, i + 1, rfl, rfl, rfl⟩

/-- The event thread never indexes an array out of bounds. -/
theorem accesses_in_bounds {max timeout : UInt32} {es : List (List ConnOp)} {s : State}
    (run : Run Step (State.init max timeout) es s) :
    (∀ now i a, i < s.io.pendingHandshakes.length →
      (progressPendingHandshake s.io now i a).isSome) ∧
    (∀ i d n, s.pc = .serviced i → (retireSession s.io i d n).isSome) ∧
    (s.io.pendingHandshakes ≠ [] → (removePendingHandshake s.io 0 true).isSome) := by
  refine ⟨fun now i a lt => ?_, fun i d n pc => ?_, fun ne => ?_⟩
  · obtain ⟨io, ops, j, eq, -⟩ := progressPendingHandshake_spec (List.getElem?_eq_getElem lt) now a
    rw [eq]
    rfl
  · have lt := (AtLoopHead.run run).serviced i pc
    obtain ⟨io, ops, j, eq, -⟩ := retireSession_spec (List.getElem?_eq_getElem lt) d n
    rw [eq]
    rfl
  · have lt := List.length_pos_iff.mpr ne
    obtain ⟨io, ops, eq, -⟩ := removePendingHandshake_some (List.getElem?_eq_getElem lt) true
    rw [eq]
    rfl

/-- Servicing changes the session in its slot and the total of streams. -/
lemma step_pass {s t : State} {a : PassAnswer} {ops : List ConnOp} (pc : s.pc = .sessions i)
    (eq : step s (.pass a) = some (t, ops)) :
    ∃ session, s.io.activeSessions[i]? = some session ∧ t.pc = .serviced i ∧
      t.io.activeSessions = s.io.activeSessions.set i (serviceSessionPass s.io session a).2.1 ∧
      t.workPending = (s.workPending || (serviceSessionPass s.io session a).2.2.2) := by
  obtain ⟨io, _, workPending, listenerFailed⟩ := s
  cases pc
  simp only [step, Option.bind_eq_bind, Option.bind_eq_some_iff] at eq
  obtain ⟨session, hs, eq⟩ := eq
  cases eq
  obtain ⟨⟨n, hio⟩, -⟩ := serviceSessionPass_spec io session a
  refine ⟨session, hs, rfl, ?_, rfl⟩
  simp only [hio]

/-- Retiring goes on with the next session, which is in the same slot if this one is destroyed. -/
lemma step_retire {s t : State} {shutdownDone : Bool} {activeTasks : UInt32} {ops : List ConnOp}
    (pc : s.pc = .serviced i) (eq : step s (.retire shutdownDone activeTasks) = some (t, ops)) :
    ∃ session, s.io.activeSessions[i]? = some session ∧ t.workPending = s.workPending ∧
      if (session.aborted && shutdownDone && activeTasks == 0) = true then
        t.io.activeSessions = swapRemove s.io.activeSessions i ∧ t.pc = .sessions i
      else t.io.activeSessions = s.io.activeSessions ∧ t.pc = .sessions (i + 1) := by
  obtain ⟨io, _, workPending, listenerFailed⟩ := s
  cases pc
  simp only [step, Option.bind_eq_bind, Option.bind_eq_some_iff] at eq
  obtain ⟨⟨io', ops', j⟩, eq', eq⟩ := eq
  cases eq
  obtain ⟨session, hs, -⟩ := Option.bind_eq_some_iff.mp eq'
  obtain ⟨io1, ops1, j1, eq1, effect⟩ := retireSession_spec hs shutdownDone activeTasks
  rw [eq'] at eq1
  cases eq1
  refine ⟨session, hs, rfl, ?_⟩
  split at effect
  · rename_i destroyed
    obtain ⟨left, rfl⟩ := effect
    rw [if_pos destroyed]
    exact ⟨left, rfl⟩
  · rename_i stays
    obtain ⟨left, rfl⟩ := effect
    rw [if_neg stays]
    exact ⟨left, rfl⟩

section
variable {initial xs : List Session} {session : Session}

/-- Any other turn leaves the sweep of the sessions where it is. -/
lemma ServiceSweep.other (h : ServiceSweep initial ns xs i) :
    ServiceSweep initial (ns ++ [.other]) xs i where
  sweep := by
    rw [serviced_append, surviving_append, List.map_append]
    simpa [serviced, surviving, retired] using h.sweep
  agree := by
    rw [serviced_append, retired_append, List.map_append, List.map_append, h.agree]
    rfl

/-- Any other turn leaves the session that is being serviced where it is. -/
lemma ServiceAt.other (h : ServiceAt initial ns xs i session) :
    ServiceAt initial (ns ++ [.other]) xs i session where
  here := by
    rw [serviced_append, surviving_append, List.map_append]
    simpa [serviced, surviving, retired] using h.here
  agree := by
    rw [serviced_append, retired_append, List.map_append, List.map_append, ← h.agree]
    simp [serviced, retired]

/-- `service_session_pass` is called for the next session. -/
lemma ServiceSweep.pass (h : ServiceSweep initial ns xs i) (hs : xs[i]? = some session)
    (after : Session) :
    ServiceAt initial (ns ++ [.serviced session after]) (xs.set i after) i after where
  here := by
    rw [serviced_append, surviving_append, List.map_append]
    simpa [serviced, surviving, retired] using h.sweep.visit hs after
  agree := by
    rw [serviced_append, retired_append, List.map_append, List.map_append, ← h.agree]
    simp [serviced, retired]

/-- The session stays. -/
lemma ServiceAt.keep (h : ServiceAt initial ns xs i session) :
    ServiceSweep initial (ns ++ [.retired session false]) xs (i + 1) where
  sweep := by
    rw [serviced_append, surviving_append, List.map_append]
    simpa [serviced, surviving, retired] using h.here.keep
  agree := by
    rw [serviced_append, retired_append, List.map_append, List.map_append, ← h.agree]
    simp [serviced, retired]

/-- The session is destroyed. -/
lemma ServiceAt.destroy (h : ServiceAt initial ns xs i session) :
    ServiceSweep initial (ns ++ [.retired session true]) (swapRemove xs i) i where
  sweep := by
    rw [serviced_append, surviving_append, List.map_append]
    simpa [serviced, surviving, retired] using h.here.remove
  agree := by
    rw [serviced_append, retired_append, List.map_append, List.map_append, ← h.agree]
    simp [serviced, retired]

end

/-- A turn of the servicing loop continues the sweep. -/
lemma Servicing.turn {initial : List Session} {s t : State} {n : Note} (h : Servicing initial ns s)
    (turn : Turn Pc.inSessions s n t) : Servicing initial (ns ++ [n]) t := by
  cases turn with
  | @step a _ ops _ inside eq =>
    rcases h with ⟨i, pc, sweep⟩ | ⟨i, session, pc, here⟩
    · cases a with
      | stop =>
        obtain ⟨rfl, other⟩ := step_stop eq
        rw [other]
        exact .inl ⟨i, pc, sweep.other⟩
      | pass a =>
        obtain ⟨session, hs, pc', left, -⟩ := step_pass pc eq
        have noted : note s (.pass a) = .serviced session
            (serviceSessionPass s.io session a).2.1 := by
          simp only [note, pc, hs]
        refine .inr ⟨i, (serviceSessionPass s.io session a).2.1, pc', ?_⟩
        rw [noted, left]
        exact sweep.pass hs _
      | tick =>
        simp only [Listener.step, pc] at eq
        split at eq
        · cases eq
        · cases eq
          cases inside
      | _ =>
        simp only [Listener.step, pc] at eq
        cases eq
    · cases a with
      | stop =>
        obtain ⟨rfl, other⟩ := step_stop eq
        rw [other]
        exact .inr ⟨i, session, pc, here.other⟩
      | retire shutdownDone activeTasks =>
        obtain ⟨session', hs', -, effect⟩ := step_retire pc eq
        have hs : s.io.activeSessions[i]? = some session := here.here.here
        rw [hs] at hs'
        cases hs'
        have noted : note s (.retire shutdownDone activeTasks) =
            .retired session (session.aborted && shutdownDone && activeTasks == 0) := by
          simp only [note, pc, hs]
        rw [noted]
        split at effect
        · rename_i destroyed
          rw [destroyed]
          refine .inl ⟨i, effect.2, ?_⟩
          rw [effect.1]
          exact here.destroy
        · rename_i stays
          rw [(Bool.not_eq_true _).mp stays]
          refine .inl ⟨i + 1, effect.2, ?_⟩
          rw [effect.1]
          exact here.keep
      | _ =>
        simp only [Listener.step, pc] at eq
        cases eq

/-- After the sweep every handshake was examined once. -/
lemma Handshaking.once {s t : State} (h : Handshaking s.io.pendingHandshakes ns t) :
    ExaminedOnce s ns t := by
  obtain ⟨now, i, pc, sweep⟩ := h
  obtain ⟨io, pc', workPending, listenerFailed⟩ := t
  cases pc
  have left := sweep.left
  have bound := sweep.bound
  rw [List.length_map] at left
  dsimp only at left bound
  refine ⟨by omega, fun few => ?_, fun all => ?_⟩
  · have lt : i < io.pendingHandshakes.length := by omega
    refine ⟨if_pos lt, fun a => ?_⟩
    obtain ⟨io', ops, j, eq, -⟩ := progressPendingHandshake_spec (List.getElem?_eq_getElem lt) now a
    simp only [Listener.step, eq]
    rfl
  · have ge : io.pendingHandshakes.length ≤ i := by omega
    exact ⟨if_neg (Nat.not_lt.mpr ge), sweep.finish ge⟩

/-- After the sweep every session was serviced once. -/
lemma Servicing.once {s t : State} (h : Servicing s.io.activeSessions ns t) :
    ServicedOnce s ns t := by
  obtain ⟨io, pc', workPending, listenerFailed⟩ := t
  rcases h with ⟨i, pc, sweep, agree⟩ | ⟨i, session, pc, here, agree⟩
  · cases pc
    have left := sweep.left
    have bound := sweep.bound
    have same := congrArg List.length agree
    rw [List.length_map, List.length_map] at same
    rw [List.length_map] at left
    dsimp only at left bound
    refine ⟨by omega, fun few => ?_, fun all => ?_⟩
    · have lt : i < io.activeSessions.length := by omega
      refine ⟨if_pos lt, .inl fun a => ?_⟩
      simp only [Listener.step, List.getElem?_eq_getElem lt]
      rfl
    · have ge : io.activeSessions.length ≤ i := by omega
      obtain ⟨perm, survive⟩ := sweep.finish ge
      exact ⟨if_neg (Nat.not_lt.mpr ge), perm, agree, survive⟩
  · cases pc
    have left := here.keep.left
    have bound := here.keep.bound
    have same := congrArg List.length agree
    rw [List.length_append, List.length_map, List.length_map, List.length_singleton] at same
    rw [List.length_map] at left
    refine ⟨by omega, fun few => ?_, fun all => ?_⟩
    · refine ⟨rfl, .inr fun shutdownDone activeTasks => ?_⟩
      obtain ⟨io', ops, j, eq, -⟩ := retireSession_spec here.here shutdownDone activeTasks
      simp only [Listener.step, eq]
      rfl
    · omega

end

/-- For every content of the two arrays, each pass of the event thread examines each pending
handshake once and leaves the unfinished ones, and then services each session once and leaves those
that were not destroyed. -/
theorem each_connection_once (s : State) :
    (∀ now ns t, s.pc = .handshakes now 0 → Run (Turn Pc.inHandshakes) s ns t →
      ExaminedOnce s ns t) ∧ ∀ ns t, s.pc = .sessions 0 → Run (Turn Pc.inSessions) s ns t →
      ServicedOnce s ns t := by
  constructor
  · intro now ns t pc run
    refine Handshaking.once (run.invariant_hist (fun _ _ _ _ => Handshaking.turn) ?_)
    exact ⟨now, 0, pc, .start⟩
  · intro ns t pc run
    refine Servicing.once (run.invariant_hist (fun _ _ _ _ => Servicing.turn) ?_)
    exact .inl ⟨0, pc, .start, rfl⟩

/-- A session in service. -/
def sessionOn (conn : Conn) (aborted : Bool) : Session where
  qconn := some conn
  ngh3 := true
  controlStreamsCreated := true
  goawayDeadline := 0
  aborted := aborted
  ngh3Dead := false
  abortQuicErrorCode := 0
  abortReason := none

/-- A listener with three pending handshakes, the first of them old, and three sessions, two of them
aborted. -/
def busyAt (pc : Pc) : State where
  io :=
    { threadRunning := true, maxConnections := 10, handshakeTimeout := 10
      activeSessions := [sessionOn 3 true, sessionOn 4 false, sessionOn 5 true]
      pendingHandshakes := [⟨0, 0⟩, ⟨1, 95000000⟩, ⟨2, 96000000⟩]
      activeSessionCount := 3, totalConnections := 6, totalStreams := 0, connAdded := 3,
      connRemoved := 0
      accepted := 6 }
  pc := pc
  workPending := false
  listenerFailed := false

/-- The first handshake timed out, the last one moves into its slot and is finished, and the other
one moves there in turn. The first session is destroyed and so is the last one, which moved into its
slot. -/
theorem each_connection_once_busy :
    (∃ ns t, Run (Turn Pc.inHandshakes) (busyAt (.handshakes 100000000 0)) ns t ∧
      examined ns = [(⟨0, 0⟩, .timedOut), (⟨2, 96000000⟩, .promoted),
        (⟨1, 95000000⟩, .unfinished)] ∧
      ((examined ns).map Prod.fst).Perm [⟨0, 0⟩, ⟨1, 95000000⟩, ⟨2, 96000000⟩] ∧
      t.io.pendingHandshakes = [⟨1, 95000000⟩]) ∧
    ∃ ns t, Run (Turn Pc.inSessions) (busyAt (.sessions 0)) ns t ∧
      ((serviced ns).map Prod.fst).Perm [sessionOn 3 true, sessionOn 4 false, sessionOn 5 true] ∧
      t.io.activeSessions = [sessionOn 4 false] := by
  constructor
  · have eq : (execAll (runTurn Pc.inHandshakes) (busyAt (.handshakes 100000000 0))
        [.handshake { closed := false, handshakeDone := false, spawn := spawnOk },
          .handshake { closed := false, handshakeDone := true, spawn := spawnOk }, .stop,
          .handshake { closed := false, handshakeDone := false, spawn := spawnOk }]).map
          (fun r => examined r.2) =
        some [(⟨0, 0⟩, .timedOut), (⟨2, 96000000⟩, .promoted), (⟨1, 95000000⟩, .unfinished)] := by
      decide +kernel
    obtain ⟨⟨t, ns⟩, run, three⟩ := Option.map_eq_some_iff.mp eq
    have run := execAll_run (runTurn_turn _) run
    obtain ⟨-, perm, left⟩ := ((each_connection_once _).1 _ ns t rfl run).ends (by rw [three]; rfl)
    refine ⟨ns, t, run, three, perm, ?_⟩
    rw [left, unfinished, three]
    rfl
  · have eq : (execAll (runTurn Pc.inSessions) (busyAt (.sessions 0))
        [.pass quietPass, .retire true 0, .pass quietPass, .retire true 0, .pass quietPass,
          .retire true 0]).map (fun r => retired r.2) =
        some [(sessionOn 3 true, true), (sessionOn 5 true, true), (sessionOn 4 false, false)] := by
      decide +kernel
    obtain ⟨⟨t, ns⟩, run, three⟩ := Option.map_eq_some_iff.mp eq
    have run := execAll_run (runTurn_turn _) run
    obtain ⟨-, perm, -, left⟩ := ((each_connection_once _).2 ns t rfl run).ends (by rw [three]; rfl)
    refine ⟨ns, t, run, perm, ?_⟩
    rw [left, surviving, three]
    rfl

end ModHttp3.Listener

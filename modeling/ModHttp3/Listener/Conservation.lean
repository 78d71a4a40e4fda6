import ModHttp3.Lib.Run
import ModHttp3.Listener.Loop

/-!
# Connection conservation

Every connection OpenSSL returns is in one place until it is freed. `Conserved max log io` says so
with an ownership ledger over the pending handshakes and the active sessions, next to the connection
limit and the three counters of active sessions; each function of the event thread keeps it, and
`connection_conservation` reads the result off for every run.
-/

namespace ModHttp3.Listener
open ModHttp3.Lib

/-- The connections the listener holds: those of the pending handshakes and of the active
sessions. -/
def Io.owned (io : Io) : List Conn :=
  io.pendingHandshakes.map PendingHandshake.conn ++ io.activeSessions.filterMap Session.qconn

/-- Every connection is accounted for, sessions have one, the limit holds and the counters agree. -/
structure Conserved (max : UInt32) (log : List ConnOp) (io : Io) : Prop where
  ledger : Ledger io.owned log io.accepted
  live : ∀ s ∈ io.activeSessions, s.qconn.isSome
  limit : io.activeSessions.length + io.pendingHandshakes.length ≤ io.maxConnections.toNat
  count : io.activeSessionCount.toNat = io.activeSessions.length
  notes : io.connAdded = io.connRemoved + io.activeSessions.length
  config : io.maxConnections = max

section
variable {max : UInt32} {log : List ConnOp} {io io' : Io} {ops : List ConnOp} {conn : Conn}
  {i : Nat}

/-- A use of a connection that is there. -/
lemma use_some (u : ConnUse) : use u (some conn) = [.use u conn] := rfl

/-- Taking a pending handshake out of the array. -/
lemma owned_removePending (io : Io) {p : PendingHandshake} (h : io.pendingHandshakes[i]? = some p) :
    io.owned.Perm
      (p.conn :: { io with pendingHandshakes := swapRemove io.pendingHandshakes i }.owned) := by
  have perm := (swapRemove_perm h).map PendingHandshake.conn
  exact (perm.append_right _).symm

/-- Dropping a pending handshake together with its connection keeps everything accounted for. -/
lemma Conserved.remove (h : Conserved max log io)
    (eq : removePendingHandshake io i true = some (io', ops)) : Conserved max (log ++ ops) io' := by
  rw [removePendingHandshake, Option.bind_eq_bind, Option.bind_eq_some_iff] at eq
  obtain ⟨p, hp, eq⟩ := eq
  cases eq
  have len := swapRemove_length hp
  exact
    { ledger := (h.ledger.perm (owned_removePending io hp)).free
      live := h.live
      limit := by
        have := h.limit
        dsimp only
        omega
      count := h.count
      notes := h.notes
      config := h.config }

/-- Using a connection that is held keeps everything accounted for. -/
lemma Conserved.uses (h : Conserved max log io) (mem : conn ∈ io.owned) (us : List ConnUse) :
    Conserved max (log ++ us.map (.use · conn)) io where
  ledger := h.ledger.uses mem us
  live := h.live
  limit := h.limit
  count := h.count
  notes := h.notes
  config := h.config

/-- Setting up a session uses the connection, and then either frees it or adds one session that
holds it. -/
lemma spawnServicedSession_cases (io : Io) (conn : Conn) (a : SpawnAnswer) :
    (∃ us : List ConnUse,
      spawnServicedSession io conn a = (io, us.map (ResOp.use · conn) ++ [ResOp.free conn])) ∨
    (∃ (us : List ConnUse) (s : Session), s.qconn = some conn ∧
      spawnServicedSession io conn a =
        ({ io with
            activeSessions := io.activeSessions ++ [s]
            activeSessionCount := io.activeSessionCount + 1
            connAdded := io.connAdded + 1 },
          us.map (.use · conn))) := by
  rw [spawnServicedSession]
  split
  · exact .inl ⟨[], rfl⟩
  cases hs : sessionCreate conn a with
  | none => exact .inl ⟨[], rfl⟩
  | some s =>
    have created : s.qconn = some conn ∧ s.controlStreamsCreated = false := by
      rw [sessionCreate] at hs
      split at hs
      · cases hs
      · cases hs
        exact ⟨rfl, rfl⟩
    obtain ⟨hq, hc⟩ := created
    simp only [sessionCreateControlStreams, hc, Bool.false_eq_true, if_false]
    split
    · refine .inl ⟨openControlStreams a, ?_⟩
      simp [sessionDestroy, hq, openControlStreams, use]
    · simp only [Bool.not_true, Bool.false_eq_true, if_false]
      split
      · refine .inl ⟨openControlStreams a ++ [.isClosed a.closed], ?_⟩
        simp [sessionDestroy, hq, openControlStreams, use]
      split
      · refine .inl ⟨openControlStreams a ++ [.isClosed a.closed], ?_⟩
        simp [sessionDestroy, hq, openControlStreams, use]
      · refine .inr ⟨openControlStreams a ++ [.isClosed a.closed, .peerAddr],
          { s with controlStreamsCreated := true }, hq, ?_⟩
        simp [hq, openControlStreams, use]

/-- A finished handshake becomes a session, or its connection is freed. -/
lemma Conserved.spawn {p : PendingHandshake} {a : SpawnAnswer} {ops' : List ConnOp}
    (h : Conserved max log io) (hp : io.pendingHandshakes[i]? = some p)
    (eq : removePendingHandshake (spawnServicedSession io p.conn a).1 i false = some (io', ops')) :
    Conserved max (log ++ ((spawnServicedSession io p.conn a).2 ++ ops')) io' := by
  have perm := owned_removePending io hp
  have len := swapRemove_length hp
  have mem : p.conn ∈ io.owned := perm.mem_iff.mpr List.mem_cons_self
  have limit := h.limit
  have bound := io.maxConnections.toNat_lt
  rw [removePendingHandshake, Option.bind_eq_bind, Option.bind_eq_some_iff] at eq
  rcases spawnServicedSession_cases io p.conn a with ⟨us, e⟩ | ⟨us, s, hq, e⟩
  -- the session could not be set up, and the connection was freed with it
  · rw [e] at eq ⊢
    obtain ⟨p', hp', eq⟩ := eq
    cases eq
    have freed := ((h.ledger.uses mem us).perm perm).free
    rw [List.append_assoc] at freed
    exact
      { ledger := by simpa using freed
        live := h.live
        limit := by
          dsimp only
          omega
        count := h.count
        notes := h.notes
        config := h.config }
  -- the connection moves from the pending handshakes to the sessions
  · rw [e] at eq ⊢
    obtain ⟨p', hp', eq⟩ := eq
    cases eq
    have used := (h.ledger.uses mem us).perm perm
    exact
      { ledger := by
          rw [if_neg Bool.false_ne_true, List.append_nil]
          refine used.perm ?_
          simp only [Io.owned, List.filterMap_append, List.filterMap_cons_some hq,
            List.filterMap_nil]
          rw [← List.append_assoc]
          exact (List.perm_append_singleton p.conn _).symm
        live := by
          intro x hx
          rcases List.mem_append.mp hx with hx | hx
          · exact h.live x hx
          · rw [List.mem_singleton.mp hx, hq]
            rfl
        limit := by
          simp only [List.length_append, List.length_singleton]
          omega
        count := by
          have := h.count
          simp only [List.length_append, List.length_singleton, UInt32.toNat_add, UInt32.toNat_one]
          omega
        notes := by
          have := h.notes
          simp only [List.length_append, List.length_singleton]
          omega
        config := h.config }

/-- A turn of the handshake loop keeps everything accounted for. -/
lemma Conserved.handshake {now : Int} {a : HandshakeAnswer} {j : Nat} (h : Conserved max log io)
    (eq : progressPendingHandshake io now i a = some (io', ops, j)) :
    Conserved max (log ++ ops) io' := by
  rw [progressPendingHandshake, Option.bind_eq_bind, Option.bind_eq_some_iff] at eq
  obtain ⟨p, hp, eq⟩ := eq
  have mem : p.conn ∈ io.owned := (owned_removePending io hp).mem_iff.mpr List.mem_cons_self
  dsimp only at eq
  split at eq
  · obtain ⟨⟨io1, ops1⟩, eq1, eq⟩ := Option.bind_eq_some_iff.mp eq
    cases eq
    exact h.remove eq1
  split at eq
  · obtain ⟨⟨io1, ops1⟩, eq1, eq⟩ := Option.bind_eq_some_iff.mp eq
    cases eq
    have := (h.uses mem [.isClosed true, .closeReason]).remove eq1
    rwa [List.append_assoc] at this
  split at eq
  · obtain ⟨⟨io1, ops1⟩, eq1, eq⟩ := Option.bind_eq_some_iff.mp eq
    cases eq
    have := (h.uses mem [.isClosed false, .isHandshakeDone true]).spawn hp eq1
    rw [List.append_assoc] at this
    rwa [List.append_assoc]
  · cases eq
    exact h.uses mem [.isClosed false, .isHandshakeDone false]

/-- Below the limit there is room for one more connection; the 32-bit sum does not wrap. -/
lemma Conserved.room (h : Conserved max log io) (below : io.atConnectionLimit = false) :
    io.activeSessions.length + io.pendingHandshakes.length < io.maxConnections.toNat := by
  have limit := h.limit
  have bound := io.maxConnections.toNat_lt
  rw [Io.atConnectionLimit, decide_eq_false_iff_not, ge_iff_le, UInt32.le_iff_toNat_le,
    UInt32.toNat_add, UInt32.toNat_ofNat', UInt32.toNat_ofNat'] at below
  omega

/-- A turn of the accept loop keeps everything accounted for. -/
lemma Conserved.accept (h : Conserved max log io) (prepared : Bool) (now : Int) :
    Conserved max (log ++ (acceptConn io prepared now).2) (acceptConn io prepared now).1 := by
  have acquired := h.ledger.acquire
  have used := acquired.use List.mem_cons_self (ConnUse.prepare prepared)
  rw [acceptConn]
  cases below : { io with accepted := io.accepted + 1 }.atConnectionLimit with
  | true =>
    simp only [if_true]
    exact
      { ledger := acquired.free
        live := h.live
        limit := h.limit
        count := h.count
        notes := h.notes
        config := h.config }
  | false =>
    have room := h.room below
    simp only [Bool.false_eq_true, if_false]
    cases prepared with
    | false =>
      simp only [prepareAcceptedConnection, Bool.not_false, if_true]
      exact
        { ledger := by
            have := used.free
            rwa [List.append_assoc] at this
          live := h.live
          limit := h.limit
          count := h.count
          notes := h.notes
          config := h.config }
    | true =>
      simp only [prepareAcceptedConnection, Bool.not_true, Bool.false_eq_true, if_false]
      exact
        { ledger := by
            refine used.perm ?_
            simp only [Io.owned, List.map_append, List.map_singleton]
            rw [List.append_assoc]
            exact List.perm_middle.symm
          live := h.live
          limit := by
            simp only [List.length_append, List.length_singleton]
            omega
          count := h.count
          notes := h.notes
          config := h.config }

/-- Marking a session as dead leaves its connection. -/
@[simp] lemma markNgh3Dead_qconn (s : Session) (e : Option (UInt64 × String)) :
    (s.markNgh3Dead e).qconn = s.qconn := by
  cases e <;> rfl

/-- Announcing the end to the client leaves the connection of the session. -/
@[simp] lemma goaway_qconn (s : Session) (a : PassAnswer) : (goaway s a).1.qconn = s.qconn := by
  simp only [goaway]
  split <;> split <;> simp

/-- What the second half of a service pass does: it uses the connection of the session and leaves it
there, and of the listener it changes the stream counter only. -/
lemma serviceStreams_spec (io : Io) (s : Session) (a : PassAnswer) :
    (∃ n, (serviceStreams io s a).1 = { io with totalStreams := n }) ∧
    (serviceStreams io s a).2.1.qconn = s.qconn ∧
    ∃ us : List ConnUse, (serviceStreams io s a).2.2.1 = us.flatMap (use · s.qconn) := by
  simp only [serviceStreams]
  split
  · exact ⟨⟨io.totalStreams, rfl⟩, rfl, [.isClosed a.closed], (List.flatMap_singleton _ _).symm⟩
  split
  · exact ⟨⟨io.totalStreams, rfl⟩, rfl, [.isClosed a.closed], (List.flatMap_singleton _ _).symm⟩
  have ops : use (.isClosed a.closed) s.qconn ++ (acceptStreams a.streams).flatMap (use · s.qconn) =
      (.isClosed a.closed :: acceptStreams a.streams).flatMap (use · s.qconn) := rfl
  split
  · exact ⟨⟨_, rfl⟩, markNgh3Dead_qconn s _, _, ops⟩
  · refine ⟨⟨_, rfl⟩, ?_, _, ops⟩
    rw [markNgh3Dead_qconn]
    exact markNgh3Dead_qconn s _

/-- The same of a whole service pass. -/
lemma serviceSessionPass_spec (io : Io) (s : Session) (a : PassAnswer) :
    (∃ n, (serviceSessionPass io s a).1 = { io with totalStreams := n }) ∧
    (serviceSessionPass io s a).2.1.qconn = s.qconn ∧
    ∃ us : List ConnUse, (serviceSessionPass io s a).2.2.1 = us.flatMap (use · s.qconn) := by
  rw [serviceSessionPass]
  split
  · exact ⟨⟨io.totalStreams, rfl⟩, rfl, [], rfl⟩
  split
  · exact serviceStreams_spec io s a
  · have kept := goaway_qconn s a
    cases hg : goaway s a with
    | mk t up =>
      rw [hg] at kept
      cases up with
      | true => exact ⟨⟨io.totalStreams, rfl⟩, kept, [], rfl⟩
      | false =>
        have h := serviceStreams_spec io t a
        rwa [show t.qconn = s.qconn from kept] at h

/-- Replacing a session by one with the same connection changes no owner. -/
lemma filterMap_qconn_set {xs : List Session} {s t : Session} (h : xs[i]? = some s)
    (hq : t.qconn = s.qconn) :
    (xs.set i t).filterMap Session.qconn = xs.filterMap Session.qconn := by
  induction xs generalizing i with
  | nil => rfl
  | cons x xs ih =>
    cases i with
    | zero =>
      cases h
      rw [List.set_cons_zero, List.filterMap_cons, List.filterMap_cons, hq]
    | succ i =>
      rw [List.getElem?_cons_succ] at h
      rw [List.set_cons_succ, List.filterMap_cons, List.filterMap_cons, ih h]

/-- A service pass keeps everything accounted for. -/
lemma Conserved.pass {s : Session} {a : PassAnswer} {t : Session} {dataRead : Bool}
    (h : Conserved max log io) (hs : io.activeSessions[i]? = some s)
    (eq : serviceSessionPass io s a = (io', t, ops, dataRead)) :
    Conserved max (log ++ ops) { io' with activeSessions := io'.activeSessions.set i t } := by
  have mems : s ∈ io.activeSessions := List.mem_of_getElem? hs
  obtain ⟨conn, hq⟩ := Option.isSome_iff_exists.mp (h.live s mems)
  obtain ⟨⟨n, hio⟩, hq', us, hus⟩ := serviceSessionPass_spec io s a
  rw [eq] at hio hq' hus
  dsimp only at hio hq' hus
  have hops : ops = us.map (.use · conn) := by
    rw [hus, hq]
    exact List.flatMap_pure_eq_map _ us
  subst hio hops
  have mem : conn ∈ io.owned := List.mem_append_right _ (List.mem_filterMap.mpr ⟨s, mems, hq⟩)
  exact
    { ledger := by
        simp only [Io.owned]
        rw [filterMap_qconn_set hs hq']
        exact h.ledger.uses mem us
      live := by
        intro x hx
        rcases List.mem_or_eq_of_mem_set hx with hx | rfl
        · exact h.live x hx
        · rw [hq', hq]
          rfl
      limit := by
        simp only [List.length_set]
        exact h.limit
      count := by
        simp only [List.length_set]
        exact h.count
      notes := by
        simp only [List.length_set]
        exact h.notes
      config := h.config }

/-- Retiring a session frees its connection and takes it off every count. -/
lemma Conserved.retire {shutdownDone : Bool} {activeTasks : UInt32} {j : Nat}
    (h : Conserved max log io)
    (eq : retireSession io i shutdownDone activeTasks = some (io', ops, j)) :
    Conserved max (log ++ ops) io' := by
  rw [retireSession, Option.bind_eq_bind, Option.bind_eq_some_iff] at eq
  obtain ⟨s, hs, eq⟩ := eq
  have mems : s ∈ io.activeSessions := List.mem_of_getElem? hs
  obtain ⟨conn, hq⟩ := Option.isSome_iff_exists.mp (h.live s mems)
  have mem : conn ∈ io.owned := List.mem_append_right _ (List.mem_filterMap.mpr ⟨s, mems, hq⟩)
  dsimp only at eq
  rw [hq, use_some] at eq
  split at eq
  · have used := h.uses mem [.shutdown (!io.threadRunning) s.abortQuicErrorCode
      (if s.ngh3Dead then s.abortReason else none) shutdownDone]
    split at eq
    · cases eq
      have perm := swapRemove_perm hs
      have len := swapRemove_length hs
      have owned : io.owned.Perm
          (conn :: { io with activeSessions := swapRemove io.activeSessions i }.owned) := by
        have := perm.filterMap Session.qconn
        rw [List.filterMap_cons_some hq] at this
        exact (this.symm.append_left _).trans List.perm_middle
      have count := h.count
      have notes := h.notes
      have limit := h.limit
      exact
        { ledger := by
            have := (used.ledger.perm owned).free
            rw [List.append_assoc] at this
            rw [sessionDestroy, hq]
            exact this
          live := fun x hx => h.live x (perm.subset (List.mem_cons_of_mem s hx))
          limit := by
            dsimp only
            omega
          count := by
            have one : (1 : UInt32).toNat = 1 := rfl
            have := UInt32.toNat_sub_of_le io.activeSessionCount 1 (by
              rw [UInt32.le_iff_toNat_le, one]
              omega)
            dsimp only
            omega
          notes := by
            dsimp only
            omega
          config := h.config }
    · cases eq
      exact used
  · cases eq
    rw [List.append_nil]
    exact h

/-- What holds at every loop head: everything is accounted for, the session being serviced exists,
and the exit loop runs without sessions, until nothing is pending. -/
structure AtLoopHead (max : UInt32) (log : List ConnOp) (s : State) : Prop where
  conserved : Conserved max log s.io
  serviced : ∀ i, s.pc = .serviced i → i < s.io.activeSessions.length
  exit : s.pc = .exit ∨ s.pc = .done → s.io.activeSessions = []
  done : s.pc = .done → s.io.pendingHandshakes = []

/-- A turn to a loop head that is in none of the special places. -/
lemma AtLoopHead.plain {s : State} (h : Conserved max log s.io) (serviced : ∀ i, s.pc ≠ .serviced i)
    (exit : s.pc ≠ .exit) (done : s.pc ≠ .done) : AtLoopHead max log s where
  conserved := h
  serviced i hi := absurd hi (serviced i)
  exit hx := (hx.elim exit done).elim
  done hd := absurd hd done

/-- A turn that asks nothing: the loops test their conditions, and the exit loop removes a
handshake. -/
lemma AtLoopHead.tick {s t : State} (h : AtLoopHead max log s)
    (eq : Listener.step s .tick = some (t, ops)) :
    AtLoopHead max (log ++ ops) t := by
  obtain ⟨io, pc, workPending, listenerFailed⟩ := s
  have c : Conserved max log io := h.conserved
  cases pc with
  | loop =>
    simp only [Listener.step] at eq
    split at eq
    · cases eq
      rw [List.append_nil]
      exact .plain c (by simp) (by simp) (by simp)
    · rename_i hne
      cases eq
      rw [List.append_nil]
      refine ⟨c, by simp, fun _ => ?_, by simp⟩
      simp only [Bool.or_eq_true, not_or, Bool.not_eq_true', Bool.not_eq_false] at hne
      -- the loop is only left without sessions
      exact List.isEmpty_iff.mp hne.2
  | handshakes now i =>
    simp only [Listener.step] at eq
    split at eq
    · cases eq
    · cases eq
      rw [List.append_nil]
      exact .plain c (by simp) (by simp) (by simp)
  | sessions i =>
    simp only [Listener.step] at eq
    split at eq
    · cases eq
    · cases eq
      rw [List.append_nil]
      exact .plain c (by simp) (by simp) (by simp)
  | exit =>
    have inactive := h.exit (.inl rfl)
    simp only [Listener.step] at eq
    split at eq
    · rename_i empty
      cases eq
      rw [List.append_nil]
      exact ⟨c, by simp, fun _ => inactive, fun _ => List.isEmpty_iff.mp empty⟩
    · rw [Option.bind_eq_bind, Option.bind_eq_some_iff] at eq
      obtain ⟨⟨io1, ops1⟩, eq1, eq⟩ := eq
      cases eq
      refine ⟨c.remove eq1, by simp, fun _ => ?_, by simp⟩
      rw [removePendingHandshake, Option.bind_eq_bind, Option.bind_eq_some_iff] at eq1
      obtain ⟨p, _, eq1⟩ := eq1
      cases eq1
      exact inactive
  | _ => cases eq

/-- Every turn of the event thread leads from one such state to another. -/
lemma AtLoopHead.step {s t : State} (h : AtLoopHead max log s) (st : Step s ops t) :
    AtLoopHead max (log ++ ops) t := by
  obtain ⟨a, eq⟩ := st
  obtain ⟨io, pc, workPending, listenerFailed⟩ := s
  have c : Conserved max log io := h.conserved
  cases a with
  | stop =>
    have : t = ⟨{ io with threadRunning := false }, pc, workPending, listenerFailed⟩ ∧
        ops = [] := by
      cases pc <;> cases eq <;> exact ⟨rfl, rfl⟩
    obtain ⟨rfl, rfl⟩ := this
    rw [List.append_nil]
    exact ⟨⟨c.ledger, c.live, c.limit, c.count, c.notes, c.config⟩, h.serviced, h.exit, h.done⟩
  | tick => exact h.tick eq
  | pumped rv =>
    cases pc with
    | body =>
      cases eq
      rw [List.append_nil]
      cases hr : io.threadRunning with
      | true => exact .plain c (by simp) (by simp) (by simp)
      | false => exact .plain c (by simp) (by simp) (by simp)
    | _ => cases eq
  | accept prepared now =>
    cases pc with
    | accept =>
      cases eq
      exact .plain (c.accept prepared now) (by simp) (by simp) (by simp)
    | _ => cases eq
  | idle now =>
    cases pc with
    | accept =>
      cases eq
      rw [List.append_nil]
      exact .plain c (by simp) (by simp) (by simp)
    | _ => cases eq
  | handshake a =>
    cases pc with
    | handshakes now i =>
      simp only [Listener.step, Option.bind_eq_bind, Option.bind_eq_some_iff] at eq
      obtain ⟨⟨io1, ops1, j⟩, eq1, eq⟩ := eq
      cases eq
      exact .plain (c.handshake eq1) (by simp) (by simp) (by simp)
    | _ => cases eq
  | pass a =>
    cases pc with
    | sessions i =>
      simp only [Listener.step, Option.bind_eq_bind, Option.bind_eq_some_iff] at eq
      obtain ⟨session, hs, eq⟩ := eq
      cases eq
      refine ⟨c.pass (a := a) hs rfl, ?_, by simp, by simp⟩
      intro j hj
      cases hj
      -- the pass adds no session and removes none, so the index stays valid for the retirement
      obtain ⟨⟨n, hio⟩, _⟩ := serviceSessionPass_spec io session a
      simp only [List.length_set, hio]
      exact (List.getElem?_eq_some_iff.mp hs).1
    | _ => cases eq
  | retire shutdownDone activeTasks =>
    cases pc with
    | serviced i =>
      simp only [Listener.step, Option.bind_eq_bind, Option.bind_eq_some_iff] at eq
      obtain ⟨⟨io1, ops1, j⟩, eq1, eq⟩ := eq
      cases eq
      exact .plain (c.retire eq1) (by simp) (by simp) (by simp)
    | _ => cases eq

end

/-- Every state the event thread reaches is at a loop head with everything accounted for. -/
lemma AtLoopHead.run {max timeout : UInt32} {es : List (List ConnOp)} {s : State}
    (run : Run Step (State.init max timeout) es s) : AtLoopHead max es.flatten s := by
  refine run.invariant_hist (P := fun es s => AtLoopHead max es.flatten s) ?_ ?_
  · intro es s ops t h st
    rw [List.flatten_append, List.flatten_singleton]
    exact h.step st
  · refine .plain ⟨.init, ?_, ?_, rfl, rfl, rfl⟩ ?_ ?_ ?_
    · simp [State.init]
    · simp [State.init]
    · simp [State.init]
    · simp [State.init]
    · simp [State.init]

/-- Connection conservation: at every loop head each accepted connection is in exactly one place or
freed exactly once, nothing is done with a freed connection, the limit holds and the counters agree;
when the thread is done every connection was freed. -/
theorem connection_conservation {max timeout : UInt32} {es : List (List ConnOp)} {s : State}
    (run : Run Step (State.init max timeout) es s) :
    (∀ c < s.io.accepted,
      (s.io.pendingHandshakes.map PendingHandshake.conn).count c +
        (s.io.activeSessions.filterMap Session.qconn).count c + (freed es.flatten).count c = 1) ∧
    Safe es.flatten ∧
    (∀ x ∈ s.io.activeSessions, x.qconn.isSome) ∧
    s.io.activeSessions.length + s.io.pendingHandshakes.length ≤ max.toNat ∧
    s.io.activeSessionCount.toNat = s.io.activeSessions.length ∧
    s.io.connAdded = s.io.connRemoved + s.io.activeSessions.length ∧
    (s.pc = .done → ∀ c < s.io.accepted, (freed es.flatten).count c = 1) := by
  have h := AtLoopHead.run run
  have c := h.conserved
  refine ⟨?_, c.ledger.safe, c.live, c.config ▸ c.limit, c.count, c.notes, ?_⟩
  · intro conn lt
    have count := c.ledger.accounts.count_eq conn
    rw [List.count_append, Io.owned, List.count_append, List.nodup_range.count,
      if_pos (List.mem_range.mpr lt)] at count
    exact count
  · intro hd conn lt
    refine c.ledger.count_freed lt ?_
    rw [Io.owned, h.exit (.inr hd), h.done hd]
    exact List.not_mem_nil

/-- A session is set up without trouble. -/
def spawnOk : SpawnAnswer :=
  { allocator := true, pool := true, mutex := true, server := true, opened := fun _ => true
    bindControl := true, bindQpack := true, closed := false, connPool := true }

/-- A pass in which nothing happens and nghttp3 has nothing left to send. -/
def quietPass : PassAnswer :=
  { noticeDied := none, drained := true, now := 100, later := 100, shutdownDied := none,
    closed := false
    scratch := true, streams := 0, corrupted := false, drainDied := none, flushDied := none
    dataRead := false }

/-- Two clients under a limit of two: a third is turned away, the first becomes a session and the
other is still shaking hands when the server is stopped. -/
def threeClients : List Answer :=
  [.tick, .pumped 1, .accept true 0, .accept true 0, .accept true 0, .idle 5,
    .handshake { closed := false, handshakeDone := true, spawn := spawnOk },
    .handshake { closed := false, handshakeDone := false, spawn := spawnOk }, .tick,
    .pass quietPass,
    .retire false 0, .tick, .stop, .tick, .pumped 0, .pass quietPass, .retire true 0, .tick, .tick,
    .tick,
    .tick]

/-- Each of the three connections of `threeClients` is freed once. -/
theorem connection_conservation_threeClients :
    ∃ es s, Run Step (State.init 2 10) es s ∧ s.pc = .done ∧ s.io.accepted = 3 ∧
      (freed es.flatten).count 0 = 1 ∧ (freed es.flatten).count 1 = 1 ∧
      (freed es.flatten).count 2 = 1 := by
  have run :
    ((execAll step (State.init 2 10) threeClients).map fun r => (r.1.pc, r.1.io.accepted)) =
      some (.done, 3) := by
    decide +kernel
  obtain ⟨⟨s, es⟩, run, e⟩ := Option.map_eq_some_iff.mp run
  simp only [Prod.mk.injEq] at e
  obtain ⟨done, three⟩ := e
  have run : Run Step (State.init 2 10) es s := execAll_run (fun _ a _ _ h => ⟨a, h⟩) run
  have once := (connection_conservation run).2.2.2.2.2.2 done
  rw [three] at once
  exact ⟨es, s, run, done, three, once 0 (by decide), once 1 (by decide), once 2 (by decide)⟩

end ModHttp3.Listener

import ModHttp3.Lib.Typestate
import ModHttp3.Listener.Stopping

/-!
# The life of a connection

Over a connection the event thread calls the functions of `h3q_conn.h` in an order that `Stage.next`
describes. Each letter is a call with its answer, so the order says what the thread makes of the
answers: a connection is looked at only after it was prepared, its streams are opened only after the
handshake was found done, it is serviced only after the three of them opened and it was found open,
streams are accepted only after it was found open once more, and what was found closed is serviced
no longer. A connection in service is freed only after `h3q_conn_shutdown` reported that it was
done, and from the first call of it on there are only more calls of it, with the same error and
reason. `connection_protocol` proves this of every run, and says which stage goes with which array.

`handshake_deadline` is about time: when `progress_pending_handshakes` is through, no pending
handshake is as old as `H3HandshakeTimeout`.
-/

namespace ModHttp3.Listener
open ModHttp3.Lib

/-- How far the event thread is with a connection. -/
inductive Stage where
  | offered
  /-- prepared, and the handshake was not found done -/
  | prepared
  /-- found open -/
  | asked
  /-- found closed during the handshake -/
  | lost
  /-- the handshake was found done -/
  | established
  /-- how many streams were tried, and whether all of them opened -/
  | opening (streams : Nat) (all : Bool)
  /-- found open with its three streams -/
  | opened
  | serving
  /-- found open in a service pass -/
  | polled
  /-- found closed in a service pass -/
  | ended
  /-- `h3q_conn_shutdown` was called, and whether it is done -/
  | closing (rapid : Bool) (error : UInt64) (reason : Option String) (done : Bool)
  /-- given up, and freed next -/
  | failing
  | freed
deriving DecidableEq

/-- The order of the calls with their answers; `none` is `h3q_conn_free`. -/
def Stage.next : Stage → Option ConnUse → Option Stage
  | .offered, some (.prepare ok) => some (if ok then .prepared else .failing)
  -- the listener is at its limit
  | .offered, none => some .freed
  | .prepared, some (.isClosed closed) => some (if closed then .lost else .asked)
  -- the handshake took too long
  | .prepared, none => some .freed
  | .lost, some .closeReason => some .failing
  | .asked, some (.isHandshakeDone done) => some (if done then .established else .prepared)
  | .established, some (.openUniStream ok) => some (.opening 1 ok)
  -- there is no memory for a session
  | .established, none => some .freed
  | .opening n all, some (.openUniStream ok) =>
    if n < 3 then some (.opening (n + 1) (all && ok)) else none
  | .opening n all, some (.isClosed closed) =>
    if n = 3 ∧ all = true then some (if closed then .failing else .opened) else none
  -- a stream did not open, or nghttp3 did not take the streams
  | .opening n _, none => if n = 3 then some .freed else none
  | .opened, some .peerAddr => some .serving
  -- there is no memory for the requests
  | .opened, none => some .freed
  | .serving, some (.isClosed closed) => some (if closed then .ended else .polled)
  | .serving, some (.shutdown rapid error reason done) => some (.closing rapid error reason done)
  | .polled, some (.isClosed closed) => some (if closed then .ended else .polled)
  | .polled, some (.acceptStream returned) => some (if returned then .polled else .serving)
  | .polled, some (.shutdown rapid error reason done) => some (.closing rapid error reason done)
  | .ended, some (.shutdown rapid error reason done) => some (.closing rapid error reason done)
  | .closing rapid error reason _, some (.shutdown rapid' error' reason' done') =>
    if error' = error ∧ reason' = reason ∧ (rapid = true → rapid' = true) then
      some (.closing rapid' error' reason' done')
    else
      none
  | .closing _ _ _ done, none => if done then some .freed else none
  | .failing, none => some .freed
  | _, _ => none

/-- The stage of a connection after what was done with the connections. -/
def stageOf (log : List ConnOp) (conn : Conn) : Option Stage := stateOf Stage.next .offered log conn

/-- The reason `h3_event_thread` passes to `h3q_conn_shutdown`. -/
def Session.closeReason (session : Session) : Option String :=
  if session.ngh3Dead then session.abortReason else none

/-- The stages of a connection in service. -/
def Stage.inService (stage : Stage) : Prop := stage = .serving ∨ stage = .polled

/-- The stages of a connection that is in service no longer, and not freed: it was found closed, or
`h3q_conn_shutdown` was called with the error and the reason of the session, rapidly only when the
thread was stopped. -/
def Stage.retiring (stage : Stage) (running : Bool) (session : Session) : Prop :=
  stage = .ended ∨
    ∃ rapid done, stage = .closing rapid session.abortQuicErrorCode session.closeReason done ∧
      (rapid = true → running = false)

/-- The stages of the connection of a session: it is retiring only when the session is given up. -/
def Stage.belongs (stage : Stage) (running : Bool) (session : Session) : Prop :=
  stage.inService ∨ session.aborted = true ∧ stage.retiring running session

/-- Every connection was treated in the order of the stages, and is where it belongs. -/
structure Orderly (log : List ConnOp) (io : Io) : Prop where
  kept : ∀ conn, ∃ stage, stageOf log conn = some stage
  fresh : ∀ conn, io.accepted ≤ conn → stageOf log conn = some .offered
  pending : ∀ p ∈ io.pendingHandshakes, stageOf log p.conn = some .prepared
  active : ∀ x ∈ io.activeSessions, ∀ conn, x.qconn = some conn →
    ∃ stage, stageOf log conn = some stage ∧ stage.belongs io.threadRunning x

section
variable {s t : State} {io io' : Io} {log ops ops' : List ConnOp} {i j : Nat} {conn : Conn}
  {session after : Session}
  {a : PassAnswer} {dataRead : Bool} {max : UInt32} {stage stage' : Stage} {p : PendingHandshake}

/-- What is freed is not held. -/
lemma Conserved.gone (c : Conserved max log io) (mem : conn ∈ freed log) : conn ∉ io.owned :=
  fun held => c.ledger.not_freed held mem

/-- No two sessions have the same connection. -/
lemma Conserved.session_unique (c : Conserved max log io) {x y : Session}
    (hx : x ∈ io.activeSessions) (hy : y ∈ io.activeSessions) (qx : x.qconn = some conn)
    (qy : y.qconn = some conn) : x = y := by
  have nodup := (List.nodup_append.mp (List.nodup_append.mp c.ledger.nodup).1).2.1
  have pairs := List.pairwise_filterMap.mp nodup
  have : Std.Symm fun x y : Session => ∀ c, x.qconn = some c → ∀ d, y.qconn = some d → c ≠ d :=
    ⟨fun _ _ apart c hc d hd => (apart d hd c hc).symm⟩
  by_contra ne
  exact pairs.forall hx hy ne conn qx conn qy rfl

/-- The thread is stopped once. -/
lemma Stage.retiring.later {running running' : Bool} (h : stage.retiring running session)
    (later : running' = true → running = true) : stage.retiring running' session := by
  refine h.imp id ?_
  rintro ⟨rapid, done, eq, stopped⟩
  refine ⟨rapid, done, eq, ?_⟩
  intro is
  cases run : running' with
  | true => exact (later run).symm.trans (stopped is)
  | false => rfl

/-- A turn that works on one connection. -/
lemma Orderly.turn (h : Orderly log io) (was : stageOf log conn = some stage)
    (works : Works Stage.next conn stage ops stage') (lt : conn < io'.accepted)
    (accepted : io.accepted ≤ io'.accepted)
    (running : io'.threadRunning = true → io.threadRunning = true)
    (pending : ∀ q ∈ io'.pendingHandshakes, q.conn ≠ conn → q ∈ io.pendingHandshakes)
    (active : ∀ x ∈ io'.activeSessions, x.qconn ≠ some conn → x ∈ io.activeSessions)
    (stays : ∀ q ∈ io'.pendingHandshakes, q.conn = conn → stage' = .prepared)
    (serves : ∀ x ∈ io'.activeSessions, x.qconn = some conn → stage'.belongs io'.threadRunning x) :
    Orderly (log ++ ops) io' := by
  have here : stageOf (log ++ ops) conn = some stage' := works.extend was
  have others : ∀ c, c ≠ conn → stageOf (log ++ ops) c = stageOf log c := fun c ne => works.other ne
  constructor
  case kept =>
    intro c
    by_cases same : c = conn
    · exact ⟨stage', same ▸ here⟩
    · rw [others c same]
      exact h.kept c
  case fresh =>
    intro c le
    have ne : c ≠ conn := by
      rintro rfl
      exact absurd lt (Nat.not_lt.mpr le)
    rw [others c ne]
    exact h.fresh c (accepted.trans le)
  case pending =>
    intro q mem
    by_cases same : q.conn = conn
    · rw [same, here, stays q mem same]
    · rw [others q.conn same]
      exact h.pending q (pending q mem same)
  case active =>
    intro x mem c hc
    by_cases same : c = conn
    · subst same
      exact ⟨stage', here, serves x mem hc⟩
    · rw [others c same]
      have ne : x.qconn ≠ some conn := by
        rw [hc]
        exact fun eq => same (Option.some.inj eq)
      obtain ⟨st, is, fits⟩ := h.active x (active x mem ne) c hc
      refine ⟨st, is, fits.imp id ?_⟩
      rintro ⟨aborted, retiring⟩
      exact ⟨aborted, retiring.later running⟩

/-- A turn that frees the connection it works on. -/
lemma Orderly.release (h : Orderly log io) (c : Conserved max (log ++ ops) io')
    (was : stageOf log conn = some stage) (works : Works Stage.next conn stage ops .freed)
    (frees : conn ∈ freed ops) (lt : conn < io'.accepted) (accepted : io.accepted ≤ io'.accepted)
    (running : io'.threadRunning = true → io.threadRunning = true)
    (pending : ∀ q ∈ io'.pendingHandshakes, q ∈ io.pendingHandshakes)
    (active : ∀ x ∈ io'.activeSessions, x ∈ io.activeSessions) : Orderly (log ++ ops) io' := by
  have gone : conn ∉ io'.owned := by
    apply c.gone
    rw [freed_append]
    exact List.mem_append_right _ frees
  apply h.turn was works lt accepted running
  · exact fun q mem _ => pending q mem
  · exact fun x mem _ => active x mem
  · intro q mem same
    exact absurd (List.mem_append_left _ (List.mem_map.mpr ⟨q, mem, same⟩)) gone
  · intro x mem hx
    exact absurd (List.mem_append_right _ (List.mem_filterMap.mpr ⟨x, mem, hx⟩)) gone

/-- A session has no connection that is not accepted yet. -/
lemma not_belongs_offered {running : Bool} : ¬ Stage.offered.belongs running session := by
  rintro ((is | is) | ⟨_, is | ⟨_, _, is, _⟩⟩)
  · cases is
  · cases is
  · cases is
  · cases is

/-- A turn of the accept loop. -/
lemma Orderly.accept (h : Orderly log io) (prepared : Bool) (now : Int)
    (c : Conserved max (log ++ (acceptConn io prepared now).2) (acceptConn io prepared now).1) :
    Orderly (log ++ (acceptConn io prepared now).2) (acceptConn io prepared now).1 := by
  have was := h.fresh io.accepted le_rfl
  have prepare : ∀ ok, Works Stage.next io.accepted .offered [.use (.prepare ok) io.accepted]
      (if ok then .prepared else .failing) := fun _ => .use rfl
  rw [acceptConn] at c ⊢
  split at c
  · rename_i full
    rw [if_pos full]
    apply h.release c was (.free rfl) (List.mem_singleton_self _)
    · exact Nat.lt_succ_self io.accepted
    · exact Nat.le_succ io.accepted
    · exact id
    · exact fun _ => id
    · exact fun _ => id
  · rename_i below
    rw [if_neg below]
    cases prepared with
    | false =>
      apply h.release c was ((prepare false).append (.free rfl)) (List.mem_singleton_self _)
      · exact Nat.lt_succ_self io.accepted
      · exact Nat.le_succ io.accepted
      · exact id
      · exact fun _ => id
      · exact fun _ => id
    | true =>
      apply h.turn was (prepare true)
      · exact Nat.lt_succ_self io.accepted
      · exact Nat.le_succ io.accepted
      · exact id
      · intro q mem ne
        rcases List.mem_append.mp mem with mem | new
        · exact mem
        · cases List.mem_singleton.mp new
          exact absurd rfl ne
      · exact fun x mem _ => mem
      · exact fun _ _ _ => rfl
      · intro x mem hx
        -- no session has a connection that is new
        obtain ⟨stage, is, belongs⟩ := h.active x mem io.accepted hx
        cases was.symm.trans is
        exact absurd belongs not_belongs_offered

/-- The three control streams are tried. -/
lemma openControlStreams_works (conn : Conn) (a : SpawnAnswer) :
    Works Stage.next conn .established ((openControlStreams a).flatMap (use · (some conn)))
      (.opening 3 (a.opened 0 && a.opened 1 && a.opened 2)) :=
  (Works.use (t := .opening 1 (a.opened 0)) rfl).append
    ((Works.use (t := .opening 2 (a.opened 0 && a.opened 1)) rfl).append (.use rfl))

/-- Setting up a session: it opens the three streams, and either adds the session or frees the
connection. -/
lemma spawnServicedSession_works (io : Io) (conn : Conn) (a : SpawnAnswer) :
    ((spawnServicedSession io conn a).1 = io ∧
        Works Stage.next conn .established (spawnServicedSession io conn a).2 .freed ∧
        conn ∈ freed (spawnServicedSession io conn a).2) ∨
      (spawnServicedSession io conn a).1.activeSessions = io.activeSessions ++ [.spawned conn] ∧
        Works Stage.next conn .established (spawnServicedSession io conn a).2 .serving := by
  have tried := openControlStreams_works conn a
  have frees : ∀ ops : List ConnOp, conn ∈ freed (ops ++ [.free conn]) := by
    intro ops
    rw [freed_append]
    exact List.mem_append_right _ (List.mem_singleton_self _)
  rw [spawnServicedSession]
  split
  · exact .inl ⟨rfl, .free rfl, List.mem_singleton_self _⟩
  cases created : sessionCreate conn a with
  | none => exact .inl ⟨rfl, .free rfl, List.mem_singleton_self _⟩
  | some session =>
    rw [sessionCreate] at created
    split at created
    · cases created
    · cases created
      simp only [sessionCreateControlStreams, Bool.false_eq_true, if_false]
      split
      · exact .inl ⟨rfl, tried.append (.free rfl), frees _⟩
      · rename_i opened
        have all : (a.opened 0 && a.opened 1 && a.opened 2) = true := by
          simp only [Bool.or_eq_true, Bool.not_eq_true', not_or, Bool.not_eq_false] at opened
          simp [opened]
        rw [all] at tried
        have asked := tried.append (Works.use (u := .isClosed a.closed) rfl)
        simp only [Bool.not_true, Bool.false_eq_true, if_false]
        split
        · rename_i closed
          rw [closed] at asked
          rw [closed]
          exact .inl ⟨rfl, asked.append (.free rfl), frees _⟩
        · rename_i still
          rw [Bool.not_eq_true] at still
          rw [still] at asked ⊢
          split
          · exact .inl ⟨rfl, asked.append (.free rfl), frees _⟩
          · exact .inr ⟨rfl, asked.append (.use rfl)⟩

/-- Dropping a pending handshake, with its connection or without it. -/
lemma removePendingHandshake_ops {freeConn : Bool} (hp : io.pendingHandshakes[i]? = some p)
    (eq : removePendingHandshake io i freeConn = some (io', ops)) :
    ops = if freeConn then [.free p.conn] else [] := by
  rw [removePendingHandshake, hp] at eq
  cases eq
  rfl

/-- A pending handshake is dropped and its connection freed, after `ops`. -/
lemma Orderly.drop (h : Orderly log io) (before : Conserved max log io)
    (c : Conserved max (log ++ (ops ++ ops')) io') (hp : io.pendingHandshakes[i]? = some p)
    (removed : removePendingHandshake io i true = some (io', ops'))
    (was : stageOf log p.conn = some stage) (works : Works Stage.next p.conn stage ops stage')
    (frees : stage'.next none = some .freed) : Orderly (log ++ (ops ++ ops')) io' := by
  have mem := List.mem_of_getElem? hp
  have lt : p.conn < io.accepted :=
    before.ledger.lt (List.mem_append_left _ (List.mem_map_of_mem mem))
  obtain ⟨same, sub⟩ := removePendingHandshake_spec removed
  cases removePendingHandshake_ops hp removed
  have free : Works Stage.next p.conn stage (ops ++ [.free p.conn]) .freed :=
    works.append (.free frees)
  rw [same] at c ⊢
  apply h.release c was free
  · rw [freed_append]
    exact List.mem_append_right _ (List.mem_singleton_self _)
  · exact lt
  · exact le_rfl
  · exact id
  · exact sub
  · exact fun _ => id

/-- A pending handshake is finished: it becomes a session, or its connection is freed, after
`ops`. -/
lemma Orderly.spawn {a : SpawnAnswer} (h : Orderly log io) (before : Conserved max log io)
    (hp : io.pendingHandshakes[i]? = some p)
    (removed : removePendingHandshake (spawnServicedSession io p.conn a).1 i false =
      some (io', ops'))
    (c : Conserved max (log ++ (ops ++ (spawnServicedSession io p.conn a).2)) io')
    (was : stageOf log p.conn = some stage)
    (works : Works Stage.next p.conn stage ops .established) :
    Orderly (log ++ (ops ++ (spawnServicedSession io p.conn a).2)) io' := by
  have mem := List.mem_of_getElem? hp
  have lt : p.conn < io.accepted :=
    before.ledger.lt (List.mem_append_left _ (List.mem_map_of_mem mem))
  obtain ⟨same, sub⟩ := removePendingHandshake_spec removed
  rw [spawnServicedSession_pending] at sub
  have fixed : (spawnServicedSession io p.conn a).1.threadRunning = io.threadRunning ∧
      (spawnServicedSession io p.conn a).1.accepted = io.accepted := by
    rcases spawnServicedSession_active io p.conn a with unchanged | ⟨-, running, accepted⟩
    · rw [unchanged]
      exact ⟨rfl, rfl⟩
    · exact ⟨running, accepted⟩
  have running : io'.threadRunning = io.threadRunning := by
    rw [same]
    exact fixed.1
  have accepted : io'.accepted = io.accepted := by
    rw [same]
    exact fixed.2
  rcases spawnServicedSession_works io p.conn a with ⟨unchanged, freed, frees⟩ | ⟨added, served⟩
  · apply h.release c was (works.append freed)
    · rw [freed_append]
      exact List.mem_append_right _ frees
    · rw [accepted]
      exact lt
    · exact accepted.ge
    · exact fun is => running ▸ is
    · exact sub
    · rw [same, unchanged]
      exact fun _ => id
  · have active : io'.activeSessions = io.activeSessions ++ [.spawned p.conn] := by
      rw [same]
      exact added
    have here : p.conn ∈ io'.activeSessions.filterMap Session.qconn := by
      rw [active]
      exact List.mem_filterMap.mpr ⟨_, List.mem_append_right _ (List.mem_singleton_self _), rfl⟩
    apply h.turn was (works.append served)
    · rw [accepted]
      exact lt
    · exact accepted.ge
    · exact fun is => running ▸ is
    · exact fun q mem _ => sub q mem
    · intro x mem ne
      rw [active] at mem
      rcases List.mem_append.mp mem with mem | new
      · exact mem
      · cases List.mem_singleton.mp new
        exact absurd rfl ne
    · intro q mem is
      -- the connection is that of a session now
      have apart := (List.nodup_append.mp (List.nodup_append.mp c.ledger.nodup).1).2.2
      exact absurd is (apart q.conn (List.mem_map_of_mem mem) p.conn here)
    · exact fun _ _ _ => .inl (.inl rfl)

/-- A turn of the handshake loop. -/
lemma Orderly.handshake {now : Int} {a : HandshakeAnswer} (h : Orderly log io)
    (before : Conserved max log io) (c : Conserved max (log ++ ops) io')
    (eq : progressPendingHandshake io now i a = some (io', ops, j)) :
    Orderly (log ++ ops) io' := by
  obtain ⟨p, hp, eq⟩ := Option.bind_eq_some_iff.mp eq
  have mem := List.mem_of_getElem? hp
  have was := h.pending p mem
  have failing : Works Stage.next p.conn .prepared
      [.use (.isClosed true) p.conn, .use .closeReason p.conn] .failing :=
    (Works.use (t := .lost) rfl).append (.use rfl)
  have examined : ∀ done, Works Stage.next p.conn .prepared
      [.use (.isClosed false) p.conn, .use (.isHandshakeDone done) p.conn]
      (if done then .established else .prepared) :=
    fun done => (Works.use (t := .asked) rfl).append (.use rfl)
  dsimp only at eq
  split at eq
  -- too old
  · obtain ⟨⟨io1, ops1⟩, removed, eq⟩ := Option.bind_eq_some_iff.mp eq
    cases eq
    exact h.drop before c hp removed was .nil rfl
  split at eq
  -- closed by the peer
  · obtain ⟨⟨io1, ops1⟩, removed, eq⟩ := Option.bind_eq_some_iff.mp eq
    cases eq
    exact h.drop before c hp removed was failing rfl
  split at eq
  -- done
  · obtain ⟨⟨io1, ops1⟩, removed, eq⟩ := Option.bind_eq_some_iff.mp eq
    have quiet : ops1 = [] := by
      refine removePendingHandshake_ops (p := p) ?_ removed
      rw [spawnServicedSession_pending]
      exact hp
    cases eq
    rw [quiet, List.append_nil] at c ⊢
    exact h.spawn before hp removed c was (examined true)
  -- not yet
  · cases eq
    apply h.turn was (examined false)
    · exact before.ledger.lt (List.mem_append_left _ (List.mem_map_of_mem mem))
    · exact le_rfl
    · exact id
    · exact fun q mem _ => mem
    · exact fun x mem _ => mem
    · exact fun _ _ _ => rfl
    · intro x hx is
      have apart := (List.nodup_append.mp (List.nodup_append.mp before.ledger.nodup).1).2.2
      exact absurd rfl (apart p.conn (List.mem_map_of_mem mem) p.conn
        (List.mem_filterMap.mpr ⟨x, hx, is⟩))

/-- A connection in service is asked whether it is closed. -/
lemma Stage.inService.polls (h : stage.inService) (closed : Bool) :
    stage.next (some (.isClosed closed)) = some (if closed then .ended else .polled) := by
  rcases h with rfl | rfl
  · rfl
  · rfl

/-- Streams are accepted until there are none. -/
lemma acceptStreams_works (conn : Conn) (n : Nat) :
    Works Stage.next conn .polled ((acceptStreams n).flatMap (use · (some conn))) .serving := by
  have uses : (acceptStreams n).flatMap (use · (some conn)) =
      List.replicate n (.use (.acceptStream true) conn) ++ [.use (.acceptStream false) conn] := by
    rw [acceptStreams, List.flatMap_append]
    congr 1
    exact (List.flatMap_pure_eq_map (ResOp.use · conn) _).trans List.map_replicate
  rw [uses]
  exact (Works.replicate rfl n).append (.use rfl)

/-- The second half of a service pass asks whether the connection is closed before it accepts
streams, and gives the session up if it is. -/
lemma serviceStreams_works (io : Io) (a : PassAnswer) (running : Bool)
    (hq : session.qconn = some conn) (serves : stage.inService) :
    ∃ stage', stage'.belongs running (serviceStreams io session a).2.1 ∧
      Works Stage.next conn stage (serviceStreams io session a).2.2.1 stage' := by
  have polls : Works Stage.next conn stage [.use (.isClosed a.closed) conn]
      (if a.closed then .ended else .polled) :=
    .use (serves.polls _)
  simp only [serviceStreams, hq]
  split
  · rename_i closed
    rw [closed] at polls ⊢
    exact ⟨.ended, .inr ⟨rfl, .inl rfl⟩, polls⟩
  · rename_i still
    rw [Bool.not_eq_true] at still
    rw [still] at polls ⊢
    split
    · exact ⟨.polled, .inl (.inr rfl), polls⟩
    have accepts := polls.append (acceptStreams_works conn a.streams)
    split
    · exact ⟨.serving, .inl (.inl rfl), accepts⟩
    · exact ⟨.serving, .inl (.inl rfl), accepts⟩

/-- So does a whole pass. -/
lemma serviceSessionPass_works (io : Io) (a : PassAnswer) (running : Bool)
    (hq : session.qconn = some conn) (serves : stage.inService) :
    ∃ stage', stage'.belongs running (serviceSessionPass io session a).2.1 ∧
      Works Stage.next conn stage (serviceSessionPass io session a).2.2.1 stage' := by
  rw [serviceSessionPass]
  split
  · exact ⟨stage, .inl serves, .nil⟩
  split
  · exact serviceStreams_works io a running hq serves
  · have kept := goaway_qconn session a
    cases hg : goaway session a with
    | mk left up =>
      rw [hg] at kept
      cases up with
      | true => exact ⟨stage, .inl serves, .nil⟩
      | false => exact serviceStreams_works io a running (kept.trans hq) serves

/-- A service pass. -/
lemma Orderly.pass (h : Orderly log io) (before : Conserved max log io)
    (c : Conserved max (log ++ ops) { io' with activeSessions := io'.activeSessions.set i after })
    (hs : io.activeSessions[i]? = some session)
    (eq : serviceSessionPass io session a = (io', after, ops, dataRead)) :
    Orderly (log ++ ops) { io' with activeSessions := io'.activeSessions.set i after } := by
  have mem := List.mem_of_getElem? hs
  obtain ⟨conn, hq⟩ := Option.isSome_iff_exists.mp (before.live session mem)
  obtain ⟨stage, was, belongs⟩ := h.active session mem conn hq
  have lt : conn < io.accepted :=
    before.ledger.lt (List.mem_append_right _ (List.mem_filterMap.mpr ⟨session, mem, hq⟩))
  obtain ⟨⟨n, hio⟩, kept, -⟩ := serviceSessionPass_spec io session a
  have worked : ∃ stage', stage'.belongs io.threadRunning after ∧
      Works Stage.next conn stage ops stage' := by
    rcases belongs with serves | ⟨aborted, closing⟩
    · have worked := serviceSessionPass_works io a io.threadRunning hq serves
      rw [eq] at worked
      exact worked
    -- a session that was given up is left alone
    · rw [serviceSessionPass_aborted aborted] at eq
      cases eq
      exact ⟨stage, .inr ⟨aborted, closing⟩, .nil⟩
  obtain ⟨stage', belongs', works⟩ := worked
  rw [eq] at hio kept
  dsimp only at hio kept
  subst hio
  have here : after ∈ io.activeSessions.set i after :=
    List.mem_set (List.getElem?_eq_some_iff.mp hs).1 after
  apply h.turn was works
  · exact lt
  · exact le_rfl
  · exact id
  · exact fun q mem _ => mem
  · intro x mem ne
    rcases List.mem_or_eq_of_mem_set mem with mem | rfl
    · exact mem
    · exact absurd (kept.trans hq) ne
  · intro q mem is
    have apart := (List.nodup_append.mp (List.nodup_append.mp c.ledger.nodup).1).2.2
    exact absurd is (apart q.conn (List.mem_map_of_mem mem) conn
      (List.mem_filterMap.mpr ⟨after, here, kept.trans hq⟩))
  · intro x mem hx
    cases c.session_unique mem here hx (kept.trans hq)
    exact belongs'

/-- The end of a round over the sessions: one that is given up is shut down, and destroyed when that
is done. -/
lemma Orderly.retire {shutdownDone : Bool} {activeTasks : UInt32} (h : Orderly log io)
    (before : Conserved max log io) (c : Conserved max (log ++ ops) io')
    (eq : retireSession io i shutdownDone activeTasks = some (io', ops, j)) :
    Orderly (log ++ ops) io' := by
  obtain ⟨session, hs, eq⟩ := Option.bind_eq_some_iff.mp eq
  have mem := List.mem_of_getElem? hs
  obtain ⟨conn, hq⟩ := Option.isSome_iff_exists.mp (before.live session mem)
  obtain ⟨stage, was, belongs⟩ := h.active session mem conn hq
  have lt : conn < io.accepted :=
    before.ledger.lt (List.mem_append_right _ (List.mem_filterMap.mpr ⟨session, mem, hq⟩))
  have shuts : stage.next
        (some (.shutdown (!io.threadRunning) session.abortQuicErrorCode session.closeReason
          shutdownDone)) =
      some (.closing (!io.threadRunning) session.abortQuicErrorCode session.closeReason
        shutdownDone) := by
    rcases belongs with (rfl | rfl) | ⟨-, rfl | ⟨rapid, done, rfl, stopped⟩⟩
    · rfl
    · rfl
    · rfl
    · refine if_pos ⟨rfl, rfl, ?_⟩
      intro is
      rw [stopped is]
      rfl
  have shutdown := Works.use (r := conn) shuts
  dsimp only at eq
  rw [hq] at eq
  split at eq
  · rename_i aborted
    split at eq
    · rename_i finished
      have done : shutdownDone = true := (Bool.and_eq_true _ _ ▸ finished).1
      cases eq
      have destroyed : sessionDestroy session = [.free conn] := by
        rw [sessionDestroy, hq]
        rfl
      rw [destroyed] at c ⊢
      apply h.release c was (shutdown.append (.free (if_pos done)))
      · exact List.mem_singleton_self _
      · exact lt
      · exact le_rfl
      · exact id
      · exact fun _ => id
      · exact fun x mem => (swapRemove_perm hs).subset (List.mem_cons_of_mem session mem)
    · cases eq
      apply h.turn was shutdown
      · exact lt
      · exact le_rfl
      · exact id
      · exact fun q mem _ => mem
      · exact fun x mem _ => mem
      · intro q hp is
        have apart := (List.nodup_append.mp (List.nodup_append.mp before.ledger.nodup).1).2.2
        exact absurd is (apart q.conn (List.mem_map_of_mem hp) conn
          (List.mem_filterMap.mpr ⟨session, mem, hq⟩))
      · intro x hx is
        cases before.session_unique hx mem is hq
        refine .inr ⟨aborted, .inr ⟨_, _, rfl, ?_⟩⟩
        intro rapid
        exact Bool.not_eq_true' _ ▸ rapid
  · cases eq
    rw [List.append_nil]
    exact h

/-- Every turn keeps the order. -/
lemma Orderly.step (heads : AtLoopHead max log s) (h : Orderly log s.io) (st : Step s ops t) :
    Orderly (log ++ ops) t.io := by
  have c := (heads.step st).conserved
  have before := heads.conserved
  obtain ⟨a, eq⟩ := st
  have quiet : Orderly log s.io → Orderly (log ++ []) s.io := by
    rw [List.append_nil]
    exact id
  cases step_effect eq with
  | stop =>
    rw [List.append_nil]
    refine { h with active := ?_ }
    intro x mem conn hq
    obtain ⟨stage, is, belongs⟩ := h.active x mem conn hq
    refine ⟨stage, is, belongs.imp id ?_⟩
    rintro ⟨aborted, retiring⟩
    exact ⟨aborted, retiring.later nofun⟩
  | enter _ _ => exact quiet h
  | leave _ _ _ => exact quiet h
  | pumped _ => exact quiet h
  | accept _ => exact h.accept _ _ c
  | idle _ => exact quiet h
  | handshake _ progressed => exact h.handshake before c progressed
  | progressed _ _ => exact quiet h
  | pass _ hs serviced => exact h.pass before c hs serviced
  | serviced _ _ => exact quiet h
  | retire _ retired => exact h.retire before c retired
  | drop _ removed =>
    obtain ⟨p, hp, -⟩ := Option.bind_eq_some_iff.mp removed
    exact h.drop before c hp removed (h.pending p (List.mem_of_getElem? hp)) .nil rfl
  | done _ _ => exact quiet h

end

/-- Nothing follows after the connection was freed. -/
lemma next_freed (letter : Option ConnUse) : Stage.freed.next letter = none := by
  cases letter with
  | _ => rfl

/-- After `h3q_conn_free` nothing may follow. -/
lemma next_free (stage left : Stage) (eq : stage.next none = some left) : left = .freed := by
  cases stage with
  | opening | closing =>
    simp only [Stage.next] at eq
    split at eq
    · cases eq
      rfl
    · cases eq
  | offered | prepared | failing | established | opened =>
    cases eq
    rfl
  | asked | lost | serving | polled | ended | freed => cases eq

/-- Every connection is used in order in every run. -/
lemma Orderly.run {max timeout : UInt32} {es : List (List ConnOp)} {s : State}
    (run : Run Step (State.init max timeout) es s) :
    AtLoopHead max es.flatten s ∧ Orderly es.flatten s.io := by
  refine run.invariant_hist (P := fun es s => AtLoopHead max es.flatten s ∧ Orderly es.flatten s.io)
    ?_ ?_
  · intro es s ops t h st
    rw [List.flatten_append, List.flatten_singleton]
    exact ⟨h.1.step st, h.2.step h.1 st⟩
  · refine ⟨AtLoopHead.run .nil, ⟨?_, ?_, ?_, ?_⟩⟩
    · exact fun _ => ⟨.offered, rfl⟩
    · exact fun _ _ => rfl
    · exact fun _ mem => absurd mem List.not_mem_nil
    · exact fun _ mem => absurd mem List.not_mem_nil

/-- The protocol of a connection: in every run of the event thread the calls on each connection,
with their answers, come in the order of `Stage.next`. A connection is new, or pending and prepared,
or in service, or its session is given up and it is retiring with the error and the reason of the
session, or freed. -/
theorem connection_protocol {max timeout : UInt32} {es : List (List ConnOp)} {s : State}
    (run : Run Step (State.init max timeout) es s) (conn : Conn) :
    ∃ stage, stageOf es.flatten conn = some stage ∧
      (s.io.accepted ≤ conn → stage = .offered) ∧
      (∀ p ∈ s.io.pendingHandshakes, p.conn = conn → stage = .prepared) ∧
      (∀ x ∈ s.io.activeSessions, x.qconn = some conn → stage.belongs s.io.threadRunning x) ∧
      (conn < s.io.accepted → conn ∉ s.io.owned → stage = .freed) := by
  obtain ⟨heads, h⟩ := Orderly.run run
  obtain ⟨stage, is⟩ := h.kept conn
  refine ⟨stage, is, ?_, ?_, ?_, ?_⟩
  · intro le
    exact Option.some.inj (is.symm.trans (h.fresh conn le))
  · rintro p mem rfl
    exact Option.some.inj (is.symm.trans (h.pending p mem))
  · intro x mem hx
    obtain ⟨stage', is', belongs⟩ := h.active x mem conn hx
    cases is.symm.trans is'
    exact belongs
  · intro lt gone
    have once := heads.conserved.ledger.count_freed lt gone
    have freed : conn ∈ freed es.flatten := List.count_pos_iff.mp (by omega)
    apply stateOf_released (· = .freed) next_free _ is freed
    rintro _ letter rfl
    exact next_freed letter

/-- Of the three clients the first is in service, the second is shaking hands and the third was
turned away. -/
theorem connection_protocol_threeClients :
    ∃ es s, Run Step (State.init 2 10) es s ∧ s.io.pendingHandshakes.map PendingHandshake.conn =
      [1] ∧ s.io.owned = [1, 0] ∧ stageOf es.flatten 2 = some .freed ∧
      stageOf es.flatten 3 = some .offered := by
  have run : ((execAll step (State.init 2 10) (threeClients.take 9)).map fun r =>
      (r.1.io.pendingHandshakes.map PendingHandshake.conn, r.1.io.owned, r.1.io.accepted)) =
      some ([1], [1, 0], 3) := by
    decide +kernel
  obtain ⟨⟨s, es⟩, run, e⟩ := Option.map_eq_some_iff.mp run
  simp only [Prod.mk.injEq] at e
  obtain ⟨pending, owned, three⟩ := e
  have run : Run Step (State.init 2 10) es s := execAll_run (fun _ a _ _ h => ⟨a, h⟩) run
  obtain ⟨third, is, -, -, -, gone⟩ := connection_protocol run 2
  obtain ⟨fourth, is', new, -⟩ := connection_protocol run 3
  rw [three] at gone new
  rw [owned] at gone
  rw [gone (by decide) (by decide)] at is
  rw [new le_rfl] at is'
  exact ⟨es, s, run, pending, owned, is, is'⟩

/-- The turns of the event thread, by the answers of the environment. -/
def Answered (s : State) (a : Answer) (t : State) : Prop := ∃ ops, step s a = some (t, ops)

/-- The time at which `progress_pending_handshakes` was last entered. -/
def lastSweep (as : List Answer) : Option Int :=
  (as.filterMap fun
    | .idle now => some now
    | _ => none).getLast?

/-- Whether the thread accepts connections or progresses handshakes. -/
def Pc.sweeping : Pc → Bool
  | .accept | .handshakes _ _ => true
  | _ => false

/-- A handshake that has time left. -/
def PendingHandshake.young (timeout : UInt32) (now : Int) (p : PendingHandshake) : Prop :=
  now - p.acceptedAt < timeFromSec timeout.toNat

/-- The pending handshakes had time left at the last sweep, as far as it has come. -/
structure Swept (timeout : UInt32) (as : List Answer) (s : State) : Prop where
  config : s.io.handshakeTimeout = timeout
  rest : s.pc.sweeping = false → ∀ p ∈ s.io.pendingHandshakes, ∃ now, lastSweep as = some now ∧
    p.young timeout now
  sweep : ∀ now i, s.pc = .handshakes now i →
    lastSweep as = some now ∧ ∀ p ∈ s.io.pendingHandshakes.take i, p.young timeout now

section
variable {s t : State} {a : Answer} {as : List Answer} {io io' : Io} {ops : List ConnOp} {i j : Nat}
  {timeout : UInt32}

/-- Spawning a session leaves the timeout alone. -/
lemma spawnServicedSession_timeout (io : Io) (conn : Conn) (a : SpawnAnswer) :
    (spawnServicedSession io conn a).1.handshakeTimeout = io.handshakeTimeout := by
  rcases spawnServicedSession_cases io conn a with ⟨us, eq⟩ | ⟨us, session, -, eq⟩
  · rw [eq]
  · rw [eq]

/-- Removing a pending handshake leaves the timeout alone. -/
lemma removePendingHandshake_timeout {freeConn : Bool}
    (eq : removePendingHandshake io i freeConn = some (io', ops)) :
    io'.handshakeTimeout = io.handshakeTimeout := by
  rw [(removePendingHandshake_spec eq).1]

/-- Examining a pending handshake leaves the timeout alone. -/
lemma progressPendingHandshake_timeout {now : Int} {a : HandshakeAnswer}
    (eq : progressPendingHandshake io now i a = some (io', ops, j)) :
    io'.handshakeTimeout = io.handshakeTimeout := by
  obtain ⟨p, hp, eq⟩ := Option.bind_eq_some_iff.mp eq
  dsimp only at eq
  split at eq
  · obtain ⟨⟨io1, ops1⟩, removed, eq⟩ := Option.bind_eq_some_iff.mp eq
    cases eq
    exact removePendingHandshake_timeout removed
  split at eq
  · obtain ⟨⟨io1, ops1⟩, removed, eq⟩ := Option.bind_eq_some_iff.mp eq
    cases eq
    exact removePendingHandshake_timeout removed
  split at eq
  · obtain ⟨⟨io1, ops1⟩, removed, eq⟩ := Option.bind_eq_some_iff.mp eq
    cases eq
    exact (removePendingHandshake_timeout removed).trans
      (spawnServicedSession_timeout io p.conn a.spawn)
  · cases eq
    rfl

/-- The timeout is fixed. -/
lemma step_timeout (eq : step s a = some (t, ops)) :
    t.io.handshakeTimeout = s.io.handshakeTimeout := by
  cases step_effect eq with
  | stop => rfl
  | enter _ _ => rfl
  | leave _ _ _ => rfl
  | pumped _ => rfl
  | @accept prepared now _ =>
    simp only [acceptConn]
    split
    · rfl
    · cases prepared with
      | _ => rfl
  | idle _ => rfl
  | handshake _ progressed => exact progressPendingHandshake_timeout progressed
  | progressed _ _ => rfl
  | @pass a i session io after ops dataRead _ _ serviced =>
    obtain ⟨⟨n, same⟩, -⟩ := serviceSessionPass_spec s.io session a
    rw [serviced] at same
    dsimp only at same
    subst same
    rfl
  | serviced _ _ => rfl
  | retire _ retired =>
    obtain ⟨session, hs, eq⟩ := Option.bind_eq_some_iff.mp retired
    dsimp only at eq
    split at eq
    · split at eq
      · cases eq
        rfl
      · cases eq
        rfl
    · cases eq
      rfl
  | drop _ removed => exact removePendingHandshake_timeout removed
  | done _ _ => rfl

/-- Only an idle answer starts a sweep. -/
lemma lastSweep_other (other : ∀ now, a ≠ .idle now) : lastSweep (as ++ [a]) = lastSweep as := by
  rw [lastSweep, List.filterMap_append]
  cases a with
  | idle now => exact absurd rfl (other now)
  | _ => simp [lastSweep]

/-- An idle answer starts a sweep at its time. -/
lemma lastSweep_idle (now : Int) : lastSweep (as ++ [.idle now]) = some now := by
  rw [lastSweep, List.filterMap_append]
  simp

/-- A turn of the handshake loop. -/
lemma Swept.handshake {now : Int} {a : HandshakeAnswer} (config : io.handshakeTimeout = timeout)
    (young : ∀ p ∈ io.pendingHandshakes.take i, p.young timeout now)
    (eq : progressPendingHandshake io now i a = some (io', ops, j)) :
    ∀ p ∈ io'.pendingHandshakes.take j, p.young timeout now := by
  obtain ⟨p, hp, -⟩ := Option.bind_eq_some_iff.mp eq
  obtain ⟨io1, ops1, j1, eq1, effect⟩ := progressPendingHandshake_spec hp now a
  cases eq.symm.trans eq1
  split at effect
  -- the handshake stays, since it was looked at and has time left
  · rename_i unfinished
    obtain ⟨same, rfl⟩ := effect
    have time : p.young timeout now := by
      rw [Io.fate] at unfinished
      split at unfinished
      · cases unfinished
      · rename_i left
        rw [config] at left
        exact Int.not_le.mp left
    intro q mem
    rw [same, List.take_add_one, hp] at mem
    rcases List.mem_append.mp mem with mem | mem
    · exact young q mem
    · cases List.mem_singleton.mp mem
      exact time
  · obtain ⟨left, rfl⟩ := effect
    rw [left, swapRemove_take hp]
    exact young

/-- A turn outside the sweep drops handshakes at most. -/
lemma Swept.outside (h : Swept timeout as s) (config : t.io.handshakeTimeout = timeout)
    (out : s.pc.sweeping = false) (place : ∀ now i, t.pc ≠ .handshakes now i)
    (other : ∀ now, a ≠ .idle now)
    (sub : ∀ p ∈ t.io.pendingHandshakes, p ∈ s.io.pendingHandshakes) :
    Swept timeout (as ++ [a]) t where
  config := config
  rest _ p mem := by
    rw [lastSweep_other other]
    exact h.rest out p (sub p mem)
  sweep now i pc := absurd pc (place now i)

/-- Every turn keeps this. -/
lemma Swept.step (h : Swept timeout as s) (st : Answered s a t) : Swept timeout (as ++ [a]) t := by
  obtain ⟨ops, eq⟩ := st
  have config := (step_timeout eq).trans h.config
  cases step_effect eq with
  | stop =>
    have same : lastSweep (as ++ [.stop]) = lastSweep as := lastSweep_other (by simp)
    refine ⟨config, ?_, ?_⟩
    · rw [same]
      exact h.rest
    · rw [same]
      exact h.sweep
  | enter pc _ | leave pc _ _ =>
    exact h.outside config (by rw [pc]; rfl) (by simp) (by simp) fun _ => id
  | pumped pc =>
    refine h.outside config (by rw [pc]; rfl) ?_ (by simp) fun _ => id
    intro now i
    dsimp only
    split
    · simp
    · simp
  | accept pc => exact ⟨config, by simp [Pc.sweeping], by simp⟩
  | idle pc =>
    refine ⟨config, by simp [Pc.sweeping], ?_⟩
    rintro now i ⟨⟩
    exact ⟨lastSweep_idle _, by simp⟩
  | handshake pc progressed =>
    refine ⟨config, by simp [Pc.sweeping], ?_⟩
    rintro now i ⟨⟩
    obtain ⟨last, young⟩ := h.sweep _ _ pc
    rw [lastSweep_other (by simp)]
    exact ⟨last, Swept.handshake h.config young progressed⟩
  | progressed pc past =>
    refine ⟨config, ?_, by simp⟩
    intro _ p mem
    obtain ⟨last, young⟩ := h.sweep _ _ pc
    rw [List.take_of_length_le past] at young
    rw [lastSweep_other (by simp)]
    exact ⟨_, last, young p mem⟩
  | @pass a i session io after ops dataRead pc _ serviced =>
    obtain ⟨⟨n, same⟩, -⟩ := serviceSessionPass_spec s.io session a
    rw [serviced] at same
    dsimp only at same
    subst same
    exact h.outside config (by rw [pc]; rfl) (by simp) (by simp) fun _ => id
  | serviced pc _ => exact h.outside config (by rw [pc]; rfl) (by simp) (by simp) fun _ => id
  | retire pc retired =>
    refine h.outside config (by rw [pc]; rfl) (by simp) (by simp) ?_
    intro p mem
    exact (retireSession_sub retired).2.1 ▸ mem
  | drop pc removed =>
    exact h.outside config (by rw [pc]; rfl) (by simp) (by simp)
      (removePendingHandshake_spec removed).2
  | done pc _ => exact h.outside config (by rw [pc]; rfl) (by simp) (by simp) fun _ => id

end

/-- No handshake outlives its time: outside the accept loop and the handshake loop every pending
handshake had been accepted less than `H3HandshakeTimeout` before the handshake loop was last
entered. -/
theorem handshake_deadline {max timeout : UInt32} {as : List Answer} {s : State}
    (run : Run Answered (State.init max timeout) as s) (out : s.pc.sweeping = false)
    {p : PendingHandshake} (mem : p ∈ s.io.pendingHandshakes) :
    ∃ now, lastSweep as = some now ∧ now - p.acceptedAt < timeFromSec timeout.toNat := by
  have swept : Swept timeout as s := by
    refine run.invariant_hist (fun _ _ _ _ => Swept.step) ⟨rfl, ?_, ?_⟩
    · exact fun _ _ mem => absurd mem List.not_mem_nil
    · exact fun _ _ pc => absurd pc (by simp [State.init])
  exact swept.rest out p mem

/-- A round in which the first of two handshakes is found to be too old. -/
def oneTooOld : List Answer :=
  [.tick, .pumped 1, .accept true 0, .accept true 6000000, .idle 10000000,
    .handshake { closed := false, handshakeDone := false, spawn := spawnOk },
    .handshake { closed := false, handshakeDone := false, spawn := spawnOk }, .tick]

/-- A turn to be run. -/
def runAnswered (s : State) (a : Answer) : Option (State × Answer) :=
  (step s a).map fun r => (r.1, a)

/-- A handshake that is too old is gone after the sweep, and a younger one is still pending. -/
theorem handshake_deadline_oneTooOld :
    ∃ as s, Run Answered (State.init 2 10) as s ∧ s.io.pendingHandshakes = [⟨1, 6000000⟩] ∧
      ∃ now, lastSweep as = some now ∧ now - 6000000 < 10000000 := by
  have run : ((execAll runAnswered (State.init 2 10) oneTooOld).map fun r =>
      (r.1.io.pendingHandshakes, r.1.pc.sweeping)) = some ([⟨1, 6000000⟩], false) := by
    decide +kernel
  obtain ⟨⟨s, as⟩, run, e⟩ := Option.map_eq_some_iff.mp run
  simp only [Prod.mk.injEq] at e
  obtain ⟨pending, out⟩ := e
  have run : Run Answered (State.init 2 10) as s := by
    refine execAll_run ?_ run
    intro s a t e eq
    obtain ⟨⟨u, ops⟩, stepped, eq⟩ := Option.map_eq_some_iff.mp eq
    cases eq
    exact ⟨ops, stepped⟩
  have mem : ⟨1, 6000000⟩ ∈ s.io.pendingHandshakes := by
    rw [pending]
    exact List.mem_singleton_self _
  exact ⟨as, s, run, pending, handshake_deadline run out mem⟩

end ModHttp3.Listener

import Mathlib.Data.List.Range
import ModHttp3.Lib.History
import ModHttp3.Session.Flush
import ModHttp3.Session.Reclaim

/-!
# The stream limit of a connection

`H3MaxConcurrentStreams` is given to nghttp3 when a session is created, as the number of concurrent
streams and as the number of bidirectional streams the client may open in total, and nothing looks
at it afterwards. So the number of requests in flight is bounded by it only as far as the client
keeps to it (`in_flight_le_limit`), and the total that nghttp3 knows of is exceeded as soon as the
client has opened more streams than that, one after the other (`client_streams_within_limit`).

C → Lean naming: `h3_session_create` → `sessionCreate`, of which the state of the session is
`Session.init`.
-/

namespace ModHttp3.H3
open ModHttp3.Lib ModHttp3.Lib.Script

/-- A session and the limits that were last given to nghttp3. -/
structure Connection where
  session : Session
  /-- by `nghttp3_conn_set_max_concurrent_streams` -/
  maxConcurrentStreams : Nat
  /-- by `nghttp3_conn_set_max_client_streams_bidi` -/
  maxClientStreamsBidi : Nat

/-- Create a session (C `h3_session_create`). -/
def sessionCreate (h3StreamBufferSize h3MaxRequestBodySize h3MaxConcurrentStreams : Nat) :
    Connection where
  session := .init h3StreamBufferSize h3MaxRequestBodySize
  maxConcurrentStreams := h3MaxConcurrentStreams
  maxClientStreamsBidi := h3MaxConcurrentStreams

/-- A section of the session; none of them sets a limit. -/
def Serves (x : Connection) (c : Sect) (y : Connection) : Prop :=
  Step x.session c y.session ∧ y = { x with session := y.session }

/-- The id is one of a bidirectional stream of the client. -/
def sidIsRequest (sid : Int) : Bool := sidIsBidi sid && !sidIsServer sid

/-- The stream is a bidirectional one of the client. -/
def H3Stream.isRequest (x : H3Stream) : Bool := x.isBidi && !sidIsServer x.streamId

/-- The request streams that no worker is done with. -/
def unanswered (s : Session) : Nat :=
  (List.range s.next).countP fun r => (s.objs r).isRequest && !(s.objs r).workerDone

/-- The requests in flight: dispatched, and no worker is done with them. -/
def inFlight (s : Session) : Nat :=
  (List.range s.next).countP fun r =>
    (s.objs r).isRequest && (s.objs r).dispatched && !(s.objs r).workerDone

/-- The request stream that an entry hands out. -/
def Entry.request : Entry → Option Int
  | .got _ sid => if sidIsRequest sid then some sid else none
  | _ => none

/-- The request streams that were accepted, in order. -/
def requests (log : List Entry) : List Int := log.filterMap Entry.request

/-- The client opens a request stream only while fewer than `n` of those before are unanswered. -/
def Admits (n : Nat) (x : Connection) (c : Sect) (y : Connection) : Prop :=
  match c with
  | .accept => requests (x.session.since y.session) ≠ [] → unanswered x.session < n
  | _ => True

/-- No stream appears, and what a worker is done with stays done. -/
structure Session.Aged (s t : Session) : Prop where
  next : t.next = s.next
  isRequest : ∀ r, (t.objs r).isRequest = (s.objs r).isRequest
  workerDone : ∀ r, (s.objs r).workerDone = true → (t.objs r).workerDone = true

section
variable {s t u : Session} {r : Ref} {c : Call} {n : Nat}

namespace Session.Aged

/-- Nothing aged. -/
lemma refl : s.Aged s := ⟨rfl, fun _ => rfl, fun _ => id⟩

/-- Ageing twice. -/
lemma trans (h1 : s.Aged t) (h2 : t.Aged u) : s.Aged u where
  next := h2.next.trans h1.next
  isRequest r := (h2.isRequest r).trans (h1.isRequest r)
  workerDone r := h2.workerDone r ∘ h1.workerDone r

/-- What frames the objects only lets them age. -/
lemma of_objs (next : t.next = s.next) (objs : ∀ r, (s.objs r).Frame (t.objs r)) : s.Aged t where
  next := next
  isRequest r := by rw [H3Stream.isRequest, H3Stream.isRequest, (objs r).isBidi, (objs r).streamId]
  workerDone r done := (objs r).workerDone.trans done

/-- A change of something else. -/
lemma same (next : t.next = s.next) (objs : t.objs = s.objs) : s.Aged t := by
  refine ⟨next, ?_, ?_⟩
  all_goals rw [objs]
  · exact fun _ => rfl
  · exact fun _ => id

/-- An entry of the log lets nothing age. -/
lemma emit (e : Entry) : s.Aged (s.emit e) := same rfl rfl

/-- A change of an object that takes no mark back. -/
lemma modifyObj {f : H3Stream → H3Stream} (isRequest : ∀ x, (f x).isRequest = x.isRequest)
    (workerDone : ∀ x, x.workerDone = true → (f x).workerDone = true) :
    s.Aged (s.modifyObj r f) where
  next := rfl
  isRequest := update_rel (P := fun x y => y.isRequest = x.isRequest) (isRequest _) fun _ => rfl
  workerDone :=
    update_rel (P := fun x y => x.workerDone = true → y.workerDone = true) (workerDone _)
      fun _ => id

end Session.Aged

/-- A fold of steps that let the session age. -/
lemma foldl_aged {α : Type} {f : Session → α → Session} (h : ∀ (s : Session) a, s.Aged (f s a))
    (as : List α) (s : Session) : s.Aged (as.foldl f s) := by
  induction as generalizing s with
  | nil => exact .refl
  | cons a as ih => exact (h s a).trans (ih _)

/-- Marking a stream as blocked does not answer it. -/
lemma writeBlocked_aged (r : Ref) (b : Bool) (n : Int) :
    s.Aged { s.modifyObj r fun x => { x with writeBlocked := b } with blockedStreams := n } := by
  have blocked : s.Aged (s.modifyObj r fun x => { x with writeBlocked := b }) :=
    .modifyObj (fun _ => rfl) fun _ => id
  exact blocked.trans (.same rfl rfl)

/-- A flush lets the session age. -/
lemma aged_flushClosed : FlushClosed Session.Aged where
  refl _ := .refl
  trans _ _ _ := .trans
  emit _ := .emit
  callbacks _ cbs := .of_objs (runCbs_frame cbs).next (runCbs_frame cbs).objs
  mark _ := writeBlocked_aged
  dead _ := .same rfl rfl
  pop _ _ := .same rfl rfl

/-- Reclaiming an object lets the session age. -/
lemma reclaim_aged (s : Session) (r : Ref) : s.Aged (s.reclaim r) := by
  rw [Session.reclaim]
  split
  · dsimp only
    split
    · exact (writeBlocked_aged r false (s.blockedStreams - 1)).trans (.same rfl rfl)
    · exact .same rfl rfl
  · exact .refl

/-- A drain lets the session age. -/
lemma drain_aged (st : Step s .drain t) : s.Aged t := by
  obtain ⟨u, snapshot, later, _, rfl⟩ := drain_later (P := fun _ => True) (fun _ _ => trivial)
    (fun _ _ => trivial) st
  exact (Session.Aged.of_objs later.next later.objs).trans (foldl_aged reclaim_aged snapshot u)

/-- Streams that no worker is done with do not appear by themselves. -/
lemma Session.Aged.unanswered (aged : s.Aged t) : unanswered t ≤ unanswered s := by
  rw [H3.unanswered, H3.unanswered, aged.next]
  refine List.countP_mono_left ?_
  intro r _ waiting
  simp only [Bool.and_eq_true, Bool.not_eq_true'] at waiting ⊢
  refine ⟨(aged.isRequest r).symm.trans waiting.1, ?_⟩
  by_contra done
  rw [Bool.not_eq_false] at done
  rw [aged.workerDone r done] at waiting
  cases waiting.2

/-- A new stream object. -/
lemma track_unanswered (s : Session) (sid : Int) (h : Handle) :
    unanswered (s.track sid h) = unanswered s + if sidIsRequest sid then 1 else 0 := by
  have old : ∀ r ∈ List.range s.next, (s.track sid h).objs r = s.objs r :=
    fun r mem => Function.update_of_ne (List.mem_range.mp mem).ne _ _
  have new : (s.track sid h).objs s.next = .init sid (some h) := Function.update_self ..
  rw [unanswered, unanswered]
  show (List.range (s.next + 1)).countP _ = _
  rw [List.range_succ, List.countP_append, List.countP_singleton, new]
  congr 1
  · refine List.countP_congr fun r mem => ?_
    rw [old r mem]
  · simp [H3Stream.isRequest, H3Stream.init, sidIsRequest]

/-- Another handle for a stream object. -/
lemma retrack_aged (s : Session) (r : Ref) (h : Handle) : s.Aged (s.retrack r h) := by
  have given : s.Aged (s.modifyObj r fun x => { x with qstream := some h }) :=
    .modifyObj (fun _ => rfl) fun _ => id
  exact given.trans (.same rfl rfl)

/-- One turn of the accept loop: at most one stream appears, with the id that was accepted. -/
lemma accept_cases (st : Step s .accept t) :
    s.Aged t ∨ ∃ sid, s.Aged (s.accepted sid) ∧ t = (s.accepted sid).track sid s.handles := by
  have ends : Wp (exec .accept) s
      (fun _ t => s.Aged t ∨ ∃ sid, s.Aged (s.accepted sid) ∧
        t = (s.accepted sid).track sid s.handles)
      (fun _ => True) := by
    refine .bind (acceptStream_wp.mono ?_ fun _ => id)
    rintro more t (⟨_, rfl⟩ | ⟨_, sid, rfl | rfl | ⟨r, _, rfl⟩⟩)
    · exact .pure (.inl .refl)
    · exact .pure (.inl (.same rfl rfl))
    · exact .pure (.inr ⟨sid, .same rfl rfl, rfl⟩)
    · have accepted : s.Aged (s.accepted sid) := .same rfl rfl
      exact .pure (.inl (accepted.trans (retrack_aged _ r _)))
  exact st.ends ends

/-- A client that keeps to the limit. -/
lemma accept_unanswered (st : Step s .accept t)
    (admits : requests (s.since t) ≠ [] → unanswered s < n) (le : unanswered s ≤ n) :
    unanswered t ≤ n := by
  rcases accept_cases st with aged | ⟨sid, aged, rfl⟩
  · exact aged.unanswered.trans le
  · have since : requests (s.since ((s.accepted sid).track sid s.handles)) =
        if sidIsRequest sid then [sid] else [] := by
      have log : (s.accepted sid).log =
          s.log ++ [Entry.got s.handles sid, Entry.op (.use (.id sid) s.handles)] :=
        List.append_assoc ..
      show requests ((s.accepted sid).log.drop s.log.length) = _
      rw [log, List.drop_left]
      by_cases request : sidIsRequest sid = true
      all_goals simp [requests, Entry.request, request]
    rw [track_unanswered]
    rw [since] at admits
    by_cases request : sidIsRequest sid = true
    · rw [if_pos request] at admits ⊢
      exact Nat.succ_le_of_lt (aged.unanswered.trans_lt (admits (List.cons_ne_nil _ _)))
    · rw [if_neg request]
      exact aged.unanswered.trans le

/-- Opening the control streams. -/
lemma create_unanswered (st : Step s .create t) (new : s.controlStreamsCreated = false) :
    unanswered t ≤ unanswered s := by
  have later : ∀ {u v : Session}, unanswered u ≤ unanswered s → u.Aged v →
      unanswered v ≤ unanswered s :=
    fun le aged => aged.unanswered.trans le
  refine st.ends (create_wp (K := fun u => unanswered u ≤ unanswered s) new ?_ ?_ ?_
    (Nat.le_refl _))
  · intro u v le o
    cases o with
    | acquire => exact later le (.same rfl rfl)
    | track held got server =>
      rw [track_unanswered, sidIsRequest, server]
      simpa using le
    | retrack => exact later le (retrack_aged _ _ _)
  · exact fun u h le => later le (.same rfl rfl)
  · exact fun u v le _ objs next _ => later le (.same next objs)

/-- Destroying the session. -/
lemma destroy_aged (st : Step s .destroy t) : s.Aged t := by
  refine st.ends (destroy_wp (K := s.Aged) ?_ ?_ ?_ .refl)
  · exact fun u r hu => hu.trans (.modifyObj (fun _ => rfl) fun _ => id)
  · exact fun u h hu => hu.trans (.same rfl rfl)
  · exact fun u v hu _ objs next _ => hu.trans (.same next objs)

/-- The sections of a client that keeps to the limit. -/
lemma step_unanswered {c : Sect} {x y : Connection} (st : Serves x c y) (admits : Admits n x c y)
    (new : x.session.phase = .created → x.session.controlStreamsCreated = false)
    (le : unanswered x.session ≤ n) : unanswered y.session ≤ n := by
  obtain ⟨st, _⟩ := st
  have one : ∀ {f : Session → Session}, (∀ s : Session, s.Aged (f s)) →
      Wp (Script.modify f : Prog Unit) x.session (fun _ t => x.session.Aged t) (fun _ => True) :=
    fun aged => .modify (aged _)
  have aged : x.session.Aged y.session → unanswered y.session ≤ n :=
    fun aged => aged.unanswered.trans le
  cases c with
  | create =>
    have phase : x.session.phase = .created := by simpa [Sect.enabled] using st.1
    exact (create_unanswered st (new phase)).trans le
  | accept => exact accept_unanswered st admits le
  | drain => exact aged (drain_aged st)
  | flush => exact aged (aged_flushClosed.flush st)
  | destroy => exact aged (destroy_aged st)
  | dispatch r | undispatch r =>
    exact aged (st.ends (one fun s => .modifyObj (fun _ => rfl) fun _ => id))
  | process r => exact aged (st.ends (one fun s => .emit _))
  | workerDone r => exact aged (st.ends (one fun s => .modifyObj (fun _ => rfl) fun _ _ => rfl))

/-- A request in flight is unanswered. -/
lemma inFlight_le_unanswered (s : Session) : inFlight s ≤ unanswered s := by
  refine List.countP_mono_left ?_
  intro r _ flight
  simp only [Bool.and_eq_true] at flight ⊢
  exact ⟨flight.1.1, flight.2⟩

/-- A run of a connection is one of its session, and the limits stay as they were. -/
lemma serves_run {b m : Nat} {cs : List Sect} {x : Connection}
    (run : Run Serves (sessionCreate b m n) cs x) :
    Run Step (.init b m) cs x.session ∧ x.maxClientStreamsBidi = n := by
  induction run with
  | nil => exact ⟨.nil, rfl⟩
  | snoc _ st ih =>
    obtain ⟨run, limit⟩ := ih
    obtain ⟨st, same⟩ := st
    refine ⟨.snoc run st, ?_⟩
    rw [same]
    exact limit

end

/-- In every run in which the client opens request streams only while fewer than `n` of those it
opened before are unanswered, at most `n` requests are in flight. -/
theorem in_flight_le_limit {b m n : Nat} {cs : List Sect} {x : Connection}
    (run : Run (fun x c y => Serves x c y ∧ Admits n x c y) (sessionCreate b m n) cs x) :
    inFlight x.session ≤ n := by
  refine (inFlight_le_unanswered x.session).trans ?_
  induction run with
  | nil => exact Nat.zero_le n
  | snoc before st ih =>
    refine step_unanswered st.1 st.2 ?_ ih
    intro created
    have first := (run_moves (serves_run (before.mono fun _ _ _ st => st.1)).1).2 created
    rw [first]
    rfl

instance Admits.decidable {n : Nat} {x y : Connection} : ∀ c, Decidable (Admits n x c y)
  | .accept =>
    inferInstanceAs
      (Decidable (requests (x.session.since y.session) ≠ [] → unanswered x.session < n))
  | .create | .drain | .flush | .destroy | .dispatch _ | .undispatch _ | .process _
  | .workerDone _ => .isTrue trivial

/-- Run a section of a connection on given answers. -/
def runServes (x : Connection) (op : Sect × List Answer) : Option (Connection × Sect) :=
  (runSect x.session op).map fun r => ({ x with session := r.1 }, r.2)

/-- `runServes` runs a section of the connection. -/
lemma runServes_serves (x : Connection) (op : Sect × List Answer) (y : Connection) (c : Sect)
    (eq : runServes x op = some (y, c)) : Serves x c y := by
  obtain ⟨⟨t, c'⟩, h, same⟩ := Option.map_eq_some_iff.mp eq
  cases same
  exact ⟨runSect_step _ _ _ _ h, rfl⟩

/-- With a limit of one stream, one request is in flight. -/
theorem in_flight_le_limit_one :
    ∃ cs x, Run (fun x c y => Serves x c y ∧ Admits 1 x c y) (sessionCreate 65536 1000 1) cs x ∧
      inFlight x.session = 1 ∧ inFlight x.session ≤ 1 := by
  have eq : (execAll (fun x op => (runServes x op).filter fun p => decide (Admits 1 x p.2 p.1))
      (sessionCreate 65536 1000 1) dispatchedGet).map (fun r => inFlight r.1.session) = some 1 := by
    decide +kernel
  obtain ⟨⟨x, cs⟩, h, one⟩ := Option.map_eq_some_iff.mp eq
  have run : Run (fun x c y => Serves x c y ∧ Admits 1 x c y) (sessionCreate 65536 1000 1) cs
      x := by
    refine execAll_run ?_ h
    intro x op y c eq
    obtain ⟨ran, admits⟩ := Option.filter_eq_some_iff.mp eq
    exact ⟨runServes_serves x op y c ran, of_decide_eq_true admits⟩
  exact ⟨cs, x, run, one, in_flight_le_limit run⟩

/-- Two requests arrive at the same time. -/
def twoGets : List (Sect × List Answer) :=
  requestOpen.append
  [(.accept, [.accepted (some 4), .condCreated true]),
    (.drain, [.order [0, 1, 2, 3, 4],
      .states .ok .ok, .read (.data [1, 2, 0, 0]),
      .called [.beginHeaders 0, .recvHeader 0 .method [] [71, 69, 84], .endHeaders 0 false] 4,
      .read .fin,
      .called [] 0,
      .states .ok .ok, .read (.data [1, 2, 0, 0]),
      .called [.beginHeaders 4, .recvHeader 4 .method [] [71, 69, 84], .endHeaders 4 false] 4,
      .read .fin,
      .called [] 0]),
    (.dispatch 3, []), (.dispatch 4, [])]

/-- With a limit of one stream, two requests are in flight. -/
theorem in_flight_exceeds_limit :
    ∃ cs x, Run Serves (sessionCreate 65536 1000 1) cs x ∧ inFlight x.session = 2 := by
  have eq : (execAll runServes (sessionCreate 65536 1000 1) twoGets).map
    (fun r => inFlight r.1.session) =
      some 2 := by decide +kernel
  obtain ⟨⟨x, cs⟩, h, two⟩ := Option.map_eq_some_iff.mp eq
  exact ⟨cs, x, execAll_run runServes_serves h, two⟩

/-- The client opens its request streams in order, without gaps. -/
def InOrder (pre : List Entry) (e : Entry) : Prop :=
  ∀ sid, e.request = some sid → sid = 4 * (requests pre).length

instance InOrder.decidable {pre : List Entry} {e : Entry} : Decidable (InOrder pre e) :=
  match h : e.request with
  | none => .isTrue fun sid is => by rw [h] at is; cases is
  | some sid =>
    decidable_of_iff (sid = 4 * (requests pre).length) (by
      rw [InOrder, h]
      exact ⟨fun eq sid' same => Option.some.inj same ▸ eq, fun all => all sid rfl⟩)

/-- The ids of the request streams that were accepted. -/
lemma requests_in_order {log : List Entry} (quic : Each InOrder log) :
    requests log = (List.range (requests log).length).map fun i : Nat => 4 * (i : Int) := by
  induction log using List.reverseRecOn with
  | nil => rfl
  | append_singleton log e ih =>
    have before := ih quic.before
    have last := quic.last
    have split : requests (log ++ [e]) = requests log ++ e.request.toList := by
      rw [requests, List.filterMap_append]
      cases h : e.request with
      | none => simp [requests, h]
      | some sid => simp [requests, h]
    rw [split]
    cases h : e.request with
    | none =>
      rw [Option.toList_none, List.append_nil]
      exact before
    | some sid =>
      rw [Option.toList_some, List.length_append, List.length_singleton, List.range_succ,
        List.map_append, ← before, List.map_singleton, ← last sid h]

/-- For a client that opens its streams in order, the total that nghttp3 was given covers the
request streams accepted so far exactly if there were at most `n`. -/
theorem client_streams_within_limit {b m n : Nat} {cs : List Sect} {x : Connection}
    (run : Run Serves (sessionCreate b m n) cs x) (quic : Each InOrder x.session.log) :
    (∀ sid ∈ requests x.session.log, sid / 4 < x.maxClientStreamsBidi) ↔
      (requests x.session.log).length ≤ n := by
  rw [(serves_run run).2]
  have ids := requests_in_order quic
  generalize (requests x.session.log).length = k at ids
  rw [ids]
  constructor
  · intro all
    by_contra more
    have mem : 4 * (n : Int) ∈ (List.range k).map fun i : Nat => 4 * (i : Int) :=
      List.mem_map.mpr ⟨n, List.mem_range.mpr (Nat.lt_of_not_le more), rfl⟩
    have lt := all _ mem
    omega
  · intro le sid mem
    obtain ⟨i, range, rfl⟩ := List.mem_map.mp mem
    have lt := List.mem_range.mp range
    omega

/-- The first request on a connection with the default limit. -/
theorem client_streams_within_limit_first :
    ∃ cs x, Run Serves (sessionCreate 65536 1000 100) cs x ∧ requests x.session.log = [0] ∧
      ∀ sid ∈ requests x.session.log, sid / 4 < x.maxClientStreamsBidi := by
  have eq : (execAll runServes (sessionCreate 65536 1000 100) requestOpen).map
      (fun r => decide (Each InOrder r.1.session.log ∧ requests r.1.session.log = [0])) =
        some true := by
    decide +kernel
  obtain ⟨⟨x, cs⟩, h, obs⟩ := Option.map_eq_some_iff.mp eq
  obtain ⟨quic, first⟩ := of_decide_eq_true obs
  have run := execAll_run runServes_serves h
  refine ⟨cs, x, run, first, (client_streams_within_limit run quic).mpr ?_⟩
  rw [first]
  decide

/-- A client that may have one stream at a time sends a second request after the first was
answered. -/
def secondGet : List (Sect × List Answer) :=
  dispatchedGet.append
  [(.process 3, []), (.workerDone 3, []), (.accept, [.accepted (some 4), .condCreated true])]

/-- Its second stream is beyond the limit, although nothing is in flight. -/
theorem second_request_exceeds_client_limit :
    ∃ cs x, Run Serves (sessionCreate 65536 1000 1) cs x ∧ Each InOrder x.session.log ∧
      inFlight x.session = 0 ∧ 4 ∈ requests x.session.log ∧
      ¬(4 : Int) / 4 < x.maxClientStreamsBidi := by
  have eq : (execAll runServes (sessionCreate 65536 1000 1) secondGet).map
      (fun r => decide (Each InOrder r.1.session.log ∧ inFlight r.1.session = 0 ∧
        4 ∈ requests r.1.session.log ∧ ¬(4 : Int) / 4 < r.1.maxClientStreamsBidi)) = some true := by
    decide +kernel
  obtain ⟨⟨x, cs⟩, h, obs⟩ := Option.map_eq_some_iff.mp eq
  exact ⟨cs, x, execAll_run runServes_serves h, of_decide_eq_true obs⟩

end ModHttp3.H3

import ModHttp3.Session.Flow

/-!
# Taking leave of a session

A session that is wound up says so to nghttp3 twice: `nghttp3_conn_submit_shutdown_notice` in the
first pass that finds `thread_running` cleared, and `nghttp3_conn_shutdown` when all streams are
drained or the grace period is over. `act_utters` gives the farewells each action makes; in every
run they are made at most once and in this order (`shutdown_protocol`).

A session that is given up is not serviced any more. The workers that are on it can still finish;
from them nghttp3 hears that a stream is to be resumed, since `h3_stream_response_complete` does not
look at `aborted`, and nothing else (`aborted_left_alone`).
-/

namespace ModHttp3.H3
open ModHttp3.Lib ModHttp3.Lib.Script

/-- The calls that wind a connection up. -/
def Call.isFarewell : Call → Bool
  | .submitShutdownNotice | .shutdown => true
  | _ => false

/-- The farewell of an entry, if it is one. -/
def Entry.farewell : Entry → Option Call
  | .call c _ _ => if c.isFarewell then some c else none
  | _ => none

/-- The farewells of a log. -/
def farewells (log : List Entry) : List Call := log.filterMap Entry.farewell

/-- The session has made these farewells in between. -/
def Utters (l : List Call) (s t : Session) : Prop := farewells t.log = farewells s.log ++ l

/-- The farewells an action makes. -/
def Act.utters (x : Service) : Act → List Call
  | .notice _ => if x.goaway then [] else [.submitShutdownNotice]
  | .leave => [.shutdown]
  | _ => []

section
variable {s t u : Session} {r : Ref} {l l' : List Call} {c : Call}

/-- The farewells of two logs in a row. -/
lemma farewells_append (log es : List Entry) :
    farewells (log ++ es) = farewells log ++ farewells es :=
  List.filterMap_append

/-- Doing nothing utters nothing. -/
lemma Utters.refl (s : Session) : Utters [] s s := (List.append_nil _).symm

/-- Two utterances in a row. -/
lemma Utters.trans (h1 : Utters l s t) (h2 : Utters l' t u) : Utters (l ++ l') s u := by
  rw [Utters, h2, h1, List.append_assoc]

/-- Nothing is said in a change that logs nothing. -/
lemma Utters.same (log : t.log = s.log) : Utters [] s t := by
  rw [Utters, log, List.append_nil]

/-- An entry that is no farewell. -/
lemma Utters.emit {e : Entry} (silent : e.farewell = none) (s : Session) :
    Utters [] s (s.emit e) := by
  show farewells (s.log ++ [e]) = _
  rw [farewells_append]
  simp [farewells, silent]

/-- Callbacks make no farewells. -/
lemma Utters.callbacks (s : Session) (cbs : List Cb) : Utters [] s (runCbs s cbs) := by
  obtain ⟨es, eq, resets⟩ := runCbs_log (s := s) cbs
  have silent : farewells es = [] := by
    rw [farewells, List.filterMap_eq_nil_iff]
    intro e mem
    obtain ⟨err, h, rfl⟩ := resets e mem
    rfl
  rw [Utters, eq, farewells_append, silent]

/-- A call says what it is. -/
lemma Utters.call (c : Call) (s : Session) (cbs : List Cb) (rv : Int) :
    Utters (if c.isFarewell then [c] else []) s (runCbs (s.emit (.call c cbs rv)) cbs) := by
  have called : Utters (if c.isFarewell then [c] else []) s (s.emit (.call c cbs rv)) := by
    rw [Utters, Session.emit, farewells_append]
    cases h : c.isFarewell with
    | true => simp [farewells, Entry.farewell, h]
    | false => simp [farewells, Entry.farewell, h]
  have := called.trans (.callbacks _ cbs)
  rwa [List.append_nil] at this

/-- A call utters itself if it is a farewell. -/
lemma Called.utters (called : Called c s t) : Utters (if c.isFarewell then [c] else []) s t := by
  obtain ⟨cbs, rv, rfl⟩ := called
  exact .call c s cbs rv

/-- Silence in two parts. -/
lemma Utters.then (h1 : Utters [] s t) (h2 : Utters [] t u) : Utters [] s u := h1.trans h2

/-- Adding offsets is no farewell. -/
lemma Offsets.silent {sid : Int} {n : Nat} (offsets : Offsets sid n s t) : Utters [] s t := by
  obtain ⟨u, write, ack⟩ := offsets
  exact Utters.then write.utters ack.utters

/-- Asking for vectors is no farewell. -/
lemma Writev.silent {sid : Int} {fin : Bool} {lens : List Nat} (writev : Writev sid fin lens s t) :
    Utters [] s t := by
  obtain ⟨cbs, nvec, _, _, rfl⟩ := writev
  exact .call (.writevStream sid fin lens) s cbs nvec

/-- Unblocking a stream is no farewell. -/
lemma Unblocking.silent (m : Unblocking s t) : Utters [] s t := by
  cases m with
  | query blocked hq => exact .emit rfl s
  | @unblock r _ called => exact (Utters.same rfl).then called.utters

/-- A turn of the flush is no farewell. -/
lemma FlushTurn.silent {go : Bool} (m : FlushTurn s go t) : Utters [] s t := by
  cases m with
  | @failed sid fin lens cbs nvec neg =>
    exact (Utters.call (.writevStream sid fin lens) s cbs nvec).then (.same rfl)
  | @nothing sid fin lens cbs neg => exact .call (.writevStream sid fin lens) s cbs 0
  | swallowed writev _ offsets => exact writev.silent.then offsets.silent
  | broken writev _ _ _ offsets =>
    exact writev.silent.then ((Utters.emit rfl _).then offsets.silent)
  | written writev _ _ _ offsets last =>
    refine writev.silent.then ((Utters.emit rfl _).then (offsets.silent.then ?_))
    rcases last with ⟨_, rfl⟩ | ⟨_, _, blocked⟩
    · exact .refl _
    · exact (Utters.same rfl).then blocked.utters

/-- A flush makes no farewells. -/
lemma flush_silent (s : Session) :
    Wp flushNghttp3 s (fun _ t => Utters [] s t) (fun _ => True) := by
  refine flushNghttp3_wp (J := Utters [] s) (fun _ _ hu m => hu.then m.silent) ?_ ?_
    (fun _ => .refl s) fun _ => .refl s
  · intro u go v hu turn
    split
    · exact hu.then turn.silent
    · exact hu.then turn.silent
  · intro u h hu
    have popped : Utters [] u { u with pendingFree := u.pendingFree.dropLast } := .same rfl
    exact hu.then (popped.then (.emit rfl _))

/-- Passing the end of a stream to nghttp3 is no farewell. -/
lemma feedFin_silent (s : Session) (r : Ref) (cbs : List Cb) (rv : Int) :
    Utters [] s (s.feedFin r cbs rv) :=
  (Utters.call (.readStream (s.objs r).streamId [] true) s cbs rv).then (.same rfl)

/-- Passing bytes to nghttp3 is no farewell. -/
lemma feed_silent {h : Handle} {data : List UInt8} (s : Session) (cbs : List Cb) (rv : Int) :
    Utters [] s (s.feed r h data cbs rv) := by
  have reading : Utters [] s (s.reading r h data cbs rv) := by
    show farewells (s.log ++ [_] ++ [_]) = _
    rw [farewells_append, farewells_append, List.append_assoc]
    rfl
  exact reading.then ((Utters.callbacks _ cbs).then (.same rfl))

/-- Reads are no farewells. -/
lemma readings_silent (ms : Relation.ReflTransGen (Reading r) s t) : Utters [] s t := by
  induction ms with
  | refl => exact .refl s
  | tail _ m ih =>
    refine ih.then ?_
    cases m with
    | use result hq other => exact .emit rfl _
    | feed cbs rv _ _ _ _ _ => exact feed_silent _ cbs rv
    | feedFin cbs rv _ _ _ _ => exact feedFin_silent _ r cbs rv
    | done => exact .same rfl

/-- A visit of a stream is no farewell. -/
lemma visit_silent (visit : Visit r s t) : Utters [] s t := by
  cases visit with
  | read hq reads => exact readings_silent reads
  | unfinished hq _ reads => exact (Utters.emit rfl s).then (readings_silent reads)
  | @finished h rstate wstate u _ hq fin fed closing =>
    have asked : Utters [] s (s.emit (.op (.use (.isReadFinished rstate wstate) h))) := .emit rfl s
    have fed : Utters [] s u := by
      rcases fed with ⟨_, rfl⟩ | ⟨_, cbs, rv, rfl⟩
      · exact asked
      · exact asked.then (feedFin_silent _ r cbs rv)
    rcases closing with ⟨_, rfl⟩ | ⟨_, cbs, rv, rfl⟩
    · exact fed
    · exact fed.then (.call (.closeStream _) u cbs rv)

/-- Nor does the section that reads all streams. -/
lemma drainAndFlush_silent (s : Session) :
    Wp drainAndFlush s (fun _ t => Utters [] s t) (fun _ => True) := by
  refine .bind (.mono (drainReadyStreams_wp (J := Utters [] s) ?_ ?_ (.refl s)) ?_ fun _ => id)
  · exact fun r u v hu _ visit => hu.then (visit_silent visit)
  · exact fun u rs i hu => hu.then (.same rfl)
  · rintro _ _ ⟨u, snapshot, hu, _, rfl⟩
    have log : (snapshot.foldl Session.reclaim u).log = u.log :=
      foldl_keeps Session.log reclaim_log snapshot u
    refine (flush_silent _).mono ?_ fun _ => id
    exact fun _ t flushed => hu.then ((Utters.same log).then flushed)

/-- The shutdown notice is uttered unless it was before. -/
lemma shutdownNotice_utters (goaway : Bool) (s : Session) :
    Wp (shutdownNotice goaway) s (fun _ t => Utters (if goaway then [] else [.submitShutdownNotice])
      s t)
      (fun _ => True) := by
  have rest : ∀ l u, Utters l s u → Wp (do
      flushNghttp3
      let drained ← callNgh3 .isDrained2
      pure (drained != 0)) u (fun _ t => Utters l s t) (fun _ => True) := by
    intro l u hu
    refine .bind ((flush_silent u).mono ?_ fun _ => id)
    intro _ v flushed
    refine .bind ((callNgh3_wp _ trivial).mono ?_ fun _ => id)
    intro rv t asked
    have all := hu.trans (flushed.then asked.utters)
    rw [List.append_nil] at all
    exact .pure all
  cases goaway with
  | true => exact rest [] s (.refl s)
  | false =>
    refine .bind ((callNgh3_wp _ trivial).mono ?_ fun _ => id)
    exact fun _ u called => rest _ u called.utters

/-- The shutdown is uttered. -/
lemma shutdown_utters (s : Session) :
    Wp shutdown s (fun _ t => Utters [.shutdown] s t) (fun _ => True) := by
  refine .bind ((callNgh3_wp _ trivial).mono ?_ fun _ => id)
  intro _ u called
  refine (flush_silent u).mono ?_ fun _ => id
  intro _ t flushed
  have all : Utters ([.shutdown] ++ []) s t := Utters.trans called.utters flushed
  exact all

/-- Creating a session utters no farewell. -/
lemma create_silent (new : s.controlStreamsCreated = false) :
    Wp (exec .create) s (fun _ t => Utters [] s t) (fun _ => True) := by
  refine create_wp new ?_ ?_ ?_ (.refl s)
  · intro u v hu o
    refine hu.then ?_
    cases o with
    | acquire server => exact .emit rfl _
    | track | retrack => exact .same rfl
  · exact fun u h hu => hu.then (.emit rfl _)
  · exact fun u v hu log _ _ _ => hu.then (.same log)

/-- Destroying a session utters no farewell. -/
lemma destroy_silent (s : Session) :
    Wp (exec .destroy) s (fun _ t => Utters [] s t) (fun _ => True) := by
  refine destroy_wp ?_ ?_ ?_ (.refl s)
  · exact fun u r hu => hu.then (.same rfl)
  · intro u h hu
    have popped : Utters [] u { u with pendingFree := u.pendingFree.dropLast } := .same rfl
    exact hu.then (popped.then (.emit rfl _))
  · exact fun u v hu log _ _ _ => hu.then (.same log)

/-- Accepting a stream utters no farewell. -/
lemma accept_silent (s : Session) :
    Wp acceptStream s (fun _ t => Utters [] s t) (fun _ => True) := by
  refine acceptStream_wp.mono ?_ fun _ => id
  have accepted : ∀ sid, Utters [] s (s.accepted sid) := by
    intro sid
    have got : Utters [] s (s.acquire sid) := .emit rfl _
    exact got.then (.emit rfl _)
  rintro more t (⟨_, rfl⟩ | ⟨_, sid, rfl | rfl | ⟨r, _, rfl⟩⟩)
  · exact .refl _
  · exact (accepted sid).then (.emit rfl _)
  · exact (accepted sid).then (.same rfl)
  · exact (accepted sid).then (.same rfl)

/-- Resuming a response utters no farewell. -/
lemma resumeResponse_silent (s : Session) (r : Ref) (w : Response.Stream) (resumed : Bool) :
    Wp (resumeResponse r w resumed) s (fun _ t => Utters [] s t) (fun _ => True) := by
  refine .bind (.get (.bind (.modify ?_)))
  have left : Utters [] s (s.respond r w) := .same rfl
  cases resumed with
  | false => exact .pure left
  | true =>
    refine .bind ((callNgh3_wp _ trivial).mono ?_ fun _ => id)
    exact fun _ t called => .pure (left.then called.utters)

/-- Submitting a response utters no farewell. -/
lemma submitResponse_silent (s : Session) (r : Ref) (w : Response.Stream) :
    Wp (submitResponse r w) s (fun _ t => Utters [] s t) (fun _ => True) := by
  refine .bind (.get ?_)
  split
  · refine .bind ((callNgh3_wp _ trivial).mono ?_ fun _ => id)
    exact fun _ t called => .modify (Utters.then called.utters (.same rfl))
  · exact .pure (.refl s)

/-- Queueing response bytes utters no farewell. -/
lemma appendResponse_silent (s : Session) (r : Ref) (w : Response.Stream) (data : List UInt8)
    (malloc : Option Ptr) :
    Wp (appendResponse r w data malloc) s (fun _ t => Utters [] s t) (fun _ => True) := by
  unfold appendResponse
  split
  · exact resumeResponse_silent s r _ _
  · exact resumeResponse_silent s r _ _
  · exact .pure (.refl s)

end

section
variable {x y : Service} {a : Act} {b m : Nat}

/-- What an action on the session says. -/
lemma onSession_utters {β : Type} {p : Prog β} {l : List Call}
    (h : Wp p x.session (fun _ t => Utters l x.session t) fun _ => True) :
    Wp (onSession p) x (fun _ y => Utters l x.session y.session) (fun _ => True) := by
  refine (onSession_wp h).mono ?_ fun _ => id
  rintro _ _ ⟨t, ht, rfl⟩
  exact ht

/-- Each action makes its farewells, and no others. -/
lemma act_utters (st : Acts x a y)
    (new : x.pc = .creating → x.session.controlStreamsCreated = false) :
    Utters (a.utters x) x.session y.session := by
  have enabled := st.1
  cases a with
  | create ok =>
    have init := new (by simpa [Act.enabled] using enabled)
    have ends : Wp (act (.create ok)) x (fun _ y => Utters [] x.session y.session)
        (fun _ => True) := by
      refine .bind ((onSession_utters (create_silent init)).mono ?_ fun _ => id)
      intro _ u hu
      refine .bind (.get ?_)
      split
      · exact .modify hu
      · refine .bind ((onSession_utters (destroy_silent u.session)).mono ?_ fun _ => id)
        exact fun _ v hv => .modify (hu.then hv)
    exact st.ends ends
  | start =>
    exact st.ends (S := fun _ => True) (Q := fun _ y => Utters [] x.session y.session)
      (.modify (.refl _))
  | notice late =>
    have ends : Wp (act (.notice late)) x
      (fun _ y => Utters (Act.utters x (.notice late)) x.session y.session)
        (fun _ => True) := by
      refine .bind
        (.get (.bind ((onSession_utters (shutdownNotice_utters _ _)).mono ?_ fun _ => id)))
      exact fun _ u hu => .modify hu
    exact st.ends ends
  | leave =>
    have ends : Wp (act .leave) x (fun _ y => Utters [.shutdown] x.session y.session)
        (fun _ => True) := by
      refine .bind ((onSession_utters (shutdown_utters _)).mono ?_ fun _ => id)
      exact fun _ u hu => .modify hu
    exact st.ends ends
  | closed | noPool | proceed | dispatched | stop =>
    exact st.ends (S := fun _ => True) (Q := fun _ y => Utters [] x.session y.session)
      (.modify (.refl _))
  | accept =>
    have ends : Wp (act .accept) x (fun _ y => Utters [] x.session y.session) (fun _ => True) := by
      refine .bind ((onSession_utters (accept_silent _)).mono ?_ fun _ => id)
      exact fun _ u hu => .modify hu
    exact st.ends ends
  | drain =>
    have ends : Wp (act .drain) x (fun _ y => Utters [] x.session y.session) (fun _ => True) := by
      refine .bind ((onSession_utters (drainAndFlush_silent _)).mono ?_ fun _ => id)
      intro _ u hu
      refine .bind (.get ?_)
      split
      · exact .modify hu
      · exact .modify hu
    exact st.ends ends
  | dispatch ok =>
    have ends : Wp (act (.dispatch ok)) x (fun _ y => Utters [] x.session y.session)
        (fun _ => True) := by
      refine .modify ?_
      split
      · exact .same rfl
      · exact .refl _
    exact st.ends ends
  | flush =>
    have ends : Wp (act .flush) x (fun _ y => Utters [] x.session y.session) (fun _ => True) := by
      refine .bind ((onSession_utters (flush_silent _)).mono ?_ fun _ => id)
      exact fun _ u hu => .modify hu
    exact st.ends ends
  | destroy =>
    have ends : Wp (act .destroy) x (fun _ y => Utters [] x.session y.session) (fun _ => True) := by
      refine .bind ((onSession_utters (destroy_silent _)).mono ?_ fun _ => id)
      exact fun _ u hu => .modify hu
    exact st.ends ends
  | submit r w => exact st.ends (onSession_utters (submitResponse_silent _ r w))
  | append r w data malloc =>
    exact st.ends (onSession_utters (appendResponse_silent _ r w data malloc))
  | complete r w => exact st.ends (onSession_utters (resumeResponse_silent _ r _ _))
  | undispatch r | workerDone r => exact st.ends (onSession_utters (.modify (.same rfl)))
  | process r => exact st.ends (onSession_utters (.modify (.emit rfl _)))

/-- The farewells that were made, by the flags of the session. -/
inductive Said (x : Service) : Prop where
  | nothing :
    x.goaway = false →
    farewells x.session.log = [] →
    Said x
  | notice :
    x.goaway = true →
    farewells x.session.log = [.submitShutdownNotice] →
    Said x
  | shutdown :
    x.goaway = true →
    x.aborted = true →
    farewells x.session.log = [.submitShutdownNotice, .shutdown] →
    Said x

/-- Where the event thread can be with a session that is wound up. -/
structure Leaves (x : Service) : Prop where
  new : x.pc = .creating → x.session.controlStreamsCreated = false ∧ x.session.phase = .created
  stopping : x.pc = .notice ∨ x.goaway = true → x.threadRunning = false
  leaving : x.pc = .leaving → x.goaway = true
  aborted : x.aborted = true → x.pc = .idle ∨ x.pc = .destroyed
  said : Said x

/-- Nothing is said, and the flags stay. -/
lemma Said.keep (h : Said x) (utters : Utters [] x.session y.session) (goaway : y.goaway = x.goaway)
    (aborted : x.aborted = true → y.aborted = true) : Said y := by
  rw [Utters, List.append_nil] at utters
  cases h with
  | nothing off log => exact .nothing (goaway.trans off) (utters.trans log)
  | notice on log => exact .notice (goaway.trans on) (utters.trans log)
  | shutdown on is log => exact .shutdown (goaway.trans on) (aborted is) (utters.trans log)

/-- An action that says nothing and leads past the places that matter here. -/
lemma Leaves.past (h : Leaves x) (utters : Utters [] x.session y.session)
    (goaway : y.goaway = x.goaway) (running : y.threadRunning = x.threadRunning)
    (aborted : x.aborted = true → y.aborted = true)
    (gone : y.aborted = true → y.pc = .idle ∨ y.pc = .destroyed)
    (pc : y.pc ≠ .creating ∧ y.pc ≠ .notice ∧ y.pc ≠ .leaving) : Leaves y where
  new here := absurd here pc.1
  stopping := by
    rintro (notice | on)
    · exact absurd notice pc.2.1
    · rw [running]
      exact h.stopping (.inr (goaway.symm.trans on))
  leaving here := absurd here pc.2.2
  aborted := gone
  said := h.said.keep utters goaway aborted

/-- The event thread is with a session that is in service. -/
lemma Leaves.live (h : Leaves x) (idle : x.pc ≠ .idle) (destroyed : x.pc ≠ .destroyed) :
    x.aborted = false := by
  rw [← Bool.not_eq_true]
  intro aborted
  exact (h.aborted aborted).elim idle destroyed

/-- What one action keeps. -/
lemma Leaves.step (h : Leaves x) (st : Acts x a y) : Leaves y := by
  have utters := act_utters st fun pc => (h.new pc).1
  cases act_flow st with
  | @create ok t pc here led =>
    refine h.past utters rfl rfl id (fun _ => led) ?_
    rcases led with rfl | rfl
    · exact ⟨nofun, nofun, nofun⟩
    · exact ⟨nofun, nofun, nofun⟩
  | start here live =>
    cases running : x.threadRunning with
    | true =>
      refine h.past utters rfl running.symm id ?_ ⟨nofun, nofun, nofun⟩
      intro aborted
      rw [live] at aborted
      cases aborted
    | false =>
      refine ⟨nofun, fun _ => rfl, nofun, ?_, h.said.keep utters rfl id⟩
      intro aborted
      rw [live] at aborted
      cases aborted
  | @notice late drained t here =>
    have live := h.live (by rw [here]; exact nofun) (by rw [here]; exact nofun)
    refine ⟨?_, fun _ => h.stopping (.inl here), fun _ => rfl, ?_, ?_⟩
    · cases drained || late with
      | true => exact nofun
      | false => exact nofun
    · intro aborted
      rw [live] at aborted
      cases aborted
    · rw [Act.utters] at utters
      cases h.said with
      | nothing off log =>
        rw [off, Utters, log] at utters
        exact .notice rfl utters
      | notice on log =>
        rw [on, Utters, log] at utters
        exact .notice rfl utters
      | shutdown on is log =>
        rw [live] at is
        cases is
  | leave here =>
    have on := h.leaving here
    have live := h.live (by rw [here]; exact nofun) (by rw [here]; exact nofun)
    refine ⟨nofun, fun _ => h.stopping (.inr on), nofun, fun _ => .inl rfl, ?_⟩
    cases h.said with
    | nothing off log =>
      rw [on] at off
      cases off
    | notice _ log =>
      rw [Act.utters, Utters, log] at utters
      exact .shutdown on rfl utters
    | shutdown _ is _ =>
      rw [live] at is
      cases is
  | closed here =>
    exact h.past utters rfl rfl (fun _ => rfl) (fun _ => .inl rfl) ⟨nofun, nofun, nofun⟩
  | noPool here => exact h.past utters rfl rfl id (fun _ => .inl rfl) ⟨nofun, nofun, nofun⟩
  | proceed here =>
    have live := h.live (by rw [here]; exact nofun) (by rw [here]; exact nofun)
    exact h.past utters rfl rfl id (fun is => absurd (live.symm.trans is) Bool.false_ne_true)
      ⟨nofun, nofun, nofun⟩
  | @accept more t here =>
    have live := h.live (by rw [here]; exact nofun) (by rw [here]; exact nofun)
    refine h.past utters rfl rfl id (fun is => absurd (live.symm.trans is) Bool.false_ne_true) ?_
    cases more with
    | true => exact ⟨nofun, nofun, nofun⟩
    | false => exact ⟨nofun, nofun, nofun⟩
  | died here dead =>
    exact h.past utters rfl rfl (fun _ => rfl) (fun _ => .inl rfl) ⟨nofun, nofun, nofun⟩
  | drain here alive =>
    have live := h.live (by rw [here]; exact nofun) (by rw [here]; exact nofun)
    exact h.past utters rfl rfl id (fun is => absurd (live.symm.trans is) Bool.false_ne_true)
      ⟨nofun, nofun, nofun⟩
  | dispatch here =>
    have live := h.live (by rw [here]; exact nofun) (by rw [here]; exact nofun)
    exact h.past utters rfl rfl id (fun is => absurd (live.symm.trans is) Bool.false_ne_true)
      ⟨nofun, nofun, nofun⟩
  | dispatched here =>
    have live := h.live (by rw [here]; exact nofun) (by rw [here]; exact nofun)
    exact h.past utters rfl rfl id (fun is => absurd (live.symm.trans is) Bool.false_ne_true)
      ⟨nofun, nofun, nofun⟩
  | flush here => exact h.past utters rfl rfl id (fun _ => .inl rfl) ⟨nofun, nofun, nofun⟩
  | destroy here aborted => exact h.past utters rfl rfl id (fun _ => .inr rfl) ⟨nofun, nofun, nofun⟩
  | stop => exact ⟨h.new, fun _ => rfl, h.leaving, h.aborted, h.said.keep utters rfl id⟩
  | @worker a r t is on =>
    have silent : Utters [] x.session t := by
      cases a with
      | submit | append | complete | undispatch | process | workerDone => exact utters
      | _ => cases is
    refine ⟨?_, h.stopping, h.leaving, h.aborted, h.said.keep silent rfl id⟩
    intro creating
    have created := (h.new creating).2
    simp [Sect.enabled, created] at on

/-- A new session. -/
lemma Leaves.init (b m : Nat) : Leaves (.init b m) where
  new _ := ⟨rfl, rfl⟩
  stopping := by
    rintro (notice | on)
    · cases notice
    · cases on
  leaving := nofun
  aborted := nofun
  said := .nothing rfl rfl

end

/-- How a session is wound up, in every run of the event thread and the workers: nghttp3 is told
`nghttp3_conn_submit_shutdown_notice` at most once and `nghttp3_conn_shutdown` at most once, the
notice first; nothing of it while `thread_running` is set, the notice exactly if `goaway_deadline`
is set, and a session that said the last word is given up. -/
theorem shutdown_protocol {b m : Nat} {as : List Act} {x : Service}
    (run : Run Acts (.init b m) as x) :
    farewells x.session.log <+: [.submitShutdownNotice, .shutdown] ∧
      (x.threadRunning = true → farewells x.session.log = []) ∧
      (.submitShutdownNotice ∈ farewells x.session.log ↔ x.goaway = true) ∧
      (.shutdown ∈ farewells x.session.log → x.aborted = true) := by
  have h := run.invariant (P := Leaves) (fun _ _ _ => Leaves.step) (.init b m)
  have running : x.threadRunning = true → x.goaway = false := by
    intro running
    rw [← Bool.not_eq_true]
    intro on
    rw [h.stopping (.inr on)] at running
    cases running
  cases h.said with
  | nothing off log => simp [log, off]
  | notice on log =>
    rw [on] at running
    simpa [log, on] using running
  | shutdown on is log =>
    rw [on] at running
    simpa [log, on, is] using running

/-- A request is dispatched and submits its response headers; then the server is stopped and the
grace period passes. -/
def woundUp : List (Act × List Answer) :=
  firstStream.append
  [(.drain, [.order [0, 1, 2, 3], .states .ok .ok, .read (.data [1, 2, 0, 0]),
      .called [.beginHeaders 0, .recvHeader 0 .method [] [71, 69, 84], .endHeaders 0 false] 4,
      .read .fin,
      .called [] 0, .writev [] 0 (-1) false []]),
    (.dispatch true, []), (.dispatched, []), (.submit 3 (.init 65536), [.called [] 0]),
    (.flush, [.writev [] 0 (-1) false []]), (.stop, []), (.start, []),
    (.notice false, [.called [] 0, .writev [] 0 (-1) false [], .called [] 0]), (.noPool, []),
    (.start, []),
    (.notice true, [.writev [] 0 (-1) false [], .called [] 0]),
    (.leave, [.called [] 0, .writev [] 0 (-1) false []])]

/-- A session that is wound up utters the notice and then the shutdown. -/
theorem shutdown_protocol_woundUp :
    ∃ as x, Run Acts (.init 65536 1000) as x ∧
      farewells x.session.log = [.submitShutdownNotice, .shutdown] ∧ x.goaway = true ∧
      x.aborted = true := by
  have eq : (execAll runAct (.init 65536 1000) woundUp).map (fun r => farewells r.1.session.log) =
      some [.submitShutdownNotice, .shutdown] := by decide +kernel
  obtain ⟨⟨x, as⟩, h, said⟩ := Option.map_eq_some_iff.mp eq
  have run := execAll_run runAct_acts h
  obtain ⟨-, -, goaway, aborted⟩ := shutdown_protocol run
  dsimp only at said
  rw [said] at goaway aborted
  exact ⟨as, x, run, said, goaway.mp (by decide), aborted (by decide)⟩

/-- What a session that is given up may still log: a worker finishes its request and resumes the
stream, a callback of that resets a stream, and handles are released. -/
def Entry.afterAbort : Entry → Bool
  | .call (.resumeStream _) _ _ | .processed _ _ | .op (.use (.reset _) _) | .op (.free _) => true
  | _ => false

/-- The session was left alone in between: it logged nothing else, and no stream was added or
dispatched. -/
structure Alone (s t : Session) : Prop where
  log : ∃ es, t.log = s.log ++ es ∧ ∀ e ∈ es, e.afterAbort = true
  next : t.next = s.next
  dispatched : ∀ r, (t.objs r).dispatched = true → (s.objs r).dispatched = true

namespace Alone
variable {s t u : Session} {r : Ref}

/-- Doing nothing leaves the session alone. -/
lemma refl (s : Session) : Alone s s := ⟨⟨[], (List.append_nil _).symm, nofun⟩, rfl, fun _ => id⟩

/-- Leaving it alone twice. -/
lemma trans (h1 : Alone s t) (h2 : Alone t u) : Alone s u := by
  obtain ⟨es, eq, all⟩ := h1.log
  obtain ⟨es', eq', all'⟩ := h2.log
  refine ⟨⟨es ++ es', ?_, ?_⟩, h2.next.trans h1.next,
    fun r is => h1.dispatched r (h2.dispatched r is)⟩
  · rw [eq', eq, List.append_assoc]
  · intro e mem
    rcases List.mem_append.mp mem with mem | mem
    · exact all e mem
    · exact all' e mem

/-- An entry that may follow an abort. -/
lemma emit {e : Entry} (is : e.afterAbort = true) (s : Session) : Alone s (s.emit e) := by
  refine ⟨⟨[e], rfl, ?_⟩, rfl, fun _ => id⟩
  intro e' mem
  rw [List.mem_singleton.mp mem]
  exact is

/-- An object changes, and is not dispatched by it. -/
lemma modifyObj {f : H3Stream → H3Stream} (s : Session) (r : Ref)
    (f_dispatched : (f (s.objs r)).dispatched = true → (s.objs r).dispatched = true) :
    Alone s (s.modifyObj r f) := by
  refine ⟨⟨[], (List.append_nil _).symm, nofun⟩, rfl, ?_⟩
  intro r'
  by_cases same : r' = r
  · subst same
    simpa [Session.modifyObj] using f_dispatched
  · simp [Session.modifyObj, Function.update_of_ne same]

/-- Resuming a stream. -/
lemma called {sid : Int} (called : Called (.resumeStream sid) s t) : Alone s t := by
  obtain ⟨cbs, rv, rfl⟩ := called
  have emitted : Alone s (s.emit (.call (.resumeStream sid) cbs rv)) := .emit rfl s
  refine emitted.trans ?_
  have frame := runCbs_frame (s := s.emit (.call (.resumeStream sid) cbs rv)) cbs
  obtain ⟨es, eq, resets⟩ := runCbs_log (s := s.emit (.call (.resumeStream sid) cbs rv)) cbs
  refine ⟨⟨es, eq, ?_⟩, frame.next, fun r is => (frame.objs r).dispatched ▸ is⟩
  intro e mem
  obtain ⟨err, h, rfl⟩ := resets e mem
  rfl

/-- Resuming a response leaves the session alone. -/
lemma resume (s : Session) (r : Ref) (w : Response.Stream) (resumed : Bool) :
    Wp (resumeResponse r w resumed) s (fun _ t => Alone s t) (fun _ => True) := by
  refine .bind (.get (.bind (.modify ?_)))
  have left : Alone s (s.respond r w) := .modifyObj s r id
  cases resumed with
  | false => exact .pure left
  | true =>
    refine .bind ((callNgh3_wp _ trivial).mono ?_ fun _ => id)
    exact fun _ t called => .pure (left.trans (.called called))

/-- A worker does not submit response headers to a session that is given up. -/
lemma submit (s : Session) (r : Ref) {w : Response.Stream} (aborted : w.aborted = true) :
    Wp (submitResponse r w) s (fun _ t => Alone s t) (fun _ => True) := by
  have gone : w.gone = true := by
    rw [Response.Stream.gone, aborted, Bool.or_true, Bool.true_or]
  have uncalled : (Response.submitResponseNva w 0).2.2 = false := by
    cases submitted : w.responseSubmitted with
    | true => simp [Response.submitResponseNva, submitted]
    | false => simp [Response.submitResponseNva, submitted, gone]
  refine .bind (.get ?_)
  rw [uncalled]
  exact .pure (.refl s)

/-- Queueing response bytes leaves the session alone. -/
lemma append (s : Session) (r : Ref) (w : Response.Stream) (data : List UInt8)
    (malloc : Option Ptr) :
    Wp (appendResponse r w data malloc) s (fun _ t => Alone s t) (fun _ => True) := by
  unfold appendResponse
  split
  · exact resume s r _ _
  · exact resume s r _ _
  · exact .pure (.refl s)

/-- Destroying the session leaves it alone. -/
lemma destroy (s : Session) : Wp (exec .destroy) s (fun _ t => Alone s t) (fun _ => True) := by
  refine destroy_wp ?_ ?_ ?_ (.refl s)
  · exact fun u r hu => hu.trans (.modifyObj u r id)
  · intro u h hu
    have popped : Alone u { u with pendingFree := u.pendingFree.dropLast } :=
      ⟨⟨[], (List.append_nil _).symm, nofun⟩, rfl, fun _ => id⟩
    exact hu.trans (popped.trans (.emit rfl _))
  · intro u v hu log objs next _
    refine hu.trans ⟨⟨[], by rw [log, List.append_nil], nofun⟩, next, ?_⟩
    intro r is
    rwa [objs] at is

end Alone

section
variable {x y : Service} {a : Act} {b m : Nat}

/-- A program of the session that leaves it alone, run on the connection. -/
lemma onSession_alone {p : Prog Unit}
    (h : Wp p x.session (fun _ t => Alone x.session t) fun _ => True) :
    Wp (onSession p) x (fun _ y => Alone x.session y.session) (fun _ => True) := by
  refine (onSession_wp h).mono ?_ fun _ => id
  rintro _ _ ⟨t, ht, rfl⟩
  exact ht

/-- What is still done with a session that is given up leaves it alone. -/
lemma Leaves.alone (h : Leaves x) (aborted : x.aborted = true) (st : Acts x a y) :
    y.aborted = true ∧ Alone x.session y.session := by
  have enabled := st.1
  have agrees : ∀ {r : Ref} {w : Response.Stream},
      ((Sect.process r).enabled x.session && x.agrees r w) = true → w.aborted = true := by
    intro r w both
    simp only [Service.agrees, Bool.and_eq_true, beq_iff_eq] at both
    exact both.2.1.1.1.trans aborted
  have gone := h.aborted aborted
  cases act_flow st with
  | start _ live =>
    rw [aborted] at live
    cases live
  | create here _ | notice here | leave here | closed here | noPool here | proceed here
  | accept here | died here _ | drain here _
  | dispatch here | dispatched here | flush here =>
    rw [here] at gone
    rcases gone with gone | gone
    · cases gone
    · cases gone
  | @destroy t _ _ =>
    have ends : Wp (act .destroy) x (fun _ y => Alone x.session y.session) (fun _ => True) := by
      refine .bind ((onSession_alone (Alone.destroy _)).mono ?_ fun _ => id)
      exact fun _ u hu => .modify hu
    exact ⟨aborted, st.ends ends⟩
  | stop => exact ⟨aborted, .refl _⟩
  | @worker a r t is on =>
    refine ⟨aborted, ?_⟩
    cases a with
    | submit r w => exact st.ends (onSession_alone (Alone.submit _ r (agrees enabled)))
    | append r w data malloc => exact st.ends (onSession_alone (Alone.append _ r w data malloc))
    | complete r w => exact st.ends (onSession_alone (Alone.resume _ r _ _))
    | undispatch r =>
      exact st.ends
        (onSession_alone (.modify (.modifyObj _ r fun is => absurd is Bool.false_ne_true)))
    | process r => exact st.ends (onSession_alone (.modify (.emit rfl _)))
    | workerDone r => exact st.ends (onSession_alone (.modify (.modifyObj _ r id)))
    | _ => cases is

end

/-- A session that is given up stays so, and is left alone: whatever the workers that are on it do
until it is destroyed, no stream is accepted, read or written any more, no request is dispatched,
and of all its functions nghttp3 is called for `nghttp3_conn_resume_stream` only. -/
theorem aborted_left_alone {b m : Nat} {as bs : List Act} {x y : Service}
    (run : Run Acts (.init b m) as x) (aborted : x.aborted = true) (later : Run Acts x bs y) :
    y.aborted = true ∧ (∀ e ∈ x.session.since y.session, e.afterAbort = true) ∧
    y.session.next = x.session.next ∧
      ∀ r, (y.session.objs r).dispatched = true → (x.session.objs r).dispatched = true := by
  have h := run.invariant (P := Leaves) (fun _ _ _ => Leaves.step) (.init b m)
  have all : Leaves y ∧ y.aborted = true ∧ Alone x.session y.session := by
    refine later.invariant (P := fun y => Leaves y ∧ y.aborted = true ∧ Alone x.session y.session)
      ?_
      ⟨h, aborted, .refl _⟩
    intro u a v hu st
    obtain ⟨aborted, alone⟩ := hu.1.alone hu.2.1 st
    exact ⟨hu.1.step st, aborted, hu.2.2.trans alone⟩
  obtain ⟨-, aborted, ⟨es, eq, quiet⟩, next, dispatched⟩ := all
  refine ⟨aborted, ?_, next, dispatched⟩
  rw [Session.since, eq, List.drop_left]
  exact quiet

/-- The worker completes its response on the session that is given up, and the session is
destroyed. -/
def lastWorker : List (Act × List Answer) :=
  [(.complete 3 { Response.Stream.init 65536 with aborted := true, responseSubmitted := true },
    [.called [] 0]), (.workerDone 3, []), (.destroy, [])]

/-- The last worker resumes its response after the abort, and then the session is destroyed. -/
theorem aborted_left_alone_lastWorker :
    ∃ as bs x y, Run Acts (.init 65536 1000) as x ∧ x.aborted = true ∧ Run Acts x bs y ∧
    y.pc = .destroyed ∧
      x.session.since y.session = [.call (.resumeStream 0) [] 0] ∧
      y.session.next = x.session.next := by
  have eq : ((execAll runAct (.init 65536 1000) woundUp).bind fun r =>
      (execAll runAct r.1 lastWorker).map fun r' =>
        (r.1.aborted, r'.1.pc, r.1.session.since r'.1.session)) =
      some (true, .destroyed, [.call (.resumeStream 0) [] 0]) := by decide +kernel
  obtain ⟨⟨x, as⟩, h, eq⟩ := Option.bind_eq_some_iff.mp eq
  obtain ⟨⟨y, bs⟩, h', ends⟩ := Option.map_eq_some_iff.mp eq
  simp only [Prod.mk.injEq] at ends
  have run := execAll_run runAct_acts h
  have later := execAll_run runAct_acts h'
  have alone := aborted_left_alone run ends.1 later
  exact ⟨as, bs, x, y, run, ends.1, later, ends.2.1, ends.2.2, alone.2.2.1⟩

end ModHttp3.H3

import ModHttp3.Session.Binding

/-!
# Reclaiming finished streams

`drain_ready_streams` closes a stream in nghttp3 once both sides of its QUIC stream are finished,
and then takes it out of the hash if it is `done`, has no handle left, and was dispatched and
finished by a worker. nghttp3 reaches the stream only if a header block has bound it, and the
reclaim condition asks for `dispatched`. So a finished stream with no worker is reclaimed exactly if
it was dispatched (`finished_stream_reclaimed`); a stream that the client resets before its headers
are complete stays in the hash with its handle.
-/

namespace ModHttp3.H3
open ModHttp3.Lib ModHttp3.Lib.Script

/-- The entry is a query of the state of a stream. -/
def Entry.isQuery : Entry → Bool
  | .op (.use (.isReadFinished _ _) _) => true
  | _ => false

/-- The entry is not one. -/
def Entry.Quiet (e : Entry) : Prop := e.isQuery = false

/-- The entry is a read, a call of nghttp3 that reads or closes a stream, or a reset. -/
def Entry.isRead : Entry → Bool
  | .op (.use (.read _) _) => true
  | .op (.use (.reset _) _) => true
  | .call (.readStream _ _ _) _ _ => true
  | .call (.closeStream _) _ _ => true
  | _ => false

/-- What a drain pass keeps until it reclaims streams, while all that it logs is in `P`. -/
structure Session.Later (P : Entry → Prop) (s t : Session) : Prop where
  objs : ∀ r, (s.objs r).Frame (t.objs r)
  next : t.next = s.next
  streams : t.streams = s.streams
  blockedStreams : t.blockedStreams = s.blockedStreams
  userData : ∀ sid r, s.userData sid = some r → t.userData sid = some r
  log : ∃ es, t.log = s.log ++ es ∧ ∀ e ∈ es, P e

/-- The stream is done and has no handle any more. -/
def Session.Closed (s : Session) (r : Ref) : Prop :=
  (s.objs r).done = true ∧ (s.objs r).qstream = none

section
variable {P : Entry → Prop} {s t u : Session} {r r' : Ref} {h : Handle} {sid : Int}

namespace Session.Later

/-- Nothing happened. -/
lemma refl : s.Later P s :=
  ⟨fun _ => .refl, rfl, rfl, rfl, fun _ _ => id, [], (List.append_nil _).symm, nofun⟩

/-- Two such steps in a row. -/
lemma trans (h1 : s.Later P t) (h2 : t.Later P u) : s.Later P u where
  objs r := (h1.objs r).trans (h2.objs r)
  next := h2.next.trans h1.next
  streams := h2.streams.trans h1.streams
  blockedStreams := h2.blockedStreams.trans h1.blockedStreams
  userData sid r := h2.userData sid r ∘ h1.userData sid r
  log := by
    obtain ⟨es, eq, hes⟩ := h1.log
    obtain ⟨fs, eq', hfs⟩ := h2.log
    refine ⟨es ++ fs, by rw [eq', eq, List.append_assoc], ?_⟩
    intro e mem
    exact (List.mem_append.mp mem).elim (hes e) (hfs e)

/-- An entry of the allowed kind. -/
lemma emit (e : Entry) (he : P e) : s.Later P (s.emit e) := by
  refine ⟨fun _ => .refl, rfl, rfl, rfl, fun _ _ => id, [e], rfl, ?_⟩
  intro e' mem
  rw [List.mem_singleton.mp mem]
  exact he

/-- A change of one object within its frame, and of nothing else. -/
lemma modifyObj {f : H3Stream → H3Stream} (frame : (s.objs r).Frame (f (s.objs r))) :
    s.Later P (s.modifyObj r f) :=
  ⟨(Session.modifyObj_frame frame).objs, rfl, rfl, rfl, fun _ _ => id, [], (List.append_nil _).symm,
    nofun⟩

/-- A call of nghttp3. -/
lemma call (hP : ∀ e : Entry, e.isRead = true → P e) (c : Call) (cbs : List Cb) (rv : Int)
    (reads : (Entry.call c cbs rv).isRead = true) :
    s.Later P (runCbs (s.emit (.call c cbs rv)) cbs) := by
  refine (emit (P := P) (.call c cbs rv) (hP _ reads)).trans ?_
  have frame := runCbs_frame (s := s.emit (.call c cbs rv)) cbs
  obtain ⟨es, eq, resets⟩ := runCbs_log (s := s.emit (.call c cbs rv)) cbs
  refine ⟨frame.objs, frame.next, frame.streams, frame.blockedStreams, frame.userData, es, eq, ?_⟩
  intro e mem
  obtain ⟨err, h, rfl⟩ := resets e mem
  exact hP _ rfl

/-- A change of what is not kept. -/
lemma congr (later : s.Later P t) (objs : u.objs = t.objs) (next : u.next = t.next)
    (streams : u.streams = t.streams) (blockedStreams : u.blockedStreams = t.blockedStreams)
    (userData : u.userData = t.userData) (log : u.log = t.log) : s.Later P u := by
  refine ⟨?_, next.trans later.next, streams.trans later.streams,
    blockedStreams.trans later.blockedStreams, ?_, ?_⟩
  · rw [objs]
    exact later.objs
  · rw [userData]
    exact later.userData
  · rw [log]
    exact later.log

/-- Passing the end of a stream to nghttp3 is of that kind if reads are. -/
lemma feedFin (hP : ∀ e : Entry, e.isRead = true → P e) (cbs : List Cb) (rv : Int) :
    s.Later P (s.feedFin r cbs rv) := by
  have called := call (s := s) hP (.readStream (s.objs r).streamId [] true) cbs rv rfl
  unfold Session.feedFin
  refine trans ?_ (modifyObj ⟨rfl, rfl, rfl, rfl, rfl, id, id, fun _ => rfl, .inl rfl⟩)
  exact called.congr rfl rfl rfl rfl rfl rfl

/-- A closed stream stays closed. -/
lemma closed (later : s.Later P t) (closed : s.Closed r) : t.Closed r := by
  refine ⟨(later.objs r).done closed.1, ?_⟩
  rcases (later.objs r).qstream with eq | eq
  · rw [eq, closed.2]
  · exact eq

end Session.Later

/-- What the read loop logs. -/
lemma Reading.later (hP : ∀ e : Entry, e.isRead = true → P e) (m : Reading r s t) :
    s.Later P t := by
  cases m with
  | use result hq other => exact .emit _ (hP _ rfl)
  | @feed h data cbs rv hq ne client =>
    have read : s.Later P
        { s.emit (.op (.use (.read (.data data)) h)) with
          pendingSid := (s.objs r).streamId, pendingH3s := some r } :=
      (Session.Later.emit (P := P) (.op (.use (.read (.data data)) h)) (hP _ rfl)).congr rfl rfl rfl
        rfl rfl rfl
    exact (read.trans (.call hP _ cbs rv rfl)).congr rfl rfl rfl rfl rfl rfl
  | feedFin cbs rv hq last => exact .feedFin hP cbs rv
  | done => exact .modifyObj ⟨rfl, rfl, rfl, rfl, rfl, fun _ => rfl, id, id, .inl rfl⟩

/-- Reads are of that kind. -/
lemma readings_later (hP : ∀ e : Entry, e.isRead = true → P e)
    (ms : Relation.ReflTransGen (Reading r) s t) :
    s.Later P t := by
  induction ms with
  | refl => exact .refl
  | tail _ m ih => exact ih.trans (m.later hP)

/-- Closing a stream is of that kind. -/
lemma Closing.later (hP : ∀ e : Entry, e.isRead = true → P e) {writeFinished : Bool}
    (closing : Closing r writeFinished s t) : s.Later P t := by
  rcases closing with ⟨_, rfl⟩ | ⟨_, cbs, rv, rfl⟩
  · exact .refl
  · exact .call hP _ cbs rv rfl

/-- The query of a visit is the only one. -/
lemma Entry.quiet_of_isRead {e : Entry} (reads : e.isRead = true) : e.Quiet := by
  cases e with
  | op op =>
    cases op with
    | free => cases reads
    | use u => cases u <;> first | rfl | cases reads
  | got | call | processed => rfl

/-- An object that lost its QUIC stream has none. -/
lemma dropQstream_closed (r : Ref) : ((dropQstream s r).objs r).qstream = none := by
  rw [dropQstream]
  split
  · assumption
  · rw [Session.modifyObj_objs, Function.update_self]

/-- The close callback of a bound stream closes it, whatever the other callbacks do. -/
lemma runCbs_closed {cbs : List Cb} {err : Nat} (bound : s.userData sid = some r)
    (mem : .streamClose sid err ∈ cbs) : (runCbs s cbs).Closed r := by
  induction cbs generalizing s with
  | nil => cases mem
  | cons cb cbs ih =>
    rcases List.mem_cons.mp mem with rfl | mem
    · have closed : (runCb s (.streamClose sid err)).Closed r := by
        simp only [runCb, onStreamClose, bound, Session.Closed, Session.modifyObj_objs,
          Function.update_self]
        exact ⟨trivial, dropQstream_closed r⟩
      have frame := (runCbs_frame (s := runCb s (.streamClose sid err)) cbs).objs r
      refine ⟨frame.done closed.1, ?_⟩
      rcases frame.qstream with eq | eq
      · exact eq.trans closed.2
      · exact eq
    · exact ih ((runCb_effect cb).frame.userData sid r bound) mem

/-- Some query of the handle found both sides finished. -/
def FoundFinished (h : Handle) (es : List Entry) : Prop :=
  ∃ rstate wstate, .op (.use (.isReadFinished rstate wstate) h) ∈ es ∧
    isReadFinished rstate wstate = (true, true)

/-- When nghttp3 is told that a stream is closed, it makes the close callback. -/
def ClosesStream (sid : Int) (es : List Entry) : Prop :=
  ∀ cbs rv, .call (.closeStream sid) cbs rv ∈ es → ∃ err, .streamClose sid err ∈ cbs

/-- A visit that finds both sides of a stream with a whole request finished closes it. -/
lemma Visit.closed {es : List Entry} (v : Visit r' s t) (log : t.log = s.log ++ es)
    (found : FoundFinished h es) (closes : ClosesStream (s.objs r).streamId es)
    (unique : (s.objs r').qstream = some h → r' = r) (complete : (s.objs r).bodyComplete = true)
    (bound : s.userData (s.objs r).streamId = some r) : t.Closed r := by
  obtain ⟨rstate, wstate, mem, fin⟩ := found
  have quiet : ∀ {fs : List Entry}, (∀ e ∈ fs, e.Quiet) →
      .op (.use (.isReadFinished rstate wstate) h) ∉ fs := by
    intro fs hfs mem
    cases hfs _ mem
  cases v with
  | read hq reads =>
    obtain ⟨fs, eq, hfs⟩ := (readings_later (fun _ => Entry.quiet_of_isRead) reads).log
    obtain rfl := List.append_cancel_left (eq.symm.trans log)
    exact absurd mem (quiet hfs)
  | @unfinished h' rstate' wstate' _ hq unfinished reads =>
    obtain ⟨fs, eq, hfs⟩ := (readings_later (fun _ => Entry.quiet_of_isRead) reads).log
    rw [Session.emit, List.append_assoc] at eq
    obtain rfl := List.append_cancel_left (eq.symm.trans log)
    rcases List.mem_cons.mp mem with eq | mem
    · cases eq
      rw [fin] at unfinished
      cases unfinished
    · exact absurd mem (quiet hfs)
  | @finished h' rstate' wstate' u _ hq fin' fed closing =>
    have first : (s.emit (.op (.use (.isReadFinished rstate' wstate') h'))).Later Entry.Quiet
        t := by
      rcases fed with ⟨_, rfl⟩ | ⟨_, cbs, rv, rfl⟩
      · exact closing.later fun _ => Entry.quiet_of_isRead
      · exact (Session.Later.feedFin (fun _ => Entry.quiet_of_isRead) cbs rv).trans
          (closing.later fun _ => Entry.quiet_of_isRead)
    obtain ⟨fs, eq, hfs⟩ := first.log
    rw [Session.emit, List.append_assoc] at eq
    obtain rfl := List.append_cancel_left (eq.symm.trans log)
    obtain ⟨rfl, rfl, rfl⟩ : rstate = rstate' ∧ wstate = wstate' ∧ h = h' := by
      rcases List.mem_cons.mp mem with eq | mem
      · cases eq
        exact ⟨rfl, rfl, rfl⟩
      · exact absurd mem (quiet hfs)
    obtain rfl := unique hq
    -- the request is whole, so nothing is fed and the stream still has its handle
    obtain ⟨_, rfl⟩ | ⟨unread, _⟩ := fed
    · have hq : ((s.emit (.op (.use (.isReadFinished rstate wstate) h))).objs r').qstream =
          some h := hq
      rcases closing with ⟨skip, _⟩ | ⟨_, cbs, rv, rfl⟩
      · rw [hq, fin] at skip
        cases skip
      · obtain ⟨gs, after, _⟩ :=
          runCbs_log (s := (s.emit (.op (.use (.isReadFinished rstate wstate) h))).emit
          (.call (.closeStream (s.objs r').streamId) cbs rv)) cbs
        have called : .call (.closeStream (s.objs r').streamId) cbs rv ∈ fs := by
          have same := after.symm.trans log
          simp only [Session.emit, List.append_assoc, List.append_cancel_left_eq] at same
          rw [← same]
          exact List.mem_cons_self
        obtain ⟨err, close⟩ := closes cbs rv (List.mem_append_right _ called)
        exact runCbs_closed bound close
    · rw [complete] at unread
      cases unread

/-- What a visit logs. -/
lemma Visit.later (hP : ∀ e : Entry, e.isRead = true → P e)
    (query : ∀ e : Entry, e.isQuery = true → P e) (v : Visit r s t) : s.Later P t := by
  have asked : ∀ rstate wstate h,
      s.Later P (s.emit (.op (.use (.isReadFinished rstate wstate) h))) :=
    fun _ _ _ => .emit _ (query _ rfl)
  cases v with
  | read hq reads => exact readings_later hP reads
  | unfinished hq _ reads => exact (asked _ _ _).trans (readings_later hP reads)
  | finished hq fin fed closing =>
    rcases fed with ⟨_, rfl⟩ | ⟨_, cbs, rv, rfl⟩
    · exact (asked _ _ _).trans (closing.later hP)
    · exact ((asked _ _ _).trans (.feedFin hP cbs rv)).trans (closing.later hP)

/-- What every visit keeps holds when the streams have been read. -/
lemma drainLoop_wp {J : Session → Prop}
    (visit : ∀ r u v, J u → u.ngh3Dead = false → Visit r u v → J v)
    (other : ∀ u rs i, J u → J { u with completed := rs, streamDrainCursor := i }) (n : Nat)
    (todo : List (Ref × Nat)) (budget : Budget) (hs : J s) :
    Wp (drainLoop n todo budget) s (fun _ t => J t) (fun _ => True) := by
  induction todo generalizing s budget with
  | nil => exact .pure hs
  | cons p todo ih =>
    obtain ⟨r, i⟩ := p
    refine .bind (.get ?_)
    split
    · exact .pure hs
    split
    · exact ih budget hs
    rename_i alive skip
    rw [Bool.not_eq_true] at alive
    simp only [Bool.or_eq_true, not_or, Bool.not_eq_true] at skip
    refine .bind ((drainOneStream_wp alive skip.2 budget).mono ?_ fun _ _ => trivial)
    rintro ⟨ready, budget⟩ t ⟨visited, _⟩
    have ht := visit r s t hs alive visited
    refine .bind (.modify ?_)
    have pushed :
        J (if ready && !t.ngh3Dead then { t with completed := t.completed ++ [r] } else t) := by
      split
      · exact other t _ _ ht
      · exact ht
    split
    · exact .modify (other _ _ _ pushed)
    · exact ih budget pushed

/-- A drain pass reads the streams and then reclaims those of the snapshot. -/
lemma drainReadyStreams_wp {J : Session → Prop}
    (visit : ∀ r u v, J u → u.ngh3Dead = false → Visit r u v → J v)
    (other : ∀ u rs i, J u → J { u with completed := rs, streamDrainCursor := i }) (hs : J s) :
    Wp drainReadyStreams s
      (fun _ t => ∃ (u : Session) (snapshot : List Ref),
        J u ∧ snapshot.Perm s.streams ∧ t = snapshot.foldl Session.reclaim u) (fun _ => True) := by
  refine .bind (.bind (.get (.ask trivial ?_)))
  intro a snapshot ha
  have perm : snapshot.Perm s.streams := by
    split at ha
    · split at ha
      · cases ha
        rename_i perm
        exact List.isPerm_iff.mp perm
      · cases ha
    · cases ha
  refine .bind (.modify (.bind (.get (.bind ?_))))
  refine (drainLoop_wp visit other _ _ _ (other s [] _ hs)).mono ?_ fun _ => id
  intro _ u hu
  exact .modify ⟨u, snapshot, hu, perm, rfl⟩

/-- A drain keeps what its visits keep. -/
lemma drain_spec {J : Session → Prop}
    (visit : ∀ r u v, J u → u.ngh3Dead = false → Visit r u v → J v)
    (other : ∀ u rs i, J u → J { u with completed := rs, streamDrainCursor := i }) (hs : J s)
    (st : Step s .drain t) :
    ∃ (u : Session) (snapshot : List Ref),
      J u ∧ snapshot.Perm s.streams ∧ t = snapshot.foldl Session.reclaim u :=
  st.ends (drainReadyStreams_wp visit other hs)

/-- Reclaiming changes nothing of an object but `write_blocked`. -/
lemma reclaim_objs {α : Type} (f : H3Stream → α)
    (keep : ∀ x b, f { x with writeBlocked := b } = f x) (s : Session) (r r' : Ref) :
    f ((s.reclaim r').objs r) = f (s.objs r) := by
  rw [Session.reclaim]
  split
  · dsimp only
    split
    · exact update_rel (P := fun x y => f y = f x) (keep _ _) (fun _ => rfl) r
    · rfl
  · rfl

/-- Of the session it changes the tracked streams and the number of blocked ones. -/
lemma reclaim_keeps {α : Type} (f : Session → α)
    (keep : ∀ (s : Session) objs streams n,
      f { s with objs := objs, streams := streams, blockedStreams := n } = f s)
    (s : Session) (r : Ref) : f (s.reclaim r) = f s := by
  rw [Session.reclaim]
  split
  · dsimp only
    split
    · exact keep s _ _ _
    · exact keep s _ _ _
  · rfl

/-- Reclaiming an object logs nothing. -/
lemma reclaim_log (s : Session) (r : Ref) : (s.reclaim r).log = s.log :=
  reclaim_keeps Session.log (fun _ _ _ _ => rfl) s r

/-- Reclaiming takes an object out of the hash if it is done with. -/
lemma reclaim_streams (s : Session) (r : Ref) :
    (s.reclaim r).streams = if (s.objs r).reclaimable then s.streams.erase r else s.streams := by
  rw [Session.reclaim]
  split
  · dsimp only
    split <;> rfl
  · rfl

/-- The reclaim loop takes out the streams that are finished. -/
lemma mem_reclaimed (nodup : s.streams.Nodup) (rs : List Ref) :
    r ∈ (rs.foldl Session.reclaim s).streams ↔
      r ∈ s.streams ∧ ¬(r ∈ rs ∧ (s.objs r).reclaimable = true) := by
  induction rs generalizing s with
  | nil => simp
  | cons r' rs ih =>
    have streams := reclaim_streams s r'
    have nodup' : (s.reclaim r').streams.Nodup := by
      rw [streams]
      split
      · exact nodup.erase r'
      · exact nodup
    rw [List.foldl_cons, ih nodup', reclaim_objs H3Stream.reclaimable (fun _ _ => rfl), streams]
    by_cases rec : (s.objs r').reclaimable = true
    · rw [if_pos rec, nodup.mem_erase_iff, List.mem_cons]
      by_cases eq : r = r'
      · subst eq
        simp [rec]
      · simp [eq]
    · rw [if_neg rec, List.mem_cons]
      by_cases eq : r = r'
      · subst eq
        simp [rec]
      · simp [eq]

end

/-- What has been logged since. -/
def Session.since (s t : Session) : List Entry := t.log.drop s.log.length

/-- A pass over the streams of which `r` is a whole request that is bound: if it was found finished,
it is closed. -/
structure Swept (s : Session) (r : Ref) (h : Handle) (u : Session) : Prop where
  later : s.Later (fun _ => True) u
  closed : ∀ es, u.log = s.log ++ es → FoundFinished h es → ClosesStream (s.objs r).streamId es →
    u.Closed r

section
variable {s t u v : Session} {r r' : Ref} {h : Handle}

/-- A visit closes the stream or leaves it to be swept. -/
lemma Swept.visit (unique : ∀ r', (s.objs r').qstream = some h → r' = r)
    (complete : (s.objs r).bodyComplete = true) (bound : s.userData (s.objs r).streamId = some r)
    (hu : Swept s r h u) (v' : Visit r' u v) : Swept s r h v := by
  have after : u.Later (fun _ => True) v := v'.later (fun _ _ => trivial) fun _ _ => trivial
  refine ⟨hu.later.trans after, ?_⟩
  intro es log found closes
  obtain ⟨es1, log1, _⟩ := hu.later.log
  obtain ⟨es2, log2, _⟩ := after.log
  obtain rfl : es = es1 ++ es2 := by
    rw [log1, List.append_assoc] at log2
    exact List.append_cancel_left (log.symm.trans log2)
  obtain ⟨rstate, wstate, mem, fin⟩ := found
  have frame := hu.later.objs r
  rcases List.mem_append.mp mem with mem | mem
  · have closed := hu.closed es1 log1 ⟨rstate, wstate, mem, fin⟩
      fun cbs rv called => closes cbs rv (List.mem_append_left _ called)
    exact after.closed closed
  · refine v'.closed (r := r) log2 ⟨rstate, wstate, mem, fin⟩ ?_ ?_ (frame.bodyComplete complete) ?_
    · rw [frame.streamId]
      exact fun cbs rv called => closes cbs rv (List.mem_append_right _ called)
    · intro hq
      rcases (hu.later.objs r').qstream with eq | eq
      · exact unique r' (eq ▸ hq)
      · rw [eq] at hq
        cases hq
    · rw [frame.streamId]
      exact hu.later.userData _ _ bound

/-- Before the drain nothing was swept. -/
lemma Swept.init : Swept s r h s := by
  refine ⟨.refl, ?_⟩
  rintro es log ⟨_, _, mem, _⟩ _
  rw [List.append_cancel_left (log.symm.trans (List.append_nil _).symm)] at mem
  cases mem

/-- A pass that starts with a dispatched stream. -/
lemma drain_swept (bound : Bound s) (safe : HandlesSafe s) (hq : (s.objs r).qstream = some h)
    (dispatched : (s.objs r).dispatched = true) (pass : Step s .drain t) :
    ∃ (u : Session) (snapshot : List Ref),
      Swept s r h u ∧ snapshot.Perm s.streams ∧ t = snapshot.foldl Session.reclaim u := by
  have whole := bound.dispatched r dispatched
  have complete : (s.objs r).bodyComplete = true := by
    simp only [H3Stream.whole, Bool.and_eq_true] at whole
    exact whole.2
  refine drain_spec ?_ ?_ .init pass
  · intro r' u v hu _ visit
    exact hu.visit (fun r' hq' => safe.one_stream r' r h hq' hq) complete
      (bound.headers r (H3Stream.whole_headersComplete whole)) visit
  · intro u rs i hu
    exact ⟨hu.later.congr rfl rfl rfl rfl rfl rfl, hu.closed⟩

/-- A drain pass up to the point where it reclaims streams. -/
lemma drain_later (hP : ∀ e : Entry, e.isRead = true → P e)
    (query : ∀ e : Entry, e.isQuery = true → P e) (pass : Step s .drain t) :
    ∃ (u : Session) (snapshot : List Ref),
      s.Later P u ∧ snapshot.Perm s.streams ∧ t = snapshot.foldl Session.reclaim u := by
  refine drain_spec ?_ ?_ .refl pass
  · intro r u v hu _ visit
    exact hu.trans (visit.later hP query)
  · intro u rs i hu
    exact hu.congr rfl rfl rfl rfl rfl rfl

/-- A stream leaves the hash only if it was dispatched. -/
lemma drain_keeps (bound : Bound s) (pass : Step s .drain t) (tracked : r ∈ s.streams)
    (out : r ∉ t.streams) : (s.objs r).dispatched = true := by
  obtain ⟨u, snapshot, later, perm, rfl⟩ := drain_later (P := fun _ => True) (fun _ _ => trivial)
    (fun _ _ => trivial) pass
  rw [mem_reclaimed (later.streams ▸ bound.nodup), later.streams] at out
  have finished : (u.objs r).reclaimable = true := by
    by_contra no
    exact out ⟨tracked, fun both => no both.2⟩
  simp only [H3Stream.reclaimable, Bool.and_eq_true] at finished
  rw [← (later.objs r).dispatched]
  exact finished.1.2

end

/-- After a drain pass that found both sides of a client's request stream finished, with no worker
at work on it, the stream is out of the hash and its handle is null or queued if, and only if, the
stream had been dispatched. -/
theorem finished_stream_reclaimed {b m : Nat} {cs : List Sect} {s t : Session} {r : Ref}
    {h : Handle} (run : Run Step (.init b m) cs s) (pass : Step s .drain t)
    (tracked : r ∈ s.streams) (client : sidIsServer (s.objs r).streamId = false)
    (isBidi : (s.objs r).isBidi = true) (hq : (s.objs r).qstream = some h)
    (visited : FoundFinished h (s.since t))
    (idle : (s.objs r).dispatched = true → (s.objs r).workerDone = true)
    (nghttp3 : s.userData (s.objs r).streamId ≠ none →
      ClosesStream (s.objs r).streamId (s.since t)) :
    (r ∉ t.streams ∧ ∀ h, (t.objs r).qstream = some h → h ∈ t.pendingFree) ↔
      (s.objs r).dispatched = true := by
  have bound := run_bound run
  have safe := ((Owns.init b m).moves (run_moves run).1).safe
  refine ⟨fun out => drain_keeps bound pass tracked out.1, fun dispatched => ?_⟩
  obtain ⟨u, snapshot, swept, perm, rfl⟩ := drain_swept bound safe hq dispatched pass
  have log := foldl_keeps Session.log reclaim_log snapshot u
  have qstream := foldl_keeps (fun t : Session => (t.objs r).qstream)
    (fun s r' => reclaim_objs H3Stream.qstream (fun _ _ => rfl) s r r') snapshot u
  obtain ⟨es, eq, _⟩ := swept.later.log
  have since : s.since (snapshot.foldl Session.reclaim u) = es := by
    rw [Session.since, log, eq, List.drop_left]
  rw [since] at visited nghttp3
  have whole := bound.dispatched r dispatched
  have user := bound.headers r (H3Stream.whole_headersComplete whole)
  have closed := swept.closed es eq visited (nghttp3 (by rw [user]; nofun))
  have frame := swept.later.objs r
  refine ⟨?_, ?_⟩
  · rw [mem_reclaimed (swept.later.streams ▸ bound.nodup)]
    rintro ⟨_, no⟩
    refine no ⟨perm.mem_iff.mpr tracked, ?_⟩
    simp [H3Stream.reclaimable, frame.isBidi, isBidi, frame.streamId, client, closed.1, closed.2,
      frame.dispatched, dispatched, frame.workerDone, idle dispatched]
  · intro h' hq'
    rw [qstream, closed.2] at hq'
    cases hq'

/-- A request without a body that a worker has answered. -/
def requestAnswered : List (Sect × List Answer) :=
  requestOpen ++
  [(.drain, [.order [0, 1, 2, 3], .states .ok .ok, .read (.data [1, 0]),
      .called [.beginHeaders 0, .endHeaders 0 false] 2, .read .fin, .called [] 0]),
    (.dispatch 3, []), (.process 3, []), (.workerDone 3, [])]

/-- A drain that ends is a step. -/
lemma drain_step {s : Session} {as : List Answer} (enabled : Sect.enabled s .drain = true)
    (ends : (exec .drain s as).2.isSome = true) : Step s .drain (exec .drain s as).1 := by
  obtain ⟨⟨_, rest⟩, eq⟩ := Option.isSome_iff_exists.mp ends
  exact ⟨enabled, as, rest, Prod.ext rfl eq⟩

/-- The answered request is reclaimed once the response was sent. -/
theorem finished_stream_reclaimed_answered :
    ∃ cs s t, Run Step (.init 65536 1000) cs s ∧ Step s .drain t ∧ (s.objs 3).dispatched = true ∧
      s.streams = [0, 1, 2, 3] ∧ 3 ∉ t.streams ∧ ∀ h, (t.objs 3).qstream = some h →
      h ∈ t.pendingFree := by
  let as : List Answer :=
    [.order [0, 1, 2, 3], .states .finished .finished, .called [.streamClose 0 256] 0]
  have eq : (execAll runSect (.init 65536 1000) requestAnswered).map
      (fun r => decide (Sect.enabled r.1 .drain = true ∧ (exec .drain r.1 as).2.isSome = true ∧
        r.1.streams = [0, 1, 2, 3] ∧ (r.1.objs 3).streamId = 0 ∧ (r.1.objs 3).isBidi = true ∧
        (r.1.objs 3).qstream = some 3 ∧ (r.1.objs 3).dispatched = true ∧
        (r.1.objs 3).workerDone = true ∧ r.1.since (exec .drain r.1 as).1 =
        [.op (.use (.isReadFinished .finished .finished) 3),
          .call (.closeStream 0) [.streamClose 0 256] 0])) = some true := by decide +kernel
  obtain ⟨⟨s, cs⟩, h, obs⟩ := Option.map_eq_some_iff.mp eq
  have run : Run Step (.init 65536 1000) cs s := execAll_run runSect_step h
  obtain ⟨enabled, ends, streams, sid, isBidi, hq, dispatched, workerDone, since⟩ :=
    of_decide_eq_true obs
  have pass := drain_step enabled ends
  have reclaimed :=
    (finished_stream_reclaimed run pass (by rw [streams]; decide) (by rw [sid]; decide) isBidi hq
    ⟨.finished, .finished, by rw [since]; decide, rfl⟩ (fun _ => workerDone) (by
      rw [sid, since]
      intro _ cbs rv mem
      obtain ⟨rfl, rfl⟩ : cbs = [.streamClose 0 256] ∧ rv = 0 := by simpa using mem
      exact ⟨256, List.mem_singleton.mpr rfl⟩)).mpr dispatched
  exact ⟨cs, s, _, run, pass, dispatched, streams, reclaimed⟩

/-- A drain pass finds both sides of a client's stream finished that was reset before it was
dispatched, and the stream stays in the hash with its handle. `rv` is what nghttp3 returns for the
end of the stream. -/
structure StaysTracked (rv : Int) (s t : Session) : Prop where
  pass : Step s .drain t
  dispatched : (s.objs 3).dispatched = false
  qstream : (s.objs 3).qstream = some 3
  client : sidIsServer (s.objs 3).streamId = false
  isBidi : (s.objs 3).isBidi = true
  since : s.since t = [.op (.use (.isReadFinished .resetRemote .ok) 3),
    .call (.readStream 0 [] true) [] rv, .call (.closeStream 0) [.streamClose 0 256] 0]
  completed : 3 ∉ t.completed
  stays : ¬(3 ∉ t.streams ∧ ∀ h, (t.objs 3).qstream = some h → h ∈ t.pendingFree)

/-- After a reset the stream stays tracked, whatever nghttp3 answers. -/
lemma reset_stays {rv : Int} (mem : rv ∈ [0, -408]) :
    ∃ cs s t, Run Step (.init 65536 1000) cs s ∧ StaysTracked rv s t := by
  let as : List Answer :=
    [.order [0, 1, 2, 3], .states .resetRemote .ok, .called [] rv, .called [.streamClose 0 256] 0]
  have eq : (execAll runSect (.init 65536 1000) requestOpen).map
      (fun r => decide (Sect.enabled r.1 .drain = true ∧ (exec .drain r.1 as).2.isSome = true ∧
        (r.1.objs 3).dispatched = false ∧ (r.1.objs 3).qstream = some 3 ∧
        sidIsServer (r.1.objs 3).streamId = false ∧ (r.1.objs 3).isBidi = true ∧
        r.1.since (exec .drain r.1 as).1 = [.op (.use (.isReadFinished .resetRemote .ok) 3),
          .call (.readStream 0 [] true) [] rv, .call (.closeStream 0) [.streamClose 0 256] 0] ∧
        (exec .drain r.1 as).1.completed = [] ∧ (exec .drain r.1 as).1.streams = [0, 1, 2, 3])) =
      some true := by
    revert rv
    decide +kernel
  obtain ⟨⟨s, cs⟩, h, obs⟩ := Option.map_eq_some_iff.mp eq
  have run : Run Step (.init 65536 1000) cs s := execAll_run runSect_step h
  obtain ⟨enabled, ends, dispatched, hq, client, isBidi, since, completed, streams⟩ :=
    of_decide_eq_true obs
  refine ⟨cs, s, _, run, drain_step enabled ends, dispatched, hq, client, isBidi, since, ?_,
    fun out => out.1 ?_⟩
  · rw [completed]
    exact List.not_mem_nil
  · rw [streams]
    decide

/-- A client that opens a stream and resets it before sending anything: whether nghttp3 takes the
end of such a stream or refuses it, both sides are found finished, and the stream stays in the hash
with its handle. -/
theorem reset_stream_not_reclaimed :
    (∃ cs s t, Run Step (.init 65536 1000) cs s ∧ StaysTracked 0 s t) ∧
      ∃ cs s t, Run Step (.init 65536 1000) cs s ∧ StaysTracked (-408) s t :=
  ⟨reset_stays (by decide), reset_stays (by decide)⟩

end ModHttp3.H3

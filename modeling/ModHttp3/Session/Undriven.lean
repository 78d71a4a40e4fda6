import ModHttp3.Session.Flush
import ModHttp3.Session.Identity
import ModHttp3.Session.Reclaim
import ModHttp3.Session.Service
import ModHttp3.Session.Teardown

/-!
# A dead connection is left alone

Once `nghttp3_conn_read_stream` or `nghttp3_conn_writev_stream` has failed the session is marked
dead, and nghttp3 must not be called again (`Undriven`). Every place that calls nghttp3 looks at the
mark first but two: `drain_one_stream` closes a stream after nghttp3 refused its FIN, and the first
section of a pass that winds the session up calls nghttp3 before and after its flush. In a run in
which nghttp3 does not fail there (`Careful`) a dead connection is left alone.
-/

namespace ModHttp3.H3
open ModHttp3.Lib ModHttp3.Lib.Script

/-- The entry is a call of nghttp3. -/
def Entry.isCall : Entry → Bool
  | .call _ _ _ => true
  | _ => false

/-- The entry is a failed call after which the connection is marked dead. -/
def Entry.marks : Entry → Bool
  | .call (.readStream _ _ _) _ rv => decide (rv < 0)
  | .call (.writevStream _ _ _) _ nvec => decide (nvec < 0)
  | _ => false

/-- nghttp3 is called only if no call has failed before. -/
def CallLaw (pre : List Entry) (e : Entry) : Prop := e.isCall = true → pre.any Entry.marks = false

instance CallLaw.decidable {pre : List Entry} {e : Entry} : Decidable (CallLaw pre e) :=
  inferInstanceAs (Decidable (_ → _))

/-- The session is marked dead if and only if a call has failed, and nghttp3 was not called
since. -/
structure Undriven (s : Session) : Prop where
  dead : s.ngh3Dead = s.log.any Entry.marks
  calls : Each CallLaw s.log

/-- The entry is a query that found the sending part of a stream in a final state. -/
def Entry.writeFinished : Entry → Bool
  | .op (.use (.isReadFinished rstate wstate) _) => (isReadFinished rstate wstate).2
  | _ => false

/-- The entry is a call in which nghttp3 refuses the FIN of a stream. -/
def Entry.refusesFin : Entry → Bool
  | .call (.readStream _ _ true) _ rv => decide (rv < 0)
  | _ => false

/-- nghttp3 does not refuse the FIN of a stream that was just found finished on both sides. -/
def FinLaw (pre : List Entry) (e : Entry) : Prop :=
  e.refusesFin = true → pre.getLast?.any Entry.writeFinished = false

instance FinLaw.decidable {pre : List Entry} {e : Entry} : Decidable (FinLaw pre e) :=
  inferInstanceAs (Decidable (_ → _))

/-- A step in which nghttp3 does not fail where the mark is not looked at. -/
def Careful (x : Service) : Act → Service → Prop
  | .notice _, y => x.session.ngh3Dead = false ∧ (x.session.since y.session).any Entry.marks = false
  | .drain, y => Each FinLaw y.session.log
  | _, _ => True

section
variable {s t u : Session} {r : Ref} {h : Handle} {es : List Entry}

/-- Only calls mark the session as dead. -/
lemma Entry.marks_isCall {e : Entry} (other : e.isCall = false) : e.marks = false := by
  cases e with
  | call => cases other
  | got | op | processed => rfl

namespace Undriven

/-- A new session is alive, and nothing was called. -/
lemma init (b m : Nat) : Undriven (.init b m) := ⟨rfl, trivial⟩

/-- A change that makes no calls. -/
lemma quiet (hs : Undriven s) (log : t.log = s.log ++ es) (other : ∀ e ∈ es, e.isCall = false)
    (dead : t.ngh3Dead = s.ngh3Dead) : Undriven t := by
  refine ⟨?_, ?_⟩
  · have unmarked : es.any Entry.marks = false := by
      rw [List.any_eq_false]
      intro e mem
      rw [Entry.marks_isCall (other e mem)]
      exact Bool.false_ne_true
    rw [dead, hs.dead, log, List.any_append, unmarked, Bool.or_false]
  · rw [log]
    refine hs.calls.append ?_
    intro e mem _ called
    rw [other e mem] at called
    cases called

/-- The log and the mark are the same. -/
lemma same (hs : Undriven s) (log : t.log = s.log) (dead : t.ngh3Dead = s.ngh3Dead) : Undriven t :=
  hs.quiet (log.trans (List.append_nil _).symm) nofun dead

/-- An entry that is no call. -/
lemma emit {e : Entry} (hs : Undriven s) (other : e.isCall = false) : Undriven (s.emit e) := by
  refine hs.quiet rfl ?_ rfl
  intro e' mem
  rw [List.mem_singleton.mp mem]
  exact other

/-- A call while the connection is alive, which marks it dead if it fails. -/
lemma call (hs : Undriven s) (alive : s.ngh3Dead = false) (c : Call) (cbs : List Cb) (rv : Int)
    (log : t.log = (runCbs (s.emit (.call c cbs rv)) cbs).log)
    (dead : t.ngh3Dead = (Entry.call c cbs rv).marks) : Undriven t := by
  have clean : s.log.any Entry.marks = false := hs.dead.symm.trans alive
  obtain ⟨es, eq, resets⟩ := runCbs_log (s := s.emit (.call c cbs rv)) cbs
  have made :
      Undriven { s.emit (.call c cbs rv) with ngh3Dead := (Entry.call c cbs rv).marks } := by
    refine ⟨?_, hs.calls.snoc fun _ => clean⟩
    show _ = (s.log ++ [_]).any Entry.marks
    rw [List.any_append, clean, Bool.false_or, List.any_cons, List.any_nil, Bool.or_false]
  refine made.quiet (log.trans eq) ?_ dead
  intro e mem
  obtain ⟨err, h, rfl⟩ := resets e mem
  rfl

end Undriven

/-- The connection is alive and no call has failed. -/
def Driven (s : Session) : Prop := Undriven s ∧ s.ngh3Dead = false

namespace Driven

/-- An entry that is no call leaves the connection alive. -/
lemma emit {e : Entry} (hs : Driven s) (other : e.isCall = false) : Driven (s.emit e) :=
  ⟨hs.1.emit other, hs.2⟩

/-- A call that cannot mark the connection dead. -/
lemma called {c : Call} (hs : Driven s) (safe : ∀ cbs rv, (Entry.call c cbs rv).marks = false)
    (called : Called c s t) : Driven t := by
  obtain ⟨cbs, rv, rfl⟩ := called
  have alive : (runCbs (s.emit (.call c cbs rv)) cbs).ngh3Dead = false := by
    rw [(runCbs_frame cbs).ngh3Dead]
    exact hs.2
  exact ⟨hs.1.call hs.2 c cbs rv rfl (alive.trans (safe cbs rv).symm), alive⟩

/-- Asking for vectors leaves the connection alive. -/
lemma writev {sid : Int} {fin : Bool} {lens : List Nat} (hs : Driven s)
    (writev : Writev sid fin lens s t) :
    Driven t := by
  obtain ⟨cbs, nvec, nonneg, _, rfl⟩ := writev
  have alive : (runCbs (s.emit (.call (.writevStream sid fin lens) cbs nvec)) cbs).ngh3Dead =
      false := by
    rw [(runCbs_frame cbs).ngh3Dead]
    exact hs.2
  refine ⟨hs.1.call hs.2 _ cbs nvec rfl (alive.trans ?_), alive⟩
  exact (decide_eq_false (Int.not_lt.mpr nonneg)).symm

/-- Adding offsets leaves the connection alive. -/
lemma offsets {sid : Int} {n : Nat} (hs : Driven s) (offsets : Offsets sid n s t) : Driven t := by
  obtain ⟨u, write, ack⟩ := offsets
  exact (hs.called (fun _ _ => rfl) write).called (fun _ _ => rfl) ack

/-- Unblocking a stream leaves the connection alive. -/
lemma unblocking (hs : Driven s) (m : Unblocking s t) : Driven t := by
  cases m with
  | query blocked hq => exact hs.emit rfl
  | @unblock r _ called =>
    have unblocked : Driven (s.unblock r) := ⟨hs.1.same rfl rfl, hs.2⟩
    exact unblocked.called (fun _ _ => rfl) called

/-- One turn of a flush. -/
lemma flushTurn {go : Bool} (hs : Driven s) (m : FlushTurn s go t) :
    if go = true then Driven t else Undriven t := by
  cases m with
  | failed neg => exact hs.1.call hs.2 _ _ _ rfl (decide_eq_true neg).symm
  | @nothing sid fin lens cbs _ =>
    refine hs.1.call hs.2 _ cbs 0 rfl ?_
    rw [(runCbs_frame cbs).ngh3Dead]
    exact hs.2
  | swallowed writev gone offsets => exact (hs.writev writev).offsets offsets
  | broken writev found hq broken offsets => exact ((hs.writev writev).emit rfl).offsets offsets
  | @written sid fin lens r h res u v _ writev found hq whole offsets last =>
    have hv : Driven v := ((hs.writev writev).emit rfl).offsets offsets
    rcases last with ⟨_, rfl⟩ | ⟨_, _, blocked⟩
    · exact hv
    · have block : Driven (v.block r) := ⟨hv.1.same rfl rfl, hv.2⟩
      exact block.called (fun _ _ => rfl) blocked

end Driven

/-- A flush leaves a dead connection alone. -/
lemma flush_undriven (hs : Undriven s) :
    Wp flushNghttp3 s (fun _ t => Undriven t ∧ ∃ es, t.log = s.log ++ es) (fun _ => True) := by
  have flushed : Wp flushNghttp3 s (fun _ t => Undriven t) (fun _ => True) := by
    refine flushNghttp3_wp (J := Driven) (fun _ _ hu m => hu.unblocking m)
      (fun _ _ _ hu m => hu.flushTurn m)
      ?_ (fun alive => ⟨hs, alive⟩) fun _ => hs
    intro u h hu
    have popped : Undriven { u with pendingFree := u.pendingFree.dropLast } := hu.same rfl rfl
    exact popped.emit rfl
  exact (flushed.and (flushNghttp3_goes s)).mono (fun _ _ ends => ⟨ends.1, moves_extends ends.2⟩)
    fun _ _ => trivial

/-- What is logged when the end of a stream is passed to nghttp3. -/
lemma feedFin_log (s : Session) (r : Ref) (cbs : List Cb) (rv : Int) :
    ∃ es, (s.feedFin r cbs rv).log =
      s.log ++ [Entry.call (.readStream (s.objs r).streamId [] true) cbs rv] ++ es := by
  obtain ⟨es, eq, _⟩ :=
    runCbs_log (s := s.emit (.call (.readStream (s.objs r).streamId [] true) cbs rv)) cbs
  exact ⟨es, eq⟩

/-- Telling nghttp3 the end of a stream. -/
lemma feedFin_undriven (hs : Driven s) (cbs : List Cb) (rv : Int) :
    Undriven (s.feedFin r cbs rv) := by
  refine hs.1.call hs.2 (.readStream (s.objs r).streamId [] true) cbs rv rfl ?_
  rw [feedFin_dead, hs.2]
  rfl

/-- The read loop calls nghttp3 only while the connection is alive. -/
lemma reading_undriven (m : Reading r s t) (hs : Undriven s) : Undriven t := by
  cases m with
  | use result hq other => exact hs.emit rfl
  | @feed h data cbs rv hq ne client unread alive =>
    have read : Undriven (s.emit (.op (.use (.read (.data data)) h))) := hs.emit rfl
    have pending : Undriven { s.emit (.op (.use (.read (.data data)) h)) with
        pendingSid := (s.objs r).streamId, pendingH3s := some r } := read.same rfl rfl
    refine pending.call alive (.readStream (s.objs r).streamId data false) cbs rv rfl ?_
    rw [Session.feed_dead, alive]
    rfl
  | feedFin cbs rv hq last unread alive => exact feedFin_undriven ⟨hs, alive⟩ cbs rv
  | done => exact hs.same rfl rfl

/-- Reads call nghttp3 only while the connection is alive. -/
lemma readings_undriven (ms : Relation.ReflTransGen (Reading r) s t) (hs : Undriven s) :
    Undriven t := by
  induction ms with
  | refl => exact hs
  | tail _ m ih => exact reading_undriven m ih

/-- Closing a stream while the connection is alive. -/
lemma closing_undriven {writeFinished : Bool} (closing : Closing r writeFinished s t)
    (hs : Driven s) :
    Undriven t := by
  rcases closing with ⟨_, rfl⟩ | ⟨_, cbs, rv, rfl⟩
  · exact hs.1
  · exact (hs.called (fun _ _ => rfl) ⟨cbs, rv, rfl⟩).1

/-- Reading a stream, if nghttp3 does not refuse its FIN where that goes unnoticed. -/
lemma visit_undriven (visit : Visit r s t) (hs : Driven s) (law : Each FinLaw t.log) :
    Undriven t := by
  cases visit with
  | read hq reads => exact readings_undriven reads hs.1
  | unfinished hq _ reads => exact readings_undriven reads (hs.1.emit rfl)
  | @finished h rstate wstate u _ hq fin fed closing =>
    have asked : Driven (s.emit (.op (.use (.isReadFinished rstate wstate) h))) := hs.emit rfl
    rcases fed with ⟨_, rfl⟩ | ⟨_, cbs, rv, rfl⟩
    · exact closing_undriven closing asked
    · by_cases fails : rv < 0
      · -- the write side is still open, so the stream is not closed
        obtain ⟨es, log⟩ :=
          feedFin_log (s.emit (.op (.use (.isReadFinished rstate wstate) h))) r cbs rv
        obtain ⟨fs, later⟩ := moves_extends closing.moves
        rw [later, log] at law
        have unfinished : (isReadFinished rstate wstate).2 = false := by
          have refused := law.before.entry (decide_eq_true fails)
          rwa [Session.emit, List.getLast?_concat] at refused
        rcases closing with ⟨_, rfl⟩ | ⟨finished, _⟩
        · exact feedFin_undriven asked cbs rv
        · rw [unfinished, Bool.and_false] at finished
          cases finished
      · refine closing_undriven closing ⟨feedFin_undriven asked cbs rv, ?_⟩
        rw [feedFin_dead, asked.2, decide_eq_false fails]
        rfl

/-- Reclaiming an object does not kill the session. -/
lemma reclaim_dead (s : Session) (r : Ref) : (s.reclaim r).ngh3Dead = s.ngh3Dead :=
  reclaim_keeps Session.ngh3Dead (fun _ _ _ _ => rfl) s r

/-- The section that reads all streams and flushes. -/
lemma drainAndFlush_undriven (hs : Undriven s) :
    Wp drainAndFlush s (fun _ t => Each FinLaw t.log → Undriven t) (fun _ => True) := by
  refine .bind
    (.mono (drainReadyStreams_wp (J := fun u => Each FinLaw u.log → Undriven u) ?_ ?_ fun _ => hs)
    ?_ fun _ => id)
  · intro r u v hu alive visit law
    obtain ⟨es, log⟩ := moves_extends visit.moves
    refine visit_undriven visit ⟨hu ?_, alive⟩ law
    exact (show Each FinLaw (u.log ++ es) from log ▸ law).before
  · intro u rs i hu law
    exact (hu law).same rfl rfl
  · rintro _ _ ⟨u, snapshot, hu, _, rfl⟩
    have log : (snapshot.foldl Session.reclaim u).log = u.log :=
      foldl_keeps Session.log reclaim_log snapshot u
    have dead : (snapshot.foldl Session.reclaim u).ngh3Dead = u.ngh3Dead :=
      foldl_keeps Session.ngh3Dead reclaim_dead snapshot u
    by_cases law : Each FinLaw u.log
    · refine (flush_undriven ((hu law).same log dead)).mono ?_ fun _ => id
      exact fun _ _ flushed _ => flushed.1
    · refine (flushNghttp3_goes _).mono ?_ fun _ _ => trivial
      intro _ t moves after
      obtain ⟨es, later⟩ := moves_extends moves
      rw [later, log] at after
      exact absurd after.before law

/-- The first section of a pass that winds the session up. -/
lemma shutdownNotice_undriven (goaway : Bool) (hs : Driven s) :
    Wp (shutdownNotice goaway) s (fun _ t => (s.since t).any Entry.marks = false → Driven t)
      (fun _ => True) := by
  have rest : ∀ u es, u.log = s.log ++ es → Driven u → Wp (do
      flushNghttp3
      let drained ← callNgh3 .isDrained2
      pure (drained != 0)) u (fun _ t => (s.since t).any Entry.marks = false → Driven t)
      (fun _ => True) := by
    intro u es log hu
    refine .bind ((flush_undriven hu.1).mono ?_ fun _ => id)
    rintro _ v ⟨hv, fs, later⟩
    refine .bind ((callNgh3_wp _ trivial).mono ?_ fun _ => id)
    intro rv t called
    refine .pure fun clean => ?_
    refine Driven.called ⟨hv, ?_⟩ (fun _ _ => rfl) called
    -- a failure in the flush would be among what was logged since
    obtain ⟨gs, last⟩ : ∃ gs, t.log = v.log ++ gs := by
      obtain ⟨cbs, rv, rfl⟩ := called
      exact moves_extends (Move.call cbs rv rfl).moves
    rw [Session.since, last, later, log, List.append_assoc, List.append_assoc, List.drop_left,
      List.any_append, List.any_append, Bool.or_eq_false_iff, Bool.or_eq_false_iff] at clean
    rw [hv.dead, later, log, List.any_append, List.any_append, ← hs.1.dead, hs.2, clean.1,
      clean.2.1]
    rfl
  cases goaway with
  | true => exact rest s [] (List.append_nil _).symm hs
  | false =>
    refine .bind ((callNgh3_wp _ trivial).mono ?_ fun _ => id)
    intro _ u called
    obtain ⟨es, log⟩ : ∃ es, u.log = s.log ++ es := by
      obtain ⟨cbs, rv, rfl⟩ := called
      exact moves_extends (Move.call cbs rv rfl).moves
    exact rest u es log (hs.called (fun _ _ => rfl) called)

/-- Its second section. -/
lemma shutdown_undriven (hs : Driven s) :
    Wp shutdown s (fun _ t => Undriven t) (fun _ => True) := by
  refine .bind ((callNgh3_wp _ trivial).mono ?_ fun _ => id)
  intro _ u called
  refine (flush_undriven (hs.called (fun _ _ => rfl) called).1).mono ?_ fun _ => id
  exact fun _ _ flushed => flushed.1

/-- A worker that may resume a stream. -/
lemma resumeResponse_undriven {w : Response.Stream} {resumed : Bool} (hs : Undriven s)
    (looked : resumed = true → s.ngh3Dead = false) :
    Wp (resumeResponse r w resumed) s (fun _ t => Undriven t ∧ t.ngh3Dead = s.ngh3Dead)
      (fun _ => True) := by
  refine .bind (.get (.bind (.modify ?_)))
  cases resumed with
  | false => exact .pure ⟨hs.same rfl rfl, rfl⟩
  | true =>
    have here : Driven (s.respond r w) := ⟨hs.same rfl rfl, looked rfl⟩
    refine .bind ((callNgh3_wp _ trivial).mono ?_ fun _ => id)
    intro _ t called
    have there := here.called (fun _ _ => rfl) called
    exact .pure ⟨there.1, there.2.trans (looked rfl).symm⟩

/-- A chunk is queued only while the connection is alive. -/
lemma append_alive {w w' : Response.Stream} {data : List UInt8} {malloc : Option Ptr} {n : Nat}
    {resumed : Bool}
    (eq : Response.streamResponseAppendStep w data malloc = some (w', .chunk n resumed)) :
    w.ngh3Dead = false := by
  by_contra dead
  rw [Bool.not_eq_false] at dead
  have gone : w.gone = true := by rw [Response.Stream.gone, dead, Bool.or_true]
  simp [Response.streamResponseAppendStep, Response.streamResponseAppendStepBy, gone] at eq

/-- A worker that queues a part of the response body. -/
lemma appendResponse_undriven {w : Response.Stream} {data : List UInt8} {malloc : Option Ptr}
    (hs : Undriven s) (agrees : w.ngh3Dead = s.ngh3Dead) :
    Wp (appendResponse r w data malloc) s (fun _ t => Undriven t ∧ t.ngh3Dead = s.ngh3Dead)
      (fun _ => True) := by
  unfold appendResponse
  split
  · rename_i w' n resumed eq
    exact resumeResponse_undriven hs fun _ => agrees.symm.trans (append_alive eq)
  · exact resumeResponse_undriven hs nofun
  · exact .pure ⟨hs, rfl⟩

/-- A worker that completes the response. -/
lemma completeResponse_undriven {w : Response.Stream} (hs : Undriven s)
    (agrees : w.ngh3Dead = s.ngh3Dead) :
    Wp (completeResponse r w) s (fun _ t => Undriven t ∧ t.ngh3Dead = s.ngh3Dead)
      (fun _ => True) := by
  refine resumeResponse_undriven hs ?_
  intro resumed
  simp only [Response.streamResponseComplete, Bool.and_eq_true, Bool.not_eq_true'] at resumed
  exact agrees.symm.trans resumed.2

/-- A worker that submits the response headers. -/
lemma submitResponse_undriven {w : Response.Stream} (hs : Undriven s)
    (agrees : w.ngh3Dead = s.ngh3Dead) :
    Wp (submitResponse r w) s (fun _ t => Undriven t ∧ t.ngh3Dead = s.ngh3Dead)
      (fun _ => True) := by
  refine .bind (.get ?_)
  split
  · rename_i called
    have alive : s.ngh3Dead = false := by
      rw [← agrees]
      by_contra dead
      rw [Bool.not_eq_false] at dead
      have gone : w.gone = true := by rw [Response.Stream.gone, dead, Bool.or_true]
      cases submitted : w.responseSubmitted <;>
        simp [Response.submitResponseNva, gone, submitted] at called
    refine .bind ((callNgh3_wp _ trivial).mono ?_ fun _ => id)
    intro rv t called
    have here : Driven t := Driven.called ⟨hs, alive⟩ (fun _ _ => rfl) called
    exact .modify ⟨here.1.same rfl rfl, here.2.trans alive.symm⟩
  · exact .pure ⟨hs, rfl⟩

/-- Opening the control streams makes no calls that could fail later. -/
lemma create_undriven {b m : Nat} :
    Wp (exec .create) (.init b m) (fun _ t => Undriven t) (fun _ => True) := by
  refine create_wp rfl ?_ ?_ ?_ (.init b m)
  · intro u v hu o
    cases o with
    | acquire server => exact hu.quiet rfl (by simp [Entry.isCall]) rfl
    | track | retrack => exact hu.same rfl rfl
  · exact fun u h hu => hu.quiet rfl (by simp [Entry.isCall]) rfl
  · exact fun u v hu log _ _ dead => hu.same log dead

/-- Destroying the session makes no calls but `nghttp3_conn_del`. -/
lemma destroy_undriven (hs : Undriven s) :
    Wp (exec .destroy) s (fun _ t => Undriven t) (fun _ => True) := by
  refine destroy_wp ?_ ?_ ?_ hs
  · exact fun u r hu => hu.same rfl rfl
  · intro u h hu
    have popped : Undriven { u with pendingFree := u.pendingFree.dropLast } := hu.same rfl rfl
    exact popped.emit rfl
  · exact fun u v hu log _ _ dead => hu.same log dead

/-- Accepting a stream makes no calls. -/
lemma accept_undriven (hs : Undriven s) :
    Wp acceptStream s (fun _ t => Undriven t) (fun _ => True) := by
  refine acceptStream_wp.mono ?_ fun _ => id
  have accepted : ∀ sid, Undriven (s.accepted sid) :=
    fun sid => hs.quiet (List.append_assoc ..) (by simp [Entry.isCall]) rfl
  rintro more t (⟨_, rfl⟩ | ⟨_, sid, rfl | rfl | ⟨r, _, rfl⟩⟩)
  · exact hs
  · exact (accepted sid).quiet rfl (by simp [Entry.isCall]) rfl
  · exact (accepted sid).same rfl rfl
  · exact (accepted sid).same rfl rfl

end

section
variable {x y : Service} {a : Act} {b m : Nat}

/-- What holds along a run in which nghttp3 does not fail where the mark is not looked at. -/
structure Service.Inv (b m : Nat) (x : Service) : Prop where
  undriven : Undriven x.session
  creating : x.pc = .creating → x.session = .init b m
  leaving : x.pc = .leaving → x.session.ngh3Dead = false

/-- An action that comes to its end does so where the rule says. -/
lemma Acts.ends {Q : Unit → Service → Prop} {S : Service → Prop} (st : Acts x a y)
    (h : Wp (act a) x Q S) :
    Q () y := by
  obtain ⟨_, as, rest, eq⟩ := st
  have := h as
  rw [eq] at this
  exact this

/-- A program of the session, run on the connection. -/
lemma onSession_wp {β : Type} {p : Prog β} {Q : β → Session → Prop}
    (h : Wp p x.session Q fun _ => True) :
    Wp (onSession p) x (fun b y => ∃ t, Q b t ∧ y = { x with session := t }) (fun _ => True) :=
  (Wp.focus h).mono (fun _ _ => id) fun _ _ => trivial

namespace Service.Inv

/-- The event thread is neither at the beginning nor about to leave. -/
lemma of_undriven (h : Undriven x.session) (creating : x.pc ≠ .creating)
    (leaving : x.pc ≠ .leaving) :
    x.Inv b m := ⟨h, fun eq => absurd eq creating, fun eq => absurd eq leaving⟩

/-- A step of a worker. -/
lemma worker {t : Session} {r : Ref} (inv : x.Inv b m)
    (on : (Sect.process r).enabled x.session = true)
    (ht : Undriven t ∧ t.ngh3Dead = x.session.ngh3Dead) :
    Service.Inv b m { x with session := t } := by
  refine ⟨ht.1, ?_, fun leaving => ht.2.trans (inv.leaving leaving)⟩
  intro creating
  rw [inv.creating creating] at on
  cases on

end Service.Inv

/-- What one step keeps. -/
lemma act_inv (st : Acts x a y) (careful : Careful x a y) (inv : x.Inv b m) : y.Inv b m := by
  have hs := inv.undriven
  have enabled := st.1
  have worker : ∀ {r : Ref} {p : Prog Unit}, (Sect.process r).enabled x.session = true →
      Wp p x.session (fun _ t => Undriven t ∧ t.ngh3Dead = x.session.ngh3Dead) (fun _ => True) →
      Wp (onSession p) x (fun _ y => y.Inv b m) (fun _ => True) := by
    intro r p on h
    refine (onSession_wp h).mono ?_ fun _ => id
    rintro _ _ ⟨t, ht, rfl⟩
    exact inv.worker on ht
  have agrees : ∀ {r : Ref} {w : Response.Stream},
      ((Sect.process r).enabled x.session && x.agrees r w) = true →
      (Sect.process r).enabled x.session = true ∧ w.ngh3Dead = x.session.ngh3Dead := by
    intro r w both
    simp only [Service.agrees, Bool.and_eq_true, beq_iff_eq] at both
    exact ⟨both.1, both.2.1.1.2⟩
  cases a with
  | create ok =>
    have init := inv.creating (by simpa [Act.enabled] using enabled)
    have ends : Wp (act (.create ok)) x (fun _ y => y.Inv b m) (fun _ => True) := by
      refine .bind ((onSession_wp (init ▸ create_undriven)).mono ?_ fun _ => id)
      rintro _ _ ⟨t, ht, rfl⟩
      refine .bind (.get ?_)
      split
      · exact .modify (.of_undriven ht nofun nofun)
      · refine .bind ((onSession_wp (destroy_undriven ht)).mono ?_ fun _ => id)
        rintro _ _ ⟨u, hu, rfl⟩
        exact .modify (.of_undriven hu nofun nofun)
    exact st.ends ends
  | start =>
    have ends : Wp (act .start) x (fun _ y => y.Inv b m) (fun _ => True) := by
      refine .modify (.of_undriven hs ?_ ?_)
      all_goals
        dsimp only
        split <;> exact nofun
    exact st.ends ends
  | notice late =>
    -- the source does not look at the mark here: the step is careful instead
    obtain ⟨alive, clean⟩ := careful
    have ends : Wp (act (.notice late)) x
        (fun _ y => (x.session.since y.session).any Entry.marks = false → y.Inv b m)
          (fun _ => True) := by
      refine .bind
        (.get (.bind ((onSession_wp (shutdownNotice_undriven _ ⟨hs, alive⟩)).mono ?_ fun _ => id)))
      rintro drained _ ⟨t, ht, rfl⟩
      refine .modify fun clean => ⟨(ht clean).1, ?_, fun _ => (ht clean).2⟩
      dsimp only
      split <;> exact nofun
    exact st.ends ends clean
  | leave =>
    -- nor here: the notice left the connection alive, and no worker sets the mark
    have alive := inv.leaving (by simpa [Act.enabled] using enabled)
    have ends : Wp (act .leave) x (fun _ y => y.Inv b m) (fun _ => True) := by
      refine .bind ((onSession_wp (shutdown_undriven ⟨hs, alive⟩)).mono ?_ fun _ => id)
      rintro _ _ ⟨t, ht, rfl⟩
      exact .modify (.of_undriven ht nofun nofun)
    exact st.ends ends
  | closed | noPool | proceed | dispatched =>
    exact st.ends (S := fun _ => True) (Q := fun _ y => y.Inv b m)
      (.modify (.of_undriven hs nofun nofun))
  | stop =>
    exact st.ends (S := fun _ => True) (Q := fun _ y => y.Inv b m)
      (.modify ⟨hs, inv.creating, inv.leaving⟩)
  | accept =>
    have ends : Wp (act .accept) x (fun _ y => y.Inv b m) (fun _ => True) := by
      refine .bind ((onSession_wp (accept_undriven hs)).mono ?_ fun _ => id)
      rintro more _ ⟨t, ht, rfl⟩
      refine .modify (.of_undriven ht ?_ ?_)
      all_goals
        dsimp only
        split <;> exact nofun
    exact st.ends ends
  | drain =>
    have ends : Wp (act .drain) x (fun _ y => Each FinLaw y.session.log → y.Inv b m)
        (fun _ => True) := by
      refine .bind ((onSession_wp (drainAndFlush_undriven hs)).mono ?_ fun _ => id)
      rintro _ _ ⟨t, ht, rfl⟩
      refine .bind (.get ?_)
      split
      · exact .modify fun law => .of_undriven (ht law) nofun nofun
      · exact .modify fun law => .of_undriven (ht law) nofun nofun
    exact st.ends ends careful
  | dispatch ok =>
    have ends : Wp (act (.dispatch ok)) x (fun _ y => y.Inv b m) (fun _ => True) := by
      refine .modify ?_
      split
      · exact .of_undriven (hs.same rfl rfl) nofun nofun
      · exact inv
    exact st.ends ends
  | flush =>
    have ends : Wp (act .flush) x (fun _ y => y.Inv b m) (fun _ => True) := by
      refine .bind ((onSession_wp (flush_undriven hs)).mono ?_ fun _ => id)
      rintro _ _ ⟨t, ht, rfl⟩
      exact .modify (.of_undriven ht.1 nofun nofun)
    exact st.ends ends
  | destroy =>
    have ends : Wp (act .destroy) x (fun _ y => y.Inv b m) (fun _ => True) := by
      refine .bind ((onSession_wp (destroy_undriven hs)).mono ?_ fun _ => id)
      rintro _ _ ⟨t, ht, rfl⟩
      exact .modify (.of_undriven ht nofun nofun)
    exact st.ends ends
  | submit r w =>
    obtain ⟨on, same⟩ := agrees enabled
    exact st.ends (worker on (submitResponse_undriven hs same))
  | append r w data malloc =>
    obtain ⟨on, same⟩ := agrees enabled
    exact st.ends (worker on (appendResponse_undriven hs same))
  | complete r w =>
    obtain ⟨on, same⟩ := agrees enabled
    exact st.ends (worker on (completeResponse_undriven hs same))
  | undispatch r | workerDone r => exact st.ends (worker enabled (.modify ⟨hs.same rfl rfl, rfl⟩))
  | process r => exact st.ends (worker enabled (.modify ⟨hs.emit rfl, rfl⟩))

end

/-- In every run of passes, workers and shutdown in which nghttp3 does not fail where the mark is
not looked at, a dead connection is left alone. -/
theorem dead_connection_undriven {b m : Nat} {as : List Act} {x : Service}
    (run : Run (fun x a y => Acts x a y ∧ Careful x a y) (.init b m) as x) :
    Undriven x.session := by
  have inv : x.Inv b m := by
    refine run.invariant (P := Service.Inv b m) ?_ ⟨.init b m, fun _ => rfl, nofun⟩
    intro x a y inv st
    exact act_inv st.1 st.2 inv
  exact inv.undriven

instance Careful.decidable {x y : Service} : ∀ a, Decidable (Careful x a y)
  | .notice _ => inferInstanceAs (Decidable (_ = false ∧ _ = false))
  | .drain => inferInstanceAs (Decidable (Each FinLaw _))
  | .create _ | .start | .leave | .closed | .noPool | .proceed | .accept | .dispatch _ | .dispatched
  | .flush
  | .destroy | .stop | .submit _ _ | .append _ _ _ _ | .complete _ _ | .undispatch _ | .process _
  | .workerDone _ => .isTrue trivial

/-- A session goes into service and accepts the first request stream. -/
def firstStream : List (Act × List Answer) :=
  [(.create true, [.opened (some 3), .opened (some 7), .opened (some 11), .bound 0, .bound 0,
      .condCreated true, .condCreated true, .condCreated true]),
    (.start, []), (.proceed, []), (.accept, [.accepted (some 0), .condCreated true]),
    (.accept, [.accepted none])]

/-- A request is dispatched and submits its response; in the next pass nghttp3 fails on another
stream, and the worker completes the response. -/
def failingStream : List (Act × List Answer) :=
  firstStream.append
  [(.drain, [.order [0, 1, 2, 3], .states .ok .ok, .read (.data [1, 2, 0, 0]),
      .called [.beginHeaders 0, .recvHeader 0 .method [] [71, 69, 84], .endHeaders 0 false] 4,
      .read .fin,
      .called [] 0, .writev [] 0 (-1) false []]),
    (.dispatch true, []), (.dispatched, []), (.submit 3 (.init 65536), [.called [] 0]),
    (.flush, [.writev [] 0 (-1) false []]),
    (.start, []), (.proceed, []), (.accept, [.accepted (some 4), .condCreated true]),
    (.accept, [.accepted none]),
    (.drain, [.order [0, 1, 2, 3, 4], .states .finished .ok, .states .ok .ok, .read (.data [0]),
      .called [] (-408)]),
    (.complete 3
      { Response.Stream.init 65536 with aborted := true, ngh3Dead := true,
                                        responseSubmitted := true }, []),
    (.workerDone 3, []), (.stop, []), (.destroy, [])]

/-- A connection that dies while a worker is on it is left alone. -/
theorem dead_connection_undriven_failingStream :
    ∃ as x, Run (fun x a y => Acts x a y ∧ Careful x a y) (.init 65536 1000) as x ∧
      x.session.ngh3Dead = true ∧ Undriven x.session := by
  have eq : (execAll (fun x op => (runAct x op).filter fun p => decide (Careful x p.2 p.1))
      (.init 65536 1000) failingStream).map (fun r => r.1.session.ngh3Dead) =
      some true := by decide +kernel
  obtain ⟨⟨x, as⟩, h, dead⟩ := Option.map_eq_some_iff.mp eq
  have run : Run (fun x a y => Acts x a y ∧ Careful x a y) (.init 65536 1000) as x := by
    refine execAll_run ?_ h
    intro x op y a eq
    obtain ⟨ran, careful⟩ := Option.filter_eq_some_iff.mp eq
    exact ⟨runAct_acts x op y a ran, of_decide_eq_true careful⟩
  exact ⟨as, x, run, dead, dead_connection_undriven run⟩

/-- The client resets a stream on which it has sent nothing. -/
def resetStream : List (Act × List Answer) :=
  firstStream.append
  [(.drain, [.order [0, 1, 2, 3], .states .resetRemote .ok, .called [] (-408), .called [] 0])]

/-- nghttp3 refuses the FIN and the connection is marked dead, but the stream is still closed in
nghttp3. -/
theorem reset_stream_drives_dead_connection :
    ∃ as x, Run Acts (.init 65536 1000) as x ∧ x.session.ngh3Dead = true ∧ ¬ Undriven x.session ∧
      x.session.log.drop 5 = [.op (.use (.isReadFinished .resetRemote .ok) 3),
        .call (.readStream 0 [] true) [] (-408), .call (.closeStream 0) [] 0] := by
  have eq : (execAll runAct (.init 65536 1000) resetStream).map (fun r =>
      decide (r.1.session.ngh3Dead = true ∧ ¬ Each CallLaw r.1.session.log ∧
        r.1.session.log.drop 5 = [.op (.use (.isReadFinished .resetRemote .ok) 3),
          .call (.readStream 0 [] true) [] (-408), .call (.closeStream 0) [] 0])) = some true := by
    decide +kernel
  obtain ⟨⟨x, as⟩, h, ends⟩ := Option.map_eq_some_iff.mp eq
  obtain ⟨dead, driven, log⟩ := of_decide_eq_true ends
  exact ⟨as, x, execAll_run runAct_acts h, dead, fun undriven => driven undriven.calls, log⟩

end ModHttp3.H3

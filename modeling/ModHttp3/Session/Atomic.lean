import ModHttp3.Listener.Stopping
import ModHttp3.Session.Flow

/-!
# A service pass is atomic for the listener

`service_session_pass` is modelled twice. The listener (`Listener.serviceSessionPass`) takes it as
one step and asks the environment for what becomes of the session; the session itself (`Service`)
runs it section by section, with the lock released in between and workers running meanwhile. `Shows`
relates the flags that both have.

`record` reads the passes off a run of the session: for each one the `thread_running` that it found,
and the answers of the environment that its sections had (`hear`). `Halfway` says where a pass is,
for the listener, with the answers so far. `passes_refined` concludes that the listener's steps on
these answers, one for each pass and in the same order, leave the flags that the session has; so
what was proved of the listener for every answer holds of the sessions it services.
-/

namespace ModHttp3.H3
open ModHttp3.Lib ModHttp3.Lib.Script

/-- The listener sees the flags of the session, with the time of the first notice as 0. -/
structure Shows (x : Service) (l : Listener.Session) : Prop where
  aborted : l.aborted = x.aborted
  ngh3Dead : l.ngh3Dead = x.session.ngh3Dead
  goaway : l.goawayDeadline = if x.goaway then Listener.grace else 0

/-! ### The passes of a run -/

/-- What shows of an action when it is over: whether nghttp3 is dead, and where the event thread
is. -/
structure Outcome where
  dead : Bool
  pc : Pc

/-- The outcome of an action that led here. -/
def Service.outcome (x : Service) : Outcome where
  dead := x.session.ngh3Dead
  pc := x.pc

/-- An error of nghttp3, or none. -/
def failure (dead : Bool) : Option (UInt64 × String) := if dead then some (0, "") else none

/-- The answers of a pass that has just begun. -/
def noAnswer : Listener.PassAnswer where
  noticeDied := none
  drained := false
  now := 0
  later := 0
  shutdownDied := none
  closed := false
  scratch := true
  streams := 0
  corrupted := false
  drainDied := none
  flushDied := none
  dataRead := false

/-- The answers of a pass after one more of its actions. The clock of the listener shows 0 at the
notice, and the end of the grace period when the session finds it late. -/
def hear (o : Outcome) (p : Listener.PassAnswer) : Act → Listener.PassAnswer
  | .notice late =>
    { p with
      noticeDied := failure o.dead
      drained := !late && o.pc == .leaving
      later := if late then Listener.grace else 0 }
  | .leave => { p with shutdownDied := failure o.dead }
  | .closed => { p with closed := true }
  | .noPool => { p with scratch := false }
  | .accept => { p with streams := p.streams + if o.pc = .accepting then 1 else 0 }
  | .drain => { p with drainDied := failure o.dead }
  | .flush => { p with flushDied := failure o.dead }
  | _ => p

/-- The `thread_running` that a pass found, and its answers. -/
abbrev Pass := Bool × Listener.PassAnswer

/-- What a run has had of passes: those before the last one, and the last one, which may not be
over. -/
structure Record where
  running : Bool
  earlier : List Pass
  last : Option Pass

/-- All of them, in order. -/
def Record.all (r : Record) : List Pass := r.earlier ++ r.last.toList

/-- One more action. -/
def Record.next (r : Record) (e : Act × Outcome) : Record :=
  match e.1 with
  | .stop => { r with running := false }
  | .start => { r with earlier := r.all, last := some (r.running, noAnswer) }
  | a => { r with last := r.last.map fun p => (p.1, hear e.2 p.2 a) }

/-- The listener's passes over a session, each with the `thread_running` that it found. -/
def passes (io : Listener.Io) (l : Listener.Session) (ps : List Pass) : Listener.Session :=
  ps.foldl (fun l p => (Listener.serviceSessionPass { io with threadRunning := p.1 } l p.2).2.1) l

/-- What `thread_running` was when the passes began, and what it is now: it is cleared once. -/
def Cleared (ps : List Pass) (now : Bool) : Prop :=
  (ps.map Prod.fst ++ [now]).Pairwise fun before after => after = true → before = true

/-! ### Where a pass is -/

/-- The session after the notice, by whether nghttp3 failed in it. -/
def noticed (l : Listener.Session) (dead : Bool) : Listener.Session :=
  let l := l.markNgh3Dead (failure dead)
  if l.goawayDeadline = 0 then { l with goawayDeadline := Listener.grace } else l

/-- The answers of a pass that found `thread_running` cleared, up to the notice. -/
structure Noticed (l : Listener.Session) (dead : Bool) (p : Listener.PassAnswer) : Prop where
  noticeDied : p.noticeDied = failure dead
  now : p.now = 0
  deadline : (noticed l dead).goawayDeadline = Listener.grace

/-- The session with which a pass comes to the connection and its streams. -/
inductive Base (io : Listener.Io) (l : Listener.Session) (p : Listener.PassAnswer) :
    Listener.Session → Prop where
  | running :
    io.threadRunning = true →
    Base io l p l
  | stopping {dead} :
    io.threadRunning = false →
    Noticed l dead p →
    p.drained = false →
    p.later = 0 →
    Base io l p (noticed l dead)

/-- A pass has had no answer about the streams. -/
structure Unanswered (p : Listener.PassAnswer) : Prop where
  closed : p.closed = false
  scratch : p.scratch = true
  corrupted : p.corrupted = false
  drainDied : p.drainDied = none
  flushDied : p.flushDied = none

/-- Where a pass is, for the listener, with its answers so far. -/
inductive Halfway (io : Listener.Io) (l : Listener.Session) (p : Listener.PassAnswer)
    (u : Service) : Prop where
  | notice :
    u.pc = .notice →
    io.threadRunning = false →
    p = noAnswer →
    Shows u l →
    Halfway io l p u
  | leaving {dead} :
    u.pc = .leaving →
    io.threadRunning = false →
    Noticed l dead p →
    (p.drained || decide (p.later ≥ Listener.grace)) = true →
    Shows u (noticed l dead) →
    Halfway io l p u
  | streams {b} :
    u.pc = .checking ∨ u.pc = .accepting ∨ u.pc = .draining →
    Base io l p b →
    Unanswered p →
    Shows u b →
    Halfway io l p u
  | drained {b} :
    (∃ todo, u.pc = .dispatching todo) ∨ u.pc = .flushing →
    Base io l p b →
    Unanswered p →
    b.ngh3Dead = false →
    Shows u b →
    Halfway io l p u
  | back :
    u.pc = .idle →
    Shows u (Listener.serviceSessionPass io l p).2.1 →
    Halfway io l p u

section
variable {s t : Session} {x y u v : Service} {l b : Listener.Session} {io : Listener.Io} {a : Act}
  {p : Listener.PassAnswer}

/-! ### The mark of a dead connection -/

/-- Nothing takes the mark away. -/
lemma Move.dead_mono (m : Move s t) (dead : s.ngh3Dead = true) : t.ngh3Dead = true := by
  cases m with
  | call cbs rv _ => exact (runCbs_frame cbs).ngh3Dead.trans dead
  | feed cbs rv _ _ _ _ =>
    rw [Session.feed_dead, dead]
    rfl
  | feedFin cbs rv _ _ _ _ =>
    rw [feedFin_dead, dead]
    rfl
  | dead => rfl
  | acquire | use | freeHeld | track | retrack | popFree | writeBlocked | done | cancel | completed
  | cursor | newPass
  | reclaim | ngh3Gone | created | phase | dispatch | undispatch | process | workerDone =>
    exact dead

/-- A dead session stays dead. -/
lemma Moves.dead_mono (ms : Moves s t) (dead : s.ngh3Dead = true) : t.ngh3Dead = true := by
  induction ms with
  | refl => exact dead
  | tail _ m ih => exact m.dead_mono ih

/-- A program that only makes moves keeps the mark. -/
lemma goes_dead_mono {β : Type} {p : Prog β} (goes : Goes Move p) (s : Session) :
    Wp p s (fun _ t => s.ngh3Dead = true → t.ngh3Dead = true) (fun _ => True) :=
  (goes s).mono (fun _ _ ms => Moves.dead_mono ms) fun _ _ => trivial

/-- Workers do not change it. -/
lemma resumeResponse_dead (s : Session) (r : Ref) (w : Response.Stream) (resumed : Bool) :
    Wp (resumeResponse r w resumed) s (fun _ t => t.ngh3Dead = s.ngh3Dead) (fun _ => True) := by
  refine .bind (.get (.bind (.modify ?_)))
  cases resumed with
  | false => exact .pure rfl
  | true =>
    refine .bind ((callNgh3_wp _ trivial).mono ?_ fun _ => id)
    rintro _ _ ⟨cbs, rv, rfl⟩
    exact .pure (runCbs_frame cbs).ngh3Dead

/-- Submitting a response does not kill the session. -/
lemma submitResponse_dead (s : Session) (r : Ref) (w : Response.Stream) :
    Wp (submitResponse r w) s (fun _ t => t.ngh3Dead = s.ngh3Dead) (fun _ => True) := by
  refine .bind (.get ?_)
  split
  · refine .bind ((callNgh3_wp _ trivial).mono ?_ fun _ => id)
    rintro _ _ ⟨cbs, rv, rfl⟩
    exact .modify (runCbs_frame cbs).ngh3Dead
  · exact .pure rfl

/-- Queueing response bytes does not kill the session. -/
lemma appendResponse_dead (s : Session) (r : Ref) (w : Response.Stream) (data : List UInt8)
    (malloc : Option Ptr) :
    Wp (appendResponse r w data malloc) s (fun _ t => t.ngh3Dead = s.ngh3Dead) (fun _ => True) := by
  unfold appendResponse
  split
  · exact resumeResponse_dead s r _ _
  · exact resumeResponse_dead s r _ _
  · exact .pure rfl

/-- Accepting a stream does not kill the session. -/
lemma acceptStream_dead (s : Session) :
    Wp acceptStream s (fun _ t => t.ngh3Dead = s.ngh3Dead) (fun _ => True) := by
  refine acceptStream_wp.mono ?_ fun _ => id
  rintro more t (⟨_, rfl⟩ | ⟨_, sid, rfl | rfl | ⟨r, _, rfl⟩⟩)
  · rfl
  · rfl
  · rfl
  · rfl

/-- The mark after an action on the session. -/
lemma onSession_dead {β : Type} {p : Prog β} {P : Bool → Prop}
    (h : Wp p x.session (fun _ t => P t.ngh3Dead) fun _ => True) :
    Wp (onSession p) x (fun _ y => P y.session.ngh3Dead) (fun _ => True) := by
  refine (onSession_wp h).mono ?_ fun _ => id
  rintro _ _ ⟨t, ht, rfl⟩
  exact ht

/-- The sections that drive nghttp3 may set the mark; no other action changes it. -/
def Act.drives : Act → Bool
  | .notice _ | .leave | .drain | .flush => true
  | _ => false

/-- The notices of a shutdown are moves. -/
lemma shutdownNotice_goes (goaway : Bool) : Goes Move (shutdownNotice goaway) := by
  have rest : Goes Move (do
      flushNghttp3
      let drained ← callNgh3 .isDrained2
      pure (drained != 0)) :=
    flushNghttp3_goes.bind fun _ => (callNgh3_goes rfl).bind fun _ => .pure
  cases goaway with
  | true => exact rest
  | false => exact (callNgh3_goes rfl).bind fun _ => rest

/-- The shutdown is made of moves. -/
lemma shutdown_goes : Goes Move shutdown := (callNgh3_goes rfl).bind fun _ => flushNghttp3_goes

/-- Draining and flushing is made of moves. -/
lemma drainAndFlush_goes : Goes Move drainAndFlush :=
  drainReadyStreams_goes.bind fun _ => flushNghttp3_goes

/-- A section that drives the session leaves a dead one dead. -/
lemma act_dead_mono (st : Acts x a y) (drives : a.drives = true)
    (dead : x.session.ngh3Dead = true) :
    y.session.ngh3Dead = true := by
  have after : ∀ {β : Type} {p : Prog β}, Goes Move p →
      Wp (onSession p) x (fun _ y => y.session.ngh3Dead = true) (fun _ => True) := by
    intro β p goes
    refine (onSession_dead (P := fun d => x.session.ngh3Dead = true → d = true)
      (goes_dead_mono goes _)).mono ?_ fun _ => id
    exact fun _ _ mono => mono dead
  cases a with
  | notice late =>
    have ends : Wp (act (.notice late)) x (fun _ y => y.session.ngh3Dead = true)
        (fun _ => True) := by
      refine .bind (.get (.bind ((after (shutdownNotice_goes _)).mono ?_ fun _ => id)))
      exact fun _ _ dead => .modify dead
    exact st.ends ends
  | leave =>
    have ends : Wp (act .leave) x (fun _ y => y.session.ngh3Dead = true) (fun _ => True) := by
      refine .bind ((after shutdown_goes).mono ?_ fun _ => id)
      exact fun _ _ dead => .modify dead
    exact st.ends ends
  | drain =>
    have ends : Wp (act .drain) x (fun _ y => y.session.ngh3Dead = true) (fun _ => True) := by
      refine .bind ((after drainAndFlush_goes).mono ?_ fun _ => id)
      intro _ u dead
      refine .bind (.get ?_)
      split
      · exact .modify dead
      · exact .modify dead
    exact st.ends ends
  | flush =>
    have ends : Wp (act .flush) x (fun _ y => y.session.ngh3Dead = true) (fun _ => True) := by
      refine .bind ((after flushNghttp3_goes).mono ?_ fun _ => id)
      exact fun _ _ dead => .modify dead
    exact st.ends ends
  | _ => cases drives

/-- The workers and the accept loop do not kill the session. -/
lemma act_dead (st : Acts x a y) (quiet : a.byWorker = true ∨ a = .accept) :
    y.session.ngh3Dead = x.session.ngh3Dead := by
  have after : ∀ {β : Type} {p : Prog β},
    Wp p x.session (fun _ t => t.ngh3Dead = x.session.ngh3Dead) (fun _ => True) →
      Wp (onSession p) x (fun _ y => y.session.ngh3Dead = x.session.ngh3Dead) (fun _ => True) :=
    fun h => onSession_dead (P := fun d => d = x.session.ngh3Dead) h
  rcases quiet with worker | rfl
  · cases a with
    | submit r w => exact st.ends (after (submitResponse_dead _ r w))
    | append r w data malloc => exact st.ends (after (appendResponse_dead _ r w data malloc))
    | complete r w => exact st.ends (after (resumeResponse_dead _ r _ _))
    | undispatch r | process r | workerDone r => exact st.ends (after (.modify rfl))
    | _ => cases worker
  · have ends : Wp (act .accept) x (fun _ y => y.session.ngh3Dead = x.session.ngh3Dead)
        (fun _ => True) := by
      refine .bind ((after (acceptStream_dead _)).mono ?_ fun _ => id)
      exact fun _ _ same => .modify same
    exact st.ends ends

/-! ### The steps of a pass -/

/-- The mark after an error of nghttp3. -/
lemma markNgh3Dead_failure (l : Listener.Session) (dead : Bool) :
    (l.markNgh3Dead (failure dead)).ngh3Dead = (l.ngh3Dead || dead) := by
  cases dead with
  | true => exact (Bool.or_true _).symm
  | false => exact (Bool.or_false _).symm

/-- The mark goes up to what it is after a section. -/
lemma mono_or {d d' : Bool} (mono : d = true → d' = true) : (d || d') = d' := by
  cases d with
  | true => exact (mono rfl).symm
  | false => rfl

/-- The listener sees the same flags. -/
lemma Shows.same (h : Shows u l) (aborted : v.aborted = u.aborted) (goaway : v.goaway = u.goaway)
    (dead : v.session.ngh3Dead = u.session.ngh3Dead) : Shows v l where
  aborted := h.aborted.trans aborted.symm
  ngh3Dead := h.ngh3Dead.trans dead.symm
  goaway := by
    rw [goaway]
    exact h.goaway

/-- After the notice the deadline is set. -/
lemma Shows.deadline (h : Shows u l) (dead : Bool) :
    (H3.noticed l dead).goawayDeadline = Listener.grace := by
  have was := h.goaway
  rw [H3.noticed]
  split
  · rfl
  · rename_i set
    rw [Listener.markNgh3Dead_goawayDeadline] at set ⊢
    rw [was] at set ⊢
    cases goaway : u.goaway with
    | true => rfl
    | false =>
      rw [goaway] at set
      exact absurd rfl set

/-- The notice sets the deadline. -/
lemma Shows.noticed (h : Shows u l) (goaway : v.goaway = true) (aborted : v.aborted = u.aborted)
    (mono : u.session.ngh3Dead = true → v.session.ngh3Dead = true) :
    Shows v (noticed l v.session.ngh3Dead) := by
  have flags : (H3.noticed l v.session.ngh3Dead).aborted = l.aborted ∧
      (H3.noticed l v.session.ngh3Dead).ngh3Dead = (l.ngh3Dead || v.session.ngh3Dead) := by
    rw [← markNgh3Dead_failure, H3.noticed]
    split
    · exact ⟨Listener.markNgh3Dead_aborted .., rfl⟩
    · exact ⟨Listener.markNgh3Dead_aborted .., rfl⟩
  refine ⟨?_, ?_, ?_⟩
  · rw [flags.1, h.aborted, aborted]
  · rw [flags.2, h.ngh3Dead]
    exact mono_or mono
  · rw [h.deadline, goaway]
    rfl

/-- What the listener's step does while the thread is stopping. -/
lemma Noticed.goaway {dead : Bool} (h : Noticed l dead p) :
    Listener.goaway l p = if p.drained || decide (p.later ≥ Listener.grace) then
      ({ (noticed l dead).markNgh3Dead p.shutdownDied with aborted := true }, true) else
        (noticed l dead, false) := by
  rw [← h.deadline]
  simp only [Listener.goaway, noticed, h.noticeDied, h.now, Int.zero_add]
  rfl

/-- The pass comes to the streams with the base. -/
lemma Base.pass (base : Base io l p b) (live : l.aborted = false) :
    Listener.serviceSessionPass io l p = Listener.serviceStreams io b p := by
  cases base with
  | running running =>
    rw [Listener.serviceSessionPass, live, running]
    rfl
  | stopping stopping notice drained later =>
    rw [Listener.serviceSessionPass, live, stopping]
    simp only [Bool.false_eq_true, if_false]
    rw [notice.goaway, drained, later, if_neg (by decide)]

/-- The base does not depend on the other answers. -/
lemma Base.hear (base : Base io l p b) {p' : Listener.PassAnswer}
    (noticeDied : p'.noticeDied = p.noticeDied) (now : p'.now = p.now)
    (drained : p'.drained = p.drained) (later : p'.later = p.later) : Base io l p' b := by
  cases base with
  | running running => exact .running running
  | stopping stopping notice still early =>
    exact .stopping stopping ⟨noticeDied.trans notice.noticeDied, now.trans notice.now,
      notice.deadline⟩
      (drained.trans still) (later.trans early)

/-- A worker says nothing to the pass. -/
lemma hear_worker {o : Outcome} (is : a.byWorker = true) : hear o p a = p := by
  cases a with
  | submit | append | complete | undispatch | process | workerDone => rfl
  | _ => cases is

/-- Nor does it to the record. -/
lemma Record.next_worker {r : Record} {o : Outcome} (is : a.byWorker = true) :
    r.next (a, o) = r := by
  have same : r.last.map (fun p => (p.1, p.2)) = r.last := Option.map_id'
  cases a with
  | submit | append | complete | undispatch | process | workerDone =>
    rw [Record.next]
    simp only [hear]
    rw [same]
  | _ => cases is

namespace Halfway

/-- Nothing happens to the pass. -/
lemma same (h : Halfway io l p u) (pc : v.pc = u.pc) (aborted : v.aborted = u.aborted)
    (goaway : v.goaway = u.goaway) (dead : v.session.ngh3Dead = u.session.ngh3Dead) :
    Halfway io l p v := by
  cases h with
  | notice here stopping new seen =>
    exact .notice (pc.trans here) stopping new (seen.same aborted goaway dead)
  | leaving here stopping notice gives seen =>
    exact .leaving (pc.trans here) stopping notice gives (seen.same aborted goaway dead)
  | streams here base quiet seen =>
    exact .streams (pc ▸ here) base quiet (seen.same aborted goaway dead)
  | drained here base quiet alive seen =>
    exact .drained (pc ▸ here) base quiet alive (seen.same aborted goaway dead)
  | back here seen => exact .back (pc.trans here) (seen.same aborted goaway dead)

/-- In the first section of a pass that found `thread_running` cleared. -/
lemma at_notice (h : Halfway io l p u) (here : u.pc = .notice) :
    io.threadRunning = false ∧ p = noAnswer ∧ Shows u l := by
  cases h with
  | notice _ stopping new seen => exact ⟨stopping, new, seen⟩
  | leaving pc => rw [here] at pc; cases pc
  | streams pc => simp [here] at pc
  | drained pc => simp [here] at pc
  | back pc => rw [here] at pc; cases pc

/-- In the section that gives the session up. -/
lemma at_leaving (h : Halfway io l p u) (here : u.pc = .leaving) :
    io.threadRunning = false ∧ (p.drained || decide (p.later ≥ Listener.grace)) = true ∧
      ∃ dead, Noticed l dead p ∧ Shows u (noticed l dead) := by
  cases h with
  | notice pc => rw [here] at pc; cases pc
  | leaving _ stopping notice gives seen => exact ⟨stopping, gives, _, notice, seen⟩
  | streams pc => simp [here] at pc
  | drained pc => simp [here] at pc
  | back pc => rw [here] at pc; cases pc

/-- Before the streams were read. -/
lemma at_streams (h : Halfway io l p u)
    (here : u.pc = .checking ∨ u.pc = .accepting ∨ u.pc = .draining) :
    Unanswered p ∧ ∃ b, Base io l p b ∧ Shows u b := by
  cases h with
  | notice pc => simp [pc] at here
  | leaving pc => simp [pc] at here
  | streams _ base quiet seen => exact ⟨quiet, _, base, seen⟩
  | drained pc =>
    rcases pc with ⟨todo, pc⟩ | pc
    · simp [pc] at here
    · simp [pc] at here
  | back pc => simp [pc] at here

/-- After the streams were read. -/
lemma at_drained (h : Halfway io l p u)
    (here : (∃ todo, u.pc = .dispatching todo) ∨ u.pc = .flushing) :
    Unanswered p ∧ ∃ b, Base io l p b ∧ b.ngh3Dead = false ∧ Shows u b := by
  cases h with
  | notice pc => simp [pc] at here
  | leaving pc => simp [pc] at here
  | streams pc =>
    rcases pc with pc | pc | pc
    · simp [pc] at here
    · simp [pc] at here
    · simp [pc] at here
  | drained _ base quiet alive seen => exact ⟨quiet, _, base, alive, seen⟩
  | back pc => simp [pc] at here

/-- A pass is over a session in service. -/
lemma inside (h : Halfway io l p u) : u.pc ≠ .creating ∧ u.pc ≠ .destroyed := by
  cases h with
  | notice pc => simp [pc]
  | leaving pc => simp [pc]
  | streams pc => rcases pc with pc | pc | pc <;> simp [pc]
  | drained pc => rcases pc with ⟨todo, pc⟩ | pc <;> simp [pc]
  | back pc => simp [pc]

/-- The pass ends with the connection closed. -/
lemma closed (base : Base io l p b) (live : l.aborted = false) (seen : Shows u b) :
    Halfway io l { p with closed := true } { u with aborted := true, pc := .idle } := by
  have base' : Base io l { p with closed := true } b := base.hear rfl rfl rfl rfl
  refine .back rfl ?_
  rw [base'.pass live]
  exact ⟨rfl, seen.ngh3Dead, seen.goaway⟩

/-- It ends for want of memory. -/
lemma noPool (base : Base io l p b) (live : l.aborted = false) (quiet : Unanswered p)
    (seen : Shows u b) :
    Halfway io l { p with scratch := false } { u with pc := .idle } := by
  have base' : Base io l { p with scratch := false } b := base.hear rfl rfl rfl rfl
  refine .back rfl ?_
  rw [base'.pass live]
  simp only [Listener.serviceStreams, quiet.closed]
  exact ⟨seen.aborted, seen.ngh3Dead, seen.goaway⟩

/-- It ends because nghttp3 failed. -/
lemma died {t : Session} (base : Base io l p b) (live : l.aborted = false) (quiet : Unanswered p)
    (seen : Shows u b) (dead : t.ngh3Dead = true) :
    Halfway io l { p with drainDied := failure t.ngh3Dead }
      { u with session := t, aborted := true, pc := .idle } := by
  have base' : Base io l { p with drainDied := failure t.ngh3Dead } b := base.hear rfl rfl rfl rfl
  refine .back rfl ?_
  rw [base'.pass live, dead]
  simp only [Listener.serviceStreams, quiet.closed, quiet.scratch, Listener.Session.markNgh3Dead,
    failure, if_true]
  exact ⟨rfl, dead.symm, seen.goaway⟩

/-- It comes to its end. -/
lemma flushed {t : Session} (base : Base io l p b) (live : l.aborted = false) (quiet : Unanswered p)
    (alive : b.ngh3Dead = false) (seen : Shows u b) :
    Halfway io l { p with flushDied := failure t.ngh3Dead }
      { u with session := t, pc := .idle } := by
  have base' : Base io l { p with flushDied := failure t.ngh3Dead } b := base.hear rfl rfl rfl rfl
  refine .back rfl ?_
  rw [base'.pass live]
  simp only [Listener.serviceStreams, quiet.closed, quiet.scratch, quiet.corrupted, quiet.drainDied,
    Listener.Session.markNgh3Dead, alive]
  cases dead : t.ngh3Dead with
  | true => exact ⟨(Bool.or_false _).trans seen.aborted, dead.symm, seen.goaway⟩
  | false => exact ⟨(Bool.or_false _).trans seen.aborted, dead.symm, seen.goaway⟩

/-- It ends because the session was drained, or the grace period is over. -/
lemma left {t : Session} {dead : Bool} (stopping : io.threadRunning = false)
    (live : l.aborted = false) (notice : Noticed l dead p)
    (gives : (p.drained || decide (p.later ≥ Listener.grace)) = true)
    (seen : Shows u (noticed l dead)) (mono : u.session.ngh3Dead = true → t.ngh3Dead = true) :
    Halfway io l { p with shutdownDied := failure t.ngh3Dead }
      { u with session := t, aborted := true, pc := .idle } := by
  have notice' : Noticed l dead { p with shutdownDied := failure t.ngh3Dead } :=
    ⟨notice.noticeDied, notice.now, notice.deadline⟩
  refine .back rfl ?_
  rw [Listener.serviceSessionPass, live, stopping]
  simp only [Bool.false_eq_true, if_false]
  rw [notice'.goaway, if_pos gives]
  refine ⟨rfl, ?_, ?_⟩
  · dsimp only
    rw [markNgh3Dead_failure, seen.ngh3Dead]
    exact mono_or mono
  · dsimp only
    rw [Listener.markNgh3Dead_goawayDeadline]
    exact seen.goaway

/-- The notice: the session is given up, or the pass goes on to its streams. -/
lemma notified {t : Session} {drained late : Bool} (stopping : io.threadRunning = false)
    (seen : Shows u l) (mono : u.session.ngh3Dead = true → t.ngh3Dead = true) :
    let v :=
  { u with session := t, goaway := true, pc := if drained || late then .leaving else .checking }
    Halfway io l (hear v.outcome noAnswer (.notice late)) v := by
  intro v
  have next : Shows v (noticed l t.ngh3Dead) := seen.noticed rfl rfl mono
  have notice : Noticed l t.ngh3Dead (hear v.outcome noAnswer (.notice late)) :=
    ⟨rfl, rfl, seen.deadline _⟩
  cases leaves : drained || late with
  | true =>
    have here : v.pc = .leaving := if_pos leaves
    refine .leaving here stopping notice ?_ next
    show ((!late && v.pc == .leaving) ||
      decide ((if late then Listener.grace else 0) ≥ Listener.grace)) = true
    rw [here]
    cases late with
    | true => rfl
    | false => rfl
  | false =>
    have here : v.pc = .checking := if_neg (by rw [leaves]; exact Bool.false_ne_true)
    have early : late = false := (Bool.or_eq_false_iff.mp leaves).2
    refine .streams (.inl here) (.stopping stopping notice ?_ ?_) ⟨rfl, rfl, rfl, rfl, rfl⟩ next
    · show (!late && v.pc == .leaving) = false
      rw [here]
      exact Bool.and_false _
    · show (if late then Listener.grace else 0) = 0
      rw [early]
      rfl

/-- Every action leads on in the pass, or to its end. -/
lemma step (h : Halfway io l p u) (live : l.aborted = false) (st : Acts u a v)
    (pass : a ≠ .start ∧ a ≠ .destroy) :
    Halfway io l (hear v.outcome p a) v := by
  cases act_flow st with
  | create here _ => exact absurd here h.inside.1
  | start _ _ => exact absurd rfl pass.1
  | @notice late drained t here =>
    obtain ⟨stopping, rfl, seen⟩ := h.at_notice here
    exact .notified stopping seen (act_dead_mono st rfl)
  | leave here =>
    obtain ⟨stopping, gives, dead, notice, seen⟩ := h.at_leaving here
    exact .left stopping live notice gives seen (act_dead_mono st rfl)
  | closed here =>
    obtain ⟨_, b, base, seen⟩ := h.at_streams (.inl here)
    exact .closed base live seen
  | noPool here =>
    obtain ⟨quiet, b, base, seen⟩ := h.at_streams (.inl here)
    exact .noPool base live quiet seen
  | proceed here =>
    obtain ⟨quiet, b, base, seen⟩ := h.at_streams (.inl here)
    exact .streams (.inr (.inl rfl)) base quiet (seen.same rfl rfl rfl)
  | @accept more t here =>
    obtain ⟨quiet, b, base, seen⟩ := h.at_streams (.inr (.inl here))
    refine .streams ?_ (base.hear rfl rfl rfl rfl)
      ⟨quiet.closed, quiet.scratch, quiet.corrupted, quiet.drainDied, quiet.flushDied⟩
      (seen.same rfl rfl (act_dead st (.inr rfl)))
    cases more with
    | true => exact .inr (.inl rfl)
    | false => exact .inr (.inr rfl)
  | died here dead =>
    obtain ⟨quiet, b, base, seen⟩ := h.at_streams (.inr (.inr here))
    exact .died base live quiet seen dead
  | @drain t here alive =>
    obtain ⟨quiet, b, base, seen⟩ := h.at_streams (.inr (.inr here))
    have before : u.session.ngh3Dead = false := by
      rw [← Bool.not_eq_true]
      intro dead
      have after : t.ngh3Dead = true := act_dead_mono st rfl dead
      rw [alive] at after
      cases after
    have lives : failure t.ngh3Dead = none := by
      rw [alive]
      rfl
    exact .drained (.inl ⟨_, rfl⟩) (base.hear rfl rfl rfl rfl)
      ⟨quiet.closed, quiet.scratch, quiet.corrupted, lives, quiet.flushDied⟩
        (seen.ngh3Dead.trans before)
      (seen.same rfl rfl (alive.trans before.symm))
  | dispatch here =>
    obtain ⟨quiet, b, base, alive, seen⟩ := h.at_drained (.inl ⟨_, here⟩)
    exact .drained (.inl ⟨_, rfl⟩) base quiet alive (seen.same rfl rfl rfl)
  | dispatched here =>
    obtain ⟨quiet, b, base, alive, seen⟩ := h.at_drained (.inl ⟨_, here⟩)
    exact .drained (.inr rfl) base quiet alive (seen.same rfl rfl rfl)
  | flush here =>
    obtain ⟨quiet, b, base, alive, seen⟩ := h.at_drained (.inr here)
    exact .flushed base live quiet alive seen
  | destroy _ _ => exact absurd rfl pass.2
  | stop => exact h.same rfl rfl rfl rfl
  | worker is _ =>
    rw [hear_worker is]
    exact h.same rfl rfl rfl (act_dead st (.inl is))

/-- The event thread that is back has left the pass. -/
lemma at_idle (h : Halfway io l p u) (here : u.pc = .idle) :
    Shows u (Listener.serviceSessionPass io l p).2.1 := by
  cases h with
  | notice pc => rw [here] at pc; cases pc
  | leaving pc => rw [here] at pc; cases pc
  | streams pc => simp [here] at pc
  | drained pc => simp [here] at pc
  | back _ seen => exact seen

end Halfway

/-! ### Whole runs -/

/-- Opening the control streams does not set the mark. -/
lemma create_dead (new : s.controlStreamsCreated = false) (alive : s.ngh3Dead = false) :
    Wp (exec .create) s (fun _ t => t.ngh3Dead = false) (fun _ => True) := by
  refine create_wp new ?_ ?_ ?_ alive
  · intro u v hu o
    cases o with
    | acquire | track | retrack => exact hu
  · exact fun u h hu => hu
  · exact fun u v hu _ _ _ dead => dead.trans hu

/-- A session that came out of its creation is in service. -/
lemma create_alive {ok : Bool} (st : Acts x (.create ok) y)
    (new : x.session.controlStreamsCreated = false) (alive : x.session.ngh3Dead = false) :
    y.pc = .idle → y.session.ngh3Dead = false := by
  have ends : Wp (act (.create ok)) x (fun _ y => y.pc = .idle → y.session.ngh3Dead = false)
      (fun _ => True) := by
    refine .bind ((onSession_dead (P := fun d => d = false) (create_dead new alive)).mono ?_
      fun _ => id)
    intro _ u alive
    refine .bind (.get ?_)
    split
    · exact .modify fun _ => alive
    · exact .bind ((onSession_any _).mono (fun _ _ _ => .modify nofun) fun _ => id)
  exact st.ends ends

/-- More answers of a pass do not change what it found. -/
lemma Cleared.hear {r : Record} {now : Bool} (h : Cleared r.all now) (f : Pass → Pass)
    (same : ∀ p, (f p).1 = p.1) :
    Cleared { r with last := r.last.map f }.all now := by
  have kept : ({ r with last := r.last.map f } : Record).all.map Prod.fst = r.all.map Prod.fst := by
    simp only [Record.all, List.map_append]
    cases r.last with
    | none => rfl
    | some p =>
      rw [Option.map_some, Option.toList_some, List.map_singleton, same]
      rfl
  rw [Cleared, kept]
  exact h

/-- `thread_running` is cleared once. -/
lemma Cleared.next {r : Record} (h : Cleared r.all r.running) (e : Act × Outcome) :
    Cleared (r.next e).all (r.next e).running := by
  obtain ⟨a, o⟩ := e
  cases a with
  | stop =>
    rw [Cleared, List.pairwise_append] at h ⊢
    refine ⟨h.1, List.pairwise_singleton .., ?_⟩
    intro before _ after mem
    cases List.mem_singleton.mp mem
    exact nofun
  | start =>
    have all : (r.next (.start, o)).all = r.all ++ [(r.running, noAnswer)] := rfl
    rw [all, Cleared, List.map_append, List.pairwise_append]
    refine ⟨h, List.pairwise_singleton .., ?_⟩
    intro before mem after is
    cases List.mem_singleton.mp is
    rcases List.mem_append.mp mem with mem | mem
    · exact (List.pairwise_append.mp h).2.2 before mem r.running (List.mem_singleton_self _)
    · cases List.mem_singleton.mp mem
      exact id
  | _ => exact h.hear _ fun _ => rfl

/-- What the listener knows of a session. -/
inductive Follows (io : Listener.Io) (l : Listener.Session) (r : Record) (x : Service) : Prop where
  | creating :
    x.pc = .creating →
    x.session.controlStreamsCreated = false →
    x.session.phase = .created →
    x.session.ngh3Dead = false →
    r.all = [] →
    Shows x l →
    Follows io l r x
  | between :
    x.pc = .idle →
    Shows x (passes io l r.all) →
    Follows io l r x
  | inside {running p} :
    r.last = some (running, p) →
    (passes io l r.earlier).aborted = false →
    Halfway { io with threadRunning := running } (passes io l r.earlier) p x →
    Follows io l r x
  | destroyed :
    x.pc = .destroyed →
    Follows io l r x

namespace Follows
variable {r : Record}

/-- Between two passes. -/
lemma at_idle (h : Follows io l r x) (here : x.pc = .idle) : Shows x (passes io l r.all) := by
  cases h with
  | creating pc => rw [here] at pc; cases pc
  | between _ seen => exact seen
  | inside last _ half =>
    rw [Record.all, last, passes, Option.toList_some, List.foldl_append]
    exact half.at_idle here
  | destroyed pc => rw [here] at pc; cases pc

/-- While the control streams are opened. -/
lemma at_creating (h : Follows io l r x) (here : x.pc = .creating) :
    x.session.controlStreamsCreated = false ∧ x.session.ngh3Dead = false ∧ r.all = [] ∧
    Shows x l := by
  cases h with
  | creating _ new _ alive noPass seen => exact ⟨new, alive, noPass, seen⟩
  | between pc => rw [here] at pc; cases pc
  | inside _ _ half => exact absurd here half.inside.1
  | destroyed pc => rw [here] at pc; cases pc

/-- A worker does something. -/
lemma worker (h : Follows io l r x) (st : Acts x a y) (is : a.byWorker = true) :
    Follows io l r y := by
  have dead := act_dead st (.inl is)
  cases act_flow st with
  | worker _ on =>
    cases h with
    | creating _ _ phase => simp [Sect.enabled, phase] at on
    | between here seen => exact .between here (seen.same rfl rfl dead)
    | inside last live half => exact .inside last live (half.same rfl rfl rfl dead)
    | destroyed here => exact .destroyed here
  | _ => cases is

/-- The server is asked to stop. -/
lemma stop (h : Follows io l r x) (o : Outcome) :
    Follows io l (r.next (.stop, o)) { x with threadRunning := false } := by
  cases h with
  | creating here new phase alive noPass seen =>
    exact .creating here new phase alive noPass (seen.same rfl rfl rfl)
  | between here seen => exact .between here (seen.same rfl rfl rfl)
  | inside last live half => exact .inside last live (half.same rfl rfl rfl rfl)
  | destroyed here => exact .destroyed here

/-- A pass begins. -/
lemma start (h : Follows io l r x) (here : x.pc = .idle) (live : x.aborted = false)
    (running : r.running = x.threadRunning) (o : Outcome) :
    Follows io l (r.next (.start, o))
      { x with pc := if x.threadRunning then .checking else .notice } := by
  have seen := h.at_idle here
  refine .inside rfl (seen.aborted.trans live) ?_
  rw [running]
  cases on : x.threadRunning with
  | true =>
    exact .streams (.inl rfl) (.running rfl) ⟨rfl, rfl, rfl, rfl, rfl⟩ (seen.same rfl rfl rfl)
  | false => exact .notice rfl rfl rfl (seen.same rfl rfl rfl)

/-- In a pass. -/
lemma step_inside (h : Follows io l r x) (st : Acts x a y) (pass : a ≠ .start ∧ a ≠ .destroy)
    (next : r.next (a, y.outcome) =
      { r with last := r.last.map fun p => (p.1, hear y.outcome p.2 a) })
    (here : x.pc ≠ .creating ∧ x.pc ≠ .idle ∧ x.pc ≠ .destroyed) :
    Follows io l (r.next (a, y.outcome)) y := by
  cases h with
  | creating pc => exact absurd pc here.1
  | between pc => exact absurd pc here.2.1
  | inside last live half =>
    rw [next, last]
    exact .inside rfl live (half.step live st pass)
  | destroyed pc => exact absurd pc here.2.2

/-- What one action keeps. -/
lemma step (h : Follows io l r x) (running : r.running = x.threadRunning) (st : Acts x a y) :
    Follows io l (r.next (a, y.outcome)) y := by
  cases act_flow st with
  | @create ok t pc here led =>
    obtain ⟨new, alive, noPass, seen⟩ := h.at_creating here
    rcases led with rfl | rfl
    · have still : t.ngh3Dead = false := create_alive st new alive rfl
      have last : r.last = none := Option.toList_eq_nil_iff.mp (List.append_eq_nil_iff.mp noPass).2
      refine .between rfl ?_
      have all : (r.next (.create ok, Service.outcome { x with session := t, pc := .idle })).all =
          [] := by
        rw [Record.next, last]
        rw [Record.all, last] at noPass
        exact noPass
      rw [all]
      exact seen.same rfl rfl (still.trans alive.symm)
    · exact .destroyed rfl
  | start here live => exact h.start here live running _
  | destroy here aborted => exact .destroyed rfl
  | stop => exact h.stop _
  | worker is _ =>
    rw [Record.next_worker is]
    exact h.worker st is
  | notice here | leave here | closed here | noPool here | proceed here | accept here | died here _
  | drain here _
  | dispatch here | dispatched here | flush here =>
    refine h.step_inside st ⟨nofun, nofun⟩ rfl ?_
    rw [here]
    exact ⟨nofun, nofun, nofun⟩

end Follows

end

end ModHttp3.H3

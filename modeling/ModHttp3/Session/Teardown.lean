import ModHttp3.Session.Binding

/-!
# Teardown of a session

`h3_session_destroy` releases the handles of the deferred list and no others. A handle gets there by
a callback of nghttp3 on a stream that a header block has bound, which the server's own streams
never are. So the handle of the first control stream stays where it is for the whole life of the
session (`Pinned`), and destroying the session releases every handle only if the control streams
were never created.
-/

namespace ModHttp3.H3
open ModHttp3.Lib ModHttp3.Lib.Script

/-- The first handle, of the control stream, is neither released nor queued for release, and the
object that has it is not one of a client. -/
structure Pinned (s : Session) : Prop where
  created : s.controlStreamsCreated = true
  many : 3 ≤ s.handles
  phase : s.phase ≠ .created
  kept : 0 ∉ freed (ops s.log)
  queued : 0 ∉ s.pendingFree
  server : ∀ r, (s.objs r).qstream = some 0 → sidIsServer (s.objs r).streamId = true

section
variable {s t u : Session} {r : Ref} {h : Handle}

/-- A use frees nothing. -/
lemma freed_ops_use (log : List Entry) (u : Use) (h : Handle) :
    freed (ops (log ++ [Entry.op (.use u h)])) = freed (ops log) := by
  rw [ops_op, freed_append, freed_use, List.append_nil]

/-- A call frees nothing. -/
lemma freed_ops_call (log : List Entry) (c : Call) (cbs : List Cb) (rv : Int) :
    freed (ops (log ++ [Entry.call c cbs rv])) = freed (ops log) := by
  rw [ops_call]

/-- A free frees handle 0 only if it is the one. -/
lemma mem_freed_free (log : List Entry) (h : Handle) :
    0 ∉ freed (ops (log ++ [Entry.op (.free h)])) ↔ 0 ∉ freed (ops log) ∧ 0 ≠ h := by
  rw [ops_op, freed_append, freed_free, List.mem_append, List.mem_singleton, not_or]

/-- A change of one object keeps a handle with the streams of the server. -/
lemma server_update {objs : Ref → H3Stream} {x : H3Stream}
    (old : ∀ r, (objs r).qstream = some h → sidIsServer (objs r).streamId = true)
    (new : x.qstream = some h → sidIsServer x.streamId = true) (r' : Ref) :
    (Function.update objs r x r').qstream = some h →
      sidIsServer (Function.update objs r x r').streamId = true :=
  update_rel (P := fun x y => (x.qstream = some h → sidIsServer x.streamId = true) →
    y.qstream = some h → sidIsServer y.streamId = true) (fun _ => new) (fun _ hx => hx) r' (old r')

/-- A change of the session within the frame of the callbacks. -/
lemma Pinned.frame (hs : Pinned s) (frame : s.Frame t) (log : freed (ops t.log) = freed (ops s.log))
    (queued : 0 ∉ t.pendingFree) : Pinned t where
  created := frame.controlStreamsCreated ▸ hs.created
  many := frame.handles ▸ hs.many
  phase := frame.phase ▸ hs.phase
  kept := log ▸ hs.kept
  queued := queued
  server r hq := by
    rw [(frame.objs r).streamId]
    rcases (frame.objs r).qstream with eq | eq
    · exact hs.server r (eq ▸ hq)
    · rw [eq] at hq
      cases hq

/-- The handle of a client's stream is not the first one. -/
lemma Pinned.dropQstream (hs : Pinned s) (client : sidIsServer (s.objs r).streamId = false) :
    0 ∉ (dropQstream s r).pendingFree := by
  rw [H3.dropQstream]
  split
  · exact hs.queued
  · rename_i h hq
    show 0 ∉ s.pendingFree ++ [h]
    rw [List.mem_append, List.mem_singleton, not_or]
    refine ⟨hs.queued, ?_⟩
    rintro rfl
    rw [hs.server r hq] at client
    cases client

/-- No callback reaches the control stream. -/
lemma Pinned.effect (hs : Pinned s) (bound : Bound s) (h : Effect s t) : Pinned t := by
  have frame := h.frame
  cases h with
  | nothing => exact hs
  | update => exact hs.frame frame rfl hs.queued
  | bind => exact hs.frame frame rfl hs.queued
  | @drop sid r f ref mild =>
    obtain ⟨_, rfl, client⟩ := bound.userData sid r ref
    refine hs.frame frame ?_ (hs.dropQstream client)
    show freed (ops (H3.dropQstream s r).log) = _
    rw [dropQstream_log]
  | reset => exact hs.frame frame (freed_ops_use ..) hs.queued

/-- Callbacks leave the control stream pinned. -/
lemma Pinned.runCbs (hs : Pinned s) (bound : Bound s) (cbs : List Cb) : Pinned (runCbs s cbs) := by
  induction cbs generalizing s with
  | nil => exact hs
  | cons cb cbs ih => exact ih (hs.effect bound (runCb_effect cb)) (bound.effect (runCb_effect cb))

/-- An entry that frees nothing leaves the control stream pinned. -/
lemma Pinned.emit (hs : Pinned s) {e : Entry}
    (quiet : freed (ops (s.log ++ [e])) = freed (ops s.log)) :
    Pinned (s.emit e) :=
  hs.frame (Session.emit_frame e) quiet hs.queued

/-- Changing an object but not its handle or its id. -/
lemma Pinned.modifyObj (hs : Pinned s) {f : H3Stream → H3Stream}
    (id : (f (s.objs r)).streamId = (s.objs r).streamId)
    (qstream : (f (s.objs r)).qstream = (s.objs r).qstream) : Pinned (s.modifyObj r f) := by
  refine ⟨hs.created, hs.many, hs.phase, hs.kept, hs.queued, server_update hs.server ?_⟩
  rw [id, qstream]
  exact hs.server r

/-- A stream that gets the first handle is a stream of the server. -/
lemma Pinned.taken (hs : Pinned s) {sid : Int} (taken : s.taken sid h) :
    h = 0 → sidIsServer sid = true := by
  rintro rfl
  rcases taken.2.2 with ⟨_, newest⟩ | server
  · have many := hs.many
    rw [← newest] at many
    contradiction
  · exact server

/-- Tracking a stream leaves the control stream pinned. -/
lemma Pinned.track (hs : Pinned s) {sid : Int} (taken : s.taken sid h) :
    Pinned (s.track sid h) := by
  refine ⟨hs.created, hs.many, hs.phase, hs.kept, hs.queued, server_update hs.server ?_⟩
  exact fun hq => hs.taken taken (Option.some.inj hq)

/-- Opening the stream of an object leaves the control stream pinned. -/
lemma Pinned.retrack (hs : Pinned s) (taken : s.taken (s.objs r).streamId h) :
    Pinned (s.retrack r h) := by
  refine ⟨hs.created, hs.many, hs.phase, hs.kept, hs.queued, server_update hs.server ?_⟩
  exact fun hq => hs.taken taken (Option.some.inj hq)

/-- Every move leaves the control stream alone. -/
theorem Pinned.move (hs : Pinned s) (owns : Owns s) (bound : Bound s) (m : Move s t) :
    Pinned t := by
  have called : ∀ c cbs rv, Pinned (H3.runCbs (s.emit (.call c cbs rv)) cbs) := by
    intro c cbs rv
    exact (hs.emit (freed_ops_call ..)).runCbs (bound.emit _) cbs
  cases m with
  | acquire sid =>
    refine ⟨hs.created, Nat.le_succ_of_le hs.many, hs.phase, ?_, hs.queued, hs.server⟩
    rw [ops_acquire]
    exact hs.kept
  | use u owner other => exact hs.emit (freed_ops_use ..)
  | @freeHeld h mem newest =>
    refine ⟨hs.created, hs.many, hs.phase, (mem_freed_free ..).mpr ⟨hs.kept, ?_⟩, hs.queued,
      hs.server⟩
    -- in service only the newest handle is released so, and several were handed out
    rcases newest with ⟨_, newest⟩ | created
    · rintro rfl
      have many := hs.many
      rw [← newest] at many
      contradiction
    · exact absurd created hs.phase
  | track taken => exact hs.track taken
  | retrack mem taken => exact hs.retrack taken
  | call cbs rv other => exact called _ cbs rv
  | @feed r h data cbs rv hq ne client =>
    have read : Pinned (s.reading r h data cbs rv) := by
      refine ⟨hs.created, hs.many, hs.phase, ?_, hs.queued, hs.server⟩
      show 0 ∉ freed (ops (s.log ++ [_] ++ [_]))
      rw [freed_ops_call, freed_ops_use]
      exact hs.kept
    have fed := read.runCbs (bound.reading (owns.lt_next hq) client) cbs
    exact ⟨fed.created, fed.many, fed.phase, fed.kept, fed.queued, fed.server⟩
  | @feedFin r h u cbs rv =>
    have fed := called (.readStream (s.objs r).streamId [] true) cbs rv
    unfold Session.feedFin
    apply Pinned.modifyObj
    · exact ⟨fed.created, fed.many, fed.phase, fed.kept, fed.queued, fed.server⟩
    · rfl
    · rfl
  | @popFree h last =>
    have mem : h ∈ s.pendingFree := List.mem_of_getLast? last
    refine ⟨hs.created, hs.many, hs.phase, (mem_freed_free ..).mpr ⟨hs.kept, ?_⟩, ?_, hs.server⟩
    · exact fun eq => hs.queued (eq ▸ mem)
    · exact fun mem => hs.queued (List.dropLast_subset _ mem)
  | @phase p next =>
    refine ⟨hs.created, hs.many, ?_, hs.kept, hs.queued, hs.server⟩
    rcases next with created | rfl
    · exact absurd created hs.phase
    · nofun
  | writeBlocked r b n =>
    have blocked : Pinned (s.modifyObj r fun x => { x with writeBlocked := b }) :=
      hs.modifyObj rfl rfl
    exact ⟨hs.created, hs.many, hs.phase, hs.kept, hs.queued, blocked.server⟩
  | done | cancel | dispatch | undispatch | workerDone => exact hs.modifyObj rfl rfl
  | created => exact ⟨rfl, hs.many, hs.phase, hs.kept, hs.queued, hs.server⟩
  | process => exact hs.emit (congrArg freed (ops_processed ..))
  | _ => exact ⟨hs.created, hs.many, hs.phase, hs.kept, hs.queued, hs.server⟩

/-- Moves leave the control stream pinned. -/
lemma Pinned.moves (hs : Pinned s) (owns : Owns s) (bound : Bound s) (ms : Moves s t) :
    Pinned t := by
  induction ms with
  | refl => exact hs
  | tail ms m ih => exact ih.move (owns.moves ms) (bound.moves owns ms) m

end

/-- A session that is opening its control streams: nothing was released, and all handles in use are
of streams of the server. -/
structure Young (s : Session) : Prop where
  kept : freed (ops s.log) = []
  queued : s.pendingFree = []
  server : ∀ r h, (s.objs r).qstream = some h → sidIsServer (s.objs r).streamId = true

section
variable {s t u : Session} {r : Ref} {h : Handle}

/-- A new session is young. -/
lemma Young.init (b m : Nat) : Young (.init b m) := ⟨rfl, rfl, nofun⟩

/-- A session that opens a stream is still young. -/
lemma Young.opening (hs : Young s) (o : Opening s t) : Young t := by
  cases o with
  | @acquire sid server =>
    refine ⟨?_, hs.queued, hs.server⟩
    rw [ops_acquire]
    exact hs.kept
  | @track sid h held got server =>
    exact ⟨hs.kept, hs.queued, fun r h' => server_update (fun r => hs.server r h') (fun _ => server)
      r⟩
  | @retrack r h mem held got server =>
    refine ⟨hs.kept, hs.queued, fun r' h' => ?_⟩
    exact server_update (x := { s.objs r with qstream := some h }) (fun r => hs.server r h')
      (fun _ => server) r'

/-- A session that opens its streams is still young. -/
lemma Young.openings (hs : Young s) (os : Openings s t) : Young t := by
  induction os with
  | refl => exact hs
  | tail _ o ih => exact ih.opening o

/-- Once the control streams are there the first of them stays. -/
lemma Young.pinned (hs : Young s) (many : 3 ≤ s.handles) :
    Pinned { s with controlStreamsCreated := true, phase := .serving } where
  created := rfl
  many := many
  phase := nofun
  kept := by
    show 0 ∉ freed (ops s.log)
    rw [hs.kept]
    exact List.not_mem_nil
  queued := by
    show 0 ∉ s.pendingFree
    rw [hs.queued]
    exact List.not_mem_nil
  server r := hs.server r 0

/-- Releasing all that was opened. -/
lemma freeOpened_held {cs : List (Handle × Int)} {rest : List Handle}
    (held : s.held.Perm (cs.map Prod.fst ++ rest)) :
    (cs.foldl (fun s c => s.freeHeld c.1) s).held.Perm rest := by
  induction cs generalizing s with
  | nil => exact held
  | cons c cs ih =>
    refine ih ?_
    have := held.erase c.1
    rwa [List.map_cons, List.cons_append, List.erase_cons_head] at this

end

/-- A session without control streams that owns no handles. -/
structure Bare (s : Session) : Prop where
  created : s.controlStreamsCreated = false
  phase : s.phase = .failed ∨ s.phase = .destroyed
  owned : s.owned = []

section
variable {s t u : Session} {r : Ref} {h : Handle}

/-- Opening streams does not create the control streams. -/
lemma openings_created (os : Openings s t) : t.controlStreamsCreated = s.controlStreamsCreated := by
  induction os with
  | refl => rfl
  | tail _ o ih => cases o <;> exact ih

/-- What the first section leads to. -/
lemma create_cases {b m : Nat} (st : Step (.init b m) .create t) : Pinned t ∨ Bare t := by
  have ends : Wp (exec .create) (.init b m) (fun _ t => Pinned t ∨ Bare t) (fun _ => True) := by
    refine .bind ((createControlStreams_wp rfl).mono ?_ fun _ _ => trivial)
    rintro ok v (⟨rfl, u, hu, many, rfl⟩ | ⟨rfl, u, cs, hu, ho, taken, rfl⟩)
    · exact .modify (.inl (((Young.init b m).openings hu).pinned many))
    · refine .modify (.inr ⟨?_, .inl rfl, ?_⟩)
      · exact (freeOpened_keeps Session.controlStreamsCreated (fun _ _ => rfl) cs u).trans
          (openings_created hu)
      · show qstreams (cs.foldl _ u).objs (cs.foldl _ u).next ++ (cs.foldl _ u).pendingFree ++
          (cs.foldl _ u).held = []
        rw [freeOpened_keeps Session.objs (fun _ _ => rfl),
          freeOpened_keeps Session.next (fun _ _ => rfl),
          freeOpened_keeps Session.pendingFree (fun _ _ => rfl), taken.objs, taken.next,
          taken.pendingFree]
        show (cs.foldl (fun s c => s.freeHeld c.1) u).held = []
        refine List.perm_nil.mp (freeOpened_held ?_)
        rw [taken.held]
        exact (List.reverse_perm cs).map _ |>.append_right _
  exact st.ends ends

/-- Emptying the deferred list. -/
lemma freePending_keeps {α : Type} (f : Session → α)
    (keep : ∀ s hs e, f ({ s with pendingFree := hs }.emit e) = f s) (n : Nat) (s : Session) :
    f (s.freePending n) = f s := by
  induction n generalizing s with
  | zero => rfl
  | succ n ih =>
    rw [Session.freePending]
    split
    · rfl
    · exact (ih _).trans (keep s _ _)

/-- With enough rounds no handle is left waiting. -/
lemma freePending_empty (n : Nat) (s : Session) (le : s.pendingFree.length ≤ n) :
    (s.freePending n).pendingFree = [] := by
  induction n generalizing s with
  | zero => exact List.length_eq_zero_iff.mp (Nat.le_zero.mp le)
  | succ n ih =>
    rw [Session.freePending]
    split
    · exact List.getLast?_eq_none_iff.mp ‹_›
    · apply ih
      show s.pendingFree.dropLast.length ≤ n
      rw [List.length_dropLast]
      omega

/-- Destroying the session releases the deferred handles; the others stay where they are. -/
lemma destroy_spec (st : Step s .destroy t) :
    t.owned = qstreams s.objs s.next ++ s.held ∧ t.controlStreamsCreated = s.controlStreamsCreated ∧
      t.phase = .destroyed := by
  have keep : ∀ {α : Type} (f : Session → α),
      (∀ s r, f (s.modifyObj r fun x => { x with responseCancelled := true }) = f s) →
      ∀ s,
      f (s.streams.foldl (fun s r => s.modifyObj r fun x => { x with responseCancelled := true })
        s) =
        f s :=
    fun f keep s => foldl_keeps f keep s.streams s
  have ends : Wp (exec .destroy) s (fun _ t => t.owned = qstreams s.objs s.next ++ s.held ∧
      t.controlStreamsCreated = s.controlStreamsCreated ∧
      t.phase = .destroyed) (fun _ => True) := by
    refine .bind (.bind (.modify (.bind (.modify (.modify (.modify ⟨?_, ?_, rfl⟩))))))
    · simp only [Session.owned]
      rw [freePending_empty _ _ (Nat.le_refl _), freePending_keeps Session.objs (fun _ _ _ => rfl),
        freePending_keeps Session.next (fun _ _ _ => rfl),
        freePending_keeps Session.held (fun _ _ _ => rfl),
        keep Session.next (fun _ _ => rfl), keep Session.held (fun _ _ => rfl), List.append_nil]
      congr 1
      refine keep (fun t => qstreams t.objs s.next) ?_ { s with ngh3 := false }
      exact fun u r => qstreams_same rfl
    · show (Session.freePending _ _).controlStreamsCreated = _
      rw [freePending_keeps Session.controlStreamsCreated (fun _ _ _ => rfl),
        keep Session.controlStreamsCreated (fun _ _ => rfl)]
  exact st.ends ends

/-- A session has its control streams for good, or it owns no handles. -/
lemma run_pinned_or_bare {b m : Nat} {cs : List Sect} (run : Run Step (.init b m) cs s) :
    s = .init b m ∨ Pinned s ∨ Bare s := by
  induction run with
  | nil => exact .inl rfl
  | @snoc s t cs c run st ih =>
    rcases ih with rfl | pinned | bare
    · cases c with
      | create => exact .inr (create_cases st)
      | _ => cases st.1
    · have owns := (Owns.init b m).moves (run_moves run).1
      exact .inr
        (.inl (pinned.moves owns (run_bound run) (st.moves fun hp => absurd hp pinned.phase).1))
    · rcases bare.phase with hp | hp
      · cases c with
        | destroy =>
          obtain ⟨owned, created, phase⟩ := destroy_spec st
          refine .inr (.inr ⟨created.trans bare.created, .inr phase, ?_⟩)
          have unowned := bare.owned
          rw [Session.owned, List.append_assoc, List.append_eq_nil_iff,
            List.append_eq_nil_iff] at unowned
          rw [owned, unowned.1, unowned.2.2]
          rfl
        | _ => simp [Step, Sect.enabled, hp] at st
      · cases c <;> simp [Step, Sect.enabled, hp] at st

/-- Destroying a session releases a handle unless a stream object has it or nothing refers to it. -/
theorem destroy_count (owns : Owns s) (st : Step s .destroy t) (lt : h < t.handles) :
    (freed (ops t.log)).count h = 1 ↔ (∀ r, (s.objs r).qstream ≠ some h) ∧ h ∉ s.held := by
  have left : Owns t := by
    refine owns.moves (st.moves ?_).1
    intro hp
    simp [Step, Sect.enabled, hp] at st
  have ledger := left.ledger
  rw [(destroy_spec st).1] at ledger
  have objs : h ∉ qstreams s.objs s.next ↔ ∀ r, (s.objs r).qstream ≠ some h := by
    rw [qstreams, List.mem_filterMap, not_exists]
    constructor
    · intro unheld r hq
      exact unheld r ⟨List.mem_range.mpr (owns.lt_next hq), hq⟩
    · intro unheld r hr
      exact unheld r hr.2
  rw [← objs, ← not_or, ← List.mem_append]
  constructor
  · intro once mem
    rw [List.count_eq_zero_of_not_mem (ledger.not_freed mem)] at once
    cases once
  · exact ledger.count_freed lt

end

/-- Destroying a session has released every handle the transport ever handed out exactly once if,
and only if, the session never got its control streams. -/
theorem teardown_frees_all {b m : Nat} {cs : List Sect} {s t : Session}
    (run : Run Step (.init b m) cs s) (st : Step s .destroy t) :
    (∀ h < t.handles, (freed (ops t.log)).count h = 1) ↔ s.controlStreamsCreated = false := by
  have owns : Owns s := (Owns.init b m).moves (run_moves run).1
  rcases run_pinned_or_bare run with rfl | pinned | bare
  · cases st.1
  · -- the handle of the control stream is still there
    have after : Pinned t :=
      pinned.moves owns (run_bound run) (st.moves fun hp => absurd hp pinned.phase).1
    rw [pinned.created]
    refine ⟨fun all => ?_, nofun⟩
    have once := all 0 (Nat.lt_of_lt_of_le (by decide) after.many)
    rw [List.count_eq_zero_of_not_mem after.kept] at once
    cases once
  · refine ⟨fun _ => bare.created, fun _ h lt => (destroy_count owns st lt).mpr ?_⟩
    have unowned : h ∉ s.owned := by
      rw [bare.owned]
      exact List.not_mem_nil
    exact ⟨fun r hq => unowned (owns.mem_of_qstream hq),
      fun held => unowned (List.mem_append_right _ held)⟩

/-- A session whose second control stream cannot be opened. -/
theorem teardown_frees_all_unopened :
    ∃ cs s t, Run Step (.init 65536 1000) cs s ∧ Step s .destroy t ∧ t.handles = 2 ∧
      ∀ h < t.handles, (freed (ops t.log)).count h = 1 := by
  have eq : (execAll runSect (.init 65536 1000)
      [(.create, [.opened (some 3), .opened none, .opened (some 11)])]).map
      (fun r => (Sect.enabled r.1 .destroy, (exec .destroy r.1 []).1.handles,
        r.1.controlStreamsCreated)) =
      some (true, 2, false) := by decide +kernel
  obtain ⟨⟨s, cs⟩, h, obs⟩ := Option.map_eq_some_iff.mp eq
  have run : Run Step (.init 65536 1000) cs s := execAll_run runSect_step h
  simp only [Prod.mk.injEq] at obs
  have st : Step s .destroy (exec .destroy s []).1 := ⟨obs.1, [], [], rfl⟩
  exact ⟨cs, s, _, run, st, obs.2.1, (teardown_frees_all run st).mpr obs.2.2⟩

/-- A session that is destroyed while the client is sending a request: of its four handles none is
released. -/
theorem teardown_leaks_open_session :
    ∃ cs s t, Run Step (.init 65536 1000) cs s ∧ Step s .destroy t ∧ t.handles = 4 ∧
      freed (ops t.log) = [] ∧ ¬ ∀ h < t.handles, (freed (ops t.log)).count h = 1 := by
  have eq : (execAll runSect (.init 65536 1000)
      [(.create, [.opened (some 3), .opened (some 7), .opened (some 11), .bound 0, .bound 0,
          .condCreated true, .condCreated true, .condCreated true]),
        (.accept, [.accepted (some 0), .condCreated true]),
        (.drain, [.order [0, 1, 2, 3], .states .ok .ok, .read (.data [1, 2]),
          .called [.beginHeaders 0] 2, .read .nothing])]).map
      (fun r => (Sect.enabled r.1 .destroy, (exec .destroy r.1 []).1.handles,
        freed (ops (exec .destroy r.1 []).1.log))) = some (true, 4, []) := by decide +kernel
  obtain ⟨⟨s, cs⟩, h, obs⟩ := Option.map_eq_some_iff.mp eq
  have run : Run Step (.init 65536 1000) cs s := execAll_run runSect_step h
  simp only [Prod.mk.injEq] at obs
  have st : Step s .destroy (exec .destroy s []).1 := ⟨obs.1, [], [], rfl⟩
  refine ⟨cs, s, _, run, st, obs.2.1, obs.2.2, fun all => ?_⟩
  have once := all 0 (by rw [obs.2.1]; decide)
  rw [obs.2.2] at once
  cases once

end ModHttp3.H3

import Mathlib.Data.List.Nodup
import ModHttp3.Session.Control

/-!
# Ownership of QUIC stream handles

Every handle the transport handed out is in exactly one place: the `qstream` of a stream object, the
deferred list `pending_free`, a local variable, or it was released (`Owns`, a `Ledger` over these
places). Each move keeps this, because the callbacks set `qstream` to null whenever they queue it,
and every use takes the handle from a `qstream` or from a local variable.

`stream_handles_freed_once` reads off that no handle is released twice or used after its release, at
any point of any section.
-/

namespace ModHttp3.H3
open ModHttp3.Lib ModHttp3.Lib.Script

/-- The operation on a handle that an entry records. -/
def Entry.handleOp : Entry → Option (ResOp Use)
  | .op o => some o
  | _ => none

/-- The operations on handles in a log. -/
def ops (log : List Entry) : List (ResOp Use) := log.filterMap Entry.handleOp

/-- The handles of the first `n` stream objects. -/
def qstreams (objs : Ref → H3Stream) (n : Nat) : List Handle :=
  (List.range n).filterMap fun r => (objs r).qstream

/-- The places where handles are. -/
def Session.owned (s : Session) : List Handle := qstreams s.objs s.next ++ s.pendingFree ++ s.held

/-- Every handle is in one place or was released once, and none was used after its release. -/
structure Owns (s : Session) : Prop where
  ledger : Ledger s.owned (ops s.log) s.handles
  fresh : ∀ r, s.next ≤ r → (s.objs r).qstream = none
  tracked : ∀ r ∈ s.streams, r < s.next

section
variable {s t : Session} {objs : Ref → H3Stream} {n : Nat} {r : Ref} {h : Handle} {x : H3Stream}
  {f : H3Stream → H3Stream}

/-- An operation on a handle is logged. -/
lemma ops_op (log : List Entry) (op : ResOp Use) :
    ops (log ++ [Entry.op op]) = ops log ++ [op] := by
  simp [ops, Entry.handleOp]

/-- A call is no operation on a handle. -/
lemma ops_call (log : List Entry) (c : Call) (cbs : List Cb) (rv : Int) :
    ops (log ++ [Entry.call c cbs rv]) = ops log := by
  simp [ops, Entry.handleOp]

/-- Answering a request is no operation on a handle. -/
lemma ops_processed (log : List Entry) (r : Ref) (status : Nat) :
    ops (log ++ [Entry.processed r status]) = ops log := by
  simp [ops, Entry.handleOp]

/-- Getting a handle is no operation on it. -/
lemma ops_acquire (s : Session) (sid : Int) : ops (s.acquire sid).log = ops s.log := by
  simp [Session.acquire, Session.emit, ops, Entry.handleOp]

/-- The handle of one object among the others. -/
lemma qstreams_perm (objs : Ref → H3Stream) (lt : r < n) : ∃ rest, ∀ x,
    (qstreams (Function.update objs r x) n).Perm (x.qstream.toList ++ rest) := by
  refine ⟨((List.range n).erase r).filterMap fun r => (objs r).qstream, ?_⟩
  intro x
  have perm := List.perm_cons_erase (List.mem_range.mpr lt)
  refine (perm.filterMap _).trans ?_
  have others : ((List.range n).erase r).filterMap
    (fun r' => (Function.update objs r x r').qstream) =
      ((List.range n).erase r).filterMap fun r => (objs r).qstream := by
    apply List.filterMap_congr
    intro r' mem
    have ne : r' ≠ r := (List.nodup_range.mem_erase_iff.mp mem).1
    rw [Function.update_of_ne ne]
  rw [List.filterMap_cons, Function.update_self, others]
  cases x.qstream <;> exact .refl _

/-- The handles of the objects, with that of one object in front. -/
lemma qstreams_self (objs : Ref → H3Stream) (lt : r < n) :
    ∃ rest, (qstreams objs n).Perm ((objs r).qstream.toList ++ rest) ∧
    ∀ x, (qstreams (Function.update objs r x) n).Perm (x.qstream.toList ++ rest) := by
  obtain ⟨rest, h⟩ := qstreams_perm objs lt
  refine ⟨rest, ?_, h⟩
  have := h (objs r)
  rwa [Function.update_eq_self] at this

/-- Changing an object but not its handle. -/
lemma qstreams_same (same : x.qstream = (objs r).qstream) :
    qstreams (Function.update objs r x) n = qstreams objs n := by
  apply List.filterMap_congr
  intro r' _
  exact update_rel (P := fun x y => y.qstream = x.qstream) same (fun _ => rfl) r'

/-- The handle of an object is owned. -/
lemma Owns.mem_of_qstream (hs : Owns s) (hq : (s.objs r).qstream = some h) : h ∈ s.owned := by
  have lt : r < s.next := by
    by_contra ge
    rw [hs.fresh r (Nat.le_of_not_lt ge)] at hq
    cases hq
  refine List.mem_append_left _ (List.mem_append_left _ ?_)
  exact List.mem_filterMap.mpr ⟨r, List.mem_range.mpr lt, hq⟩

/-- A change that concerns neither handles nor the log. -/
lemma Owns.same (hs : Owns s) (owned : t.owned = s.owned) (log : ops t.log = ops s.log)
    (handles : t.handles = s.handles) (next : t.next = s.next)
    (objs : ∀ r, (t.objs r).qstream = (s.objs r).qstream) (streams : t.streams ⊆ s.streams) :
    Owns t where
  ledger := by
    rw [owned, log, handles]
    exact hs.ledger
  fresh r le := by
    rw [objs]
    exact hs.fresh r (next ▸ le)
  tracked r mem := by
    rw [next]
    exact hs.tracked r (streams mem)

/-- A change of an object that keeps its handle. -/
lemma Owns.modifyObj (hs : Owns s) (same : (f (s.objs r)).qstream = (s.objs r).qstream) :
    Owns (s.modifyObj r f) := by
  refine hs.same ?_ rfl rfl rfl ?_ (fun _ => id)
  · simp only [Session.owned, Session.modifyObj, qstreams_same same]
  · exact update_rel (P := fun x y => y.qstream = x.qstream) same fun _ => rfl

/-- Using a handle that is owned. -/
lemma Owns.use (hs : Owns s) (mem : h ∈ s.owned) (u : Use) : Owns (s.emit (.op (.use u h))) where
  ledger := by
    show Ledger s.owned (ops (s.log ++ [Entry.op (.use u h)])) s.handles
    rw [ops_op]
    exact hs.ledger.use mem u
  fresh := hs.fresh
  tracked := hs.tracked

/-- An object with a handle was created. -/
lemma Owns.lt_next (hs : Owns s) (hq : (s.objs r).qstream = some h) : r < s.next := by
  by_contra ge
  rw [hs.fresh r (Nat.le_of_not_lt ge)] at hq
  cases hq

/-- Queueing a handle and setting `qstream` to null moves it from one place to another. -/
lemma Owns.dropQstream (hs : Owns s) : Owns (dropQstream s r) := by
  rw [H3.dropQstream]
  split
  · exact hs
  rename_i h hq
  obtain ⟨rest, before, after⟩ := qstreams_self s.objs (hs.lt_next hq)
  rw [hq] at before
  have after := after { s.objs r with qstream := none }
  refine ⟨?_, ?_, hs.tracked⟩
  · refine hs.ledger.perm ?_
    show (qstreams s.objs s.next ++ s.pendingFree ++ s.held).Perm
      (qstreams (Function.update s.objs r { s.objs r with qstream := none }) s.next ++
        (s.pendingFree ++ [h]) ++ s.held)
    refine List.Perm.append_right _ ?_
    have p1 := before.append_right s.pendingFree
    have p2 := after.append_right (s.pendingFree ++ [h])
    refine p1.trans (.trans ?_ p2.symm)
    simp only [Option.toList_some, Option.toList_none, List.nil_append, List.cons_append]
    rw [← List.append_assoc]
    exact (List.perm_append_singleton h _).symm
  · intro r' le
    exact update_rel (P := fun x y => x.qstream = none → y.qstream = none) (fun _ => rfl)
      (fun _ => id) r'
      (hs.fresh r' le)

/-- The callbacks keep every handle in one place. -/
lemma Owns.effect (hs : Owns s) (h : Effect s t) : Owns t := by
  cases h with
  | nothing => exact hs
  | update bound mild => exact hs.modifyObj (mild _).2
  | @bind sid r f bound mild =>
    have bound : Owns (s.modifyObj r f) := hs.modifyObj (mild _).2
    exact bound.same rfl rfl rfl rfl (fun _ => rfl) (fun _ => id)
  | drop bound mild => exact hs.dropQstream.modifyObj (mild _).2
  | reset bound hq mild => exact (hs.use (hs.mem_of_qstream hq) _).modifyObj (mild _).2

/-- Callbacks keep the account of the handles. -/
lemma Owns.runCbs (hs : Owns s) (cbs : List Cb) : Owns (runCbs s cbs) := by
  induction cbs generalizing s with
  | nil => exact hs
  | cons cb cbs ih => exact ih (hs.effect (runCb_effect cb))

/-- A call keeps the account of the handles. -/
lemma Owns.call (hs : Owns s) (c : Call) (cbs : List Cb) (rv : Int) :
    Owns (s.emit (.call c cbs rv)) :=
  hs.same rfl (ops_call ..) rfl rfl (fun _ => rfl) (fun _ => id)

/-- A new object takes the handle from a local variable. -/
lemma Owns.track (hs : Owns s) (mem : h ∈ s.held) (sid : Int) : Owns (s.track sid h) where
  ledger := by
    refine hs.ledger.perm ?_
    have last : qstreams (Function.update s.objs s.next (.init sid (some h))) (s.next + 1) =
        qstreams s.objs s.next ++ [h] := by
      rw [qstreams, List.range_succ, List.filterMap_append]
      congr 1
      · apply List.filterMap_congr
        intro r mem
        rw [Function.update_of_ne (List.mem_range.mp mem).ne]
      · simp [Function.update_self, H3Stream.init]
    show (qstreams s.objs s.next ++ s.pendingFree ++ s.held).Perm
      (qstreams (Function.update s.objs s.next (.init sid (some h))) (s.next + 1) ++
        s.pendingFree ++
        s.held.erase h)
    rw [last]
    refine ((List.perm_cons_erase mem).append_left _).trans ?_
    rw [List.append_assoc, List.append_assoc, List.append_assoc]
    refine List.Perm.append_left _ ?_
    exact List.perm_middle
  fresh r le := by
    have lt : s.next < r := le
    show (Function.update s.objs s.next _ r).qstream = none
    rw [Function.update_of_ne lt.ne']
    exact hs.fresh r lt.le
  tracked r mem := by
    rcases List.mem_append.mp mem with mem | mem
    · exact Nat.lt_succ_of_lt (hs.tracked r mem)
    · rw [List.mem_singleton.mp mem]
      exact Nat.lt_succ_self _

/-- An existing object takes the handle, and nothing refers to the one it had. -/
lemma Owns.retrack (hs : Owns s) (lt : r < s.next) (mem : h ∈ s.held) : Owns (s.retrack r h) where
  ledger := by
    refine hs.ledger.perm ?_
    obtain ⟨rest, before, after⟩ := qstreams_self s.objs lt
    have after := after { s.objs r with qstream := some h }
    show (qstreams s.objs s.next ++ s.pendingFree ++ s.held).Perm
      (qstreams (Function.update s.objs r { s.objs r with qstream := some h }) s.next ++
        s.pendingFree ++
        ((s.objs r).qstream.toList ++ s.held.erase h))
    rw [List.perm_iff_count]
    intro a
    have c1 := before.count_eq a
    have c2 := after.count_eq a
    have c3 := (List.perm_cons_erase mem).count_eq a
    simp only [List.count_append, Option.toList_some, List.count_cons, List.count_nil] at c1 c2 c3 ⊢
    omega
  fresh r' le := by
    have ne : r' ≠ r := fun eq => absurd lt (Nat.not_lt_of_le (eq ▸ le))
    show (Function.update s.objs r _ r').qstream = none
    rw [Function.update_of_ne ne]
    exact hs.fresh r' le
  tracked := hs.tracked

/-- Releasing a handle from its place. -/
lemma Owns.free (hs : Owns s) (perm : s.owned.Perm (h :: t.owned))
    (log : t.log = s.log ++ [Entry.op (.free h)]) (handles : t.handles = s.handles)
    (next : t.next = s.next) (objs : t.objs = s.objs) (streams : t.streams = s.streams) :
    Owns t where
  ledger := by
    rw [log, ops_op, handles]
    exact (hs.ledger.perm perm).free
  fresh := by
    rw [next, objs]
    exact hs.fresh
  tracked := by
    rw [next, streams]
    exact hs.tracked

/-- Every move keeps every handle in one place. -/
theorem Owns.move (hs : Owns s) (m : Move s t) : Owns t := by
  cases m with
  | acquire sid =>
    refine ⟨?_, hs.fresh, hs.tracked⟩
    rw [ops_acquire]
    exact hs.ledger.acquire.perm List.perm_middle.symm
  | use u owner other =>
    refine hs.use ?_ u
    rcases owner with ⟨r, hq⟩ | mem
    · exact hs.mem_of_qstream hq
    · exact List.mem_append_right _ mem
  | freeHeld mem _ =>
    refine hs.free ?_ rfl rfl rfl rfl rfl
    exact ((List.perm_cons_erase mem).append_left _).trans List.perm_middle
  | track taken => exact hs.track taken.1 _
  | retrack mem taken => exact hs.retrack (hs.tracked _ mem) taken.1
  | @call c cbs rv other => exact (hs.call c cbs rv).runCbs cbs
  | @feed r h data cbs rv hq ne client =>
    have read : Owns (s.reading r h data cbs rv) := by
      have := (hs.use (hs.mem_of_qstream hq) (.read (.data data))).call
        (.readStream (s.objs r).streamId data false) cbs rv
      exact this.same rfl rfl rfl rfl (fun _ => rfl) (fun _ => id)
    exact (read.runCbs cbs).same rfl rfl rfl rfl (fun _ => rfl) (fun _ => id)
  | @feedFin r h u cbs rv hq last ends =>
    have fed := (hs.call (.readStream (s.objs r).streamId [] true) cbs rv).runCbs cbs
    unfold Session.feedFin
    apply Owns.modifyObj
    · exact fed.same rfl rfl rfl rfl (fun _ => rfl) (fun _ => id)
    · rfl
  | @popFree h last =>
    refine hs.free ?_ rfl rfl rfl rfl rfl
    -- the handle leaves the deferred list for the released ones
    have eq : s.pendingFree = s.pendingFree.dropLast ++ [h] :=
      (List.dropLast_append_getLast? h last).symm
    show (qstreams s.objs s.next ++ s.pendingFree ++ s.held).Perm
      (h :: (qstreams s.objs s.next ++ s.pendingFree.dropLast ++ s.held))
    rw [eq, List.dropLast_concat, ← List.append_assoc]
    exact List.Perm.append_right _ (List.perm_append_singleton h _)
  | reclaim rec => exact hs.same rfl rfl rfl rfl (fun _ => rfl) List.erase_subset
  | writeBlocked r b n =>
    have blocked : Owns (s.modifyObj r fun x => { x with writeBlocked := b }) := hs.modifyObj rfl
    exact blocked.same rfl rfl rfl rfl (fun _ => rfl) (fun _ => id)
  | done | cancel | dispatch | undispatch | workerDone => exact hs.modifyObj rfl
  | process => exact hs.same rfl (ops_processed ..) rfl rfl (fun _ => rfl) (fun _ => id)
  | _ => exact hs.same rfl rfl rfl rfl (fun _ => rfl) (fun _ => id)

/-- So do any number of moves. -/
lemma Owns.moves (hs : Owns s) (ms : Moves s t) : Owns t := by
  induction ms with
  | refl => exact hs
  | tail _ m ih => exact ih.move m

end

/-- No handle is in two places, and none was released twice or used after its release. -/
structure HandlesSafe (s : Session) : Prop where
  one_stream : ∀ r r' h, (s.objs r).qstream = some h → (s.objs r').qstream = some h → r = r'
  elsewhere : ∀ r h, (s.objs r).qstream = some h → h ∉ s.pendingFree ∧ h ∉ freed (ops s.log)
  once : (s.pendingFree ++ freed (ops s.log)).Nodup
  used : Safe (ops s.log)

section
variable {s t : Session} {r : Ref} {h : Handle}

/-- With the account in order, no handle is freed twice or used after it was freed. -/
lemma Owns.safe (hs : Owns s) : HandlesSafe s := by
  have nodup :
      (qstreams s.objs s.next ++ (s.pendingFree ++ (s.held ++ freed (ops s.log)))).Nodup := by
    have := hs.ledger.nodup
    rwa [Session.owned, List.append_assoc, List.append_assoc] at this
  obtain ⟨streams, rest, apart⟩ := List.nodup_append.mp nodup
  have mem : ∀ {r h}, (s.objs r).qstream = some h → h ∈ qstreams s.objs s.next := by
    intro r h hq
    exact List.mem_filterMap.mpr ⟨r, List.mem_range.mpr (hs.lt_next hq), hq⟩
  refine ⟨?_, ?_, ?_, hs.ledger.safe⟩
  · intro r r' h hq hq'
    by_contra ne
    have pair := List.pairwise_filterMap.mp streams
    rcases Nat.lt_or_gt_of_ne ne with lt | lt
    · have := List.pairwise_iff_getElem.mp pair r r' (by simpa using hs.lt_next hq)
        (by simpa using hs.lt_next hq') lt
      simp only [List.getElem_range] at this
      exact this h hq h hq' rfl
    · have := List.pairwise_iff_getElem.mp pair r' r (by simpa using hs.lt_next hq')
        (by simpa using hs.lt_next hq) lt
      simp only [List.getElem_range] at this
      exact this h hq' h hq rfl
  · intro r h hq
    constructor
    · intro queued
      exact apart h (mem hq) h (List.mem_append_left _ queued) rfl
    · intro freed
      exact apart h (mem hq) h (List.mem_append_right _ (List.mem_append_right _ freed)) rfl
  · rw [List.nodup_append] at rest ⊢
    refine ⟨rest.1, (List.nodup_append.mp rest.2.1).2.1, ?_⟩
    intro a ha b hb
    exact rest.2.2 a ha b (List.mem_append_right _ hb)

/-- A new session owns no handles. -/
lemma Owns.init (b m : Nat) : Owns (.init b m) where
  ledger := .init
  fresh _ _ := rfl
  tracked _ mem := by cases mem

end

/-- In every run of a session, and at every point of its next section, no QUIC stream handle is in
two places, released twice or used after its release. -/
theorem stream_handles_freed_once {b m : Nat} {cs : List Sect} {s : Session}
    (run : Run Step (.init b m) cs s) :
    HandlesSafe s ∧ ∀ c as, Sect.enabled s c = true → HandlesSafe (exec c s as).1 := by
  refine ⟨((Owns.init b m).moves (run_moves run).1).safe, ?_⟩
  intro c as enabled
  exact ((Owns.init b m).moves (run_exec_moves run enabled as)).safe

/-- A session with one request whose headers nghttp3 refuses: the stream is stopped, reset and
closed from within one read, and its handle is released by the flush. -/
def refusedRequest : List (Sect × List Answer) :=
  [(.create, [.opened (some 3), .opened (some 7), .opened (some 11), .bound 0, .bound 0,
      .condCreated true, .condCreated true, .condCreated true]),
    (.accept, [.accepted (some 0), .condCreated true]),
    (.drain, [.order [0, 1, 2, 3], .states .ok .ok, .read (.data [1, 2]),
      .called [.beginHeaders 0, .stopSending 0 270, .resetStream 0 270, .streamClose 0 270] 2]),
    (.flush, [.writev [] 0 (-1) false []])]

/-- A request is refused, and its handle is freed once. -/
theorem stream_handles_freed_once_refusedRequest :
    ∃ cs s, Run Step (.init 65536 1000) cs s ∧ freed (ops s.log) = [3] ∧ s.handles = 4 ∧
      HandlesSafe s ∧ ∀ c as, Sect.enabled s c = true → HandlesSafe (exec c s as).1 := by
  have eq : (execAll runSect (.init 65536 1000) refusedRequest).map
      (fun r => (freed (ops r.1.log), r.1.handles)) = some ([3], 4) := by decide +kernel
  obtain ⟨⟨s, cs⟩, h, obs⟩ := Option.map_eq_some_iff.mp eq
  have run : Run Step (.init 65536 1000) cs s := execAll_run runSect_step h
  simp only [Prod.mk.injEq] at obs
  exact ⟨cs, s, run, obs.1, obs.2, stream_handles_freed_once run⟩

end ModHttp3.H3

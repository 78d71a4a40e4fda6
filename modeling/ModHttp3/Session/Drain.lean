import ModHttp3.Lib.Refinement
import ModHttp3.Lib.SizeT
import ModHttp3.Listener.Wake
import ModHttp3.Session.Moves

/-!
# The budgets of a drain

`drain_ready_streams` (`h3_stream.c`) reads all streams of a session within two budgets that they
share, into one buffer. Here its variables are part of the state, as the `size_t` values they are,
and the state also records what was asked of the transport, what it returned, and the budgets
`drain_one_stream` was called with. On the session this is the program of `Session/Drive`, where the
budgets are arguments (`Drain.drainReadyStreams_refines`).

C → Lean naming: `stream_read_buf_size` → `streamReadBuf`, with `none` for a null `stream_read_buf`;
`*data_read`, `*reads_remaining` and `*bytes_remaining` → `dataRead`, `readsRemaining` and
`bytesRemaining`.
-/

namespace ModHttp3.H3
open ModHttp3.Lib ModHttp3.Lib.Script

/-- A call of `h3q_stream_read`: the size it asks for, and that of the buffer. -/
structure ReadCall where
  size : Nat
  room : Nat
deriving DecidableEq

/-- A call of `drain_one_stream`: the stream and the budgets. -/
structure Given where
  stream : Ref
  reads : Nat
  bytes : Nat
deriving DecidableEq

/-- A session and the variables of a `drain_ready_streams` call on it. -/
structure Drain where
  session : Session
  streamReadBuf : Option Nat
  dataRead : Bool
  readsRemaining : Nat
  bytesRemaining : Nat
  calls : List ReadCall
  /-- how many bytes each successful read returned -/
  received : List Nat
  given : List Given

/-- A stream that has become ready is collected, while the session works. -/
def Session.collect (s : Session) (r : Ref) (ready : Bool) : Session :=
  if ready && !s.ngh3Dead then { s with completed := s.completed ++ [r] } else s

namespace Drain

/-- The variables as a call initialises them. -/
def start (s : Session) (streamReadBuf : Option Nat) : Drain where
  session := s
  streamReadBuf := streamReadBuf
  dataRead := false
  readsRemaining := drainBudget.reads
  bytesRemaining := drainBudget.bytes
  calls := []
  received := []
  given := []

/-- Change the session. -/
def on (d : Drain) (f : Session → Session) : Drain := { d with session := f d.session }

/-- Run a program on the session. -/
def onSession {β : Type} (m : Prog β) : Script Drain Answer β :=
  focus session (fun s d => { d with session := s }) m

/-- `drain_one_stream` is called for a stream. -/
def give (d : Drain) (r : Ref) : Drain :=
  { d with given := d.given ++ [{ stream := r, reads := d.readsRemaining,
                                  bytes := d.bytesRemaining }] }

/-- Allocate the read buffer, unless there is one that is large enough. -/
def allocate (d : Drain) (bufSize : Nat) : Drain :=
  { d with
    streamReadBuf :=
      match d.streamReadBuf with
      | none => some bufSize
      | some size => if size < bufSize then some bufSize else some size }

/-- `h3q_stream_read` is called. -/
def call (d : Drain) (size : Nat) : Drain :=
  { d with calls := d.calls ++ [{ size, room := d.streamReadBuf.getD 0 }] }

/-- A read that returned bytes is charged to the budgets. -/
def charge (d : Drain) (nread : Nat) : Drain :=
  { d with
    readsRemaining := sizeSub d.readsRemaining 1
    bytesRemaining := sizeSub d.bytesRemaining nread
    dataRead := true
    received := d.received ++ [nread] }

/-- The read loop of `drain_one_stream`. It is cut off after a number of turns; one more than there
are reads left is enough (`readLoop_refines`). -/
def readLoop (r : Ref) (bufSize : Nat) : Nat → Script Drain Answer Unit
  | 0 => fun d _ => (d, none)
  | turns + 1 => do
    let d ← get
    if 0 < d.readsRemaining ∧ 0 < d.bytesRemaining then
      match (d.session.objs r).qstream with
      | none =>
        modify (·.on (·.modifyObj r fun x => { x with done := true }))
        pure ()
      | some h =>
        let readSize := min bufSize d.bytesRemaining
        modify (·.call readSize)
        let result ← ask fun
          | .read (.data data) =>
            if 0 < data.length ∧ data.length ≤ readSize then some (.data data) else none
          | .read result => some result
          | _ => none
        match result with
        | .data data =>
          modify (·.charge data.length)
          let (cbs, consumed) ← ask fun | .called cbs rv => some (cbs, rv) | _ => none
          modify (·.on (·.feed r h data cbs consumed))
          if consumed < 0 then
            modify (·.on (·.modifyObj r fun x => { x with done := true }))
            pure ()
          else
            let d ← get
            if (d.session.objs r).done then pure () else readLoop r bufSize turns
        | .fin =>
          modify (·.on (·.emit (.op (.use (.read .fin) h))))
          onSession (feedStreamFin r)
          pure ()
        | .nothing =>
          modify (·.on (·.emit (.op (.use (.read .nothing) h))))
          pure ()
    else
      pure ()

/-- The result of `drain_one_stream`. -/
def isReady (r : Ref) : Script Drain Answer Bool := do
  let d ← get
  pure (d.session.objs r).ready

/-- Read one stream (C `drain_one_stream`). -/
def drainOneStream (r : Ref) : Script Drain Answer Bool := do
  modify (·.give r)
  let d ← get
  let bufSize := d.session.streamBufferSize
  modify (·.allocate bufSize)
  let finished ← onSession (queryFinished r)
  if finished.1 then
    let d ← get
    if (d.session.objs r).bodyComplete then pure () else onSession (feedStreamFin r)
    onSession (closeFinished r finished.2)
    isReady r
  else
    let d ← get
    readLoop r bufSize (d.readsRemaining + 1)
    isReady r

/-- One turn of the loop of `drain_ready_streams` over a snapshot of `n` streams; the flag says
whether it goes on. -/
def visitStream (n : Nat) (v : Ref × Nat) : Script Drain Answer Bool := do
  let d ← get
  if d.session.ngh3Dead then
    pure false
  else if (d.session.objs v.1).done || (d.session.objs v.1).qstream.isNone ||
      sidIsServer (d.session.objs v.1).streamId then
    pure true
  else
    let ready ← drainOneStream v.1
    modify (·.on (·.collect v.1 ready))
    let d ← get
    if d.readsRemaining = 0 ∨ d.bytesRemaining = 0 then
      modify (·.on fun s => { s with streamDrainCursor := (v.2 + 1) % n })
      pure false
    else
      pure true

/-- `drain_ready_streams` after it has taken the snapshot. -/
def drainSnapshot (snapshot : List Ref) : Script Drain Answer Unit := do
  modify (·.on fun s => { s with completed := [] })
  let d ← get
  forEach (visits snapshot d.session.streamDrainCursor) (visitStream snapshot.length)
  modify (·.on fun s => snapshot.foldl Session.reclaim s)

/-- Read all streams (C `drain_ready_streams`). -/
def drainReadyStreams : Script Drain Answer Unit := do
  let snapshot ← onSession iterate
  drainSnapshot snapshot

/-- The budgets of the state are those another program has as arguments, and are machine words. -/
structure Holds (d : Drain) (budget : Budget) : Prop where
  reads : d.readsRemaining = budget.reads
  bytes : d.bytesRemaining = budget.bytes
  readsLt : budget.reads < 2 ^ 64
  bytesLt : budget.bytes < 2 ^ 64

end Drain

/-- What reading a stream leaves alone: the cursor, and what comes from the configuration. -/
structure Session.Aside (s t : Session) : Prop where
  streamDrainCursor : t.streamDrainCursor = s.streamDrainCursor
  streamBufferSize : t.streamBufferSize = s.streamBufferSize

section
variable {s t u : Session} {r : Ref}

/-- Doing nothing leaves the cursor alone. -/
lemma Session.Aside.refl : s.Aside s := ⟨rfl, rfl⟩

/-- Two such steps in a row. -/
lemma Session.Aside.trans (h1 : s.Aside t) (h2 : t.Aside u) : s.Aside u :=
  ⟨h2.1.trans h1.1, h2.2.trans h1.2⟩

/-- An entry of the log leaves the cursor alone. -/
lemma Session.emit_aside (e : Entry) : s.Aside (s.emit e) := ⟨rfl, rfl⟩

/-- Collecting a stream leaves the cursor alone. -/
lemma Session.collect_aside (r : Ref) (ready : Bool) : s.Aside (s.collect r ready) := by
  rw [Session.collect]
  split
  · exact ⟨rfl, rfl⟩
  · exact .refl

/-- Collecting a stream changes no object. -/
lemma Session.collect_objs (s : Session) (r : Ref) (ready : Bool) :
    (s.collect r ready).objs = s.objs := by
  rw [Session.collect]
  split <;> rfl

/-- A callback leaves the cursor alone. -/
lemma Effect.aside (h : Effect s t) : s.Aside t := by
  cases h with
  | nothing => exact .refl
  | update bound mild => exact ⟨rfl, rfl⟩
  | bind bound mild => exact ⟨rfl, rfl⟩
  | @drop sid r f bound mild =>
    refine Session.Aside.trans (t := dropQstream s r) ?_ ⟨rfl, rfl⟩
    rw [dropQstream]
    split
    · exact .refl
    · exact ⟨rfl, rfl⟩
  | reset bound hq mild => exact ⟨rfl, rfl⟩

/-- Callbacks leave the cursor alone. -/
lemma runCbs_aside (cbs : List Cb) : s.Aside (runCbs s cbs) := by
  induction cbs generalizing s with
  | nil => exact .refl
  | cons cb cbs ih => exact (runCb_effect cb).aside.trans ih

/-- Passing bytes to nghttp3 leaves the cursor alone. -/
lemma Session.feed_aside {h : Handle} (data : List UInt8) (cbs : List Cb) (rv : Int) :
    s.Aside (s.feed r h data cbs rv) :=
  have called := runCbs_aside (s := s.reading r h data cbs rv) cbs
  ⟨called.1, called.2⟩

/-- Passing the end of a stream to nghttp3 leaves the cursor alone. -/
lemma Session.feedFin_aside (cbs : List Cb) (rv : Int) : s.Aside (s.feedFin r cbs rv) :=
  have called :=
    runCbs_aside (s := s.emit (.call (.readStream (s.objs r).streamId [] true) cbs rv)) cbs
  ⟨called.1, called.2⟩

/-- A read leaves the cursor alone. -/
lemma Reading.aside (m : Reading r s t) : s.Aside t := by
  cases m with
  | use result => exact ⟨rfl, rfl⟩
  | feed cbs rv => exact Session.feed_aside _ cbs rv
  | feedFin cbs rv => exact Session.feedFin_aside cbs rv
  | done => exact ⟨rfl, rfl⟩

/-- Nor do several of them. -/
lemma reading_aside (ms : Relation.ReflTransGen (Reading r) s t) : s.Aside t := by
  induction ms with
  | refl => exact .refl
  | tail _ m ih => exact ih.trans m.aside

/-- Closing a stream leaves the cursor alone. -/
lemma Closing.aside {writeFinished : Bool} (h : Closing r writeFinished s t) : s.Aside t := by
  rcases h with ⟨_, rfl⟩ | ⟨_, cbs, rv, rfl⟩
  · exact .refl
  · have called := runCbs_aside (s := s.emit (.call (.closeStream (s.objs r).streamId) cbs rv)) cbs
    exact ⟨called.1, called.2⟩

/-- A visit of a stream leaves the cursor alone. -/
lemma Visit.aside (v : Visit r s t) : s.Aside t := by
  cases v with
  | read hq reads => exact reading_aside reads
  | unfinished hq _ reads => exact (Session.emit_aside _).trans (reading_aside reads)
  | finished hq fin fed closing =>
    refine Session.Aside.trans ?_ closing.aside
    rcases fed with ⟨_, rfl⟩ | ⟨_, cbs, rv, rfl⟩
    · exact ⟨rfl, rfl⟩
    · exact (Session.emit_aside _).trans (Session.feedFin_aside cbs rv)

end

namespace Drain
variable {d : Drain} {r : Ref} {budget : Budget}

/-- Nothing else matters. -/
lemma Holds.same {e : Drain} (h : d.Holds budget) (reads : e.readsRemaining = d.readsRemaining)
    (bytes : e.bytesRemaining = d.bytesRemaining) : e.Holds budget :=
  ⟨reads.trans h.reads, bytes.trans h.bytes, h.readsLt, h.bytesLt⟩

/-- A read that is within the budgets does not wrap them. -/
lemma Holds.charge {reads bytes nread : Nat} (h : d.Holds { reads := reads + 1, bytes })
    (le : nread ≤ bytes) :
    (d.charge nread).Holds { reads, bytes := bytes - nread } := by
  obtain ⟨hr, hb, readsLt, bytesLt⟩ := h
  dsimp only at hr hb readsLt bytesLt
  refine ⟨?_, ?_, Nat.lt_of_succ_lt readsLt, Nat.lt_of_le_of_lt (Nat.sub_le _ _) bytesLt⟩
  · show sizeSub d.readsRemaining 1 = reads
    rw [hr, sizeSub_of_le (Nat.le_add_left 1 reads) readsLt]
    rfl
  · show sizeSub d.bytesRemaining nread = bytes - nread
    rw [hb, sizeSub_of_le le bytesLt]

/-- A program on the session. -/
lemma onSession_refines {β : Type} {m : Prog β} {Q : β → Session → Prop} {S : Session → Prop}
    {R : β → β → Drain → Prop} (hm : Wp m d.session Q S)
    (h : ∀ b t, Q b t → R b b { d with session := t }) :
    Refines session (onSession m) m d R := by
  refine ((Refines.focus fun _ => rfl).and_wp hm).mono ?_
  rintro b' b _ ⟨⟨rfl, t, rfl⟩, post⟩
  exact h b' t post

/-- What a read that returned bytes can have returned. -/
lemma readable_le {readSize : Nat} {a : Answer} {data : List UInt8}
    (eq : (match a with
      | .read (.data data) =>
        if 0 < data.length ∧ data.length ≤ readSize then some (.data data) else none
      | .read result => some result
      | _ => none) = some (.data data)) :
    0 < data.length ∧ data.length ≤ readSize := by
  split at eq
  · split at eq
    · cases eq
      assumption
    · cases eq
  · rename_i result no
    cases eq
    exact absurd rfl (no data)
  · cases eq

/-- The read loop with the budgets as arguments. The induction is on the reads that are left: a turn
that goes on has used up one. -/
lemma readLoop_refines {bufSize : Nat} (size : d.session.streamBufferSize = bufSize)
    (held : d.Holds budget) :
    Refines session (readLoop r bufSize (d.readsRemaining + 1))
      (H3.readLoop r budget.reads budget.bytes) d
      fun _ b y => y.Holds b ∧ y.given = d.given := by
  rw [held.reads]
  obtain ⟨reads, bytes⟩ := budget
  dsimp only
  induction reads generalizing d bytes with
  | zero =>
    refine .get_bind_left ?_
    rw [if_neg]
    · exact .pure ⟨held, rfl⟩
    · rw [held.reads]
      exact fun budget => absurd budget.1 (Nat.lt_irrefl 0)
  | succ reads ih =>
    refine .get_bind ?_
    by_cases spent : bytes = 0
    · rw [if_pos spent, if_neg]
      · exact .pure ⟨held, rfl⟩
      · rw [held.bytes]
        exact fun budget => absurd spent (Nat.ne_of_gt budget.2)
    rw [if_neg spent, if_pos]
    swap
    · rw [held.reads, held.bytes]
      exact ⟨Nat.succ_pos reads, Nat.pos_of_ne_zero spent⟩
    cases hq : (d.session.objs r).qstream with
    | none => exact .bind (.modify rfl (.pure ⟨held.same rfl rfl, rfl⟩))
    | some h =>
      dsimp only
      refine .modify_bind_left rfl ?_
      rw [size, held.bytes]
      refine .bind (.ask ?_)
      rintro a (data | _ | _) eq
      · have le : data.length ≤ bytes := (readable_le eq).2.trans (min_le_right _ _)
        have charged : ((d.call (min bufSize bytes)).charge data.length).Holds
            { reads, bytes := bytes - data.length } :=
          Holds.charge (held.same rfl rfl) le
        refine .modify_bind_left rfl (.bind (.ask ?_))
        rintro _ ⟨cbs, consumed⟩ _
        refine .bind (.modify rfl ?_)
        dsimp only
        split
        · exact .bind (.modify rfl (.pure ⟨charged.same rfl rfl, rfl⟩))
        · refine .get_bind ?_
          split
          · exact .pure ⟨charged.same rfl rfl, rfl⟩
          · refine ih ?_ _ (charged.same rfl rfl)
            exact (Session.feed_aside data cbs consumed).streamBufferSize.trans size
      · refine .bind (.modify rfl (.bind (onSession_refines feedStreamFin_wp fun _ t _ => ?_)))
        exact .pure ⟨held.same rfl rfl, rfl⟩
      · exact .bind (.modify rfl (.pure ⟨held.same rfl rfl, rfl⟩))

/-- Looking whether a stream is readable costs nothing. -/
lemma isReady_refines (held : d.Holds budget) :
    Refines session (isReady r) (drained r budget) d fun b' b y => b' = b.1 ∧ y.Holds b.2 ∧
    y.given = d.given :=
  .get_bind (.pure ⟨rfl, held, rfl⟩)

/-- Reading one stream, which is given what is left of the budgets. -/
lemma drainOneStream_refines (r : Ref) (held : d.Holds budget) :
    Refines session (drainOneStream r) (H3.drainOneStream r budget) d fun b' b y =>
      b' = b.1 ∧ y.Holds b.2 ∧ y.given = d.given ++
        [{ stream := r, reads := budget.reads, bytes := budget.bytes }] := by
  rw [← held.reads, ← held.bytes]
  refine .modify_bind_left rfl (.get_bind_left (.modify_bind_left rfl ?_))
  refine .bind (onSession_refines queryFinished_wp ?_)
  intro finished t query
  have size : t.streamBufferSize = d.session.streamBufferSize := by
    rcases query with ⟨_, _, rfl⟩ | ⟨h, rstate, wstate, _, _, rfl⟩
    · rfl
    · rfl
  split
  · refine .get_bind ?_
    split
    · refine .bind (onSession_refines (closeFinished_wp _) fun _ _ _ => ?_)
      exact isReady_refines (held.same rfl rfl)
    · refine .bind (onSession_refines feedStreamFin_wp fun _ _ _ => ?_)
      refine .bind (onSession_refines (closeFinished_wp _) fun _ _ _ => ?_)
      exact isReady_refines (held.same rfl rfl)
  · refine .get_bind_left (.bind (.mono (readLoop_refines size ?_) ?_))
    · exact held.same rfl rfl
    · rintro _ _ y ⟨held, given⟩
      refine (isReady_refines held).mono ?_
      rintro b' b z ⟨eq, held, same⟩
      exact ⟨eq, held, same.trans given⟩

/-- The loop over the snapshot. -/
lemma visits_refines (n : Nat) (todo : List (Ref × Nat)) (held : d.Holds budget) :
    Refines session (forEach todo (visitStream n)) (drainLoop n todo budget) d
      fun _ _ _ => True := by
  induction todo generalizing d budget with
  | nil => exact .pure trivial
  | cons v todo ih =>
    obtain ⟨r, i⟩ := v
    rw [forEach, visitStream, bind_assoc]
    refine .get_bind ?_
    split
    · exact .pure trivial
    split
    · exact ih held
    rw [bind_assoc]
    refine .bind ((drainOneStream_refines r held).mono ?_)
    rintro _ ⟨ready, left⟩ y ⟨rfl, held, _⟩
    have same : ∀ f, (y.on f).Holds left := fun _ => held.same rfl rfl
    rw [bind_assoc]
    refine .bind (.modify rfl ?_)
    rw [bind_assoc]
    refine .get_bind_left ?_
    rw [(same _).reads, (same _).bytes]
    split
    · rw [bind_assoc]
      exact .bind_left (.modify rfl (.pure trivial))
    · exact ih (same _)

/-- On the session, this is the drain that has the budgets as arguments. -/
theorem drainReadyStreams_refines (s : Session) (streamReadBuf : Option Nat) :
    Refines session drainReadyStreams H3.drainReadyStreams (start s streamReadBuf)
      fun _ _ _ => True := by
  refine .bind (onSession_refines (Q := fun _ t => t = s) (S := fun _ => True)
    (.bind (.get (.ask trivial fun _ _ _ => rfl))) ?_)
  rintro snapshot _ rfl
  refine .bind (.modify rfl (.get_bind (.bind (.mono (visits_refines _ _ ?_) ?_))))
  · exact ⟨rfl, rfl, by decide, by decide⟩
  · exact fun _ _ _ _ => .modify rfl trivial

/-- What a call keeps to: the budgets are charged with what was read and do not wrap, every call of
the transport fits the buffer, and `*data_read` is set as soon as something was read. -/
structure Charged (d : Drain) : Prop where
  reads : d.readsRemaining + d.received.length = drainBudget.reads
  bytes : d.bytesRemaining + d.received.sum = drainBudget.bytes
  calls : ∀ c ∈ d.calls, 0 < c.size ∧ c.size ≤ c.room
  dataRead : d.received ≠ [] → d.dataRead = true

/-- The charges do not depend on the session. -/
lemma Charged.on (h : Charged d) (t : Session) : Charged { d with session := t } :=
  ⟨h.1, h.2, h.3, h.4⟩

/-- A drain that was charged holds a budget without wrapping. -/
lemma Charged.holds (h : Charged d) :
    d.Holds { reads := d.readsRemaining, bytes := d.bytesRemaining } := by
  have reads : d.readsRemaining ≤ 256 := Nat.le.intro h.reads
  have bytes : d.bytesRemaining ≤ 1024 * 1024 := Nat.le.intro h.bytes
  exact ⟨rfl, rfl, Nat.lt_of_le_of_lt reads (by decide), Nat.lt_of_le_of_lt bytes (by decide)⟩

/-- A call that asks for no more than the buffer was allocated for. -/
lemma Charged.call (h : Charged d) {size : Nat} (pos : 0 < size)
    (room : ∃ n, d.streamReadBuf = some n ∧ size ≤ n) :
    Charged (d.call size) := by
  refine ⟨h.reads, h.bytes, ?_, h.dataRead⟩
  intro c mem
  rcases List.mem_append.mp mem with before | new
  · exact h.calls c before
  · obtain ⟨n, eq, le⟩ := room
    rw [List.mem_singleton.mp new, eq]
    exact ⟨pos, le⟩

/-- A read that is within the budgets. -/
lemma Charged.charge (h : Charged d) {nread : Nat} (pos : 0 < d.readsRemaining)
    (le : nread ≤ d.bytesRemaining) :
    Charged (d.charge nread) := by
  have reads : sizeSub d.readsRemaining 1 = d.readsRemaining - 1 :=
    sizeSub_of_le pos h.holds.readsLt
  have bytes : sizeSub d.bytesRemaining nread = d.bytesRemaining - nread :=
    sizeSub_of_le le h.holds.bytesLt
  refine ⟨?_, ?_, h.calls, fun _ => rfl⟩
  · show sizeSub d.readsRemaining 1 + (d.received ++ [nread]).length = _
    rw [reads, List.length_append, List.length_singleton, ← h.reads]
    omega
  · show sizeSub d.bytesRemaining nread + (d.received ++ [nread]).sum = _
    rw [bytes, List.sum_append, List.sum_singleton, ← h.bytes]
    omega

/-- A program on the session charges nothing. -/
lemma onSession_charged {β : Type} {m : Prog β} {Q : β → Drain → Prop} (h : Charged d)
    (next : ∀ b t, Q b { d with session := t }) : Wp (onSession m) d Q Charged := by
  refine (Wp.focus .trivial).mono ?_ ?_
  · rintro b _ ⟨t, _, rfl⟩
    exact next b t
  · rintro _ ⟨t, _, rfl⟩
    exact h.on t

/-- The read loop is charged for what it reads. -/
lemma readLoop_charged {bufSize : Nat} (pos : 0 < bufSize) (turns : Nat) (h : Charged d)
    (room : ∃ n, d.streamReadBuf = some n ∧ bufSize ≤ n) :
    Wp (readLoop r bufSize turns) d (fun _ => Charged) Charged := by
  induction turns generalizing d with
  | zero => exact fun _ => h
  | succ turns ih =>
    refine .bind (.get ?_)
    split
    swap
    · exact .pure h
    rename_i budget
    split
    · exact .bind (.modify (.pure (h.on _)))
    obtain ⟨n, buf, le⟩ := room
    have called : Charged (d.call (min bufSize d.bytesRemaining)) :=
      h.call (lt_min pos budget.2) ⟨n, buf, (min_le_left _ _).trans le⟩
    refine .bind (.modify (.bind (.ask called ?_)))
    rintro a (data | _ | _) eq
    · have charged : Charged ((d.call (min bufSize d.bytesRemaining)).charge data.length) :=
        called.charge budget.1 ((readable_le eq).2.trans (min_le_right _ _))
      refine .bind (.modify (.bind (.ask charged ?_)))
      rintro _ ⟨cbs, consumed⟩ _
      refine .bind (.modify ?_)
      split
      · exact .bind (.modify (.pure (charged.on _)))
      · refine .bind (.get ?_)
        split
        · exact .pure (charged.on _)
        · exact ih (charged.on _) ⟨n, buf, le⟩
    · refine .bind (.modify (.bind (onSession_charged (called.on _) fun _ t => ?_)))
      exact .pure (called.on t)
    · exact .bind (.modify (.pure (called.on _)))

/-- The buffer has at least the size that was asked for. -/
lemma allocate_room (d : Drain) (bufSize : Nat) :
    ∃ n, (d.allocate bufSize).streamReadBuf = some n ∧ bufSize ≤ n := by
  rw [allocate]
  dsimp only
  split
  · exact ⟨bufSize, rfl, Nat.le_refl _⟩
  · split
    · exact ⟨bufSize, rfl, Nat.le_refl _⟩
    · rename_i n _ enough
      exact ⟨n, rfl, Nat.le_of_not_lt enough⟩

/-- Draining one stream is charged for what it reads. -/
lemma drainOneStream_charged (r : Ref) (pos : 0 < d.session.streamBufferSize) (h : Charged d) :
    Wp (drainOneStream r) d (fun _ => Charged) Charged := by
  have last : ∀ y, Charged y → Wp (isReady r) y (fun _ => Charged) Charged :=
    fun _ hy => .bind (.get (.pure hy))
  have start : Charged ((d.give r).allocate d.session.streamBufferSize) := ⟨h.1, h.2, h.3, h.4⟩
  refine .bind
    (.modify
      (.bind (.get (.bind (.modify (.bind (onSession_charged start fun finished t => ?_)))))))
  have queried := start.on t
  split
  · refine .bind (.get ?_)
    split
    · exact .bind (onSession_charged queried fun _ u => last _ (queried.on u))
    · refine .bind (onSession_charged queried fun _ u => ?_)
      exact .bind (onSession_charged (queried.on u) fun _ v => last _ (queried.on v))
  · refine .bind (.get (.bind ?_))
    exact (readLoop_charged pos _ queried (allocate_room (d.give r) _)).mono (fun _ => last)
      fun _ => id

/-- One turn of the loop keeps to the budgets. -/
lemma visitStream_charged (n : Nat) (v : Ref × Nat) (pos : 0 < d.session.streamBufferSize)
    (h : Charged d) :
    Wp (visitStream n v) d (fun _ y => 0 < y.session.streamBufferSize ∧ Charged y) Charged := by
  refine .bind (.get ?_)
  split
  · exact .pure ⟨pos, h⟩
  split
  · exact .pure ⟨pos, h⟩
  rename_i alive skip
  rw [Bool.not_eq_true] at alive
  simp only [Bool.or_eq_true, not_or, Bool.not_eq_true] at skip
  have visited := (drainOneStream_refines v.1 h.holds).wp (H3.drainOneStream_wp alive skip.2 _)
  refine .bind ((visited.and (drainOneStream_charged v.1 pos h)).mono ?_ fun _ => And.right)
  rintro ready y ⟨⟨_, _, visit, _⟩, charged⟩
  have size : 0 < (y.session.collect v.1 ready).streamBufferSize := by
    rw [(visit.aside.trans (Session.collect_aside v.1 ready)).streamBufferSize]
    exact pos
  refine .bind (.modify (.bind (.get ?_)))
  split
  · exact .bind (.modify (.pure ⟨size, charged.on _⟩))
  · exact .pure ⟨size, charged.on _⟩

/-- The whole call keeps to the budgets, wherever it is seen. -/
lemma drainReadyStreams_charged (s : Session) (streamReadBuf : Option Nat)
    (pos : 0 < s.streamBufferSize) :
    Wp drainReadyStreams (start s streamReadBuf) (fun _ => Charged) Charged := by
  have init : Charged (start s streamReadBuf) := ⟨rfl, rfl, nofun, fun ne => absurd rfl ne⟩
  refine .bind ((Wp.focus (Q := fun _ t => t = s) (S := fun _ => True) ?_).mono ?_ ?_)
  · exact .bind (.get (.ask trivial fun _ _ _ => rfl))
  · rintro snapshot _ ⟨t, rfl, rfl⟩
    refine .bind (.modify (.bind (.get (.bind ?_))))
    refine Wp.mono (Wp.forEach (J := fun y => 0 < y.session.streamBufferSize ∧ Charged y) ?_ ?_) ?_
      fun _ => id
    · exact fun v _ y h => visitStream_charged _ v h.1 h.2
    · exact ⟨pos, init.on _⟩
    · exact fun _ y h => .modify (h.2.on _)
  · rintro _ ⟨t, _, rfl⟩
    exact init.on t

/-- A budget that ran out was charged. -/
lemma Charged.dataRead_of_spent (h : Charged d)
    (spent : d.readsRemaining = 0 ∨ d.bytesRemaining = 0) :
    d.dataRead = true := by
  refine h.dataRead fun unread => ?_
  have reads := h.reads
  have bytes := h.bytes
  rw [unread] at reads bytes
  rcases spent with eq | eq
  · rw [eq] at reads
    exact absurd reads (by decide)
  · rw [eq] at bytes
    exact absurd bytes (by decide)

/-- A drain keeps to its budgets, at every point of the call and whatever the transport returns: at
most 256 reads return at most 1 MiB, both budgets are what is left of that, and each read asks for
at least a byte and at most what the buffer holds. If a budget ran out then `*data_read` is set. So
if the session's pass does not give the session up, the event thread does not wait, nor leave its
loop, before it has pumped again. -/
theorem drain_within_budgets (s : Session) (streamReadBuf : Option Nat)
    (pos : 0 < s.streamBufferSize) (as : List Answer) :
    let d := (drainReadyStreams (start s streamReadBuf) as).1
    d.received.length ≤ 256 ∧ d.received.sum ≤ 1048576 ∧
      d.readsRemaining = 256 - d.received.length ∧ d.bytesRemaining = 1048576 - d.received.sum ∧
      (∀ c ∈ d.calls, 0 < c.size ∧ c.size ≤ c.room) ∧
      (d.readsRemaining = 0 ∨ d.bytesRemaining = 0 → d.dataRead = true ∧
        ∀ (i : Nat) (l l' : Listener.State) (a : Listener.PassAnswer) (ops : List Listener.ConnOp),
          l.pc = .sessions i → a.scratch = true → a.dataRead = d.dataRead →
          Listener.step l (.pass a) = some (l', ops) →
          ∃ session, l'.io.activeSessions[i]? = some session ∧
            (session.aborted = true ∨
              ∀ (answers : List Listener.Answer) (l'' : Listener.State) (trace : List
                (List Listener.ConnOp)), (∀ rv, .pumped rv ∉ answers) →
                execAll Listener.step l' answers = some (l'', trace) →
                l''.workPending = true ∧ l''.waits = false ∧ l''.pc ≠ .exit ∧ l''.pc ≠ .done ∧
                  l''.io.activeSessions[i]? = some session)) := by
  intro d
  have charged : Charged d := (drainReadyStreams_charged s streamReadBuf pos).seen as
  have reads : d.readsRemaining + d.received.length = 256 := charged.reads
  have bytes : d.bytesRemaining + d.received.sum = 1048576 := charged.bytes
  refine ⟨by omega, by omega, by omega, by omega, charged.calls, fun spent => ?_⟩
  have read := charged.dataRead_of_spent spent
  refine ⟨read, fun i l l' a ops pc scratch same step => ?_⟩
  obtain ⟨session, slot, left⟩ := Listener.pass_workLeft pc scratch (same.trans read) step
  refine ⟨session, slot, ?_⟩
  cases live : session.aborted with
  | true => exact .inl rfl
  | false =>
    refine .inr fun answers l'' trace unpumped run => ?_
    rcases left with aborted | left
    · rw [live] at aborted
      cases aborted
    · have after := left.run live unpumped run
      exact ⟨after.workPending, after.not_waits, after.behind.ne_exit.1, after.behind.ne_exit.2,
        after.slot⟩

/-- A session with a buffer of one byte and an open request stream. -/
def oneByteSession : Session :=
  ((execAll runSect (.init 1 65536) requestOpen).map Prod.fst).getD (.init 1 65536)

/-- The client has sent more bytes than the session reads in one pass. -/
def singleBytes : List Answer :=
  [.order [0, 1, 2, 3], .states .ok .ok] ++
    (List.replicate 300 [.read (.data [0]), .called [] 1]).flatten

/-- One byte at a time, the reads run out first. -/
theorem drain_within_budgets_singleBytes :
    let d := (drainReadyStreams (start oneByteSession none) singleBytes).1
    0 < oneByteSession.streamBufferSize ∧ d.received = List.replicate 256 1 ∧ d.readsRemaining = 0 ∧
      d.dataRead = true := by
  have spent : (drainReadyStreams (start oneByteSession none) singleBytes).1.readsRemaining =
      0 := by decide +kernel
  refine ⟨by decide +kernel, by decide +kernel, spent, ?_⟩
  exact ((drain_within_budgets oneByteSession none (by decide +kernel) singleBytes).2.2.2.2.2
    (.inl spent)).1

end Drain

end ModHttp3.H3

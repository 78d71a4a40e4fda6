import Mathlib.Data.List.Infix
import Mathlib.Data.Option.Basic
import ModHttp3.Lib.Run
import ModHttp3.Response.Invariant

/-!
# The response queue is an exact FIFO

The worker and the event thread take turns under the session lock. `Step` is one such turn on the
response queue of a stream, labelled by what was done and what came back, and a run of it is any
interleaving of the two threads. The history of a run determines what was queued (`chunks`,
`appended`), what nghttp3 was handed (`handed`) and how much it acknowledged (`acked`).

`Fifo es s` is the invariant that ties the cursor and the counters to that history: the chunks
queued so far are those already freed, those handed out and still waiting to be acknowledged, and
those from the cursor on. `Fifo.step` keeps it in every turn and `response_queue_fifo` reads the
FIFO property off.
-/

namespace ModHttp3.Response
open ModHttp3.Lib

/-- What a turn does and observes. -/
inductive Event where
  | append (data : List UInt8) (ret : AppendRet)
  | complete (resumed : Bool)
  | read (r : ReadResult)
  | ack (datalen : Nat)
  | cancel
  | cleanup
  | session
deriving DecidableEq

/-- One turn of either thread on a stream's response queue. `malloc` returns an address that is not
in use, and the queue is only cleaned up after the response was cancelled, as its callers see to. -/
inductive Step : Stream → Event → Stream → Prop where
  | append {s s' data malloc ret} :
    data ≠ [] →
    (∀ a, malloc = some a → s.responseQueue.mem a = none) →
    streamResponseAppendStep s data malloc = some (s', ret) →
    Step s (.append data ret) s'
  | complete {s} :
    Step s (.complete (streamResponseComplete s).2) (streamResponseComplete s).1
  | read {s s' veccnt r} :
    1 ≤ veccnt →
    sessionReadData s veccnt = some (s', r) →
    Step s (.read r) s'
  | ack {s s' n} :
    streamResponseAckLocked s n = some s' →
    Step s (.ack n) s'
  | cancel {s} :
    Step s .cancel (streamResponseCancelLocked s)
  | cleanup {s s'} :
    s.responseCancelled = true →
    streamResponseCleanupLocked s = some s' →
    Step s .cleanup s'
  | session {s} (aborted ngh3Dead ngh3 responseSubmitted : Bool) :
    Step s .session { s with aborted, ngh3Dead, ngh3, responseSubmitted }

/-- A turn as a command to be run. -/
inductive Op where
  | append (data : List UInt8) (malloc : Option Ptr)
  | complete
  | read (veccnt : Nat)
  | ack (datalen : Nat)
  | cancel
  | cleanup

/-- Run one command; `none` when it is not possible in this state. -/
def exec (s : Stream) : Op → Option (Stream × Event)
  | .append data malloc => do
    guard (data ≠ [] ∧ (malloc.bind s.responseQueue.mem).isNone)
    let (s', ret) ← streamResponseAppendStep s data malloc
    some (s', .append data ret)
  | .complete =>
    let (s', resumed) := streamResponseComplete s
    some (s', .complete resumed)
  | .read veccnt => do
    guard (1 ≤ veccnt)
    let (s', r) ← sessionReadData s veccnt
    some (s', .read r)
  | .ack datalen => do
    let s' ← streamResponseAckLocked s datalen
    some (s', .ack datalen)
  | .cancel => some (streamResponseCancelLocked s, .cancel)
  | .cleanup => do
    guard s.responseCancelled
    let s' ← streamResponseCleanupLocked s
    some (s', .cleanup)

/-- Commands are turns. -/
lemma exec_step (s : Stream) (op : Op) (s' : Stream) (e : Event) (eq : exec s op = some (s', e)) :
    Step s e s' := by
  cases op with
  | append data malloc =>
    simp only [exec, Option.bind_eq_bind, Option.bind_eq_some_iff, Option.guard_eq_some'] at eq
    obtain ⟨_, ⟨ne, fresh⟩, ⟨t, ret⟩, eq, e⟩ := eq
    cases e
    refine .append ne ?_ eq
    rintro a rfl
    exact Option.isNone_iff_eq_none.mp fresh
  | complete =>
    cases eq
    exact .complete
  | read veccnt =>
    simp only [exec, Option.bind_eq_bind, Option.bind_eq_some_iff, Option.guard_eq_some'] at eq
    obtain ⟨_, pos, ⟨t, r⟩, eq, e⟩ := eq
    cases e
    exact .read pos eq
  | ack datalen =>
    simp only [exec, Option.bind_eq_bind, Option.bind_eq_some_iff] at eq
    obtain ⟨t, eq, e⟩ := eq
    cases e
    exact .ack eq
  | cancel =>
    cases eq
    exact .cancel
  | cleanup =>
    simp only [exec, Option.bind_eq_bind, Option.bind_eq_some_iff, Option.guard_eq_some'] at eq
    obtain ⟨_, hc, t, eq, e⟩ := eq
    cases e
    exact .cleanup hc eq

/-- The chunk a turn queues, if it queues one. -/
def Event.chunk : Event → List (List UInt8)
  | .append data (.chunk n _) => [data.take n]
  | _ => []

/-- The vectors a turn hands out. -/
def Event.vecs : Event → List (List UInt8)
  | .read r => r.vecs
  | _ => []

/-- The body bytes a turn acknowledges. -/
def Event.acked : Event → Nat
  | .ack n => n
  | _ => 0

/-- A turn of `h3_stream_response_append`. -/
def Event.isAppend : Event → Bool
  | .append _ _ => true
  | _ => false

/-- `h3_stream_response_complete`. -/
def Event.isComplete : Event → Bool
  | .complete _ => true
  | _ => false

/-- The chunks queued so far. -/
def chunks (es : List Event) : List (List UInt8) := es.flatMap Event.chunk

/-- The bytes queued so far. -/
def appended (es : List Event) : List UInt8 := (chunks es).flatten

/-- The bytes of all vectors handed out so far. -/
def handed (es : List Event) : List UInt8 := (es.flatMap Event.vecs).flatten

/-- The bytes acknowledged so far. -/
def acked (es : List Event) : Nat := (es.map Event.acked).sum

/-- `h3_stream_response_complete` was called. -/
def completed (es : List Event) : Bool := es.any Event.isComplete

section
variable {es fs : List Event} {e : Event}

/-- The chunks queued after one more event. -/
lemma chunks_snoc : chunks (es ++ [e]) = chunks es ++ e.chunk := by simp [chunks]

/-- The bytes queued after one more event. -/
lemma appended_snoc : appended (es ++ [e]) = appended es ++ e.chunk.flatten := by
  simp [appended, chunks_snoc]

/-- The bytes handed out after one more event. -/
lemma handed_snoc : handed (es ++ [e]) = handed es ++ e.vecs.flatten := by simp [handed]

/-- The bytes acknowledged after one more event. -/
lemma acked_snoc : acked (es ++ [e]) = acked es + e.acked := by simp [acked]

/-- Whether the response is complete after one more event. -/
lemma completed_snoc : completed (es ++ [e]) = (completed es || e.isComplete) := by
  simp [completed]

end

/-- The two facts about the callers: nghttp3 acknowledges no more body bytes than it was handed, and
the worker queues nothing after it has completed the response. -/
structure Orderly (es : List Event) : Prop where
  acked : ∀ fs, fs <+: es → acked fs ≤ (handed fs).length
  append : ∀ fs, fs <+: es → completed fs = true → ∀ e ∈ es.drop fs.length, e.isAppend = false

/-- The facts hold of every shorter history. -/
lemma Orderly.of_prefix {es gs : List Event} (ord : Orderly gs) (le : es <+: gs) : Orderly es where
  acked fs h := ord.acked fs (h.trans le)
  append fs h hc e he := by
    refine ord.append fs (h.trans le) hc e ?_
    obtain ⟨hs, rfl⟩ := le
    rw [List.drop_append_of_le_length h.length_le]
    exact List.mem_append_left hs he

/-- Freed chunks `gone`, chunks handed out and still queued `sent`, and chunks from the cursor on
`rest` make up everything that was queued. -/
structure FifoAt (es : List Event) (s : Stream) (gone : List (List UInt8)) (sent rest : Cells) :
    Prop where
  holds : Holds s (sent ++ rest)
  cursor : s.responseSubmitChunk = front rest
  offset : s.responseSubmitOffset = 0
  chunks : chunks es = gone ++ (sent ++ rest).data
  handed : handed es = (gone ++ sent.data).flatten
  acked : acked es = gone.flatten.length + (sent ++ rest).acked
  complete : s.responseComplete = completed es

/-- The FIFO invariant. -/
def Fifo (es : List Event) (s : Stream) : Prop := ∃ gone sent rest, FifoAt es s gone sent rest

/-- What was queued is what was handed out, followed by the chunks from the cursor on. -/
lemma FifoAt.appended {es : List Event} {s : Stream} {gone : List (List UInt8)} {sent rest : Cells}
    (h : FifoAt es s gone sent rest) :
    Response.appended es = Response.handed es ++ rest.data.flatten := by
  rw [Response.appended, h.chunks, h.handed, data_append]
  simp

/-- The chunks from the cursor on have bytes in them. -/
lemma FifoAt.nonempty {es : List Event} {s : Stream} {gone : List (List UInt8)} {sent rest : Cells}
    (h : FifoAt es s gone sent rest) {x : Ptr × Chunk} (hx : x ∈ rest) : x.2.data ≠ [] := by
  intro e
  have v := h.holds.valid.chunk x (List.mem_append_right sent hx)
  have len := v.data
  have pos := v.pos
  rw [e, List.length_nil] at len
  omega

/-- Everything was handed out exactly when no chunk is left behind the cursor. -/
lemma FifoAt.all_handed {es : List Event} {s : Stream} {gone : List (List UInt8)}
    {sent rest : Cells} (h : FifoAt es s gone sent rest) :
    Response.handed es = Response.appended es ↔ rest = [] := by
  rw [h.appended, List.self_eq_append_right]
  cases rest with
  | nil => simp
  | cons x rest => simp [h.nonempty (x := x) List.mem_cons_self]

/-- A fresh stream. -/
lemma Fifo.init (limit : UInt64) : Fifo [] (Stream.init limit) := by
  refine ⟨[], [], [], ?_⟩
  exact
    { holds := Holds.init limit
      cursor := rfl
      offset := rfl
      chunks := rfl
      handed := rfl
      acked := rfl
      complete := rfl }

/-- A cancelled response stays cancelled. -/
lemma Step.cancelled {s s' : Stream} {e : Event} (st : Step s e s')
    (h : s.responseCancelled = true) : s'.responseCancelled = true := by
  cases st with
  | append _ _ eq =>
    have hg : s.gone = true := by simp [Stream.gone, h]
    simp only [streamResponseAppendStep, streamResponseAppendStepBy, hg, Bool.true_eq_false,
      and_false, if_false, Bool.true_or, if_true, Option.some.injEq, Prod.mk.injEq] at eq
    obtain ⟨rfl, _⟩ := eq
    exact h
  | complete => exact h
  | read pos eq =>
    rw [sessionReadData, if_neg (by omega), if_pos h] at eq
    cases eq
    exact h
  | ack eq =>
    rw [ackLoop_frame eq]
    exact h
  | cancel => rfl
  | cleanup _ eq =>
    obtain ⟨q, _, eq⟩ := Option.bind_eq_some_iff.mp eq
    cases eq
    exact h
  | session _ _ _ _ => exact h

/-- A response that is not cancelled never was. -/
lemma Step.live {s s' : Stream} {es : List Event} (run : Run Step s es s')
    (live : s'.responseCancelled = false) : s.responseCancelled = false := by
  by_contra hc
  rw [Bool.not_eq_false] at hc
  have := run.invariant (P := fun s => s.responseCancelled = true)
    (fun _ _ _ h st => st.cancelled h) hc
  rw [live] at this
  cases this

/-- A turn that queues, hands out and acknowledges nothing keeps the invariant. -/
lemma FifoAt.quiet {es : List Event} {s s' : Stream} {e : Event} {gone : List (List UInt8)}
    {sent rest : Cells} (h : FifoAt es s gone sent rest) (holds : Holds s' (sent ++ rest))
    (cursor : s'.responseSubmitChunk = s.responseSubmitChunk)
    (offset : s'.responseSubmitOffset = s.responseSubmitOffset)
    (complete : s'.responseComplete = (s.responseComplete || e.isComplete))
    (chunk : e.chunk = []) (vecs : e.vecs = []) (acked : e.acked = 0) :
    FifoAt (es ++ [e]) s' gone sent rest where
  holds := holds
  cursor := cursor.trans h.cursor
  offset := offset.trans h.offset
  chunks := by rw [chunks_snoc, chunk, List.append_nil, h.chunks]
  handed := by rw [handed_snoc, vecs, List.flatten_nil, List.append_nil, h.handed]
  acked := by rw [acked_snoc, acked, Nat.add_zero, h.acked]
  complete := by rw [completed_snoc, complete, h.complete]

/-- Chunks from the cursor on are not acknowledged at all, as long as nghttp3 acknowledges no more
than it was handed. -/
lemma FifoAt.rest_acked {es : List Event} {s : Stream} {gone : List (List UInt8)}
    {sent rest : Cells} (h : FifoAt es s gone sent rest)
    (ord : Response.acked es ≤ (Response.handed es).length) :
    rest.acked = 0 := by
  have valid := h.holds.valid
  cases sent with
  | nil =>
    have ha := h.acked
    have hh := congrArg List.length h.handed
    simp only [List.nil_append, data_nil, List.append_nil] at ha hh
    omega
  | cons x sent =>
    refine acked_eq_zero fun y hy => valid.tail y ?_
    rw [List.cons_append, List.tail_cons]
    exact List.mem_append_right sent hy

/-- Queueing a chunk keeps the invariant: a null cursor is re-armed at the new chunk. -/
lemma FifoAt.append {es : List Event} {s s' : Stream} {gone : List (List UInt8)} {sent rest : Cells}
    {data : List UInt8} {a n : Nat} {resumed : Bool} (h : FifoAt es s gone sent rest)
    (holds : Holds s' (sent ++ rest ++ [(a, { len := n, acked := 0, data := data.take n })]))
    (cursor : s'.responseSubmitChunk =
      if s.responseSubmitChunk.isNone then some a else s.responseSubmitChunk)
    (offset : s'.responseSubmitOffset =
      if s.responseSubmitChunk.isNone then 0 else s.responseSubmitOffset)
    (complete : s'.responseComplete = s.responseComplete) :
    FifoAt (es ++ [Event.append data (.chunk n resumed)]) s' gone sent
      (rest ++ [(a, { len := n, acked := 0, data := data.take n })]) where
  holds := by
    rw [← List.append_assoc]
    exact holds
  cursor := by
    rw [cursor, h.cursor]
    cases rest with
    | nil => rfl
    | cons x rest => rfl
  offset := by
    rw [offset, h.offset]
    exact ite_self 0
  chunks := by
    rw [chunks_snoc, h.chunks, ← List.append_assoc sent]
    simp [Event.chunk]
  handed := by
    rw [handed_snoc, h.handed]
    simp [Event.vecs]
  acked := by
    rw [acked_snoc, h.acked]
    simp [Event.acked]
  complete := by
    rw [completed_snoc, complete, h.complete]
    simp [Event.isComplete]

/-- Acknowledging bytes that were handed out keeps the invariant: the chunks it frees were handed
out whole. -/
lemma FifoAt.ack {es : List Event} {s s' : Stream} {gone : List (List UInt8)} {sent rest : Cells}
    {n : Nat} (h : FifoAt es s gone sent rest) (eq : streamResponseAckLocked s n = some s')
    (ord : Response.acked es + n ≤ (Response.handed es).length) :
    Fifo (es ++ [Event.ack n]) s' := by
  have hrest : rest.acked = 0 := h.rest_acked (by omega)
  have vsent : Cells.Valid sent := by
    refine ⟨fun x hx => h.holds.valid.chunk x (List.mem_append_left rest hx), fun x hx => ?_⟩
    refine h.holds.valid.tail x ?_
    cases sent with
    | nil => cases hx
    | cons y ys => exact List.mem_append_left rest hx
  have le : n ≤ sent.unacked := by
    have ha := h.acked
    have hl := vsent.length_data
    rw [h.handed, List.flatten_append, List.length_append, hl, ha, acked_append, hrest] at ord
    omega
  obtain ⟨freed, efreed, elen⟩ := ackChunks_freed vsent le
  obtain ⟨t, et, ht⟩ := h.holds.ack n
  rw [eq] at et
  cases et
  rw [ackChunks_append le] at ht
  have frame := ackLoop_frame eq
  refine ⟨gone ++ freed, ackChunks sent n, rest, ?_⟩
  exact
    { holds := ht
      cursor := by rw [frame]; exact h.cursor
      offset := by rw [frame]; exact h.offset
      chunks := by
        rw [chunks_snoc, h.chunks, data_append, data_append, efreed]
        simp [Event.chunk]
      handed := by
        rw [handed_snoc, h.handed, efreed]
        simp [Event.vecs]
      acked := by
        rw [acked_snoc, h.acked, acked_append, acked_append, List.flatten_append,
          List.length_append]
        simp only [Event.acked]
        omega
      complete := by
        rw [completed_snoc, frame, ← h.complete]
        simp [Event.isComplete] }

/-- What the data reader returns while the response is not cancelled: the chunks from the cursor on,
with the end of the response exactly when it is complete and no chunk is left behind. -/
lemma FifoAt.read {es : List Event} {s s' : Stream} {gone : List (List UInt8)} {sent rest : Cells}
    {veccnt : Nat} {r : ReadResult} (h : FifoAt es s gone sent rest) (pos : 1 ≤ veccnt)
    (live : s.responseCancelled = false) (eq : sessionReadData s veccnt = some (s', r)) :
    FifoAt (es ++ [Event.read r]) s' gone (sent ++ rest.take veccnt) (rest.drop veccnt) ∧
      (r.eof = true ↔ completed es = true ∧ rest.drop veccnt = []) := by
  have hread := h.holds.read veccnt h.cursor h.offset
  rw [sessionReadData, if_neg (by omega), if_neg (by rw [live]; decide), hread] at eq
  simp only [Option.bind_eq_bind, Option.bind_some] at eq
  have hstate : s' =
      { s with responseSubmitChunk := front (rest.drop veccnt), responseSubmitOffset := 0 } := by
    split_ifs at eq <;> cases eq <;> rfl
  have hvecs : r.vecs = Cells.data (rest.take veccnt) := by
    split_ifs at eq with h1
    · cases eq
      rfl
    all_goals
      cases eq
      have : (Cells.data (rest.take veccnt)).length = 0 := by omega
      exact (List.length_eq_zero_iff.mp this).symm
  have hfront : front (rest.drop veccnt) = none ↔ rest.drop veccnt = [] := by
    cases rest.drop veccnt with
    | nil => simp
    | cons x xs => simp
  have heof : r.eof = true ↔ completed es = true ∧ rest.drop veccnt = [] := by
    rw [← h.complete]
    split_ifs at eq with h1 h2
    · cases eq
      simp only [Bool.and_eq_true, Option.isNone_iff_eq_none, hfront]
      exact and_comm
    all_goals
      cases eq
      -- nothing was read although there was room for a chunk
      have hnil : rest = [] := by
        have hl : (rest.take veccnt).length = 0 := by
          simpa [Cells.data] using Nat.eq_zero_of_not_pos h1
        rw [List.length_take] at hl
        exact List.length_eq_zero_iff.mp (by omega)
      simp [hnil, h2]
  refine ⟨?_, heof⟩
  exact
    { holds := by
        rw [List.append_assoc, List.take_append_drop, hstate]
        exact h.holds.frame rfl rfl rfl
      cursor := by rw [hstate]
      offset := by rw [hstate]
      chunks := by
        rw [chunks_snoc, h.chunks, List.append_assoc sent, List.take_append_drop]
        simp [Event.chunk]
      handed := by
        rw [handed_snoc, h.handed, Event.vecs, hvecs, data_append]
        simp
      acked := by
        rw [acked_snoc, h.acked, List.append_assoc sent, List.take_append_drop]
        simp [Event.acked]
      complete := by
        rw [completed_snoc, hstate, ← h.complete]
        simp [Event.isComplete] }

/-- One turn that leaves the response uncancelled keeps the invariant. -/
lemma Fifo.step {es : List Event} {s s' : Stream} {e : Event} (inv : Fifo es s) (st : Step s e s')
    (ord : Orderly (es ++ [e])) (live : s'.responseCancelled = false) : Fifo (es ++ [e]) s' := by
  obtain ⟨gone, sent, rest, h⟩ := inv
  have before := Step.live (.single st) live
  cases st with
  | append ne fresh eq =>
    obtain ⟨t, ret', eq', app⟩ := h.holds.append ne fresh
    rw [eq'] at eq
    cases eq
    cases app with
    | wait _ _ =>
      exact ⟨gone, sent, rest, h.quiet h.holds rfl rfl (Bool.or_false _).symm rfl rfl rfl⟩
    | refuse _ =>
      exact ⟨gone, sent, rest, h.quiet h.holds rfl rfl (Bool.or_false _).symm rfl rfl rfl⟩
    -- these two cancel the response
    | tooLong _ => cases live
    | noMemory => cases live
    | chunk _ _ _ holds frame =>
      exact ⟨gone, sent, _, h.append holds (by rw [frame]) (by rw [frame]) (by rw [frame])⟩
  | complete =>
    exact ⟨gone, sent, rest, h.quiet (h.holds.frame rfl rfl rfl) rfl rfl (Bool.or_true _).symm
      rfl rfl rfl⟩
  | read pos eq =>
    exact ⟨gone, _, _, (h.read pos before eq).1⟩
  | ack eq =>
    have total := ord.acked _ (List.prefix_refl _)
    rw [acked_snoc, handed_snoc] at total
    simp only [Event.acked, Event.vecs, List.flatten_nil, List.append_nil] at total
    exact h.ack eq total
  | cancel => cases live
  | cleanup hc _ =>
    rw [before] at hc
    cases hc
  | session _ _ _ _ =>
    exact ⟨gone, sent, rest, h.quiet (h.holds.frame rfl rfl rfl) rfl rfl (Bool.or_false _).symm
      rfl rfl rfl⟩

/-- The invariant holds along every orderly run that has not cancelled the response. -/
lemma Fifo.run {limit : UInt64} {es : List Event} {s : Stream}
    (run : Run Step (Stream.init limit) es s) (ord : Orderly es)
    (live : s.responseCancelled = false) : Fifo es s := by
  induction run with
  | nil => exact Fifo.init limit
  | snoc _ st ih =>
    have prior := ih (ord.of_prefix (List.prefix_append _ _)) (Step.live (.single st) live)
    exact prior.step st ord live

/-- The response queue is an exact FIFO: in every interleaving of the worker and the event thread
that has not cancelled the response, what nghttp3 was handed is a prefix of what was queued, the
cursor is null exactly when everything was handed out and otherwise designates the queued chunk with
the next byte, only chunks that were handed out and acknowledged whole have left the queue, and the
data reader raised the end of the response exactly when it was complete and everything had been
handed out. -/
theorem response_queue_fifo {limit : UInt64} {es : List Event} {s : Stream}
    (run : Run Step (Stream.init limit) es s) (ord : Orderly es)
    (live : s.responseCancelled = false) :
    handed es <+: appended es ∧
    (s.responseSubmitChunk = none ↔ handed es = appended es) ∧
    (∀ a, s.responseSubmitChunk = some a →
      ∃ xs c ys, s.responseQueue.Rep (xs ++ (a, c) :: ys) ∧
        c.data.drop s.responseSubmitOffset ≠ [] ∧
        appended es =
          handed es ++ c.data.drop s.responseSubmitOffset ++ (Cells.data ys).flatten) ∧
    (∃ gone xs, chunks es = gone ++ Cells.data xs ∧ s.responseQueue.Rep xs ∧
      gone.flatten <+: handed es ∧ gone.flatten.length ≤ acked es) ∧
    (∀ fs r gs, es = fs ++ .read r :: gs →
      (r.eof = true ↔ completed fs = true ∧ handed (fs ++ [.read r]) = appended fs)) := by
  obtain ⟨gone, sent, rest, h⟩ := Fifo.run run ord live
  refine ⟨?_, ?_, ?_, ?_, ?_⟩
  · rw [h.appended]
    exact List.prefix_append _ _
  · rw [h.all_handed, h.cursor]
    cases rest with
    | nil => simp
    | cons x rest => simp
  · intro a ha
    rw [h.cursor] at ha
    cases rest with
    | nil => cases ha
    | cons x rest =>
      cases ha
      refine ⟨sent, x.2, rest, h.holds.rep, ?_, ?_⟩
      · rw [h.offset]
        exact h.nonempty List.mem_cons_self
      · rw [h.appended, h.offset]
        simp
  · refine ⟨gone, sent ++ rest, h.chunks, h.holds.rep, ?_, ?_⟩
    · rw [h.handed, List.flatten_append]
      exact List.prefix_append _ _
    · rw [h.acked]
      omega
  · -- cut the run right before and right after the read
    intro fs r gs e
    subst e
    obtain ⟨t, u, run1, st, run2⟩ := run.step_at
    have liveu := Step.live run2 live
    have livet := Step.live (.single st) liveu
    obtain ⟨gone', sent', rest', h'⟩ := Fifo.run run1 (ord.of_prefix (List.prefix_append _ _)) livet
    cases st with
    | read pos eq =>
      obtain ⟨h'', eof⟩ := h'.read pos livet eq
      have same : appended (fs ++ [Event.read r]) = appended fs := by
        rw [appended_snoc]
        simp [Event.chunk]
      rw [eof, ← same, h''.all_handed]

/-- A response of three bytes: queued, handed out, acknowledged and completed. -/
def threeBytes : List Event :=
  [.append [1, 2, 3] (.chunk 3 false), .read { vecs := [[1, 2, 3]], ret := .count 1, eof := false },
    .ack 3, .complete false, .read { vecs := [], ret := .count 0, eof := true }]

/-- All of `threeBytes` are handed out, in their order. -/
theorem response_queue_fifo_threeBytes :
    ∃ s, Run Step (Stream.init 65536) threeBytes s ∧ s.responseSubmitChunk = none ∧
      handed threeBytes = appended threeBytes := by
  have run : ((execAll exec (Stream.init 65536)
      [.append [1, 2, 3] (some 7), .read 8, .ack 3, .complete, .read 8]).map fun r =>
        (r.2, r.1.responseSubmitChunk, r.1.responseCancelled)) =
        some (threeBytes, none, false) := by
    decide +kernel
  obtain ⟨⟨s, es⟩, run, e⟩ := Option.map_eq_some_iff.mp run
  simp only [Prod.mk.injEq] at e
  obtain ⟨rfl, cursor, live⟩ := e
  have ord : Orderly threeBytes :=
    { acked := fun fs h => by
        rw [← List.mem_inits] at h
        revert fs
        decide
      append := fun fs h => by
        rw [← List.mem_inits] at h
        revert fs
        decide }
  have fifo := response_queue_fifo (execAll_run exec_step run) ord live
  exact ⟨s, execAll_run exec_step run, cursor, fifo.2.1.mp cursor⟩

end ModHttp3.Response

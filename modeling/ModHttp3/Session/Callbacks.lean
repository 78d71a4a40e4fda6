import Mathlib.Logic.Function.Basic
import ModHttp3.Lib.Ledger

/-!
# Sessions and the nghttp3 callbacks

The state of `h3_session` and `h3_stream` (`h3_session.h`) as the event thread sees it, and the
callbacks nghttp3 makes into it (`h3_callbacks.c`).

Stream objects live as long as the session and are numbered in the order `track_stream` allocates
them; `streams` are those in the hash. QUIC stream handles are numbered in the order the transport
hands them out. `userData` is the `stream_user_data` that nghttp3 keeps for a stream id. `log`
records every operation on a handle and every call of nghttp3 with the callbacks it made.

C → Lean naming: `on_begin_headers` → `onBeginHeaders` and so on, `set_pseudo` → `setPseudo`,
`h3_session_queue_free` → `queueFree`. Byte buffers are the lists of the bytes in use. Of the
response half of a stream only `response_cancelled` is kept here, so `on_acked_stream_data` has no
counterpart.
-/

namespace ModHttp3.H3
open ModHttp3.Lib

/-- A QUIC stream handle (C `h3q_stream *`), by its order of creation. -/
abbrev Handle := Nat

/-- A stream object (C `h3_stream *`), by its order of creation. -/
abbrev Ref := Nat

/-- `H3_SID_IS_BIDI`. -/
def sidIsBidi (sid : Int) : Bool := sid / 2 % 2 == 0

/-- `H3_SID_IS_SERVER`. -/
def sidIsServer (sid : Int) : Bool := sid % 2 == 1

/-- The part of a stream the event thread works on (C `h3_stream`). -/
structure H3Stream where
  streamId : Int
  qstream : Option Handle
  done : Bool
  writeBlocked : Bool
  isBidi : Bool
  headersComplete : Bool
  dispatched : Bool
  workerDone : Bool
  bodyComplete : Bool
  bodyTruncated : Bool
  requestBody : List UInt8
  requestBodyCapacity : Nat
  requestBodyOverflow : Bool
  method : Option (List UInt8)
  scheme : Option (List UInt8)
  authority : Option (List UInt8)
  path : Option (List UInt8)
  headers : Option (List (List UInt8 × List UInt8))
  responseCancelled : Bool

/-- A stream object as `track_stream` fills it in. -/
def H3Stream.init (sid : Int) (qstream : Option Handle) : H3Stream where
  streamId := sid
  qstream := qstream
  done := false
  writeBlocked := false
  isBidi := sidIsBidi sid
  headersComplete := false
  dispatched := false
  workerDone := false
  bodyComplete := false
  bodyTruncated := false
  requestBody := []
  requestBodyCapacity := 0
  requestBodyOverflow := false
  method := none
  scheme := none
  authority := none
  path := none
  headers := none
  responseCancelled := false

/-- The state of the receiving part of a QUIC stream (`SSL_get_stream_read_state`). -/
inductive ReadState where
  | ok
  | finished
  | resetRemote
  | connClosed
  | other
deriving DecidableEq

/-- The state of the sending part of a QUIC stream (`SSL_get_stream_write_state`). -/
inductive WriteState where
  | ok
  | finished
  | resetLocal
  | other
deriving DecidableEq

/-- What `h3q_stream_read` returns: bytes, the end of the stream, or neither. -/
inductive ReadResult where
  | data (bytes : List UInt8)
  | fin
  | nothing
deriving DecidableEq

/-- What `h3q_stream_write` returns. -/
structure WriteResult where
  accepted : Nat
  blocked : Bool
  broken : Bool
deriving DecidableEq

/-- The uses of a QUIC stream handle, with what came back. -/
inductive Use where
  | id (sid : Int)
  | isWriteBlocked (blocked : Bool)
  | isReadFinished (rstate : ReadState) (wstate : WriteState)
  | read (result : ReadResult)
  | write (lens : List Nat) (fin : Bool) (result : WriteResult)
  | reset (err : Nat)
deriving DecidableEq

/-- The header tokens the callbacks tell apart. -/
inductive Token where
  | method
  | scheme
  | path
  | authority
  | other
deriving DecidableEq

/-- A callback of nghttp3. -/
inductive Cb where
  | beginHeaders (sid : Int)
  | recvHeader (sid : Int) (token : Token) (name value : List UInt8)
  | endHeaders (sid : Int) (fin : Bool)
  | recvData (sid : Int) (data : List UInt8)
  | stopSending (sid : Int) (err : Nat)
  | resetStream (sid : Int) (err : Nat)
  | streamClose (sid : Int) (err : Nat)
deriving DecidableEq

/-- A call of nghttp3. -/
inductive Call where
  | readStream (sid : Int) (data : List UInt8) (fin : Bool)
  | closeStream (sid : Int)
  | writevStream (sid : Int) (fin : Bool) (lens : List Nat)
  | addWriteOffset (sid : Int) (n : Nat)
  | addAckOffset (sid : Int) (n : Nat)
  | blockStream (sid : Int)
  | unblockStream (sid : Int)
  | submitResponse (sid : Int)
  | resumeStream (sid : Int)
  | submitShutdownNotice
  | isDrained2
  | shutdown
deriving DecidableEq

/-- What the log records: a handle that the transport handed out, an operation on a handle, a call
of nghttp3 with its callbacks and its result, and a request that a worker processed. -/
inductive Entry where
  | got (h : Handle) (sid : Int)
  | op (op : ResOp Use)
  | call (c : Call) (cbs : List Cb) (rv : Int)
  | processed (r : Ref) (status : Nat)
deriving DecidableEq

/-- Where the session is: created, its control streams failed, in service, destroyed. -/
inductive Phase where
  | created
  | failed
  | serving
  | destroyed
deriving DecidableEq

/-- A session (C `h3_session`) with the objects and handles it owns. -/
structure Session where
  objs : Ref → H3Stream
  next : Ref
  streams : List Ref
  pendingFree : List Handle
  pendingSid : Int
  pendingH3s : Option Ref
  userData : Int → Option Ref
  /-- `ngh3` is not null -/
  ngh3 : Bool
  ngh3Dead : Bool
  blockedStreams : Int
  streamDrainCursor : Nat
  controlStreamsCreated : Bool
  /-- the streams the last drain returned for dispatch -/
  completed : List Ref
  phase : Phase
  /-- how many handles the transport handed out -/
  handles : Nat
  /-- the handles that only a local variable refers to, or nothing any more -/
  held : List Handle
  streamBufferSize : Nat
  maxRequestBodySize : Nat
  log : List Entry

/-- A session as `h3_session_create` leaves it. -/
def Session.init (streamBufferSize maxRequestBodySize : Nat) : Session where
  objs := fun _ => .init 0 none
  next := 0
  streams := []
  pendingFree := []
  pendingSid := 0
  pendingH3s := none
  userData := fun _ => none
  ngh3 := true
  ngh3Dead := false
  blockedStreams := 0
  streamDrainCursor := 0
  controlStreamsCreated := false
  completed := []
  phase := .created
  handles := 0
  held := []
  streamBufferSize := streamBufferSize
  maxRequestBodySize := maxRequestBodySize
  log := []

/-- Change a stream object. -/
def Session.modifyObj (s : Session) (r : Ref) (f : H3Stream → H3Stream) : Session :=
  { s with objs := Function.update s.objs r (f (s.objs r)) }

/-- What holds between an object and its new value, and between any object and itself, holds
throughout. -/
lemma update_rel {objs : Ref → H3Stream} {r : Ref} {x : H3Stream} {P : H3Stream → H3Stream → Prop}
    (changed : P (objs r) x) (same : ∀ x, P x x) (r' : Ref) :
    P (objs r') (Function.update objs r x r') := by
  by_cases eq : r' = r
  · subst eq
    rw [Function.update_self]
    exact changed
  · rw [Function.update_of_ne eq]
    exact same _

/-- The objects after a change of one of them. -/
lemma Session.modifyObj_objs {s : Session} {r : Ref} {f : H3Stream → H3Stream} :
    (s.modifyObj r f).objs = Function.update s.objs r (f (s.objs r)) := rfl

/-- Record an entry. -/
def Session.emit (s : Session) (e : Entry) : Session := { s with log := s.log ++ [e] }

/-- Defer the release of a handle (C `h3_session_queue_free`). -/
def queueFree (s : Session) (h : Handle) : Session := { s with pendingFree := s.pendingFree ++ [h] }

/-- What a callback returns to nghttp3. -/
inductive CbRet where
  | ok
  | callbackFailure
  | malformedHttpHeader
deriving DecidableEq

/-- Store a pseudo header (C `set_pseudo`). -/
def setPseudo (x : H3Stream) (token : Token) (value : List UInt8) : H3Stream × CbRet :=
  if value.length = 0 ∨ value.length ≥ 8192 then
    (x, .malformedHttpHeader)
  else
    match token with
    | .method => ({ x with method := some value }, .ok)
    | .scheme => ({ x with scheme := some value }, .ok)
    | .path => ({ x with path := some value }, .ok)
    | .authority => ({ x with authority := some value }, .ok)
    | .other => (x, .malformedHttpHeader)

/-- A header block begins: bind the stream that is being read (C `on_begin_headers`). -/
def onBeginHeaders (s : Session) (sid : Int) : Session × CbRet :=
  let stream :=
    match s.userData sid with
    | some r => some r
    -- the stream is not bound yet: it is the one whose bytes nghttp3 was just given
    | none => if s.pendingSid = sid then s.pendingH3s else none
  match stream with
  | none => (s, .callbackFailure)
  | some r =>
    let s := s.modifyObj r fun x =>
      if x.isBidi && x.headers.isNone then { x with headers := some [] } else x
    ({ s with userData := Function.update s.userData sid (some r) }, .ok)

/-- A header arrives (C `on_recv_header`). -/
def onRecvHeader (s : Session) (sid : Int) (token : Token) (name value : List UInt8) :
    Session × CbRet :=
  match s.userData sid with
  | none => (s, .ok)
  | some r =>
    if token = .other then
      (s.modifyObj r fun x => { x with headers := x.headers.map (· ++ [(name, value)]) }, .ok)
    else
      (s.modifyObj r fun x => (setPseudo x token value).1, (setPseudo (s.objs r) token value).2)

/-- A header block ends (C `on_end_headers`). -/
def onEndHeaders (s : Session) (sid : Int) (fin : Bool) : Session :=
  match s.userData sid with
  | none => s
  | some r =>
    s.modifyObj r fun x =>
      if x.isBidi then
        { x with headersComplete := true, bodyComplete := x.bodyComplete || fin }
      else
        x

/-- `H3_BODY_BUF_INIT_CAP`. -/
def bodyBufInitCap : Nat := 8 * 1024

/-- The loop of `on_recv_data` that doubles the capacity; it takes fewer turns than `needed`. -/
def growCapacity : Nat → Nat → Nat → Nat
  | 0, capacity, _ => capacity
  | fuel + 1, capacity, needed =>
    if capacity < needed then growCapacity fuel (capacity * 2) needed else capacity

/-- Take body bytes into the buffer (the body of `on_recv_data`). -/
def recvBody (max : Nat) (data : List UInt8) (x : H3Stream) : H3Stream :=
  if x.isBidi = false ∨ data = [] ∨ x.requestBodyOverflow = true then
    x
  else
    let needed := x.requestBody.length + data.length
    if needed > max then
      -- the bytes are dropped, and so is everything after them
      { x with requestBodyOverflow := true }
    else
      let capacity :=
        if needed > x.requestBodyCapacity then
          let cap := if x.requestBodyCapacity = 0 then bodyBufInitCap else x.requestBodyCapacity
          let cap := growCapacity needed cap needed
          if cap > max then max else cap
        else
          x.requestBodyCapacity
      { x with requestBody := x.requestBody ++ data, requestBodyCapacity := capacity }

/-- Body bytes arrive (C `on_recv_data`). -/
def onRecvData (s : Session) (sid : Int) (data : List UInt8) : Session :=
  match s.userData sid with
  | none => s
  | some r => s.modifyObj r (recvBody s.maxRequestBodySize data)

/-- Hand the QUIC stream of an object to the deferred list, if it still has one. -/
def dropQstream (s : Session) (r : Ref) : Session :=
  match (s.objs r).qstream with
  | none => s
  | some h => (queueFree s h).modifyObj r fun x => { x with qstream := none }

/-- nghttp3 wants no more bytes of the stream (C `on_stop_sending`). -/
def onStopSending (s : Session) (sid : Int) : Session :=
  match s.userData sid with
  | none => s
  | some r =>
    (dropQstream s r).modifyObj r fun x =>
      { x with responseCancelled := true, done := true, bodyComplete := true,
               bodyTruncated := true }

/-- nghttp3 resets the stream (C `on_reset_stream`). -/
def onResetStream (s : Session) (sid : Int) (err : Nat) : Session :=
  match s.userData sid with
  | none => s
  | some r =>
    let s' :=
      match (s.objs r).qstream with
      | none => s
      | some h => s.emit (.op (.use (.reset err) h))
    s'.modifyObj r fun x => { x with responseCancelled := true, done := true }

/-- nghttp3 is done with the stream (C `on_stream_close`). -/
def onStreamClose (s : Session) (sid : Int) : Session :=
  match s.userData sid with
  | none => s
  | some r =>
    (dropQstream s r).modifyObj r fun x => { x with responseCancelled := true, done := true }

/-- Run a callback. -/
def runCb (s : Session) : Cb → Session
  | .beginHeaders sid => (onBeginHeaders s sid).1
  | .recvHeader sid token name value => (onRecvHeader s sid token name value).1
  | .endHeaders sid fin => onEndHeaders s sid fin
  | .recvData sid data => onRecvData s sid data
  | .stopSending sid _ => onStopSending s sid
  | .resetStream sid err => onResetStream s sid err
  | .streamClose sid _ => onStreamClose s sid

/-- Run the callbacks of a call, in order. -/
def runCbs (s : Session) (cbs : List Cb) : Session := cbs.foldl runCb s

/-- What the callbacks keep of a stream object: its identity and the marks of the dispatcher and the
flush; marks are only set, and a handle is only taken away. -/
structure H3Stream.Frame (x y : H3Stream) : Prop where
  streamId : y.streamId = x.streamId
  isBidi : y.isBidi = x.isBidi
  dispatched : y.dispatched = x.dispatched
  workerDone : y.workerDone = x.workerDone
  writeBlocked : y.writeBlocked = x.writeBlocked
  done : x.done = true → y.done = true
  headersComplete : x.headersComplete = true → y.headersComplete = true
  bodyComplete : x.bodyComplete = true → y.bodyComplete = true
  qstream : y.qstream = x.qstream ∨ y.qstream = none

/-- What the callbacks keep of a session. -/
structure Session.Frame (s t : Session) : Prop where
  objs : ∀ r, (s.objs r).Frame (t.objs r)
  next : t.next = s.next
  streams : t.streams = s.streams
  blockedStreams : t.blockedStreams = s.blockedStreams
  held : t.held = s.held
  handles : t.handles = s.handles
  phase : t.phase = s.phase
  ngh3Dead : t.ngh3Dead = s.ngh3Dead
  completed : t.completed = s.completed
  controlStreamsCreated : t.controlStreamsCreated = s.controlStreamsCreated
  pendingSid : t.pendingSid = s.pendingSid
  pendingH3s : t.pendingH3s = s.pendingH3s
  userData : ∀ sid r, s.userData sid = some r → t.userData sid = some r

section
variable {x y z : H3Stream} {s t u : Session}

/-- An object frames itself. -/
lemma H3Stream.Frame.refl : x.Frame x := ⟨rfl, rfl, rfl, rfl, rfl, id, id, id, .inl rfl⟩

/-- Frames of objects compose. -/
lemma H3Stream.Frame.trans (h1 : x.Frame y) (h2 : y.Frame z) : x.Frame z where
  streamId := h2.streamId.trans h1.streamId
  isBidi := h2.isBidi.trans h1.isBidi
  dispatched := h2.dispatched.trans h1.dispatched
  workerDone := h2.workerDone.trans h1.workerDone
  writeBlocked := h2.writeBlocked.trans h1.writeBlocked
  done := h2.done ∘ h1.done
  headersComplete := h2.headersComplete ∘ h1.headersComplete
  bodyComplete := h2.bodyComplete ∘ h1.bodyComplete
  qstream := by
    rcases h2.qstream with e | e
    · rw [e]
      exact h1.qstream
    · exact .inr e

/-- A session frames itself. -/
lemma Session.Frame.refl : s.Frame s :=
  ⟨fun _ => .refl, rfl, rfl, rfl, rfl, rfl, rfl, rfl, rfl, rfl, rfl, rfl, fun _ _ => id⟩

/-- Frames of sessions compose. -/
lemma Session.Frame.trans (h1 : s.Frame t) (h2 : t.Frame u) : s.Frame u where
  objs r := (h1.objs r).trans (h2.objs r)
  next := h2.next.trans h1.next
  streams := h2.streams.trans h1.streams
  blockedStreams := h2.blockedStreams.trans h1.blockedStreams
  held := h2.held.trans h1.held
  handles := h2.handles.trans h1.handles
  phase := h2.phase.trans h1.phase
  ngh3Dead := h2.ngh3Dead.trans h1.ngh3Dead
  completed := h2.completed.trans h1.completed
  controlStreamsCreated := h2.controlStreamsCreated.trans h1.controlStreamsCreated
  pendingSid := h2.pendingSid.trans h1.pendingSid
  pendingH3s := h2.pendingH3s.trans h1.pendingH3s
  userData sid r := h2.userData sid r ∘ h1.userData sid r

/-- Changing one object within its frame. -/
lemma Session.modifyObj_frame {r : Ref} {f : H3Stream → H3Stream}
    (h : (s.objs r).Frame (f (s.objs r))) :
    s.Frame (s.modifyObj r f) := by
  refine ⟨?_, rfl, rfl, rfl, rfl, rfl, rfl, rfl, rfl, rfl, rfl, rfl, fun _ _ => id⟩
  exact update_rel (P := H3Stream.Frame) h fun _ => .refl

/-- Dropping the QUIC stream of an object is within the frame. -/
lemma dropQstream_frame (r : Ref) : s.Frame (dropQstream s r) := by
  rw [dropQstream]
  split
  · exact .refl
  · refine Session.Frame.trans (t := queueFree s _) ?_ (Session.modifyObj_frame ?_)
    · exact ⟨fun _ => .refl, rfl, rfl, rfl, rfl, rfl, rfl, rfl, rfl, rfl, rfl, rfl, fun _ _ => id⟩
    · exact ⟨rfl, rfl, rfl, rfl, rfl, id, id, id, .inr rfl⟩

/-- An entry of the log is within the frame. -/
lemma Session.emit_frame (e : Entry) : s.Frame (s.emit e) :=
  ⟨fun _ => .refl, rfl, rfl, rfl, rfl, rfl, rfl, rfl, rfl, rfl, rfl, rfl, fun _ _ => id⟩

/-- A change within the frame that leaves the handle alone. -/
def Mild (f : H3Stream → H3Stream) : Prop := ∀ x, x.Frame (f x) ∧ (f x).qstream = x.qstream

end

/-- What a callback does: nothing, or something to the stream that is bound to the id: change it,
bind it, take its handle away, reset its handle. -/
inductive Effect (s : Session) : Session → Prop where
  | nothing : Effect s s
  | update {sid r f} :
    s.userData sid = some r →
    Mild f →
    Effect s (s.modifyObj r f)
  | bind {sid r f} :
    s.userData sid = some r ∨ (s.userData sid = none ∧ s.pendingSid = sid ∧ s.pendingH3s = some r) →
    Mild f →
    Effect s { s.modifyObj r f with userData := Function.update s.userData sid (some r) }
  | drop {sid r f} :
    s.userData sid = some r →
    Mild f →
    Effect s ((dropQstream s r).modifyObj r f)
  | reset {sid r h err f} :
    s.userData sid = some r →
    (s.objs r).qstream = some h →
    Mild f →
    Effect s ((s.emit (.op (.use (.reset err) h))).modifyObj r f)

section
variable {x : H3Stream} {s t : Session}

/-- Setting a pseudo header is mild. -/
lemma setPseudo_mild {token : Token} {value : List UInt8} :
    Mild fun x => (setPseudo x token value).1 := by
  intro x
  dsimp only
  unfold setPseudo
  split
  · exact ⟨.refl, rfl⟩
  · cases token <;> exact ⟨⟨rfl, rfl, rfl, rfl, rfl, id, id, id, .inl rfl⟩, rfl⟩

/-- Receiving a part of the body is mild. -/
lemma recvBody_mild {max : Nat} {data : List UInt8} : Mild (recvBody max data) := by
  intro x
  rw [recvBody]
  split
  · exact ⟨.refl, rfl⟩
  · dsimp only
    split <;> exact ⟨⟨rfl, rfl, rfl, rfl, rfl, id, id, id, .inl rfl⟩, rfl⟩

/-- A header block begins on a stream that is bound or being read, or nothing happens. -/
lemma onBeginHeaders_cases (s : Session) (sid : Int) :
    ((onBeginHeaders s sid).1 = s ∧ s.userData sid = none ∧
      (s.pendingSid = sid → s.pendingH3s = none)) ∨
    ∃ r, (s.userData sid = some r ∨
        (s.userData sid = none ∧ s.pendingSid = sid ∧ s.pendingH3s = some r)) ∧
      (onBeginHeaders s sid).1 =
        { s.modifyObj r fun x =>
            if x.isBidi && x.headers.isNone then { x with headers := some [] } else x with
          userData := Function.update s.userData sid (some r) } := by
  simp only [onBeginHeaders]
  cases bound : s.userData sid with
  | some r => exact .inr ⟨r, .inl rfl, rfl⟩
  | none =>
    dsimp only
    split
    · rename_i missing
      exact .inl ⟨rfl, rfl, fun pending => by rwa [if_pos pending] at missing⟩
    · rename_i r eq
      split at eq
      · rename_i pending
        exact .inr ⟨r, .inr ⟨rfl, pending, eq⟩, rfl⟩
      · cases eq

/-- Every callback has one of these effects. -/
lemma runCb_effect (cb : Cb) : Effect s (runCb s cb) := by
  cases cb with
  | beginHeaders sid =>
    rw [runCb]
    rcases onBeginHeaders_cases s sid with ⟨eq, _⟩ | ⟨r, bound, eq⟩
    · rw [eq]
      exact .nothing
    · rw [eq]
      refine .bind bound fun x => ?_
      split
      · exact ⟨⟨rfl, rfl, rfl, rfl, rfl, id, id, id, .inl rfl⟩, rfl⟩
      · exact ⟨.refl, rfl⟩
  | recvHeader sid token name value =>
    simp only [runCb, onRecvHeader]
    split
    · exact .nothing
    · rename_i r bound
      split
      · dsimp only
        refine .update bound fun x => ?_
        exact ⟨⟨rfl, rfl, rfl, rfl, rfl, id, id, id, .inl rfl⟩, rfl⟩
      · exact .update bound setPseudo_mild
  | endHeaders sid fin =>
    rw [runCb, onEndHeaders]
    split
    · exact .nothing
    · rename_i r bound
      refine .update bound fun x => ?_
      split
      · refine ⟨⟨rfl, rfl, rfl, rfl, rfl, id, fun _ => rfl, ?_, .inl rfl⟩, rfl⟩
        intro h
        simp [h]
      · exact ⟨.refl, rfl⟩
  | recvData sid data =>
    rw [runCb, onRecvData]
    split
    · exact .nothing
    · exact .update ‹_› recvBody_mild
  | stopSending sid err =>
    rw [runCb, onStopSending]
    split
    · exact .nothing
    · refine .drop ‹_› fun x => ?_
      exact ⟨⟨rfl, rfl, rfl, rfl, rfl, fun _ => rfl, id, fun _ => rfl, .inl rfl⟩, rfl⟩
  | resetStream sid err =>
    have mild : Mild fun x => { x with responseCancelled := true, done := true } :=
      fun x => ⟨⟨rfl, rfl, rfl, rfl, rfl, fun _ => rfl, id, id, .inl rfl⟩, rfl⟩
    simp only [runCb, onResetStream]
    split
    · exact .nothing
    · rename_i r bound
      split
      · exact .update bound mild
      · exact .reset bound ‹_› mild
  | streamClose sid err =>
    rw [runCb, onStreamClose]
    split
    · exact .nothing
    · refine .drop ‹_› fun x => ?_
      exact ⟨⟨rfl, rfl, rfl, rfl, rfl, fun _ => rfl, id, id, .inl rfl⟩, rfl⟩

/-- An effect changes nothing outside the frame. -/
lemma Effect.frame (h : Effect s t) : s.Frame t := by
  cases h with
  | nothing => exact .refl
  | update bound mild => exact Session.modifyObj_frame (mild _).1
  | @bind sid r f bound mild =>
    have frame : s.Frame (s.modifyObj r f) := Session.modifyObj_frame (mild _).1
    refine ⟨frame.objs, rfl, rfl, rfl, rfl, rfl, rfl, rfl, rfl, rfl, rfl, rfl, ?_⟩
    intro sid' r' bound'
    by_cases e : sid' = sid
    · subst e
      rcases bound with bound | ⟨absent, _⟩
      · rw [bound'] at bound
        cases bound
        exact Function.update_self ..
      · rw [absent] at bound'
        cases bound'
    · exact (Function.update_of_ne e ..).trans bound'
  | drop bound mild => exact (dropQstream_frame _).trans (Session.modifyObj_frame (mild _).1)
  | reset bound hq mild => exact (Session.emit_frame _).trans (Session.modifyObj_frame (mild _).1)

/-- The objects that change are bound. -/
lemma Effect.touched (h : Effect s t) (r : Ref) :
    t.objs r = s.objs r ∨ ∃ sid, t.userData sid = some r := by
  have modified : ∀ (u : Session) (r' : Ref) (f : H3Stream → H3Stream), u.objs r = s.objs r ∨
    r = r' →
      (u.modifyObj r' f).objs r = s.objs r ∨ r = r' := by
    intro u r' f same
    by_cases eq : r = r'
    · exact .inr eq
    · rw [Session.modifyObj_objs, Function.update_of_ne eq]
      exact same
  cases h with
  | nothing => exact .inl rfl
  | @update sid r' f bound mild =>
    refine (modified s r' f (.inl rfl)).imp_right ?_
    rintro rfl
    exact ⟨sid, bound⟩
  | @bind sid r' f bound mild =>
    refine (modified s r' f (.inl rfl)).imp_right ?_
    rintro rfl
    exact ⟨sid, Function.update_self ..⟩
  | @drop sid r' f bound mild =>
    have dropped : (dropQstream s r').objs r = s.objs r ∨ r = r' := by
      rw [dropQstream]
      split
      · exact .inl rfl
      · exact modified (queueFree s _) r' _ (.inl rfl)
    refine (modified (dropQstream s r') r' f dropped).imp_right ?_
    rintro rfl
    exact ⟨sid, (dropQstream_frame r).userData sid r bound⟩
  | @reset sid r' h err f bound hq mild =>
    refine (modified (s.emit (.op (.use (.reset err) h))) r' f (.inl rfl)).imp_right ?_
    rintro rfl
    exact ⟨sid, bound⟩

/-- Dropping a QUIC stream leaves the user data. -/
lemma dropQstream_userData (r : Ref) : (dropQstream s r).userData = s.userData := by
  rw [dropQstream]
  split <;> rfl

/-- Dropping a QUIC stream logs nothing. -/
lemma dropQstream_log (r : Ref) : (dropQstream s r).log = s.log := by
  rw [dropQstream]
  split <;> rfl

/-- A callback binds only the stream that is being read. -/
lemma Effect.userData (h : Effect s t) {sid : Int} {r : Ref} (bound : t.userData sid = some r) :
    s.userData sid = some r ∨ (s.pendingSid = sid ∧ s.pendingH3s = some r) := by
  cases h with
  | @bind sid' r' f before mild =>
    have bound : Function.update s.userData sid' (some r') sid = some r := bound
    by_cases eq : sid = sid'
    · subst eq
      rw [Function.update_self] at bound
      cases bound
      exact before.imp_right And.right
    · rw [Function.update_of_ne eq] at bound
      exact .inl bound
  | @drop sid' r' f before mild =>
    have bound : (dropQstream s r').userData sid = some r := bound
    rw [dropQstream_userData] at bound
    exact .inl bound
  | _ => exact .inl bound

/-- All that a callback does to a handle is to reset it. -/
lemma Effect.log (h : Effect s t) :
    ∃ es, t.log = s.log ++ es ∧ ∀ e ∈ es, ∃ err h, e = .op (.use (.reset err) h) := by
  have noEntries : ∃ es, s.log = s.log ++ es ∧ ∀ e ∈ es, ∃ err h, e = .op (.use (.reset err) h) :=
    ⟨[], (List.append_nil _).symm, nofun⟩
  cases h with
  | @drop sid r f bound mild =>
    show ∃ es, (dropQstream s r).log = _ ∧ _
    rw [dropQstream_log]
    exact noEntries
  | @reset sid r h err f bound hq mild =>
    refine ⟨[.op (.use (.reset err) h)], rfl, ?_⟩
    intro e mem
    exact ⟨err, h, List.mem_singleton.mp mem⟩
  | _ => exact noEntries

/-- The callbacks of a call change nothing outside the frame. -/
lemma runCbs_frame (cbs : List Cb) : s.Frame (runCbs s cbs) := by
  induction cbs generalizing s with
  | nil => exact .refl
  | cons cb cbs ih => exact (runCb_effect cb).frame.trans ih

/-- Callbacks log nothing but resets. -/
lemma runCbs_log (cbs : List Cb) :
    ∃ es, (runCbs s cbs).log = s.log ++ es ∧ ∀ e ∈ es, ∃ err h, e = .op (.use (.reset err) h) := by
  induction cbs generalizing s with
  | nil => exact ⟨[], (List.append_nil _).symm, nofun⟩
  | cons cb cbs ih =>
    obtain ⟨es, eq, resets⟩ := (runCb_effect (s := s) cb).log
    obtain ⟨es', eq', resets'⟩ := ih (s := runCb s cb)
    refine ⟨es ++ es', ?_, ?_⟩
    · show (runCbs (runCb s cb) cbs).log = _
      rw [eq', eq, List.append_assoc]
    · intro e mem
      exact (List.mem_append.mp mem).elim (resets e) (resets' e)

end

end ModHttp3.H3

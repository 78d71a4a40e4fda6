import ModHttp3.Lib.LinkedQueue
import ModHttp3.Lib.SizeT

/-!
# The response queue of a stream

Model of the response half of `h3_stream` (`mod_http3/src/h3_session.c`): the bounded queue of body
chunks that the request worker fills and that nghttp3 drains through the data reader.

C → Lean naming (drop the `h3_` prefix): `h3_stream_response_append` → `streamResponseAppendStep`
(one turn of its loop, the part between lock and unlock), `h3_stream_response_complete` →
`streamResponseComplete`, `h3_stream_response_ack_locked` → `streamResponseAckLocked`,
`h3_stream_response_cancel_locked` → `streamResponseCancelLocked`,
`h3_stream_response_cleanup_locked` → `streamResponseCleanupLocked`, `h3_session_read_data` →
`sessionReadData`; and from `h3_request.c` `submit_response_nva` → `submitResponseNva`.

`response_head` and `response_tail` are the two pointers of `responseQueue`, whose cells are the
`h3_response_chunk`s; the `next` link of a chunk is that of its cell. The three session fields the
queue code reads under the lock (`aborted`, `ngh3_dead`, `ngh3`) are kept beside the stream's own.
Functions return `none` when they follow a null or dangling pointer.
-/

namespace ModHttp3.Response
open ModHttp3.Lib

/-- `STREAM_CHUNK_BYTES`. -/
def streamChunkBytes : Nat := 4 * 1024

/-- A queued piece of the response body (C `h3_response_chunk`). -/
structure Chunk where
  len : Nat
  acked : Nat
  data : List UInt8
deriving DecidableEq

/-- The status codes the response path returns. -/
inductive Status where
  | success
  | einval
  | enomem
  | egeneral
  | econnaborted
  /-- any other status of the runtime, such as a failed condition wait -/
  | other (rv : Nat)
deriving DecidableEq

/-- The response half of a stream, with the session fields it is guarded by. -/
structure Stream where
  aborted : Bool
  ngh3Dead : Bool
  /-- `session->ngh3` is not null -/
  ngh3 : Bool
  responseQueue : Queue Chunk
  responseSubmitChunk : Option Ptr
  responseSubmitOffset : Nat
  responseBuffered : Nat
  responseLen : Nat
  responseBufferLimit : Nat
  responseSubmitted : Bool
  responseComplete : Bool
  responseCancelled : Bool

/-- A stream as `track_stream` leaves it: zeroed, with its buffer limit set. -/
def Stream.init (limit : UInt64) : Stream where
  aborted := false
  ngh3Dead := false
  ngh3 := true
  responseQueue := Queue.empty
  responseSubmitChunk := none
  responseSubmitOffset := 0
  responseBuffered := 0
  responseLen := 0
  responseBufferLimit := limit.toNat
  responseSubmitted := false
  responseComplete := false
  responseCancelled := false

/-- Cancel the producer (C `h3_stream_response_cancel_locked`). -/
def streamResponseCancelLocked (s : Stream) : Stream :=
  { s with responseCancelled := true, responseComplete := true }

/-- Free the queued chunks (C `h3_stream_response_cleanup_locked`). -/
def streamResponseCleanupLocked (s : Stream) : Option Stream := do
  let q ← s.responseQueue.clear
  some
    { s with
      responseQueue := q
      responseSubmitChunk := none
      responseSubmitOffset := 0
      responseBuffered := 0 }

/-- The session can no longer take bytes for this stream. -/
def Stream.gone (s : Stream) : Bool :=
  s.responseCancelled || s.aborted || s.ngh3Dead

/-- What one turn of the append loop ends with. -/
inductive AppendRet where
  /-- the queue is full: the worker waits on `response_cond` without the lock -/
  | wait
  /-- `h3_stream_response_append` returns -/
  | ret (rv : Status)
  /-- a chunk of `n` bytes was queued; `resumed` when nghttp3 was told to resume the stream -/
  | chunk (n : Nat) (resumed : Bool)
deriving DecidableEq

/-- The bytes of the next chunk: what is left, cut at the room in the queue and at the chunk
size. -/
def chunkLen (s : Stream) (remaining : Nat) : Nat :=
  let room := sizeSub s.responseBufferLimit s.responseBuffered
  let n := if remaining > room then room else remaining
  if n > streamChunkBytes then streamChunkBytes else n

/-- A chunk is no longer than a `size_t` counts. -/
lemma chunkLen_le (s : Stream) (remaining : Nat) : chunkLen s remaining ≤ sizeMax := by
  have small : streamChunkBytes ≤ sizeMax := by decide
  simp only [chunkLen]
  split_ifs <;> omega

/-- One turn of the loop of `h3_stream_response_append`: `data` are the bytes from `data + offset`
on, `malloc` is the address the allocator returns, if any. With `check` there is no result where a
subtraction would wrap. -/
def streamResponseAppendStepBy (check : Bool) (s : Stream) (data : List UInt8)
    (malloc : Option Ptr) :
    Option (Stream × AppendRet) :=
  if s.responseBuffered ≥ s.responseBufferLimit ∧ s.gone = false then
    some (s, .wait)
  else if s.gone || !s.ngh3 then
    some (s, .ret .econnaborted)
  else do
    noWrap check s.responseBufferLimit s.responseBuffered
    let n := chunkLen s data.length
    noWrap check sizeMax n
    if n = 0 ∨ s.responseLen > sizeMax - n then
      some (streamResponseCancelLocked s, .ret .egeneral)
    else
      match malloc with
      | none => some (streamResponseCancelLocked s, .ret .enomem)
      | some a => do
        let q ← s.responseQueue.push a { len := n, acked := 0, data := data.take n }
        -- a consumed queue left the cursor null: re-arm it at the new chunk
        let rearm := s.responseSubmitChunk.isNone
        some
          ({ s with
              responseQueue := q
              responseSubmitChunk := if rearm then some a else s.responseSubmitChunk
              responseSubmitOffset := if rearm then 0 else s.responseSubmitOffset
              responseBuffered := sizeAdd s.responseBuffered n
              responseLen := sizeAdd s.responseLen n },
            .chunk n s.responseSubmitted)

/-- One turn of the loop of `h3_stream_response_append`, as it is. -/
def streamResponseAppendStep : Stream → List UInt8 → Option Ptr → Option (Stream × AppendRet) :=
  streamResponseAppendStepBy false

/-- Mark the response complete (C `h3_stream_response_complete`); the flag says whether nghttp3 was
told to resume the stream. -/
def streamResponseComplete (s : Stream) : Stream × Bool :=
  ({ s with responseComplete := true }, s.responseSubmitted && s.ngh3 && !s.ngh3Dead)

/-- Submit the response headers (C `submit_response_nva`, `h3_request.c`). `rv` is what
`nghttp3_conn_submit_response` returns if it is called, which the flag says. -/
def submitResponseNva (s : Stream) (rv : Int) : Stream × Status × Bool :=
  if s.responseSubmitted then
    (s, .success, false)
  else if s.gone || !s.ngh3 then
    (s, .econnaborted, false)
  else if rv = 0 then
    ({ s with responseSubmitted := true }, .success, true)
  else
    (streamResponseCancelLocked s, .egeneral, true)

/-- The bytes of a chunk that `datalen` acknowledged bytes use up. -/
def consumed (c : Chunk) (datalen : Nat) : Nat :=
  let available := sizeSub c.len c.acked
  if datalen < available then datalen else available

/-- The loop of `h3_stream_response_ack_locked`. A turn either frees the head chunk or uses up
`datalen`, so one more turn than there are chunks is enough. With `check` there is no result where a
subtraction would wrap. -/
def ackLoopBy (check : Bool) : Nat → Stream → Nat → Option Stream
  | 0, _, _ => none
  | fuel + 1, s, datalen =>
    if datalen = 0 then
      some s
    else
      match s.responseQueue.head with
      | none => some s
      | some a => do
        let cell ← s.responseQueue.mem a
        noWrap check cell.val.len cell.val.acked
        let n := consumed cell.val datalen
        let acked := sizeAdd cell.val.acked n
        let q ← s.responseQueue.modifyHead fun c => { c with acked := acked }
        noWrap check s.responseBuffered n
        noWrap check datalen n
        let s' := { s with responseQueue := q, responseBuffered := sizeSub s.responseBuffered n }
        if acked = cell.val.len then do
          let q' ← q.dropHead
          ackLoopBy check fuel { s' with responseQueue := q' } (datalen - n)
        else
          ackLoopBy check fuel s' (datalen - n)

/-- The loop of `h3_stream_response_ack_locked`, as it is. -/
def ackLoop : Nat → Stream → Nat → Option Stream := ackLoopBy false

/-- Account acknowledged body bytes (C `h3_stream_response_ack_locked`). -/
def streamResponseAckLocked (s : Stream) (datalen : Nat) : Option Stream :=
  ackLoop (s.responseQueue.allocated + 1) s datalen

/-- What the data reader returns to nghttp3. -/
inductive ReadRet where
  | count (n : Nat)
  | wouldBlock
  | callbackFailure
deriving DecidableEq

/-- The outcome of a read: the vectors filled, the return value, and `NGHTTP3_DATA_FLAG_EOF`. -/
structure ReadResult where
  vecs : List (List UInt8)
  ret : ReadRet
  eof : Bool
deriving DecidableEq

/-- The loop of `h3_session_read_data`: fill at most `veccnt` vectors from the cursor on. -/
def readLoop : Nat → Stream → Option (Stream × List (List UInt8))
  | 0, s => some (s, [])
  | veccnt + 1, s =>
    match s.responseSubmitChunk with
    | none => some (s, [])
    | some a => do
      let cell ← s.responseQueue.mem a
      let remaining := sizeSub cell.val.len s.responseSubmitOffset
      let vec := (cell.val.data.drop s.responseSubmitOffset).take remaining
      let (s', vecs) ←
        readLoop veccnt { s with responseSubmitChunk := cell.next, responseSubmitOffset := 0 }
      some (s', vec :: vecs)

/-- The nghttp3 data reader (C `h3_session_read_data`). -/
def sessionReadData (s : Stream) (veccnt : Nat) : Option (Stream × ReadResult) :=
  if veccnt = 0 then
    some (s, { vecs := [], ret := .callbackFailure, eof := false })
  else if s.responseCancelled then
    some (s, { vecs := [], ret := .count 0, eof := true })
  else do
    let (s', vecs) ← readLoop veccnt s
    if vecs.length > 0 then
      some (s',
        { vecs := vecs
          ret := .count vecs.length
          eof := s'.responseSubmitChunk.isNone && s'.responseComplete })
    else if s'.responseComplete then
      some (s', { vecs := [], ret := .count 0, eof := true })
    else
      some (s', { vecs := [], ret := .wouldBlock, eof := false })

end ModHttp3.Response

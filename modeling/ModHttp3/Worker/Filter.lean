import ModHttp3.Response.Queue

/-!
# The output filter and the tail of the worker

Model of `h3_filter_out_proto` and `capture_body_bucket` (`h3_filter.c`) and of the end of
`stream_worker` (`h3_request.c`): how the brigades of a handler become a submitted response and a
queued body.

The worker takes the session lock only for single operations on the stream, and the event thread can
run between any two of them. `step` therefore is one such operation: `Phase` says where the worker
is, and the answers of httpd, APR, nghttp3 and the allocator are an argument. `step` is `none` if
the answer is not for this phase, or if a dangling pointer would be followed.

C → Lean naming: `h3_conn_ctx_t` → `Ctx`, `capture_body_bucket` → `captureBodyBucket`, the loop of
`h3_filter_out_proto` is the phase `filtering`, the calls of `h3_stream_response_append` are the
phases `appending` and `tailAppending`. Buckets carry their contents; the buffer `dataheap` is the
list of its first `dataheaplen` bytes, its capacity is left out, and `h3_response_start` is
represented by the response it takes its headers from.
-/

namespace ModHttp3.Worker
open ModHttp3.Lib ModHttp3.Response

/-- Status and headers of a response bucket (C `ap_bucket_response`). -/
structure Resp where
  status : Int
  headers : Option (List (String × String))
deriving DecidableEq

/-- The kinds of buckets the filter tells apart. -/
inductive Bucket where
  | error
  | response (resp : Resp)
  | data (content : List UInt8)
  | flush
  | eos
  | metadata
deriving DecidableEq

/-- Where the headers of a submitted response come from: the last response bucket and the request,
or the fixed answer to an oversized body. -/
inductive Head where
  | response (resp : Option Resp)
  | oversized
deriving DecidableEq

/-- The context of a request (C `h3_conn_ctx_t`), with the configured limit. -/
structure Ctx where
  resp : Option Resp
  dataheap : List UInt8
  responseTooLarge : Bool
  streaming : Bool
  maxResponseBodySize : Nat
deriving DecidableEq

/-- A fresh context: responses stream unless a limit is configured. -/
def Ctx.init (maxResponseBodySize : Nat) : Ctx where
  resp := none
  dataheap := []
  responseTooLarge := false
  streaming := maxResponseBodySize == sizeMax
  maxResponseBodySize := maxResponseBodySize

/-- Where the worker is: in the handler, in the loop of the filter with the buckets still to come,
about to read a data bucket, in an append, about to complete at an EOS bucket; or in its tail: about
to submit, in the append of the buffered body, about to complete, done. -/
inductive Phase where
  | handler
  | filtering (bb : List Bucket)
  | reading (content : List UInt8) (bb : List Bucket)
  | appending (data : List UInt8) (bb : List Bucket)
  | completing (bb : List Bucket)
  | tail
  | tailAppending (data : List UInt8)
  | tailCompleting
  | returned
deriving DecidableEq

/-- A worker in the part of its run that produces the response. -/
structure Responder where
  ctx : Ctx
  phase : Phase
deriving DecidableEq

/-- What `apr_bucket_read` does: return the first `n` bytes and split off the rest, or fail. -/
inductive BucketRead where
  | ok (n : Nat)
  | failed
deriving DecidableEq

/-- What the environment answers in a step. -/
inductive Answer where
  /-- the handler passes a brigade down -/
  | brigade (bb : List Bucket)
  /-- `ap_process_request` or `ap_die` returns -/
  | finished
  /-- what `nghttp3_conn_submit_response` returns, if it is called -/
  | submit (rv : Int)
  | read (r : BucketRead)
  | append (malloc : Option Ptr)
  /-- `apr_thread_cond_timedwait` fails -/
  | waitFailed
  | go
deriving DecidableEq

/-- What a step does. -/
inductive Act where
  | brigade (bb : List Bucket)
  | finished
  | submit (head : Head) (called : Bool) (rv : Status)
  | read (content : List UInt8) (r : BucketRead)
  | append (data : List UInt8) (ret : AppendRet)
  | waitFailed
  | complete (resumed : Bool)
  | skip
deriving DecidableEq

/-- The body of the answer to an oversized response. -/
def oversizedMsg : List UInt8 := "Response exceeded H3MaxResponseBodySize\n".toUTF8.toList

/-- The buckets behind a data bucket once `n` bytes of it were read. -/
def splitOff (content : List UInt8) (n : Nat) (bb : List Bucket) : List Bucket :=
  if n < content.length then .data (content.drop n) :: bb else bb

/-- Buffer what was read of a data bucket (C `capture_body_bucket`). -/
def captureBodyBucket (ctx : Ctx) (data : List UInt8) : Ctx :=
  let limit := ctx.maxResponseBodySize
  if data = [] then
    ctx
  else if ctx.dataheap.length > limit ∨ data.length > limit - ctx.dataheap.length then
    -- nothing of a bucket that does not fit is kept
    { ctx with responseTooLarge := true }
  else
    { ctx with dataheap := ctx.dataheap ++ data }

/-- The phase after a turn of an append: `more` with bytes left, `done` after the last byte,
`failed` after an error. -/
def afterTurn (data : List UInt8) (more : List UInt8 → Phase) (done failed : Phase) :
    AppendRet → Phase
  | .wait => more data
  | .ret _ => failed
  | .chunk n _ => if data.drop n = [] then done else more (data.drop n)

/-- One turn of `h3_stream_response_append` from the filter or the tail. -/
def appendStep (s : Stream) (data : List UInt8) (more : List UInt8 → Phase) (done failed : Phase) :
    Answer → Option (Phase × Stream × Act)
  | .append malloc => do
    let (s, ret) ← streamResponseAppendStep s data malloc
    some (afterTurn data more done failed ret, s, .append data ret)
  | .waitFailed =>
    if s.responseBuffered ≥ s.responseBufferLimit ∧ s.gone = false then
      some (failed, s, .waitFailed)
    else
      none
  | _ => none

/-- `h3_response_start` or `submit_response_nva`: go on if the response was submitted. -/
def submitStep (s : Stream) (head : Head) (ok failed : Phase) :
    Answer → Option (Phase × Stream × Act)
  | .submit rv =>
    let (s, status, called) := submitResponseNva s rv
    some (if status = .success then ok else failed, s, .submit head called status)
  | _ => none

/-- The loop of the filter at a bucket, in streaming mode. -/
def filterStreaming (ctx : Ctx) (s : Stream) (b : Bucket) (bb : List Bucket) (a : Answer) :
    Option (Responder × Stream × Act) :=
  match b with
  -- `ap_send_error_response` passes a brigade of its own; the rest of this one is dropped
  | .error => if a = .go then some (⟨ctx, .handler⟩, s, .skip) else none
  | .response resp => do
    let ctx := { ctx with resp := some resp }
    let (phase, s, act) ← submitStep s (.response ctx.resp) (.filtering bb) .handler a
    some (⟨ctx, phase⟩, s, act)
  | .data content => do
    let (phase, s, act) ← submitStep s (.response ctx.resp) (.reading content bb) .handler a
    some (⟨ctx, phase⟩, s, act)
  -- also before any RESPONSE bucket, with the headers of the request record
  | .flush => do
    let (phase, s, act) ← submitStep s (.response ctx.resp) (.filtering bb) .handler a
    some (⟨ctx, phase⟩, s, act)
  | .eos => do
    let (phase, s, act) ← submitStep s (.response ctx.resp) (.completing bb) .handler a
    some (⟨ctx, phase⟩, s, act)
  | .metadata => if a = .go then some (⟨ctx, .filtering bb⟩, s, .skip) else none

/-- The loop of the filter at a bucket, in buffered mode: a failed read is skipped. -/
def filterBuffered (ctx : Ctx) (s : Stream) (b : Bucket) (bb : List Bucket) (a : Answer) :
    Option (Responder × Stream × Act) :=
  match b, a with
  | .error, .go => some (⟨ctx, .handler⟩, s, .skip)
  | .response resp, .go => some (⟨{ ctx with resp := some resp }, .filtering bb⟩, s, .skip)
  -- past the limit the content is not even read
  | .data _, .go =>
    if ctx.responseTooLarge then some (⟨ctx, .filtering bb⟩, s, .skip) else none
  | .data content, .read r =>
    if ctx.responseTooLarge then
      none
    else
      match r with
      | .failed => some (⟨ctx, .filtering bb⟩, s, .read content r)
      | .ok n =>
        some (⟨captureBodyBucket ctx (content.take n), .filtering (splitOff content n bb)⟩, s,
          .read content r)
  | .flush, .go | .eos, .go | .metadata, .go => some (⟨ctx, .filtering bb⟩, s, .skip)
  | _, _ => none

/-- The header and body of the response the worker ends with. -/
def tailResponse (ctx : Ctx) : Head × List UInt8 :=
  if ctx.responseTooLarge then
    (.oversized, oversizedMsg)
  else
    (.response ctx.resp, if ctx.streaming then [] else ctx.dataheap)

/-- One step of the worker. -/
def step (w : Responder) (s : Stream) (a : Answer) : Option (Responder × Stream × Act) :=
  match w.phase with
  | .handler =>
    match a with
    | .brigade bb => some ({ w with phase := .filtering bb }, s, .brigade bb)
    | .finished => some ({ w with phase := .tail }, s, .finished)
    | _ => none
  | .filtering [] => if a = .go then some ({ w with phase := .handler }, s, .skip) else none
  | .filtering (b :: bb) =>
    if w.ctx.streaming then filterStreaming w.ctx s b bb a else filterBuffered w.ctx s b bb a
  | .reading content bb =>
    match a with
    | .read .failed => some ({ w with phase := .handler }, s, .read content .failed)
    | .read (.ok n) =>
      let rest := splitOff content n bb
      let phase := if content.take n = [] then .filtering rest else .appending (content.take n) rest
      some ({ w with phase := phase }, s, .read content (.ok n))
    | _ => none
  | .appending data bb => do
    let (phase, s, act) ← appendStep s data (.appending · bb) (.filtering bb) .handler a
    some ({ w with phase := phase }, s, act)
  | .completing bb =>
    if a = .go then
      let (s, resumed) := streamResponseComplete s
      some ({ w with phase := .filtering bb }, s, .complete resumed)
    else
      none
  | .tail => do
    let (head, body) := tailResponse w.ctx
    -- a failed submit skips the body, and the stream is completed all the same
    let ok := if body = [] then .tailCompleting else .tailAppending body
    let (phase, s, act) ← submitStep s head ok .tailCompleting a
    some ({ w with phase := phase }, s, act)
  | .tailAppending data => do
    let (phase, s, act) ← appendStep s data .tailAppending .tailCompleting .tailCompleting a
    some ({ w with phase := phase }, s, act)
  | .tailCompleting =>
    if a = .go then
      let (s, resumed) := streamResponseComplete s
      some ({ w with phase := .returned }, s, .complete resumed)
    else
      none
  | .returned => none

end ModHttp3.Worker

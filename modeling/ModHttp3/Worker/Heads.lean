import ModHttp3.Lib.History
import ModHttp3.Worker.Once
import ModHttp3.Worker.Truncation

/-!
# The header block of a response

Which header block the worker passes to `nghttp3_conn_submit_response`. In streaming mode the first
bucket that is more than plain metadata makes the filter submit what it has (`firstHead`), and later
buckets cannot replace it; in buffered mode the tail of the worker submits the last response bucket,
or the fixed answer to an oversized body. `streaming_head` and `buffered_head` say so for every run
that has returned on a stream and a session that are left alone.

The block itself is `buildResponseNva`: where the response bucket has no status or no headers, those
of the request record are taken, as they are at that moment.

C → Lean naming: `request_rec` → `RequestRec` with the fields a response falls back on,
`is_connection_specific` → `isConnectionSpecific`, `build_response_nva` → `buildResponseNva`. Tables
are lists of their entries; `ap_find_token` is the argument `findToken`.
-/

namespace ModHttp3.Worker
open ModHttp3.Lib ModHttp3.Response
open ModHttp3.Dispatch (Settled step_settled)

/-- The fields of the request record that a response falls back on. -/
structure RequestRec where
  status : Int
  headersOut : Option (List (String × String))

/-- Header names are equal up to case (C `!ap_cstr_casecmp`). -/
def sameName (k name : String) : Bool := k.toLower == name.toLower

/-- The headers that are about a connection and not about the response. -/
def isConnectionSpecific (k : String) : Bool :=
  ["Connection", "Keep-Alive", "Proxy-Connection", "Transfer-Encoding", "Upgrade", "TE"].any
    (sameName k)

/-- The value of the first entry of a name (C `apr_table_get`). -/
def tableGet (hdrs : List (String × String)) (name : String) : Option String :=
  (hdrs.find? fun e => sameName e.1 name).map Prod.snd

/-- An entry of the table goes into the header block. -/
def keepsHeader (findToken : String → String → Bool) (hdrs : List (String × String))
    (e : String × String) : Bool :=
  !(e.1.startsWith ":") && !(isConnectionSpecific e.1 ||
    (tableGet hdrs "Connection").any fun connHdr => findToken connHdr e.1)

/-- The header block of a response, at most `nvaCap` entries long. -/
def buildResponseNva (findToken : String → String → Bool) (nvaCap : Nat) (r : RequestRec)
    (resp : Option Resp) : List (String × String) :=
  let hdrs := (resp.bind Resp.headers).or r.headersOut
  let status := ((resp.map Resp.status).filter (· ≠ 0)).getD r.status
  (":status", toString status) ::
    ((hdrs.getD []).filter (keepsHeader findToken (hdrs.getD []))).take (nvaCap - 1)

/-- The header block that is submitted: the one of `h3_response_start`, or the fixed one of the
tail. -/
def Head.nva (findToken : String → String → Bool) (r : RequestRec) : Head → List (String × String)
  | .response resp => buildResponseNva findToken 64 r resp
  | .oversized => [(":status", toString (500 : Int)), ("content-type", "text/plain")]

/-- The buckets of a brigade that the filter comes to: an error bucket ends its loop. -/
def reached : List Bucket → List Bucket
  | [] => []
  | .error :: _ => []
  | b :: bb => b :: reached bb

/-- The buckets the filter comes to. -/
def buckets (es : List Event) : List Bucket := es.flatMap fun e => reached e.brigade

/-- Where the header block that a step passes to nghttp3 comes from. -/
def Event.head : Event → Option Head
  | .worker _ (.submit head true _) => some head
  | _ => none

/-- The header blocks passed to nghttp3. -/
def heads (es : List Event) : List Head := es.filterMap Event.head

/-- What a step reads out of a data bucket. -/
def Event.capture : Event → Option (List UInt8)
  | .worker _ (.read content (.ok n)) => some (content.take n)
  | _ => none

/-- The successful reads of data buckets. -/
def captures (es : List Event) : List (List UInt8) := es.filterMap Event.capture

/-- The body bytes read out of the data buckets. -/
def captured (es : List Event) : List UInt8 := (captures es).flatten

/-- nghttp3 accepts every header block it is given. -/
def Accepted (es : List Event) : Prop := ∀ rv act, .worker (.submit rv) act ∈ es → rv = 0

/-- A step that is neither a close callback nor a change of the session. -/
def Event.calm : Event → Bool
  | .cancel | .session => false
  | _ => true

/-- The header block the filter submits in streaming mode, once it comes to a bucket that makes it
submit one. -/
def firstHead : List Bucket → Option Head
  | [] => none
  | .metadata :: bb | .error :: bb => firstHead bb
  | .response resp :: _ => some (.response (some resp))
  | .data _ :: _ | .flush :: _ | .eos :: _ => some (.response none)

/-- The buckets ahead of a worker that is in the handler or at a bucket in the loop of the
filter. -/
def Phase.ahead : Phase → Option (List Bucket)
  | .handler => some []
  | .filtering bb => some bb
  | _ => none

/-- The phases of the tail. -/
def Phase.inTail : Phase → Bool
  | .tail | .tailAppending _ | .tailCompleting | .returned => true
  | _ => false

/-- The phases that only the streaming filter has. -/
def Phase.streams : Phase → Bool
  | .reading _ _ | .appending _ _ | .completing _ => true
  | _ => false

section
variable {es : List Event} {e : Event} {xs ys : List Bucket}

/-- The buckets passed after one more event. -/
lemma buckets_snoc : buckets (es ++ [e]) = buckets es ++ reached e.brigade := by simp [buckets]

/-- The header blocks after one more event. -/
lemma heads_snoc : heads (es ++ [e]) = heads es ++ e.head.toList := by
  cases h : e.head <;> simp [heads, h]

/-- An event that passes no brigade. -/
lemma buckets_silent (h : e.brigade = []) : buckets (es ++ [e]) = buckets es := by
  rw [buckets_snoc, h, reached, List.append_nil]

/-- A brigade comes when the filter is through with the one before. -/
lemma buckets_next {ps bb : List Bucket} (passed : buckets es = ps ++ reached [])
    (h : e.brigade = bb) :
    buckets (es ++ [e]) = ps ++ reached bb := by
  rw [buckets_snoc, passed, h, reached, List.append_nil]

/-- An event that passes no header block. -/
lemma heads_silent (h : e.head = none) : heads (es ++ [e]) = heads es := by
  rw [heads_snoc, h, Option.toList_none, List.append_nil]

/-- The reads after one more step. -/
lemma captures_snoc : captures (es ++ [e]) = captures es ++ e.capture.toList := by
  cases h : e.capture <;> simp [captures, h]

/-- The bytes read after one more step. -/
lemma captured_snoc : captured (es ++ [e]) = captured es ++ e.capture.getD [] := by
  rw [captured, captures_snoc, List.flatten_append]
  cases e.capture <;> simp [captured]

/-- What nghttp3 accepted up to an event it accepted before. -/
lemma Accepted.init (h : Accepted (es ++ [e])) : Accepted es :=
  fun rv act mem => h rv act (List.mem_append_left _ mem)

/-- The first head of a brigade is that of a longer one. -/
lemma firstHead_append {head : Head} (h : firstHead xs = some head) :
    firstHead (xs ++ ys) = some head := by
  induction xs with
  | nil => cases h
  | cons b bb ih =>
    cases b with
    | metadata | error => exact ih h
    | _ => exact h

/-- Metadata has no head. -/
lemma firstHead_plain (plain : ∀ b ∈ xs, b = .metadata) : firstHead (xs ++ ys) = firstHead ys := by
  induction xs with
  | nil => rfl
  | cons b bb ih =>
    obtain ⟨rfl, rest⟩ := List.forall_mem_cons.mp plain
    exact ih rest

end

section
variable {es : List Event} {e : Event} {st st' : State} {w w' : Responder} {s s' : Stream}
  {a : Answer}
  {act : Act}

/-- The session lives and the QUIC stream was not reset. -/
structure Steady (st : State) : Prop where
  aborted : st.stream.aborted = false
  dead : st.stream.ngh3Dead = false
  ngh3 : st.stream.ngh3 = true
  reset : st.reset = false

/-- What the worker cannot do to its stream: change the session or take back a submission. -/
structure Keeps (s s' : Stream) : Prop where
  aborted : s'.aborted = s.aborted
  dead : s'.ngh3Dead = s.ngh3Dead
  ngh3 : s'.ngh3 = s.ngh3
  submitted : s.responseSubmitted = true → s'.responseSubmitted = true

/-- Nothing changed. -/
lemma Keeps.refl : Keeps s s := ⟨rfl, rfl, rfl, id⟩

/-- The append loop leaves the flags of the stream. -/
lemma keeps_append {data : List UInt8} {malloc : Option Ptr} {ret : AppendRet}
    (eq : streamResponseAppendStep s data malloc = some (s', ret)) : Keeps s s' := by
  unfold streamResponseAppendStep streamResponseAppendStepBy at eq
  split at eq
  · cases eq
    exact .refl
  split at eq
  · cases eq
    exact .refl
  simp only [noWrap_false, Option.bind_eq_bind, Option.bind_some] at eq
  split at eq
  · cases eq
    exact ⟨rfl, rfl, rfl, id⟩
  cases malloc with
  | none =>
    cases eq
    exact ⟨rfl, rfl, rfl, id⟩
  | some p =>
    obtain ⟨q, _, eq⟩ := Option.bind_eq_some_iff.mp eq
    cases eq
    exact ⟨rfl, rfl, rfl, id⟩

/-- A step of the worker leaves the flags of the stream. -/
lemma Moves.keeps (moves : Moves w s a w' s' act) : Keeps s s' := by
  cases moves with
  | submit site eq =>
    rcases submitResponseNva_cases eq with
      ⟨_, rfl, _⟩ | ⟨_, rfl, _⟩ | ⟨_, rfl, _⟩ | ⟨_, rfl, _⟩
    · exact .refl
    · exact .refl
    · exact ⟨rfl, rfl, rfl, fun _ => rfl⟩
    · exact ⟨rfl, rfl, rfl, id⟩
  | append site eq => exact keeps_append eq
  | complete | tailComplete => exact ⟨rfl, rfl, rfl, id⟩
  | _ => exact .refl

/-- The worker never changes its mode or its limit. -/
lemma Moves.mode (moves : Moves w s a w' s' act) :
    w'.ctx.streaming = w.ctx.streaming ∧ w'.ctx.maxResponseBodySize =
      w.ctx.maxResponseBodySize := by
  cases moves with
  | submit site =>
    cases site with
    | _ => exact ⟨rfl, rfl⟩
  | capture =>
    rcases captureBodyBucket_cases w.ctx _ with ⟨_, e⟩ | e | e
    all_goals
      dsimp only
      rw [e]
      exact ⟨rfl, rfl⟩
  | _ => exact ⟨rfl, rfl⟩

/-- A turn of the append loop fails, is done or goes on. -/
lemma afterTurn_cases (data : List UInt8) (more : List UInt8 → Phase) (done failed : Phase)
    (ret : AppendRet) :
    afterTurn data more done failed ret = failed ∨ afterTurn data more done failed ret = done ∨
      ∃ d, afterTurn data more done failed ret = more d := by
  cases ret with
  | wait => exact .inr (.inr ⟨_, rfl⟩)
  | ret => exact .inl rfl
  | chunk n resumed =>
    rw [afterTurn]
    split
    · exact .inr (.inl rfl)
    · exact .inr (.inr ⟨_, rfl⟩)

/-- The worker does not leave its tail, where no brigade is passed. -/
lemma Moves.tail (moves : Moves w s a w' s' act) (tail : w.phase.inTail = true) :
    w'.phase.inTail = true ∧ Event.brigade (.worker a act) = [] := by
  cases moves with
  | submit site =>
    cases site with
    | tail =>
      refine ⟨?_, rfl⟩
      dsimp only
      split_ifs <;> rfl
    | response _ hp | data _ hp | flush _ hp | eos _ hp =>
      rw [hp] at tail
      cases tail
  | append site =>
    cases site with
    | filter hp =>
      rw [hp] at tail
      cases tail
    | tail =>
      refine ⟨?_, rfl⟩
      rcases afterTurn_cases _ Phase.tailAppending .tailCompleting .tailCompleting _ with e | e |
        ⟨d, e⟩ <;>
        rw [e] <;> rfl
  | waitFailed site =>
    cases site with
    | filter hp =>
      rw [hp] at tail
      cases tail
    | tail => exact ⟨rfl, rfl⟩
  | tailComplete => exact ⟨rfl, rfl⟩
  | brigade hp | finished hp | brigadeEnd hp | error hp | response _ hp | skipData _ _ hp
  | captureFailed _ hp | capture _ _ hp | skip _ hp | readFailed hp | read hp | complete hp =>
    rw [hp] at tail
    cases tail

/-- A step that leaves stream and session alone is one of the worker, or nothing happens that the
worker could see. -/
lemma Step.calm_cases (step : Step st e st') (calm : e.calm = true) :
    st'.reset = st.reset ∧
    ((∃ a act, e = .worker a act ∧
        Worker.step st.worker st.stream a = some (st'.worker, st'.stream, act)) ∨
      (st'.worker = st.worker ∧ Keeps st.stream st'.stream ∧
        (Settled st'.stream ↔ Settled st.stream) ∧ e.head = none ∧ e.capture = none ∧
        e.brigade = [])) := by
  cases step with
  | worker _ eq => exact ⟨rfl, .inl ⟨_, _, rfl, eq⟩⟩
  | read _ _ _ _ _ eq =>
    refine ⟨rfl, .inr ⟨rfl, ?_, ?_, rfl, rfl, rfl⟩⟩
    · rw [(sessionReadData_frame eq).1]
      exact ⟨rfl, rfl, rfl, id⟩
    · rw [(sessionReadData_frame eq).1]
      exact Iff.rfl
  | ack eq =>
    refine ⟨rfl, .inr ⟨rfl, ?_, ?_, rfl, rfl, rfl⟩⟩
    · rw [ackLoop_frame eq]
      exact ⟨rfl, rfl, rfl, id⟩
    · rw [ackLoop_frame eq]
      exact Iff.rfl
  | cancel => cases calm
  | session => cases calm

/-- A calm step leaves the flags of the stream. -/
lemma Step.keeps (step : Step st e st') (calm : e.calm = true) : Keeps st.stream st'.stream := by
  rcases (step.calm_cases calm).2 with ⟨a, act, _, eq⟩ | ⟨_, keeps, _⟩
  · exact (step_moves eq).keeps
  · exact keeps

/-- A steady worker stays steady in calm steps. -/
lemma Steady.step (h : Steady st) (calm : e.calm = true) (step : Step st e st') : Steady st' where
  aborted := (step.keeps calm).aborted.trans h.aborted
  dead := (step.keeps calm).dead.trans h.dead
  ngh3 := (step.keeps calm).ngh3.trans h.ngh3
  reset := (step.calm_cases calm).1.trans h.reset

/-- An open response on a live session is submitted: nghttp3 gets the header block, and unless it
refuses the response counts as submitted. -/
lemma Steady.submits (h : Steady st) (unsettled : ¬ Settled st.stream) {rv : Int} {status : Status}
    {called : Bool} (eq : submitResponseNva st.stream rv = (s', status, called)) :
    called = true ∧ (rv = 0 → s'.responseSubmitted = true) := by
  have hs : st.stream.responseSubmitted = false := Bool.eq_false_iff.mpr fun h => unsettled (.inl h)
  have hc : st.stream.responseCancelled = false := Bool.eq_false_iff.mpr fun h => unsettled (.inr h)
  have live : (st.stream.gone || !st.stream.ngh3) = false := by
    simp [Stream.gone, hc, h.aborted, h.dead, h.ngh3]
  rw [submitResponseNva, if_neg (by simp [hs]), if_neg (by simp [live])] at eq
  split at eq
  · cases eq
    exact ⟨rfl, fun _ => rfl⟩
  · rename_i hrv
    cases eq
    exact ⟨rfl, fun h => absurd h hrv⟩

/-- A settled response gets no further header block. -/
lemma head_settled (eq : Worker.step w s a = some (w', s', act)) (settled : Settled s) :
    Event.head (.worker a act) = none := by
  cases act with
  | submit head called status =>
    cases called with
    | true => exact absurd settled ((step_settled eq).2 head status rfl).1
    | false => rfl
  | _ => rfl

/-- A worker that has returned has completed the response. -/
lemma returned_complete {limit : UInt64} {max : Nat} (run : Run Step (State.init limit max) es st)
    (returned : st.worker.phase = .returned) : st.stream.responseComplete = true := by
  refine run.invariant (P := fun st => st.worker.phase = .returned →
    st.stream.responseComplete = true)
    ?_ ?_ returned
  · intro st e st' h step hp
    cases step with
    | worker _ eq =>
      have moves := step_moves eq
      clear eq
      cases moves with
      | tailComplete => rfl
      | submit site =>
        cases site with
        | _ =>
          dsimp only at hp
          split_ifs at hp
      | @append _ more done failed _ _ ret site =>
        rcases afterTurn_cases _ more done failed ret with e | e | ⟨d, e⟩ <;> rw [e] at hp <;>
          cases site <;> cases hp
      | waitFailed site =>
        cases site with
        | _ => cases hp
      | read =>
        dsimp only at hp
        split_ifs at hp
      | _ => cases hp
    | read _ _ _ _ _ eq =>
      rw [(sessionReadData_frame eq).1]
      exact h hp
    | ack eq =>
      rw [ackLoop_frame eq]
      exact h hp
    | cancel => rfl
    | session => exact h hp
  · nofun

end

/-! ## Streaming mode -/

/-- How far a streaming worker has come: it has seen plain metadata only; it has submitted the
header block of the first other bucket; or the handler passed nothing but plain metadata. -/
inductive Leading (es : List Event) (st : State) : Prop where
  | before {ps bb} :
    buckets es = ps ++ reached bb →
    (∀ b ∈ ps, b = .metadata) →
    st.worker.phase.ahead = some bb →
    st.worker.ctx.resp = none →
    heads es = [] →
    ¬ Settled st.stream →
    Leading es st
  | after {head} :
    firstHead (buckets es) = some head →
    heads es = [head] →
    Settled st.stream →
    (Accepted es → st.stream.responseSubmitted = true) →
    Leading es st
  | late :
    (∀ b ∈ buckets es, b = .metadata) →
    st.worker.phase.inTail = true →
    Leading es st

section
variable {es : List Event} {e : Event} {st st' : State} {a : Answer} {act : Act}

/-- The buckets of a streaming worker that has submitted nothing yet. -/
lemma Leading.submit_before {ps bb : List Bucket} {ctx : Ctx} {head : Head} {ok failed : Phase}
    (passed : buckets es = ps ++ reached bb) (plain : ∀ b ∈ ps, b = .metadata)
    (phase : st.worker.phase.ahead = some bb)
    (fresh : st.worker.ctx.resp = none) (site : Submits st.worker ctx head ok failed) :
    firstHead (buckets es) = some head := by
  rw [passed, firstHead_plain plain]
  cases site with
  | response _ hp | data _ hp | flush _ hp | eos _ hp =>
    rw [hp] at phase
    cases phase
    simp [reached, firstHead, fresh]
  | tail hp =>
    rw [hp] at phase
    cases phase

/-- Once a header block was submitted, no step of the worker submits another one. -/
lemma Leading.worker_after {head : Head} (first : firstHead (buckets es) = some head)
    (once : heads es = [head]) (settled : Settled st.stream)
    (accepted : Accepted es → st.stream.responseSubmitted = true)
    (eq : Worker.step st.worker st.stream a = some (st'.worker, st'.stream, act)) :
    Leading (es ++ [Event.worker a act]) st' := by
  have still : firstHead (buckets (es ++ [Event.worker a act])) = some head := by
    rw [buckets_snoc]
    exact firstHead_append first
  refine .after still ?_ ((step_settled eq).1 settled) ?_
  · rw [heads_silent (head_settled eq settled), once]
  · intro acc
    exact (step_moves eq).keeps.submitted (accepted acc.init)

/-- A step of a streaming worker. -/
lemma Leading.worker (h : Leading es st) (steady : Steady st)
    (streaming : st.worker.ctx.streaming = true)
    (eq : Worker.step st.worker st.stream a = some (st'.worker, st'.stream, act)) :
    Leading (es ++ [Event.worker a act]) st' := by
  have moves := step_moves eq
  cases h with
  | after first once settled accepted => exact worker_after first once settled accepted eq
  | late plain tail =>
    obtain ⟨tail', silent⟩ := moves.tail tail
    refine .late ?_ tail'
    rw [buckets_silent silent]
    exact plain
  | @before ps bb passed plain phase fresh nothing unsettled =>
    -- nothing was submitted so far: the next bucket that is not plain metadata decides
    obtain ⟨w', s', reset'⟩ := st'
    dsimp only at eq moves ⊢
    have mode : st.worker.ctx.streaming ≠ false := by
      rw [streaming]
      nofun
    cases moves with
    | @brigade bb' hp =>
      rw [hp] at phase
      cases phase
      exact .before (buckets_next passed rfl) plain rfl fresh ((heads_silent rfl).trans nothing)
        unsettled
    | finished hp =>
      rw [hp] at phase
      cases phase
      refine .late ?_ rfl
      rw [buckets_silent rfl, passed, reached, List.append_nil]
      exact plain
    | brigadeEnd hp | error hp =>
      rw [hp] at phase
      cases phase
      have passed' : buckets (es ++ [Event.worker .go .skip]) = ps ++ reached [] :=
        (buckets_silent rfl).trans passed
      exact .before passed' plain rfl fresh ((heads_silent rfl).trans nothing) unsettled
    | @skip b bb' skipped hp =>
      rw [hp] at phase
      cases phase
      obtain rfl : b = .metadata := skipped.resolve_right fun h => mode h.1
      have passed' : buckets (es ++ [Event.worker .go .skip]) =
          (ps ++ [Bucket.metadata]) ++ reached bb' := by
        rw [buckets_silent rfl, passed, List.append_assoc, List.singleton_append, reached]
        nofun
      refine .before passed' ?_ rfl fresh ((heads_silent rfl).trans nothing) unsettled
      simpa [or_imp, forall_and] using plain
    -- the one submit: its header is the one the buckets so far decide on
    | @submit ctx head ok failed rv _ status called site eq' =>
      have first := submit_before passed plain phase fresh site
      obtain ⟨rfl, accepted⟩ := steady.submits unsettled eq'
      have first' :
        firstHead (buckets (es ++ [Event.worker (.submit rv) (.submit head true status)])) =
          some head := by
        rw [buckets_snoc]
        exact firstHead_append first
      refine .after first' ?_ ((step_settled eq).2 head status rfl).2 ?_
      · rw [heads_snoc, nothing]
        rfl
      · intro acc
        exact accepted (acc rv _ (List.mem_append_right _ (List.mem_singleton_self _)))
    | response hs | skipData hs | captureFailed hs | capture hs => exact absurd hs mode
    | readFailed hp | read hp | complete hp | tailComplete hp =>
      rw [hp] at phase
      cases phase
    | append site | waitFailed site =>
      cases site with
      | filter hp | tail hp =>
        rw [hp] at phase
        cases phase

/-- Every step keeps the invariant of streaming mode. -/
lemma Leading.step (h : Leading es st) (steady : Steady st)
    (streaming : st.worker.ctx.streaming = true) (step : Step st e st') (calm : e.calm = true) :
    Leading (es ++ [e]) st' := by
  rcases (step.calm_cases calm).2 with ⟨a, act, rfl, eq⟩ | ⟨same, keeps, open_, head, _, silent⟩
  · exact h.worker steady streaming eq
  · cases h with
    | before passed plain phase fresh nothing unsettled =>
      rw [← same] at phase fresh
      exact .before ((buckets_silent silent).trans passed) plain phase fresh
        ((heads_silent head).trans nothing) (unsettled ∘ open_.mp)
    | after first once settled accepted =>
      rw [← buckets_silent silent] at first
      exact .after first ((heads_silent head).trans once) (open_.mpr settled)
        fun acc => keeps.submitted (accepted acc.init)
    | late plain tail =>
      rw [← same] at tail
      rw [← buckets_silent silent] at plain
      exact .late plain tail

end

/-! ## Buffered mode -/

/-- What a buffering worker has in its buffer: what it read, as long as that is within the limit. -/
structure Buffering (max : Nat) (es : List Event) (w : Responder) : Prop where
  mode : w.ctx.streaming = false
  limit : w.ctx.maxResponseBodySize = max
  phase : w.phase.streams = false
  small : w.ctx.responseTooLarge = false → w.ctx.dataheap = captured es ∧ (captured es).length ≤ max
  large : w.ctx.responseTooLarge = true → max < (captured es).length
  bound : (captured es).length + (content w.phase.buckets).length ≤ (produced es).length

section
variable {es : List Event} {e : Event} {w w' : Responder} {s s' : Stream} {a : Answer} {act : Act}
  {max : Nat}

/-- A step that reads nothing. -/
lemma Buffering.glide (h : Buffering max es w) {resp : Option Resp} {phase : Phase}
    (unread : e.capture = none) (streams : phase.streams = false)
    (bound : (content phase.buckets).length ≤ (content w.phase.buckets).length +
      (content e.brigade).length) :
    Buffering max (es ++ [e]) ⟨{ w.ctx with resp := resp }, phase⟩ where
  mode := h.mode
  limit := h.limit
  phase := streams
  small := by
    rw [captured_snoc, unread, Option.getD_none, List.append_nil]
    exact h.small
  large := by
    rw [captured_snoc, unread, Option.getD_none, List.append_nil]
    exact h.large
  bound := by
    have := h.bound
    rw [captured_snoc, unread, Option.getD_none, List.append_nil, produced_snoc, List.length_append]
    dsimp only
    omega

/-- Reading part of a data bucket. -/
lemma Buffering.capture (h : Buffering max es w) {c : List UInt8} {bb : List Bucket} {n : Nat}
    (hl : w.ctx.responseTooLarge = false) (hp : w.phase = .filtering (.data c :: bb)) :
    Buffering max (es ++ [Event.worker (.read (.ok n)) (.read c (.ok n))])
      ⟨captureBodyBucket w.ctx (c.take n), .filtering (splitOff c n bb)⟩ := by
  obtain ⟨heap, fits⟩ := h.small hl
  have bound : (captured es ++ c.take n).length + (content (splitOff c n bb)).length ≤
      (produced es).length := by
    have all := congrArg List.length (content_splitOff c n bb)
    have := h.bound
    rw [hp, Phase.buckets, content_cons, Bucket.content] at this
    simp only [List.length_append] at all this ⊢
    omega
  have bound' : (captured (es ++ [Event.worker (.read (.ok n)) (.read c (.ok n))])).length +
      (content (splitOff c n bb)).length ≤
      (produced (es ++ [Event.worker (.read (.ok n)) (.read c (.ok n))])).length := by
    rw [captured_snoc, produced_snoc]
    simpa [Event.brigade, Event.capture] using bound
  simp only [captureBodyBucket, h.limit, heap]
  split_ifs with h1 h2
  · refine ⟨h.mode, h.limit, rfl, fun _ => ?_, fun hl' => ?_, bound'⟩
    · rw [captured_snoc, Event.capture, Option.getD_some, h1, List.append_nil]
      exact ⟨heap, fits⟩
    · rw [hl] at hl'
      cases hl'
  · refine ⟨h.mode, rfl, rfl, fun hl' => Bool.noConfusion hl', fun _ => ?_, bound'⟩
    rw [captured_snoc, Event.capture, Option.getD_some, List.length_append]
    omega
  · refine ⟨h.mode, rfl, rfl, fun _ => ?_, fun hl' => ?_, bound'⟩
    · rw [captured_snoc, Event.capture, Option.getD_some, List.length_append]
      exact ⟨rfl, by omega⟩
    · rw [hl] at hl'
      cases hl'

/-- Every step of the worker keeps the invariant of buffered mode. -/
lemma Buffering.worker (h : Buffering max es w) (moves : Moves w s a w' s' act) :
    Buffering max (es ++ [Event.worker a act]) w' := by
  have mode : w.ctx.streaming ≠ true := by
    rw [h.mode]
    nofun
  have phase := h.phase
  cases moves with
  | brigade hp => exact h.glide rfl rfl (by simp [Phase.buckets, Event.brigade])
  | finished hp => exact h.glide rfl rfl (by simp [Phase.buckets])
  | brigadeEnd hp | error hp => exact h.glide rfl rfl (by simp [Phase.buckets])
  | response _ hp | skipData _ _ hp | captureFailed _ hp | skip _ hp =>
    refine h.glide rfl rfl ?_
    rw [hp]
    simp only [Phase.buckets, content_cons, List.length_append]
    omega
  | capture _ hl hp => exact h.capture hl hp
  | submit site =>
    cases site with
    | response hs | data hs | flush hs | eos hs => exact absurd hs mode
    | tail hp =>
      refine h.glide rfl ?_ ?_
      · split_ifs <;> rfl
      · split_ifs <;> simp [Phase.buckets]
  | readFailed hp | read hp | complete hp =>
    rw [hp] at phase
    cases phase
  | append site =>
    cases site with
    | filter hp =>
      rw [hp] at phase
      cases phase
    | tail hp =>
      rcases afterTurn_cases _ Phase.tailAppending .tailCompleting .tailCompleting _ with e | e |
        ⟨d, e⟩ <;>
        rw [e] <;> exact h.glide rfl rfl (by simp [Phase.buckets])
  | waitFailed site =>
    cases site with
    | filter hp =>
      rw [hp] at phase
      cases phase
    | tail hp => exact h.glide rfl rfl (by simp [Phase.buckets])
  | tailComplete hp => exact h.glide rfl rfl (by simp [Phase.buckets])

end

/-- Buckets without a body that do not end the response. -/
def Bucket.light : Bucket → Bool
  | .response _ | .flush | .metadata => true
  | _ => false

/-- A bucket sequence in which `final` is the last response bucket, after other buckets without a
body. -/
structure Resolves (front : List Bucket) (final : Resp) (rest bb : List Bucket) : Prop where
  split : bb = front ++ Bucket.response final :: rest
  front : ∀ b ∈ front, b.light = true
  last : ∀ resp, .response resp ∉ rest

/-- How far a buffering worker has come: it has not seen the last response bucket; it holds that
bucket, and submits it in its tail; or the handler did not pass it. -/
inductive Finding (front : List Bucket) (final : Resp) (es : List Event) (st : State) : Prop where
  | before {ps bb ts} :
    buckets es = ps ++ reached bb →
    front = ps ++ ts →
    st.worker.phase.ahead = some bb →
    heads es = [] →
    ¬ Settled st.stream →
    Finding front final es st
  | after {post} :
    buckets es = front ++ Bucket.response final :: post →
    st.worker.ctx.resp = some final →
    (∀ resp, .response resp ∉ reached st.worker.phase.buckets) →
    (st.worker.phase.early = true → heads es = [] ∧ ¬ Settled st.stream) →
    (st.worker.phase.early = false →
      heads es = [(tailResponse st.worker.ctx).1] ∧ Settled st.stream ∧
        (Accepted es → st.stream.responseSubmitted = true)) →
    Finding front final es st
  | late {ts} :
    front = buckets es ++ ts →
    st.worker.phase.inTail = true →
    Finding front final es st

section
variable {es : List Event} {e : Event} {st st' : State} {a : Answer} {act : Act} {max : Nat}
  {front rest ahead : List Bucket} {final : Resp}

/-- The next bucket of a worker that has not seen the last response bucket is one before it, or
it. -/
lemma Resolves.next {ps ts bb : List Bucket} {b : Bucket}
    (h : Resolves front final rest (ps ++ b :: bb ++ ahead)) (eq : front = ps ++ ts) :
    (b.light = true ∧ ∃ ts', front = (ps ++ [b]) ++ ts') ∨
      (b = .response final ∧ ps = front ∧ ∀ resp, .response resp ∉ bb) := by
  have split := h.split
  subst eq
  rw [List.append_assoc, List.append_assoc, List.append_cancel_left_eq, List.cons_append] at split
  cases ts with
  | nil =>
    obtain ⟨rfl, tail⟩ := List.cons.inj split
    refine .inr ⟨rfl, (List.append_nil ps).symm, ?_⟩
    intro resp mem
    apply h.last resp
    rw [← tail]
    exact List.mem_append_left _ mem
  | cons c ts' =>
    obtain ⟨rfl, _⟩ := List.cons.inj split
    refine .inl ⟨h.front b (by simp), ts', ?_⟩
    rw [List.append_assoc, List.singleton_append]

/-- A step of a buffering worker that has not seen the last response bucket. -/
lemma Finding.worker_before {ps bb ts : List Bucket} (buffering : Buffering max es st.worker)
    (whole : Resolves front final rest (buckets (es ++ [Event.worker a act]) ++ ahead))
    (passed : buckets es = ps ++ reached bb) (part : front = ps ++ ts)
    (phase : st.worker.phase.ahead = some bb)
    (nothing : heads es = []) (unsettled : ¬ Settled st.stream)
    (moves : Moves st.worker st.stream a st'.worker st'.stream act) :
    Finding front final (es ++ [Event.worker a act]) st' := by
  obtain ⟨w', s', reset'⟩ := st'
  dsimp only at moves
  have mode : st.worker.ctx.streaming ≠ true := by
    rw [buffering.mode]
    nofun
  cases moves with
  | @brigade bb' hp =>
    rw [hp] at phase
    cases phase
    exact .before (buckets_next passed rfl) part rfl ((heads_silent rfl).trans nothing) unsettled
  | finished hp =>
    rw [hp] at phase
    cases phase
    have part' : front = buckets (es ++ [Event.worker .finished .finished]) ++ ts := by
      rw [buckets_silent rfl, passed, reached, List.append_nil]
      exact part
    exact .late part' rfl
  | brigadeEnd hp | error hp =>
    rw [hp] at phase
    cases phase
    have passed' : buckets (es ++ [Event.worker .go .skip]) = ps ++ reached [] :=
      (buckets_silent rfl).trans passed
    exact .before passed' part rfl ((heads_silent rfl).trans nothing) unsettled
  | skipData _ _ hp | captureFailed _ hp | capture _ _ hp =>
    -- data buckets come only after the last response bucket
    rw [hp] at phase
    cases phase
    rw [buckets_silent rfl, passed] at whole
    rcases whole.next part with ⟨light, _⟩ | ⟨eq, _⟩
    · cases light
    · cases eq
  | @response resp bb' _ hp =>
    rw [hp] at phase
    cases phase
    have passed' : buckets (es ++ [Event.worker .go .skip]) =
        ps ++ Bucket.response resp :: reached bb' :=
      (buckets_silent rfl).trans passed
    rw [passed'] at whole
    -- an earlier response bucket, which the last one will replace, or the last one itself
    rcases whole.next part with ⟨_, ts', part'⟩ | ⟨eq, rfl, last⟩
    · refine .before ?_ part' rfl ((heads_silent rfl).trans nothing) unsettled
      rw [passed', List.append_assoc, List.singleton_append]
    · cases eq
      exact .after passed' rfl last (fun _ => ⟨(heads_silent rfl).trans nothing, unsettled⟩) nofun
  | @skip b bb' skipped hp =>
    rw [hp] at phase
    cases phase
    have passed' : buckets (es ++ [Event.worker .go .skip]) = ps ++ b :: reached bb' := by
      rw [buckets_silent rfl, passed, reached]
      rintro rfl
      simp at skipped
    rw [passed'] at whole
    rcases whole.next part with ⟨_, ts', part'⟩ | ⟨rfl, _⟩
    · refine .before ?_ part' rfl ((heads_silent rfl).trans nothing) unsettled
      rw [passed', List.append_assoc, List.singleton_append]
    · rcases skipped with h | ⟨_, h | h⟩ <;> cases h
  | submit site =>
    cases site with
    | response hs | data hs | flush hs | eos hs => exact absurd hs mode
    | tail hp =>
      rw [hp] at phase
      cases phase
  | readFailed hp | read hp | complete hp | tailComplete hp =>
    rw [hp] at phase
    cases phase
  | append site | waitFailed site =>
    cases site with
    | filter hp | tail hp =>
      rw [hp] at phase
      cases phase

/-- A step of a buffering worker that holds the last response bucket and submits nothing. -/
lemma Finding.glide {post : List Bucket} {w : Responder} {s : Stream} {reset : Bool}
    (passed : buckets es = front ++ Bucket.response final :: post) (resp : w.ctx.resp = some final)
    (todo : ∀ resp, .response resp ∉ reached w.phase.buckets)
    (waiting : heads es = [] ∧ ¬ Settled s) (headless : e.head = none)
    (early : w.phase.early = true) :
    Finding front final (es ++ [e]) ⟨w, s, reset⟩ := by
  have passed' : buckets (es ++ [e]) = front ++ Bucket.response final ::
      (post ++ reached e.brigade) := by
    rw [buckets_snoc, passed, List.append_assoc, List.cons_append]
  refine .after passed' resp todo (fun _ => ?_) fun late => ?_
  · rw [heads_silent headless]
    exact waiting
  · rw [early] at late
    cases late

/-- A step of a buffering worker after it has submitted the response. -/
lemma Finding.glide_late {post : List Bucket} {ctx : Ctx} {phase : Phase} {s s' : Stream}
    {reset : Bool} (passed : buckets es = front ++ Bucket.response final :: post)
    (resp : ctx.resp = some final)
    (done : heads es = [(tailResponse ctx).1] ∧ Settled s ∧
      (Accepted es → s.responseSubmitted = true))
    (settled : Settled s → Settled s') (keeps : Keeps s s') (head : e.head = Option.none)
    (late : phase.early = false) (spent : phase.buckets = []) :
    Finding front final (es ++ [e]) ⟨⟨ctx, phase⟩, s', reset⟩ := by
  have passed' : buckets (es ++ [e]) = front ++ Bucket.response final ::
      (post ++ reached e.brigade) := by
    rw [buckets_snoc, passed, List.append_assoc, List.cons_append]
  refine .after passed' resp ?_ (fun early => ?_) fun _ => ⟨?_, settled done.2.1, fun acc => ?_⟩
  · simp [spent, reached]
  · rw [late] at early
    cases early
  · rw [heads_silent head]
    exact done.1
  · exact keeps.submitted (done.2.2 acc.init)

/-- A step of a buffering worker that holds the last response bucket. -/
lemma Finding.worker_after {post : List Bucket} (buffering : Buffering max es st.worker)
    (steady : Steady st)
    (whole : Resolves front final rest (buckets (es ++ [Event.worker a act]) ++ ahead))
    (passed : buckets es = front ++ Bucket.response final :: post)
    (resp : st.worker.ctx.resp = some final)
    (todo : ∀ resp, .response resp ∉ reached st.worker.phase.buckets)
    (waiting : st.worker.phase.early = true → heads es = [] ∧ ¬ Settled st.stream)
    (done : st.worker.phase.early = false → heads es = [(tailResponse st.worker.ctx).1] ∧
      Settled st.stream ∧ (Accepted es → st.stream.responseSubmitted = true))
    (eq : Worker.step st.worker st.stream a = some (st'.worker, st'.stream, act)) :
    Finding front final (es ++ [Event.worker a act]) st' := by
  have moves := step_moves eq
  have settled := step_settled eq
  have streams := buffering.phase
  have mode : st.worker.ctx.streaming ≠ true := by
    rw [buffering.mode]
    nofun
  obtain ⟨⟨ctx, phase⟩, s, reset⟩ := st
  obtain ⟨w', s', reset'⟩ := st'
  dsimp only at *
  cases moves with
  | @brigade bb' hp =>
    -- `final` was the last response bucket, so a further brigade brings none
    subst hp
    refine .glide passed resp ?_ (waiting rfl) rfl rfl
    intro resp' mem
    apply whole.last resp'
    have split := whole.split
    rw [buckets_snoc, passed] at split
    simp only [List.append_assoc, List.cons_append, List.append_cancel_left_eq, List.cons.injEq,
      true_and] at split
    rw [← split]
    exact List.mem_append_right _ (List.mem_append_left _ mem)
  | finished hp | brigadeEnd hp | error hp =>
    subst hp
    exact .glide passed resp (by simp [Phase.buckets, reached]) (waiting rfl) rfl rfl
  | response _ hp =>
    subst hp
    exact absurd (List.mem_cons_self ..) (todo _)
  | skipData _ _ hp | captureFailed _ hp =>
    subst hp
    exact .glide passed resp (fun r mem => todo r (List.mem_cons_of_mem _ mem)) (waiting rfl) rfl
      rfl
  | skip skipped hp =>
    subst hp
    refine .glide passed resp (fun r mem => todo r ?_) (waiting rfl) rfl rfl
    rw [Phase.buckets, reached]
    · exact List.mem_cons_of_mem _ mem
    · rintro rfl
      simp at skipped
  | @capture content bb n _ _ hp =>
    subst hp
    refine .glide passed ?_ (fun r mem => ?_) (waiting rfl) rfl rfl
    · rcases captureBodyBucket_cases ctx (content.take n) with ⟨_, e⟩ | e | e <;>
        dsimp only <;> rw [e] <;> exact resp
    · refine todo r (List.mem_cons_of_mem _ ?_)
      change _ ∈ reached (splitOff content n bb) at mem
      rw [splitOff] at mem
      split at mem
      · simpa [reached] using mem
      · exact mem
  | @submit _ head ok failed rv _ status called site eq' =>
    cases site with
    | response hs | data hs | flush hs | eos hs => exact absurd hs mode
    | tail hp =>
      subst hp
      obtain ⟨nothing, unsettled⟩ := waiting rfl
      obtain ⟨rfl, accepted⟩ := steady.submits unsettled eq'
      have passed' :
        buckets (es ++ [Event.worker (.submit rv) (.submit (tailResponse ctx).1 true status)]) =
          front ++ Bucket.response final :: post := (buckets_silent rfl).trans passed
      refine .after passed' resp ?_ (fun early => ?_)
        fun _ => ⟨?_, (settled.2 _ _ rfl).2, fun acc => ?_⟩
      · split_ifs <;> simp [Phase.buckets, reached]
      · split_ifs at early <;> cases early
      · rw [heads_snoc, nothing]
        rfl
      · exact accepted (acc rv _ (List.mem_append_right _ (List.mem_singleton_self _)))
  | readFailed hp | read hp | complete hp =>
    subst hp
    cases streams
  | append site =>
    have keeps := (step_moves eq).keeps
    cases site with
    | filter hp =>
      subst hp
      cases streams
    | tail hp =>
      subst hp
      rcases afterTurn_cases _ Phase.tailAppending .tailCompleting .tailCompleting _ with e | e |
        ⟨d, e⟩ <;>
        rw [e] <;> exact .glide_late passed resp (done rfl) settled.1 keeps rfl rfl rfl
  | waitFailed site =>
    cases site with
    | filter hp =>
      subst hp
      cases streams
    | tail hp =>
      subst hp
      exact .glide_late passed resp (done rfl) settled.1 .refl rfl rfl rfl
  | tailComplete hp =>
    subst hp
    exact .glide_late passed resp (done rfl) settled.1 (step_moves eq).keeps rfl rfl rfl

/-- Every step keeps the invariant of buffered mode. -/
lemma Finding.step (h : Finding front final es st) (buffering : Buffering max es st.worker)
    (steady : Steady st) (whole : Resolves front final rest (buckets (es ++ [e]) ++ ahead))
    (step : Step st e st') (calm : e.calm = true) : Finding front final (es ++ [e]) st' := by
  rcases (step.calm_cases calm).2 with ⟨a, act, rfl, eq⟩ | ⟨same, keeps, open_, head, _, silent⟩
  · cases h with
    | before passed part phase nothing unsettled =>
      exact worker_before buffering whole passed part phase nothing unsettled (step_moves eq)
    | after passed resp todo waiting done =>
      exact worker_after buffering steady whole passed resp todo waiting done eq
    | late part tail =>
      obtain ⟨tail', silent⟩ := (step_moves eq).tail tail
      rw [← buckets_silent silent] at part
      exact .late part tail'
  · cases h with
    | before passed part phase nothing unsettled =>
      rw [← same] at phase
      exact .before ((buckets_silent silent).trans passed) part phase
        ((heads_silent head).trans nothing)
        (unsettled ∘ open_.mp)
    | after passed resp todo waiting done =>
      rw [← same] at resp todo waiting done
      refine .after ((buckets_silent silent).trans passed) resp todo (fun early => ?_)
        fun late => ?_
      · rw [heads_silent head, open_]
        exact waiting early
      · rw [heads_silent head, open_]
        exact ⟨(done late).1, (done late).2.1,
          fun acc => keeps.submitted ((done late).2.2 acc.init)⟩
    | late part tail =>
      rw [← same] at tail
      rw [← buckets_silent silent] at part
      exact .late part tail

end

/-! ## Whole runs -/

section
variable {limit : UInt64} {max : Nat} {es : List Event} {st : State}

/-- Stream and session of a run without close callbacks and session changes. -/
lemma Steady.run (run : Run Step (State.init limit max) es st) (calm : ∀ e ∈ es, e.calm = true) :
    Steady st := by
  refine run.invariant_hist (P := fun es st => (∀ e ∈ es, e.calm = true) → Steady st) ?_ ?_ calm
  · intro es s e t h step calm
    rw [List.forall_mem_append, List.forall_mem_singleton] at calm
    exact (h calm.1).step calm.2 step
  · exact fun _ => ⟨rfl, rfl, rfl, rfl⟩

/-- A worker stays in its mode. -/
lemma mode_run (run : Run Step (State.init limit max) es st) :
    st.worker.ctx.streaming = (max == sizeMax) := by
  refine run.invariant (P := fun st => st.worker.ctx.streaming = (max == sizeMax)) ?_ rfl
  intro s e t h step
  cases step with
  | worker _ eq => exact (step_moves eq).mode.1.trans h
  | _ => exact h

/-- How far a streaming worker has come, over a whole run. -/
lemma Leading.run (run : Run Step (State.init limit sizeMax) es st)
    (calm : ∀ e ∈ es, e.calm = true) :
    Leading es st := by
  induction run with
  | nil =>
    have fresh : ¬ Settled (State.init limit sizeMax).stream := by
      rintro (h | h) <;> cases h
    have start : buckets [] = [] ++ [] := rfl
    exact .before start (List.forall_mem_nil _) rfl rfl rfl fresh
  | snoc run step ih =>
    rw [List.forall_mem_append, List.forall_mem_singleton] at calm
    exact (ih calm.1).step (.run run calm.1) ((mode_run run).trans (beq_self_eq_true _)) step calm.2

/-- In streaming mode the header block that is submitted is that of the first bucket that makes the
filter submit one. -/
lemma streaming_head {head : Head} (run : Run Step (State.init limit sizeMax) es st)
    (calm : ∀ e ∈ es, e.calm = true) (returned : st.worker.phase = .returned)
    (first : firstHead (buckets es) = some head) :
    heads es = [head] ∧ (Accepted es → st.stream.responseSubmitted = true) := by
  cases Leading.run run calm with
  | before _ _ phase =>
    rw [returned] at phase
    cases phase
  | after first' once _ accepted =>
    cases first'.symm.trans first
    exact ⟨once, accepted⟩
  | late plain _ =>
    rw [← List.append_nil (buckets es), firstHead_plain plain] at first
    cases first

/-- What a buffering worker has read, over a whole run. -/
lemma Buffering.run (run : Run Step (State.init limit max) es st) (limited : max ≠ sizeMax) :
    Buffering max es st.worker := by
  refine run.invariant_hist (P := fun es st => Buffering max es st.worker) ?_ ?_
  · intro es s e t h step
    cases step with
    | worker _ eq => exact h.worker (step_moves eq)
    | _ => exact h.glide rfl h.phase (Nat.le_add_right _ _)
  · refine ⟨?_, rfl, rfl, fun _ => ⟨rfl, Nat.zero_le _⟩, nofun, le_refl _⟩
    exact beq_eq_false_iff_ne.mpr limited

/-- How far a buffering worker has come, over a whole run. -/
lemma Finding.run {front rest ahead : List Bucket} {final : Resp}
    (run : Run Step (State.init limit max) es st) (limited : max ≠ sizeMax)
    (calm : ∀ e ∈ es, e.calm = true) (whole : Resolves front final rest (buckets es ++ ahead)) :
    Finding front final es st := by
  induction run generalizing ahead with
  | nil =>
    have fresh : ¬ Settled (State.init limit max).stream := by
      rintro (h | h) <;> cases h
    have start : buckets [] = [] ++ [] := rfl
    exact .before start (List.nil_append front).symm rfl rfl fresh
  | snoc run step ih =>
    rw [List.forall_mem_append, List.forall_mem_singleton] at calm
    have whole' := whole
    rw [buckets_snoc, List.append_assoc] at whole'
    exact (ih calm.1 whole').step (.run run limited) (.run run calm.1) whole step calm.2

/-- In buffered mode it is that of the last response bucket, or the fixed one if the body read out
of the buckets is over the limit. -/
lemma buffered_head {front rest : List Bucket} {final : Resp}
    (run : Run Step (State.init limit max) es st) (limited : max ≠ sizeMax)
    (calm : ∀ e ∈ es, e.calm = true) (returned : st.worker.phase = .returned)
    (whole : Resolves front final rest (buckets es)) :
    heads es = [if max < (captured es).length then .oversized else .response (some final)] ∧
      (Accepted es → st.stream.responseSubmitted = true) := by
  rw [← List.append_nil (buckets es)] at whole
  have buffering := Buffering.run run limited
  cases Finding.run run limited calm whole with
  | before _ _ phase =>
    rw [returned] at phase
    cases phase
  | after _ resp _ _ done =>
    obtain ⟨once, _, accepted⟩ := done (by rw [returned]; rfl)
    refine ⟨?_, accepted⟩
    rw [once, tailResponse]
    cases large : st.worker.ctx.responseTooLarge with
    | true => rw [if_pos rfl, if_pos (buffering.large large)]
    | false =>
      rw [if_neg (by simp), if_neg (Nat.not_lt.mpr (buffering.small large).2), resp]
  | late part _ =>
    -- then the handler did not pass the last response bucket
    have split := congrArg List.length whole.split
    rw [part] at split
    simp at split

end

end ModHttp3.Worker

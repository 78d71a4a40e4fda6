import ModHttp3.Session.BodyBuffer
import ModHttp3.Session.Upload
import ModHttp3.Worker.Input

/-!
# A request body from the client to the handler

The bytes of an upload go a long way: QUIC stores them, `drain_one_stream` passes them to nghttp3,
which reports the payload of the DATA frames, `on_recv_data` copies it to a block of memory, and
`h3_filter_in_proto` reads the block when a handler asks for the body. The modules before this one
are each about a part of this way.

`Stored` connects the session to the memory: after any number of moves, running `on_recv_data` down
to its memory operations on the payloads that nghttp3 reported (`payloadsOf`) succeeds, and the
buffer holds what the object of the stream says. With `Progress`, which compares the object with
what the client sent, and the cursor of the input filter, `handler_reads_upload` says what a handler
gets.
-/

namespace ModHttp3.H3
open ModHttp3.Lib

/-- The payload a callback passes to `on_recv_data` for a stream. -/
def Cb.payloadFor (sid : Int) : Cb → List (List UInt8)
  | .recvData sid' data => if sid' = sid then [data] else []
  | _ => []

/-- The payloads that `on_recv_data` got for a stream. -/
def payloadsOf (sid : Int) (log : List Entry) : List (List UInt8) :=
  log.flatMap fun e => e.cbs.flatMap (·.payloadFor sid)

/-- Two objects with the same body. -/
structure H3Stream.SameBody (x y : H3Stream) : Prop where
  streamId : y.streamId = x.streamId
  isBidi : y.isBidi = x.isBidi
  requestBody : y.requestBody = x.requestBody
  requestBodyCapacity : y.requestBodyCapacity = x.requestBodyCapacity
  requestBodyOverflow : y.requestBodyOverflow = x.requestBodyOverflow

/-- The memory of the objects of a stream after the payloads `ds`. Running `on_recv_data` on them
succeeds; the object that is bound has the buffer this leaves, and the others have none. -/
structure Stored (max : Nat) (sid : Int) (s : Session) (ds : List (List UInt8)) (b : BodyBuffer) :
    Prop where
  limit : s.maxRequestBodySize = max
  ran : ds.foldlM (BodyBuffer.onRecvData max) .init = some b
  unbound : s.userData sid = none → b = .init ∧ ds.flatten = []
  bound : ∀ r, s.userData sid = some r → Accumulated max ds b (s.objs r)
  blank : ∀ r, (s.objs r).streamId = sid → s.userData sid ≠ some r →
    Accumulated max [] .init (s.objs r)

section
variable {s t : Session} {r : Ref} {x y : H3Stream} {cb : Cb} {cbs : List Cb} {sid : Int}
  {max : Nat}
  {b : BodyBuffer} {ds : List (List UInt8)} {log es : List Entry}

/-- The payloads of two logs in a row. -/
lemma payloadsOf_append : payloadsOf sid (log ++ es) = payloadsOf sid log ++ payloadsOf sid es :=
  List.flatMap_append

/-- There are no payloads where no callbacks are made. -/
lemma payloadsOf_silent (silent : ∀ e ∈ es, e.cbs = []) : payloadsOf sid es = [] := by
  rw [payloadsOf, List.flatMap_eq_nil_iff]
  intro e mem
  rw [silent e mem]
  rfl

/-- A body is the same as itself. -/
lemma H3Stream.SameBody.refl : x.SameBody x := ⟨rfl, rfl, rfl, rfl, rfl⟩

/-- A marked object has the same body. -/
lemma H3Stream.Marked.sameBody (marked : x.Marked y) : x.SameBody y := by
  cases marked with
  | intro => exact ⟨rfl, rfl, rfl, rfl, rfl⟩

/-- Only `on_recv_data` changes the body. -/
lemma Cb.on_sameBody (other : ∀ sid data, cb ≠ .recvData sid data) : x.SameBody (cb.on max x) := by
  cases cb with
  | recvData sid data => exact absurd rfl (other sid data)
  | beginHeaders sid =>
    obtain ⟨_, eq⟩ := Cb.on_beginHeaders sid max x
    rw [eq]
    exact ⟨rfl, rfl, rfl, rfl, rfl⟩
  | recvHeader sid token name value =>
    obtain ⟨_, _, _, _, _, eq⟩ := Cb.on_recvHeader sid max x
    rw [eq]
    exact ⟨rfl, rfl, rfl, rfl, rfl⟩
  | endHeaders sid fin =>
    rw [Cb.on]
    split <;> exact ⟨rfl, rfl, rfl, rfl, rfl⟩
  | stopSending | resetStream | streamClose => exact ⟨rfl, rfl, rfl, rfl, rfl⟩

/-- The buffer is that of any object with the same body. -/
lemma Accumulated.congr (acc : Accumulated max ds b x) (same : x.SameBody y) :
    Accumulated max ds b y where
  holds := {
    body := same.requestBody ▸ acc.holds.body
    len := same.requestBody ▸ acc.holds.len
    block := acc.holds.block
    capacity := same.requestBodyCapacity ▸ acc.holds.capacity
    overflow := same.requestBodyOverflow ▸ acc.holds.overflow }
  bidi := same.isBidi ▸ acc.bidi
  body := same.requestBody ▸ acc.body
  overflow := same.requestBodyOverflow ▸ acc.overflow
  capacity := same.requestBodyCapacity ▸ acc.capacity

/-- A new object of a request stream. -/
lemma Accumulated.fresh (bidi : sidIsBidi sid = true) (h : Option Handle) :
    Accumulated max [] .init (.init sid h) :=
  ⟨⟨.nil, rfl, rfl, rfl, rfl⟩, bidi, rfl, by simp [H3Stream.init], Nat.zero_le _⟩

/-- Payloads without bytes leave no trace. -/
lemma Accumulated.of_empty (acc : Accumulated max [] b x) (empty : ds.flatten = []) :
    Accumulated max ds b x := by
  have length : ds.flatten.length = 0 := by rw [empty]; rfl
  refine ⟨acc.holds, acc.bidi, ?_, ?_, acc.capacity⟩
  · rw [fitting_all (by omega), empty]
    exact acc.body
  · rw [empty]
    exact acc.overflow

/-- Receiving nothing changes nothing. -/
lemma BodyBuffer.onRecvData_nil : b.onRecvData max [] = some b := if_pos rfl

/-- The buffer is that of any session with the same objects. -/
lemma Stored.congr (st : Stored max sid s ds b) (objs : ∀ r, (s.objs r).SameBody (t.objs r))
    (userData : t.userData = s.userData) (limit : t.maxRequestBodySize = s.maxRequestBodySize) :
    Stored max sid t ds b := by
  refine ⟨limit.trans st.limit, st.ran, userData ▸ st.unbound, ?_, ?_⟩
  · intro r user
    exact (st.bound r (userData ▸ user)).congr (objs r)
  · intro r id user
    exact (st.blank r ((objs r).streamId ▸ id) (userData ▸ user)).congr (objs r)

/-- Dropping a QUIC stream leaves the limit. -/
lemma dropQstream_maxRequestBodySize (r : Ref) :
    (dropQstream s r).maxRequestBodySize = s.maxRequestBodySize := by
  rw [dropQstream]
  split <;> rfl

/-- The limit is a constant of the session. -/
lemma runCb_maxRequestBodySize (cb : Cb) :
    (runCb s cb).maxRequestBodySize = s.maxRequestBodySize := by
  cases cb with
  | beginHeaders sid =>
    rw [runCb]
    rcases onBeginHeaders_cases s sid with ⟨eq, _⟩ | ⟨_, _, eq⟩ <;> rw [eq]
    rfl
  | recvHeader =>
    simp only [runCb, onRecvHeader]
    split
    · rfl
    · split <;> rfl
  | endHeaders =>
    rw [runCb, onEndHeaders]
    split <;> rfl
  | recvData =>
    rw [runCb, H3.onRecvData]
    split <;> rfl
  | stopSending =>
    rw [runCb, onStopSending]
    split
    · rfl
    · exact dropQstream_maxRequestBodySize _
  | resetStream =>
    simp only [runCb, onResetStream]
    split
    · rfl
    · split <;> rfl
  | streamClose =>
    rw [runCb, onStreamClose]
    split
    · rfl
    · exact dropQstream_maxRequestBodySize _

/-- A callback that brings no payload of the stream: the object that gets bound has an empty
buffer. -/
lemma Stored.runCb_other (st : Stored max sid s ds b) (bound : Bound s)
    (silent : cb.payloadFor sid = []) :
    Stored max sid (runCb s cb) ds b := by
  have effect := runCb_effect (s := s) cb
  have frame := effect.frame
  have same : ∀ r, (s.objs r).streamId = sid → (s.objs r).SameBody ((runCb s cb).objs r) := by
    intro r id
    rw [runCb_objs]
    split
    · rename_i changed
      apply Cb.on_sameBody
      rintro sid' data rfl
      -- a payload of another stream does not change an object of this one
      have mine : sid' = sid := runCb_sid bound id changed
      rw [Cb.payloadFor, if_pos mine] at silent
      cases silent
    · exact .refl
  refine ⟨(runCb_maxRequestBodySize cb).trans st.limit, st.ran, ?_, ?_, ?_⟩
  · intro after
    exact st.unbound (userData_unbound frame after)
  · intro r user
    have id : (s.objs r).streamId = sid := by
      rw [← (frame.objs r).streamId]
      exact ((bound.effect effect).userData sid r user).2.1
    by_cases before : s.userData sid = some r
    · exact (st.bound r before).congr (same r id)
    · obtain ⟨rfl, empty⟩ := st.unbound (userData_new frame user before)
      exact ((st.blank r id before).of_empty empty).congr (same r id)
  · intro r id user
    rw [(frame.objs r).streamId] at id
    exact (st.blank r id fun before => user (frame.userData sid r before)).congr (same r id)

/-- A payload of the stream is stored in the buffer of its object. -/
lemma Stored.runCb_recvData {data : List UInt8} (st : Stored max sid s ds b) (bound : Bound s)
    (small : max ≤ 2 ^ 30) (object : data.length ≤ ptrdiffMax)
    (begun : data ≠ [] → s.userData sid ≠ none) :
    ∃ b', Stored max sid (runCb s (.recvData sid data)) (ds ++ [data]) b' := by
  have userData : (runCb s (.recvData sid data)).userData = s.userData := runCb_userData (by simp)
  have limit := (runCb_maxRequestBodySize (s := s) (.recvData sid data)).trans st.limit
  have ran : ∀ {b'}, b.onRecvData max data = some b' →
      (ds ++ [data]).foldlM (BodyBuffer.onRecvData max) .init = some b' := by
    intro b' eq
    rw [List.foldlM_append, st.ran, Option.bind_eq_bind, Option.bind_some, List.foldlM_cons, eq]
    rfl
  have blank : ∀ r, ((runCb s (.recvData sid data)).objs r).streamId = sid →
      (runCb s (.recvData sid data)).userData sid ≠ some r →
      Accumulated max [] .init ((runCb s (.recvData sid data)).objs r) := by
    intro r id user
    rw [((runCb_effect (s := s) _).frame.objs r).streamId] at id
    rw [runCb_objs_unbound bound id user]
    rw [userData] at user
    exact st.blank r id user
  cases user : s.userData sid with
  | none =>
    obtain rfl : data = [] := by
      by_contra ne
      exact begun ne user
    refine ⟨b, limit, ran BodyBuffer.onRecvData_nil, ?_, ?_, blank⟩
    · intro _
      obtain ⟨init, empty⟩ := st.unbound user
      exact ⟨init, by rw [List.flatten_append, empty]; rfl⟩
    · intro r after
      rw [userData, user] at after
      cases after
  | some r =>
    obtain ⟨b', eq, acc⟩ := (st.bound r user).step small object
    refine ⟨b', limit, ran eq, ?_, ?_, blank⟩
    · intro after
      rw [userData, user] at after
      cases after
    · intro r' after
      obtain rfl : r = r' := by
        rw [userData, user] at after
        exact Option.some.inj after
      rw [runCb_objs, Cb.sid, if_pos after, Cb.on, st.limit]
      exact acc

/-- A callback leaves the payloads it reports in the buffer. -/
lemma Stored.runCb (st : Stored max sid s ds b) (bound : Bound s) (small : max ≤ 2 ^ 30)
    (objects : ∀ d ∈ cb.payloadFor sid, d.length ≤ ptrdiffMax)
    (begun : cb.dataFor sid ≠ [] → s.userData sid ≠ none) :
    ∃ b', Stored max sid (runCb s cb) (ds ++ cb.payloadFor sid) b' := by
  by_cases silent : cb.payloadFor sid = []
  · refine ⟨b, ?_⟩
    rw [silent, List.append_nil]
    exact st.runCb_other bound silent
  cases cb with
  | recvData sid' data =>
    obtain rfl : sid' = sid := by
      by_contra ne
      exact silent (if_neg ne)
    rw [Cb.payloadFor, if_pos rfl] at objects ⊢
    rw [Cb.dataFor, if_pos rfl] at begun
    exact st.runCb_recvData bound small (objects data (List.mem_singleton_self data)) begun
  | _ => exact absurd rfl silent

/-- The callbacks of a call, which come in order. -/
lemma Stored.runCbs {got : List UInt8} {begun stopped ended : Bool} (st : Stored max sid s ds b)
    (hs : Hears sid s got begun stopped ended) (bound : Bound s) (bidi : sidIsBidi sid = true)
    (small : max ≤ 2 ^ 30) (objects : ∀ d ∈ cbs.flatMap (·.payloadFor sid), d.length ≤ ptrdiffMax)
    (ordered : Ordered sid begun stopped cbs)
    (pending : (∃ cb ∈ cbs, cb.begins sid = true) → s.pendingSid = sid ∧ s.pendingH3s ≠ none) :
    ∃ b', Stored max sid (runCbs s cbs) (ds ++ cbs.flatMap (·.payloadFor sid)) b' := by
  induction cbs generalizing s ds b got begun stopped ended with
  | nil => exact ⟨b, by simpa [H3.runCbs] using st⟩
  | cons cb cbs ih =>
    obtain ⟨reports, data, rest⟩ := ordered
    rw [List.flatMap_cons] at objects ⊢
    have effect := runCb_effect (s := s) cb
    have first := hs.runCb bound bidi reports data fun h => pending ⟨cb, List.mem_cons_self, h⟩
    obtain ⟨b', st'⟩ := st.runCb bound small (fun d mem => objects d (List.mem_append_left _ mem))
      fun h => hs.begun (data h)
    rw [← List.append_assoc]
    refine ih st' first (bound.effect effect) (fun d mem => objects d (List.mem_append_right _ mem))
      rest ?_
    rintro ⟨cb, mem, h⟩
    rw [effect.frame.pendingSid, effect.frame.pendingH3s]
    exact pending ⟨cb, List.mem_cons_of_mem _ mem, h⟩

/-- Callbacks leave the limit. -/
lemma runCbs_maxRequestBodySize (cbs : List Cb) :
    (runCbs s cbs).maxRequestBodySize = s.maxRequestBodySize := by
  induction cbs generalizing s with
  | nil => rfl
  | cons cb cbs ih => exact ih.trans (runCb_maxRequestBodySize cb)

/-- Moves leave the limit. -/
lemma Move.maxRequestBodySize (m : Move s t) : t.maxRequestBodySize = s.maxRequestBodySize := by
  cases m with
  | call cbs | feed cbs | feedFin cbs => exact runCbs_maxRequestBodySize cbs
  | _ => rfl

/-- What is stored after a log is stored after more entries without callbacks. -/
lemma Stored.silent (st : Stored max sid s (payloadsOf sid log) b) (silent : ∀ e ∈ es, e.cbs = []) :
    Stored max sid s (payloadsOf sid (log ++ es)) b := by
  rw [payloadsOf_append, payloadsOf_silent silent, List.append_nil]
  exact st

/-- A quiet move leaves the buffer. -/
lemma Stored.quiet (st : Stored max sid s (payloadsOf sid s.log) b) (bidi : sidIsBidi sid = true)
    (quiet : Quiet s t) (limit : t.maxRequestBodySize = s.maxRequestBodySize) :
    Stored max sid t (payloadsOf sid t.log) b := by
  obtain ⟨es, log, idle⟩ := quiet.log
  rw [log]
  refine Stored.silent ⟨limit.trans st.limit, st.ran, quiet.userData ▸ st.unbound, ?_, ?_⟩
    fun e mem => Entry.idle_cbs (idle e mem)
  · intro r user
    rw [quiet.userData] at user
    rcases quiet.objs r with marked | ⟨_, unbound⟩
    · exact (st.bound r user).congr marked.sameBody
    · exact absurd user (unbound sid)
  · intro r id user
    rw [quiet.userData] at user
    rcases quiet.objs r with marked | ⟨⟨sid', h, new⟩, _⟩
    · exact (st.blank r (marked.sameBody.streamId ▸ id) user).congr marked.sameBody
    · rw [new] at id ⊢
      obtain rfl : sid' = sid := id
      exact .fresh bidi h

/-- A call of nghttp3 and its callbacks. -/
lemma Stored.called {c : Call} {rv : Int} (st : Stored max sid s (payloadsOf sid log) b)
    (hs : Heard sid s log) (bound : Bound s) (bidi : sidIsBidi sid = true) (small : max ≤ 2 ^ 30)
    (law : Nghttp3Law sid log (.call c cbs rv))
    (objects : ∀ d ∈ payloadsOf sid (log ++ [Entry.call c cbs rv] ++ es), d.length ≤ ptrdiffMax)
    (silent : ∀ e ∈ es, e.cbs = [])
    (pending : (∃ cb ∈ cbs, cb.begins sid = true) → s.pendingSid = sid ∧ s.pendingH3s ≠ none) :
    ∃ b', Stored max sid (H3.runCbs s cbs) (payloadsOf sid (log ++ [Entry.call c cbs rv] ++ es))
      b' := by
  have one : payloadsOf sid [Entry.call c cbs rv] = cbs.flatMap (·.payloadFor sid) :=
    List.append_nil _
  rw [payloadsOf_append, payloadsOf_silent silent, List.append_nil, payloadsOf_append,
    one] at objects ⊢
  exact st.runCbs hs bound bidi small (fun d mem => objects d (List.mem_append_right _ mem))
    law.ordered pending

/-- A call during which the stream is not being read. -/
lemma Stored.called_silent {c : Call} {rv : Int} (st : Stored max sid s (payloadsOf sid s.log) b)
    (hs : Heard sid s s.log) (bound : Bound s) (bidi : sidIsBidi sid = true) (small : max ≤ 2 ^ 30)
    (law : Each (Nghttp3Law sid) (H3.runCbs (s.emit (.call c cbs rv)) cbs).log)
    (objects : ∀ d ∈ payloadsOf sid (H3.runCbs (s.emit (.call c cbs rv)) cbs).log,
      d.length ≤ ptrdiffMax)
    (empty : ∀ data fin, c.reading sid = some (data, fin) → data = []) :
    ∃ b', Stored max sid (H3.runCbs (s.emit (.call c cbs rv)) cbs)
      (payloadsOf sid (H3.runCbs (s.emit (.call c cbs rv)) cbs).log) b' := by
  obtain ⟨es, log, idle⟩ := runCbs_silent (s := s.emit (.call c cbs rv)) cbs
  rw [log] at law objects ⊢
  have law : Nghttp3Law sid s.log (.call c cbs rv) := law.entry
  have before : Stored max sid (s.emit (.call c cbs rv)) (payloadsOf sid s.log) b :=
    st.congr (fun _ => .refl) rfl rfl
  refine before.called (hs.congr (fun _ => .refl) rfl) (bound.emit _) bidi small law objects
    (fun e mem => Entry.idle_cbs (idle e mem)) ?_
  exact fun begins => absurd begins (no_begins (law.silent empty))

/-- Bytes that are read from a stream of the client, and what nghttp3 reports. -/
lemma Stored.feed {h : Handle} {data : List UInt8} {rv : Int}
    (st : Stored max sid s (payloadsOf sid s.log) b) (hs : Heard sid s s.log) (bound : Bound s)
    (lt : r < s.next) (client : sidIsServer (s.objs r).streamId = false)
    (bidi : sidIsBidi sid = true) (small : max ≤ 2 ^ 30)
    (law : Each (Nghttp3Law sid) (s.feed r h data cbs rv).log)
    (objects : ∀ d ∈ payloadsOf sid (s.feed r h data cbs rv).log, d.length ≤ ptrdiffMax) :
    ∃ b', Stored max sid (s.feed r h data cbs rv) (payloadsOf sid (s.feed r h data cbs rv).log)
      b' := by
  obtain ⟨es, log, idle⟩ := runCbs_silent (s := s.reading r h data cbs rv) cbs
  have log : (s.feed r h data cbs rv).log = (s.reading r h data cbs rv).log ++ es := log
  rw [log] at law objects ⊢
  have law : Nghttp3Law sid (s.log ++ [Entry.op (.use (.read (.data data)) h)])
    (.call (.readStream (s.objs r).streamId data false) cbs rv) := law.entry
  have silent : ∀ e ∈ [Entry.op (.use (.read (.data data)) h)], e.cbs = [] := by
    intro e mem
    rw [List.mem_singleton.mp mem]
    rfl
  have before : Stored max sid (s.reading r h data cbs rv)
      (payloadsOf sid (s.log ++ [Entry.op (.use (.read (.data data)) h)])) b :=
    (st.silent silent).congr (fun _ => .refl) rfl rfl
  have heard : Heard sid (s.reading r h data cbs rv)
      (s.log ++ [Entry.op (.use (.read (.data data)) h)]) :=
    (hs.silent silent).congr (fun _ => .refl) rfl
  have after := before.called heard (bound.reading lt client) bidi small law objects
    (fun e mem => Entry.idle_cbs (idle e mem)) ?_
  · obtain ⟨b', after⟩ := after
    exact ⟨b', after.congr (fun _ => .refl) rfl rfl⟩
  · intro begins
    by_cases mine : (s.objs r).streamId = sid
    · exact ⟨mine, nofun⟩
    · refine absurd begins (no_begins (law.silent ?_))
      intro data' fin eq
      rw [Call.reading, if_neg mine] at eq
      cases eq

/-- Every move keeps the memory of a stream in agreement with its objects. -/
lemma Stored.move (st : Stored max sid s (payloadsOf sid s.log) b) (hs : Heard sid s s.log)
    (owns : Owns s) (bound : Bound s) (bidi : sidIsBidi sid = true) (small : max ≤ 2 ^ 30)
    (law : Each (Nghttp3Law sid) t.log)
    (objects : ∀ d ∈ payloadsOf sid t.log, d.length ≤ ptrdiffMax) (m : Move s t) :
    ∃ b', Stored max sid t (payloadsOf sid t.log) b' := by
  rcases m.quiet_or_loud bound with quiet | loud
  · exact ⟨b, st.quiet bidi quiet m.maxRequestBodySize⟩
  cases loud with
  | call cbs rv other =>
    refine st.called_silent hs bound bidi small law objects ?_
    intro data fin eq
    rw [Call.reading_of_other other] at eq
    cases eq
  | feed cbs rv hq ne client =>
    exact st.feed hs bound (owns.lt_next hq) client bidi small law objects
  | @feedFin r h u cbs rv hq last ends =>
    have called :=
      st.called_silent (c := .readStream (s.objs r).streamId [] true) hs bound bidi small law
      objects (by
        intro data fin eq
        rw [Call.reading] at eq
        split at eq
        · cases eq
          rfl
        · cases eq)
    obtain ⟨b', st'⟩ := called
    refine ⟨b', st'.congr (fun r' => ?_) rfl rfl⟩
    refine update_rel (P := H3Stream.SameBody) ?_ (fun _ => .refl) r'
    exact ⟨rfl, rfl, rfl, rfl, rfl⟩
  | @dispatch r mem alive =>
    refine ⟨b, st.congr (fun r' => ?_) rfl rfl⟩
    refine update_rel (P := H3Stream.SameBody) ?_ (fun _ => .refl) r'
    exact ⟨rfl, rfl, rfl, rfl, rfl⟩

/-- A new session has empty buffers. -/
lemma Stored.init (c : Nat) (bidi : sidIsBidi sid = true) :
    Stored max sid (.init c max) [] .init := by
  refine ⟨rfl, rfl, fun _ => ⟨rfl, rfl⟩, nofun, ?_⟩
  intro r id _
  obtain rfl : 0 = sid := id
  exact .fresh bidi none

/-- Along every sequence of moves in which nghttp3 keeps its law. -/
lemma Stored.moves {c : Nat} (bidi : sidIsBidi sid = true) (small : max ≤ 2 ^ 30)
    (ms : Moves (.init c max) t) (law : Each (Nghttp3Law sid) t.log)
    (objects : ∀ d ∈ payloadsOf sid t.log, d.length ≤ ptrdiffMax) :
    Heard sid t t.log ∧ ∃ b, Stored max sid t (payloadsOf sid t.log) b := by
  induction ms with
  | refl => exact ⟨.init c max, .init, .init c bidi⟩
  | @tail s t ms mv ih =>
    have owns := (Owns.init c max).moves ms
    have bound := (Bound.init c max).moves (Owns.init c max) ms
    obtain ⟨es, log⟩ := mv.extends
    have before : Each (Nghttp3Law sid) s.log := by
      rw [log] at law
      exact law.before
    have earlier : ∀ d ∈ payloadsOf sid s.log, d.length ≤ ptrdiffMax := by
      intro d mem
      apply objects
      rw [log, payloadsOf_append]
      exact List.mem_append_left _ mem
    obtain ⟨heard, b, st⟩ := ih before earlier
    exact ⟨heard.move owns bound bidi law mv, st.move heard owns bound bidi small law objects mv⟩

end

end ModHttp3.H3

namespace ModHttp3.Worker
open ModHttp3.Lib ModHttp3.H3

section
variable {next : Option (List InBucket → InputMode → Int → ReadStatus × List InBucket)}
  {body : List UInt8}
  {es : List Read} {s : BodyReader}

/-- The reads of a handler get a part of the body from its beginning, and all of it once the end was
reported. -/
lemma Progress.reads (p : Progress body es s) :
    Worker.delivered es <+: body ∧ ((∃ e ∈ es, .eos ∈ e.added) → Worker.delivered es = body) := by
  refine ⟨?_, ?_⟩
  · rw [p.delivered]
    exact List.take_prefix _ _
  · intro eos
    rw [p.delivered, p.ended eos, List.take_length]

/-- A handler that goes on reading comes to the end of the body. -/
lemma Progress.drained (p : Progress body es s) (f : Nat → Request)
    (consumes : ∀ n, (f n).mode.consumes = true) :
    ∃ n t ds, execAll (BodyReader.read next) s ((List.range (n + 1)).map f) = some (t, ds) ∧
      (∃ e ∈ ds, .eos ∈ e.added) ∧ Worker.delivered (es ++ ds) = body := by
  obtain ⟨n, t, ds, e, eq, eos, _⟩ := @BodyReader.Holds.drained next _ _ p.holds f consumes
  have run : Run (Reads next) s (ds ++ [e]) t := by
    refine execAll_run ?_ eq
    intro s req t e eq
    exact BodyReader.read_reads eq
  have p' : Progress body (es ++ (ds ++ [e])) t :=
    run.invariant_hist (P := fun ds s => Progress body (es ++ ds) s)
      (fun ds s e t p rd => by rw [← List.append_assoc]; exact p.step rd) (by rwa [List.append_nil])
  have last : ∃ d ∈ ds ++ [e], .eos ∈ d.added := ⟨e, by simp, eos⟩
  refine ⟨n, t, ds ++ [e], eq, last, p'.reads.2 ?_⟩
  obtain ⟨d, mem, eos⟩ := last
  exact ⟨d, List.mem_append_right _ mem, eos⟩

end

/-- The access checker lets a request through if its body is whole and was not too large. -/
lemma hookAccessChecker_ok {x : H3Stream} (ok : hookAccessChecker x = 0) :
    x.requestBodyOverflow = false ∧ x.bodyTruncated = false := by
  cases overflow : x.requestBodyOverflow with
  | true => simp [hookAccessChecker, overflow] at ok
  | false =>
    refine ⟨rfl, ?_⟩
    cases truncated : x.bodyTruncated with
    | true => simp [hookAccessChecker, overflow, truncated] at ok
    | false => rfl

/-- In every run in which QUIC and nghttp3 keep their laws and the stream is not found aborted after
its headers and before its FIN, while a worker has a request that the access checker lets through:
running `on_recv_data` on the payloads of the stream stays in its blocks and comes to its end, and
whatever a handler then reads through the input filter, in any modes and sizes, is what the client
sent, from its beginning, without a gap and without repetition; it is all of it once the end of the
body was reported, and a handler that goes on reading comes to this end. -/
theorem handler_reads_upload {b m : Nat} {cs : List Sect} {s : Session} {peer : Peer} {h : Handle}
    {sid : Int} {r : Ref} (small : m ≤ 2 ^ 30) (run : Run Step (.init b m) cs s)
    (quic : Each (QuicLaw peer h sid) s.log) (nghttp3 : Each (Nghttp3Law sid) s.log)
    (intact : Each (Intact h sid) s.log)
    (objects : ∀ d ∈ payloadsOf sid s.log, d.length ≤ ptrdiffMax) (id : (s.objs r).streamId = sid)
    (reached : Sect.enabled s (.process r) = true) (ok : hookAccessChecker (s.objs r) = 0) :
    ∃ buf, (payloadsOf sid s.log).foldlM (BodyBuffer.onRecvData m) .init = some buf ∧
      ∀ next es t, Run (Reads next) (.opened buf) es t →
        delivered es <+: Frames.payload peer.sent ∧
        ((∃ e ∈ es, .eos ∈ e.added) → delivered es = Frames.payload peer.sent) ∧
        ∀ f : Nat → Request, (∀ n, (f n).mode.consumes = true) →
          ∃ n u ds, execAll (BodyReader.read next) t ((List.range (n + 1)).map f) = some (u, ds) ∧
            (∃ e ∈ ds, .eos ∈ e.added) ∧ delivered (es ++ ds) = Frames.payload peer.sent := by
  simp only [Sect.enabled, Bool.and_eq_true] at reached
  have dispatched := reached.1.2
  have bound := run_bound run
  have whole := bound.dispatched r dispatched
  have bidi : sidIsBidi sid = true := by
    simp only [H3Stream.whole, Bool.and_eq_true, bound.isBidi, id] at whole
    exact whole.1.1
  have user := bound.headers r (H3Stream.whole_headersComplete whole)
  rw [id] at user
  have moves := (run_moves run).1
  obtain ⟨overflow, complete⟩ := hookAccessChecker_ok ok
  obtain ⟨progress, heard⟩ := H3.Progress.moves bidi moves ⟨quic, nghttp3, intact⟩
  -- the object of the stream has what the client sent
  have sent : (s.objs r).requestBody = Frames.payload peer.sent := by
    rcases progress.dispatched r id dispatched with truncated | ⟨_, body⟩
    · rw [complete] at truncated
      cases truncated
    · exact (heard.body.body r user overflow).trans body
  -- and its buffer holds it
  obtain ⟨_, buf, stored⟩ := Stored.moves bidi small moves nghttp3 objects
  have acc := stored.bound r user
  have short : (s.objs r).requestBody.length < 2 ^ 64 := by
    have fits := fitting_le (payloadsOf sid s.log) (Nat.zero_le m)
    rw [acc.body]
    omega
  refine ⟨buf, stored.ran, ?_⟩
  intro next es t reads
  have p : Progress (Frames.payload peer.sent) es t := by
    rw [← sent]
    exact .run (.opened acc.holds short) rfl reads
  exact ⟨p.reads.1, p.reads.2, fun f consumes => p.drained f consumes⟩

/-- The client sends `ab`, and a handler that asks for one byte at a time gets it. -/
theorem handler_reads_upload_byteByByte :
    ∃ cs s buf, Run Step (.init 65536 1000) cs s ∧ Sect.enabled s (.process 3) = true ∧
      hookAccessChecker (s.objs 3) = 0 ∧
      (payloadsOf 0 s.log).foldlM (BodyBuffer.onRecvData 1000) .init = some buf ∧
      ∃ n t es, execAll (BodyReader.read none) (.opened buf)
        ((List.range (n + 1)).map fun _ => ⟨[], .readBytes, 1⟩) = some (t, es) ∧
        delivered es = [97, 98] := by
  let peer : Peer := { sent := uploadBegin, fin := true }
  have eq : (execAll runSect (.init 65536 1000) (uploadRead.append
      [(.drain, [.order [0, 1, 2, 3], .states .ok .ok, .read .fin, .called [] 0]),
        (.dispatch 3, [])])).map
      (fun r : Session × List Sect => decide
        (Each (QuicLaw peer 3 0) r.1.log ∧ Each (Nghttp3Law 0) r.1.log ∧ Each (Intact 3 0) r.1.log ∧
          (∀ d ∈ payloadsOf 0 r.1.log, d.length ≤ ptrdiffMax) ∧
        (r.1.objs 3).streamId = 0 ∧ Sect.enabled r.1 (.process 3) = true ∧
        hookAccessChecker (r.1.objs 3) = 0)) = some true := by decide +kernel
  obtain ⟨⟨s, cs⟩, h, obs⟩ := Option.map_eq_some_iff.mp eq
  have run : Run Step (.init 65536 1000) cs s := execAll_run runSect_step h
  obtain ⟨quic, nghttp3, intact, objects, id, reached, ok⟩ := of_decide_eq_true obs
  obtain ⟨buf, ran, reads⟩ :=
    handler_reads_upload (by decide) run quic nghttp3 intact objects id reached ok
  obtain ⟨_, _, goes_on⟩ := reads none [] _ .nil
  obtain ⟨n, t, es, all, _, got⟩ := goes_on (fun _ => ⟨[], .readBytes, 1⟩) fun _ => rfl
  exact ⟨cs, s, buf, run, reached, ok, ran, n, t, es, all, got.trans (by decide)⟩

end ModHttp3.Worker

import ModHttp3.Lib.Table
import ModHttp3.Session.Pseudo

/-!
# From a stream to a request

Model of the first half of `stream_worker` (`h3_request.c`): the request record that is made of a
stream, up to the call of `ap_process_request` or `ap_die`. The pseudo headers of the stream become
the method, the URI and the headers `Host` and `Scheme`; then the header table of the stream is laid
over the headers of the request with `APR_OVERLAP_TABLES_SET`, which leaves one value of each name,
the last.

So a name that came more than once keeps only its last value (`request_fields_iff`), and a regular
`host` field takes the place of the authority (`host_is_authority_iff`). A stream without a path
leaves the URI and the request line null, which is the case for CONNECT requests
(`request_has_uri_iff`).

C → Lean naming: `request_rec` → `RequestIn` with the fields the worker sets or reads, the name
comparison of the tables is by `fieldKey`. What httpd does is in `Httpd`: `ap_method_number_of`,
what `ap_parse_uri` makes of a path, and what `ap_update_vhost_from_headers` finds out about a
request.
-/

namespace ModHttp3.Worker
open ModHttp3.Lib ModHttp3.H3

/-- A text, as the bytes of a header. -/
def ascii (s : String) : List UInt8 := s.toUTF8.toList

/-- The form in which names are compared: letters in lower case. -/
def fieldKey (name : List UInt8) : List UInt8 :=
  name.map fun c => if 65 ≤ c ∧ c ≤ 90 then c + 32 else c

/-- A request, as far as the worker knows it (C `request_rec`). -/
structure RequestIn where
  method : List UInt8
  methodNumber : Nat
  headerOnly : Bool
  unparsedUri : Option (List UInt8)
  uri : Option (List UInt8)
  theRequest : Option (List UInt8)
  hostname : Option (List UInt8)
  headersIn : List (List UInt8 × List UInt8)
  status : Int
  /-- the virtual host -/
  server : Nat

/-- What `ap_parse_uri` finds in a path. -/
structure ParsedUri where
  uri : List UInt8
  hostname : Option (List UInt8)
  status : Int

/-- What `ap_update_vhost_from_headers` sets. -/
structure Vhost where
  server : Nat
  hostname : Option (List UInt8)
  status : Int

/-- The functions of httpd and APR that the worker calls on a request. -/
structure Httpd where
  tables : TableOps (List UInt8) fieldKey
  methodNumberOf : List UInt8 → Nat
  parseUri : RequestIn → List UInt8 → ParsedUri
  updateVhost : RequestIn → Vhost

/-- A request as `ap_create_request` returns it, with the fields the worker sets first. -/
def RequestIn.created (env : Httpd) (method : List UInt8) (server : Nat) : RequestIn where
  method := method
  methodNumber := env.methodNumberOf method
  -- `M_GET` is 0
  headerOnly := env.methodNumberOf method == 0 && method.head? == some 72
  unparsedUri := none
  uri := none
  theRequest := none
  hostname := none
  headersIn := []
  status := 200
  server := server

/-- The URI and the request line. -/
def RequestIn.setPath (env : Httpd) (r : RequestIn) (path : List UInt8) : RequestIn :=
  let parsed := env.parseUri r path
  { r with
    unparsedUri := some path
    uri := some parsed.uri
    hostname := parsed.hostname
    status := parsed.status
    theRequest := some (r.method ++ ascii " " ++ path ++ ascii " HTTP/3.0") }

/-- The headers of the request that are made of pseudo headers. -/
def pseudoHeaders (env : Httpd) (x : H3Stream) : List (List UInt8 × List UInt8) :=
  let hdrs := match x.authority with
    | some authority => env.tables.setn [] (ascii "Host") authority
    | none => []
  match x.scheme with
  | some scheme => env.tables.setn hdrs (ascii "Scheme") scheme
  | none => hdrs

/-- The headers of the request. -/
def streamHeaders (env : Httpd) (x : H3Stream) : List (List UInt8 × List UInt8) :=
  let hdrs := match x.headers with
    | some headers => env.tables.overlapSet (pseudoHeaders env x) headers
    | none => pseudoHeaders env x
  if x.requestBody.length > 0 then
    env.tables.setn hdrs (ascii "Content-Length") (ascii (toString x.requestBody.length))
  else
    hdrs

/-- The request that is made of a stream; `server` is the one of the connection. -/
def streamRequest (env : Httpd) (server : Nat) (x : H3Stream) : RequestIn :=
  let r := RequestIn.created env (x.method.getD (ascii "GET")) server
  let r := match x.path with
    | some path => r.setPath env path
    | none => r
  { r with headersIn := streamHeaders env x }

/-- How the first half of the worker ends. -/
inductive Handover where
  /-- `ap_create_request` returned no request -/
  | noRequest
  /-- `apr_pool_create` failed -/
  | noPool
  /-- `ap_die` was called -/
  | died (err : Int) (r : RequestIn)
  /-- `ap_process_request` was called -/
  | processed (r : RequestIn)

/-- The first half of the worker (C `stream_worker`); `created` and `pool` are what
`ap_create_request` and `apr_pool_create` answer. -/
def streamWorker (env : Httpd) (server : Nat) (created pool : Bool) (x : H3Stream) : Handover :=
  if created = false then
    .noRequest
  else
    let r := streamRequest env server x
    if pool = false then
      .noPool
    else
      let vhost := env.updateVhost r
      let r := { r with server := vhost.server, hostname := vhost.hostname, status := vhost.status }
      if r.status ≠ 200 then
        .died r.status { r with status := 200 }
      else if x.requestBodyOverflow then
        .died 413 r
      else
        .processed r

/-- The regular header field a callback brings for a stream. -/
def fieldFor (sid : Int) : Cb → Option (List UInt8 × List UInt8)
  | .recvHeader sid' .other name value => if sid' = sid then some (name, value) else none
  | _ => none

/-- The authority a callback brings for a stream, if `set_pseudo` takes it. -/
def authorityFor (sid : Int) : Cb → Option (List UInt8)
  | .recvHeader sid' .authority _ value =>
    if sid' = sid ∧ 0 < value.length ∧ value.length < 8192 then some value else none
  | _ => none

section
variable {s : Session} {r : Ref} {sid : Int} {cb : Cb} {cbs : List Cb} {x : H3Stream} {max : Nat}
  {fs : List (List UInt8 × List UInt8)}

/-- Another stream's callback reports no field of this one. -/
lemma fieldFor_sid (ne : cb.sid ≠ sid) : fieldFor sid cb = none := by
  cases cb with
  | recvHeader sid' token name value =>
    cases token with
    | other => exact if_neg ne
    | _ => rfl
  | _ => rfl

/-- Another stream's callback reports no authority of this one. -/
lemma authorityFor_sid (ne : cb.sid ≠ sid) : authorityFor sid cb = none := by
  cases cb with
  | recvHeader sid' token name value =>
    cases token with
    | authority => exact if_neg fun h => ne h.1
    | _ => rfl
  | _ => rfl

/-- A regular field is added to the header table; no other callback changes the table once it is
there. -/
lemma on_headers (mine : cb.sid = sid) (begun : x.headers = some fs) :
    (cb.on max x).headers = some (fs ++ (fieldFor sid cb).toList) := by
  cases cb with
  | beginHeaders => simp [Cb.on, fieldFor, begun]
  | recvHeader sid' token name value =>
    rw [Cb.on]
    by_cases other : token = .other
    · subst other
      simp [fieldFor, show sid' = sid from mine, begun]
    · rw [if_neg other]
      unfold setPseudo
      cases token with
      | other => exact absurd rfl other
      | _ => split <;> simp [fieldFor, begun]
  | endHeaders =>
    rw [Cb.on]
    split <;> simp [fieldFor, begun]
  | recvData sid' data =>
    rw [Cb.on]
    rcases recvBody_cases max data x with ⟨eq, _⟩ | eq | ⟨_, _, eq⟩ <;> simp [eq, fieldFor, begun]
  | stopSending => simp [Cb.on, fieldFor, begun]
  | resetStream => simp [Cb.on, fieldFor, begun]
  | streamClose => simp [Cb.on, fieldFor, begun]

/-- Only the authority changes the authority. -/
lemma on_authority (mine : cb.sid = sid) :
    (cb.on max x).authority = (authorityFor sid cb).or x.authority := by
  cases cb with
  | beginHeaders =>
    rw [Cb.on]
    split <;> rfl
  | recvHeader sid' token name value =>
    rw [Cb.on]
    by_cases other : token = .other
    · subst other
      rfl
    · rw [if_neg other]
      unfold setPseudo
      cases token with
      | other => exact absurd rfl other
      | authority =>
        rw [authorityFor]
        split
        · rename_i bad
          rw [if_neg (by omega)]
          rfl
        · rename_i good
          rw [if_pos ⟨mine, by omega⟩]
          rfl
      | _ => split <;> rfl
  | endHeaders =>
    rw [Cb.on]
    split <;> rfl
  | recvData sid' data =>
    rw [Cb.on]
    rcases recvBody_cases max data x with ⟨eq, _⟩ | eq | ⟨_, _, eq⟩ <;> rw [eq] <;> rfl
  | stopSending => rfl
  | resetStream => rfl
  | streamClose => rfl

/-- A callback of its stream changes an object, and those of other streams do not. -/
lemma runCb_objs_bound (bound : Bound s) (user : s.userData sid = some r) :
    (runCb s cb).objs r = if cb.sid = sid then cb.on s.maxRequestBodySize (s.objs r) else s.objs
      r := by
  have frame := (runCb_effect (s := s) cb).frame
  rw [runCb_objs]
  by_cases mine : cb.sid = sid
  · rw [mine, if_pos rfl, if_pos (frame.userData sid r user)]
  · rw [if_neg mine, if_neg]
    intro user'
    have id := (bound.effect (runCb_effect cb)).userData _ _ user'
    rw [(frame.objs r).streamId, (bound.userData sid r user).2.1] at id
    exact mine id.2.1.symm

/-- The header table of a stream has the regular fields that were reported for it, in their
order. -/
lemma runCbs_headers (bound : Bound s) (user : s.userData sid = some r)
    (begun : (s.objs r).headers = some fs) :
    ((runCbs s cbs).objs r).headers = some (fs ++ cbs.filterMap (fieldFor sid)) := by
  induction cbs generalizing s fs with
  | nil => rw [List.filterMap_nil, List.append_nil]; exact begun
  | cons cb cbs ih =>
    have effect := runCb_effect (s := s) cb
    have first : ((runCb s cb).objs r).headers = some (fs ++ (fieldFor sid cb).toList) := by
      rw [runCb_objs_bound bound user]
      by_cases mine : cb.sid = sid
      · rw [if_pos mine]
        exact on_headers mine begun
      · rw [if_neg mine, fieldFor_sid mine, Option.toList_none, List.append_nil]
        exact begun
    have rest := ih (bound.effect effect) (effect.frame.userData sid r user) first
    rw [List.append_assoc] at rest
    refine rest.trans ?_
    cases field : fieldFor sid cb <;> simp [field]

/-- The authority of a stream is the last one that was reported for it. -/
lemma runCbs_authority (bound : Bound s) (user : s.userData sid = some r) :
    ((runCbs s cbs).objs r).authority =
      ((cbs.filterMap (authorityFor sid)).getLast?).or (s.objs r).authority := by
  induction cbs generalizing s with
  | nil => rfl
  | cons cb cbs ih =>
    have effect := runCb_effect (s := s) cb
    have first : ((runCb s cb).objs r).authority =
        (authorityFor sid cb).or (s.objs r).authority := by
      rw [runCb_objs_bound bound user]
      by_cases mine : cb.sid = sid
      · rw [if_pos mine]
        exact on_authority mine
      · rw [if_neg mine, authorityFor_sid mine]
        rfl
    have rest := ih (bound.effect effect) (effect.frame.userData sid r user)
    rw [first] at rest
    refine rest.trans ?_
    cases authority : authorityFor sid cb with
    | none => rw [List.filterMap_cons_none authority]; rfl
    | some a =>
      rw [List.filterMap_cons_some authority, List.getLast?_cons]
      cases (cbs.filterMap (authorityFor sid)).getLast? <;> rfl

end

/-- An entry holds these values: one alone, or several as a list with some separator. -/
def Joined (vs : List (List UInt8)) (entry : List UInt8) : Prop :=
  ∃ sep, sep ≠ [] ∧ entry = List.intercalate sep vs

/-- The values are in these entries, in order. -/
def Present (vs held : List (List UInt8)) : Prop :=
  ∃ groups, List.Forall₂ Joined groups held ∧ vs.Sublist groups.flatten

section
variable {env : Httpd} {x : H3Stream} {vs held : List (List UInt8)} {name : List UInt8}
  {fs : List (List UInt8 × List UInt8)}

/-- Entries hold what they are. -/
lemma Present.of_sublist (sub : vs.Sublist held) : Present vs held := by
  refine ⟨held.map fun v => [v], ?_, ?_⟩
  · rw [List.forall₂_map_left_iff, List.forall₂_same]
    intro v _
    exact ⟨[44], by simp, List.intercalate_singleton.symm⟩
  · rw [← List.flatMap_def, List.flatMap_singleton']
    exact sub

/-- A list is longer than its values together, by its separators. -/
lemma length_intercalate_ge {sep : List UInt8} (ne : sep ≠ []) (vs : List (List UInt8)) :
    vs.flatten.length + (vs.length - 1) ≤ (List.intercalate sep vs).length := by
  have pos : 0 < sep.length := List.length_pos_iff.mpr ne
  induction vs with
  | nil => simp
  | cons v vs ih =>
    cases vs with
    | nil => simp
    | cons w vs =>
      rw [List.intercalate_cons_cons, List.flatten_cons]
      simp only [List.length_append, List.length_cons] at ih ⊢
      omega

/-- Several values are not in one entry that is the last of them. -/
lemma not_present {v : List UInt8} (last : vs.getLast? = some v) (several : 1 < vs.length) :
    ¬ Present vs [v] := by
  rintro ⟨groups, joined, sub⟩
  obtain ⟨g, groups, ⟨sep, ne, rfl⟩, single, rfl⟩ := List.forall₂_cons_right_iff.mp joined
  cases single
  rw [List.flatten_singleton] at sub
  have long := length_intercalate_ge ne g
  have entry := (List.sublist_flatten_of_mem (sub.subset (List.mem_of_getLast? last))).length_le
  have count := sub.length_le
  omega

/-- `Host` is the authority. -/
lemma values_host :
    valuesOf fieldKey (pseudoHeaders env x) (ascii "Host") = x.authority.toList := by
  have scheme : fieldKey (ascii "Scheme") ≠ fieldKey (ascii "Host") := by decide +kernel
  rw [pseudoHeaders]
  cases x.scheme with
  | none =>
    cases x.authority with
    | none => rfl
    | some a => exact (env.tables.values_setn ..).trans (if_pos rfl)
  | some v =>
    refine (env.tables.values_setn ..).trans ((if_neg scheme).trans ?_)
    cases x.authority with
    | none => rfl
    | some a => exact (env.tables.values_setn ..).trans (if_pos rfl)

/-- Of each name there is one value left, the last. -/
lemma values_streamHeaders (begun : x.headers = some fs)
    (ne : fieldKey (ascii "Content-Length") ≠ fieldKey name) :
    valuesOf fieldKey (streamHeaders env x) name =
      (valuesOf fieldKey (pseudoHeaders env x) name ++
        valuesOf fieldKey fs name).getLast?.toList := by
  rw [streamHeaders, begun]
  dsimp only
  rw [← valuesOf_append, ← env.tables.values_overlapSet]
  split
  · exact (env.tables.values_setn ..).trans (if_neg ne)
  · rfl

/-- The headers of the request are those of the stream. -/
lemma streamRequest_headersIn (server : Nat) :
    (streamRequest env server x).headersIn = streamHeaders env x := rfl

/-- A request that is processed is the one that was made of the stream, up to what the choice of the
virtual host sets. -/
lemma processed_request {server : Nat} {created pool : Bool} {rq : RequestIn}
    (handed : streamWorker env server created pool x = .processed rq) :
    ∃ vhost : Vhost, rq =
      { streamRequest env server x with
        server := vhost.server
        hostname := vhost.hostname
        status := vhost.status } := by
  rw [streamWorker] at handed
  split at handed
  · cases handed
  dsimp only at handed
  split at handed
  · cases handed
  split at handed
  · cases handed
  split at handed
  · cases handed
  · cases handed
    exact ⟨_, rfl⟩

/-- The headers of a processed request are those of the stream. -/
lemma processed_headersIn {server : Nat} {created pool : Bool} {rq : RequestIn}
    (handed : streamWorker env server created pool x = .processed rq) :
    rq.headersIn = streamHeaders env x := by
  obtain ⟨_, rfl⟩ := processed_request handed
  rfl

/-- Method, URI and request line of a request whose stream has a path. -/
lemma processed_path {server : Nat} {created pool : Bool} {rq : RequestIn}
    {method path : List UInt8} (handed : streamWorker env server created pool x = .processed rq)
    (hm : x.method = some method) (hp : x.path = some path) :
    rq.method = method ∧ rq.uri ≠ none ∧ rq.unparsedUri = some path ∧
      rq.theRequest = some (method ++ ascii " " ++ path ++ ascii " HTTP/3.0") := by
  obtain ⟨_, rfl⟩ := processed_request handed
  simp [streamRequest, RequestIn.setPath, RequestIn.created, hm, hp]

/-- And of one whose stream has none. -/
lemma processed_pathless {server : Nat} {created pool : Bool} {rq : RequestIn} {method : List UInt8}
    (handed : streamWorker env server created pool x = .processed rq) (hm : x.method = some method)
    (hp : x.path = none) :
    rq.method = method ∧ rq.uri = none ∧ rq.unparsedUri = none ∧ rq.theRequest = none := by
  obtain ⟨_, rfl⟩ := processed_request handed
  simp [streamRequest, RequestIn.created, hm, hp]

end

/-- A request that httpd finds nothing wrong with, and whose body fits, is processed. -/
lemma streamWorker_processed {env : Httpd} {server : Nat} {x : H3Stream}
    (ok : (env.updateVhost (streamRequest env server x)).status = 200)
    (fits : x.requestBodyOverflow = false) :
    ∃ rq, streamWorker env server true true x = .processed rq ∧ rq.headersIn = streamHeaders env x ∧
      rq.server = (env.updateVhost (streamRequest env server x)).server := by
  simp only [streamWorker, ok, fits, Bool.true_eq_false, ne_eq, not_true_eq_false, if_false,
    Bool.false_eq_true]
  exact ⟨_, rfl, rfl, rfl⟩

/-- The values of a header are all in the request that is processed, for every name but
`Content-Length`, exactly if no such name came more than once. -/
theorem request_fields_iff {env : Httpd} {server : Nat} {created pool : Bool} {s : Session}
    {sid : Int} {r : Ref} {cbs : List Cb} {rq : RequestIn} (bound : Bound s)
    (user : s.userData sid = some r) (begun : (s.objs r).headers = some [])
    (handed : streamWorker env server created pool ((runCbs s cbs).objs r) = .processed rq) :
    (∀ name, fieldKey (ascii "Content-Length") ≠ fieldKey name →
      Present (valuesOf fieldKey (cbs.filterMap (fieldFor sid)) name)
        (valuesOf fieldKey rq.headersIn name)) ↔
    ∀ name, fieldKey (ascii "Content-Length") ≠ fieldKey name →
      (valuesOf fieldKey (cbs.filterMap (fieldFor sid)) name).length ≤ 1 := by
  have headers : ((runCbs s cbs).objs r).headers = some _ := runCbs_headers bound user begun
  rw [processed_headersIn handed]
  refine forall_congr' fun name => forall_congr' fun ne => ?_
  rw [values_streamHeaders headers ne, List.nil_append]
  generalize valuesOf fieldKey (cbs.filterMap (fieldFor sid)) name = vs
  rcases List.eq_nil_or_concat vs with rfl | ⟨us, v, rfl⟩
  · exact iff_of_true (.of_sublist (List.nil_sublist _)) (Nat.zero_le _)
  rw [List.concat_eq_append, ← List.append_assoc, List.getLast?_append_of_ne_nil _ (by simp),
    List.getLast?_singleton, Option.toList_some]
  constructor
  · intro present
    by_contra several
    exact not_present (List.getLast?_concat ..) (by omega) present
  · intro one
    have : us = [] := by
      rw [List.length_append, List.length_singleton] at one
      exact List.length_eq_zero_iff.mp (by omega)
    subst this
    exact .of_sublist (List.Sublist.refl _)

/-- A session with a request stream whose header block has begun. -/
def begunSession : Session :=
  { Session.init 65536 1000 with
    objs := fun _ => { H3Stream.init 0 none with headers := some [] }
    next := 1
    userData := fun sid => if sid = 0 then some 0 else none }

/-- The session of the example is in order. -/
lemma begunSession_bound : Bound begunSession where
  nodup := List.nodup_nil
  isBidi _ := rfl
  got := nofun
  userData sid r user := by
    rw [begunSession] at user
    dsimp only at user
    split at user
    · rename_i zero
      cases user
      exact ⟨Nat.one_pos, zero.symm, by rw [zero]; rfl⟩
    · cases user
  pending := nofun
  headers := nofun
  completed := nofun
  dispatched := nofun

/-- A server with two virtual hosts: `b` is the second. -/
def twoHosts : Httpd where
  tables := .plain _ fieldKey
  methodNumberOf _ := 0
  parseUri r path := ⟨path, none, r.status⟩
  updateVhost r :=
    ⟨if firstOf fieldKey r.headersIn (ascii "Host") = some (ascii "b") then 1 else 0, none,
      r.status⟩

/-- A request for the host `a` with a cookie. -/
def oneCookie : List Cb :=
  [.recvHeader 0 .authority (ascii ":authority") (ascii "a"),
    .recvHeader 0 .other (ascii "cookie") (ascii "x=1"), .endHeaders 0 true]

/-- The same with a second cookie in a field of its own. -/
def twoCookies : List Cb :=
  [.recvHeader 0 .authority (ascii ":authority") (ascii "a"),
    .recvHeader 0 .other (ascii "cookie") (ascii "x=1"),
    .recvHeader 0 .other (ascii "cookie") (ascii "y=2"), .endHeaders 0 true]

/-- A request with one cookie keeps all its values. -/
theorem request_fields_iff_oneCookie :
    ∃ rq, streamWorker twoHosts 0 true true ((runCbs begunSession oneCookie).objs 0) =
      .processed rq ∧ ∀ name, fieldKey (ascii "Content-Length") ≠ fieldKey name →
        Present (valuesOf fieldKey (oneCookie.filterMap (fieldFor 0)) name)
          (valuesOf fieldKey rq.headersIn name) := by
  obtain ⟨rq, handed, _⟩ : ∃ rq,
    streamWorker twoHosts 0 true true ((runCbs begunSession oneCookie).objs 0) =
      .processed rq ∧ _ := streamWorker_processed (by decide +kernel) (by decide +kernel)
  refine ⟨rq, handed, (request_fields_iff begunSession_bound rfl rfl handed).mpr ?_⟩
  intro name _
  rw [show oneCookie.filterMap (fieldFor 0) = [(ascii "cookie", ascii "x=1")] by decide +kernel,
    valuesOf_cons, valuesOf_nil]
  split <;> simp

/-- Of two cookies the first is lost. -/
theorem cookie_crumb_lost :
    ∃ rq, streamWorker twoHosts 0 true true ((runCbs begunSession twoCookies).objs 0) =
      .processed rq ∧ valuesOf fieldKey (twoCookies.filterMap (fieldFor 0)) (ascii "cookie") =
        [ascii "x=1", ascii "y=2"] ∧
      valuesOf fieldKey rq.headersIn (ascii "cookie") = [ascii "y=2"] ∧
      ¬ Present (valuesOf fieldKey (twoCookies.filterMap (fieldFor 0)) (ascii "cookie"))
        (valuesOf fieldKey rq.headersIn (ascii "cookie")) := by
  have sent : valuesOf fieldKey (twoCookies.filterMap (fieldFor 0)) (ascii "cookie") =
      [ascii "x=1", ascii "y=2"] := by decide +kernel
  have held : valuesOf fieldKey (streamHeaders twoHosts ((runCbs begunSession twoCookies).objs 0))
      (ascii "cookie") = [ascii "y=2"] := by decide +kernel
  obtain ⟨rq, handed, headers, _⟩ : ∃ rq, streamWorker twoHosts 0 true true
      ((runCbs begunSession twoCookies).objs 0) = .processed rq ∧ _ :=
    streamWorker_processed (by decide +kernel) (by decide +kernel)
  rw [← headers] at held
  refine ⟨rq, handed, sent, held, ?_⟩
  rw [sent, held]
  exact not_present rfl (by decide)

/-- With the authority `a`, the virtual host is chosen by `a` exactly if there is no regular `host`
field or the last one is `a`. -/
theorem host_is_authority_iff {env : Httpd} {server : Nat} {s : Session} {sid : Int} {r : Ref}
    {cbs : List Cb} {a : List UInt8} (bound : Bound s) (user : s.userData sid = some r)
    (begun : (s.objs r).headers = some [])
    (authority : (cbs.filterMap (authorityFor sid)).getLast? = some a) :
    firstOf fieldKey (streamRequest env server ((runCbs s cbs).objs r)).headersIn (ascii "Host") =
      some a ↔
      ∀ v, (valuesOf fieldKey (cbs.filterMap (fieldFor sid)) (ascii "Host")).getLast? = some v →
      v = a := by
  have headers : ((runCbs s cbs).objs r).headers = some _ := runCbs_headers bound user begun
  have host : ((runCbs s cbs).objs r).authority = some a := by
    rw [runCbs_authority bound user, authority]
    rfl
  rw [firstOf_eq_head, streamRequest_headersIn, values_streamHeaders headers (by decide +kernel),
    values_host, host, List.nil_append]
  generalize valuesOf fieldKey (cbs.filterMap (fieldFor sid)) (ascii "Host") = vs
  rcases List.eq_nil_or_concat vs with rfl | ⟨us, v, rfl⟩
  · simp
  · simp [List.getLast?_cons]

/-- A request for the host `a` that also has a `host` field. -/
def otherHost : List Cb :=
  [.recvHeader 0 .authority (ascii ":authority") (ascii "a"),
    .recvHeader 0 .other (ascii "host") (ascii "b"), .endHeaders 0 true]

/-- Without a `host` field the authority decides. -/
theorem host_is_authority_iff_oneCookie :
    firstOf fieldKey (streamRequest twoHosts 0 ((runCbs begunSession oneCookie).objs 0)).headersIn
      (ascii "Host") =
      some (ascii "a") := by
  have authority : (oneCookie.filterMap (authorityFor 0)).getLast? = some (ascii "a") := by
    decide +kernel
  refine (host_is_authority_iff begunSession_bound rfl rfl authority).mpr ?_
  intro v last
  rw [show valuesOf fieldKey (oneCookie.filterMap (fieldFor 0)) (ascii "Host") =
    [] by decide +kernel] at last
  cases last

/-- The request for `a` is processed by the virtual host `b`. -/
theorem host_field_redirects :
    firstOf fieldKey (streamRequest twoHosts 0 ((runCbs begunSession otherHost).objs 0)).headersIn
      (ascii "Host") ≠
      some (ascii "a") ∧
    ((runCbs begunSession otherHost).objs 0).authority = some (ascii "a") ∧
    ∃ rq, streamWorker twoHosts 0 true true ((runCbs begunSession otherHost).objs 0) =
      .processed rq ∧ rq.server = 1 := by
  obtain ⟨rq, handed, _, server⟩ : ∃ rq, streamWorker twoHosts 0 true true
      ((runCbs begunSession otherHost).objs 0) = .processed rq ∧ _ ∧ rq.server = _ :=
    streamWorker_processed (by decide +kernel) (by decide +kernel)
  refine ⟨by decide +kernel, by decide +kernel, rq, handed, ?_⟩
  rw [server]
  decide +kernel

/-- In every run, with the fields of the header block in any order and in any number of reads: a
request that is handed to `ap_process_request` has a URI and a request line exactly if it is not a
CONNECT request. -/
theorem request_has_uri_iff {b m : Nat} {cs : List Sect} {s t : Session} {r : Ref} {env : Httpd}
    {server : Nat} {created pool : Bool} {rq : RequestIn} (run : Run H3.Step (.init b m) cs t)
    (within : s = t ∨ ∃ c as, Sect.enabled t c = true ∧ s = (exec c t as).1)
    (nghttp3 : Each (HeaderLaw (s.objs r).streamId) s.log)
    (dispatched : (s.objs r).dispatched = true)
    (handed : streamWorker env server created pool (s.objs r) = .processed rq) :
    (rq.uri ≠ none ∧ rq.unparsedUri ≠ none ∧ rq.theRequest ≠ none) ↔ rq.method ≠ connectMethod := by
  have moves : H3.Moves (.init b m) s := by
    rcases within with rfl | ⟨c, as, enabled, rfl⟩
    · exact (run_moves run).1
    · exact run_exec_moves run enabled as
  have whole := ((Bound.init b m).moves (Owns.init b m) moves).dispatched r dispatched
  rcases pseudo_of_ended moves nghttp3 rfl (H3Stream.whole_headersComplete whole) with
    ⟨method, _, path, hm, ordinary, _, hp⟩ | ⟨_, hm, _, _, hp⟩
  · obtain ⟨eq, uri, unparsed, line⟩ := processed_path handed hm hp
    rw [eq, unparsed, line]
    exact iff_of_true ⟨uri, nofun, nofun⟩ ordinary
  · obtain ⟨eq, uri, _⟩ := processed_pathless handed hm hp
    exact iff_of_false (fun h => h.1 uri) fun h => h eq

/-- A GET request, the path in front of the method and in a read of its own. -/
def splitGet : List (Sect × List H3.Answer) :=
  requestOpen ++
  [(.drain, [.order [0, 1, 2, 3], .states .ok .ok, .read (.data [1, 3]),
      .called [.beginHeaders 0, .recvHeader 0 .path (ascii ":path") (ascii "/x")] 2,
      .read (.data [0, 0, 0]),
      .called [.recvHeader 0 .method (ascii ":method") (ascii "GET"),
        .recvHeader 0 .scheme (ascii ":scheme") (ascii "https"), .endHeaders 0 false] 3, .read .fin,
        .called [] 0]),
    (.dispatch 3, [])]

/-- It has a URI and a request line. -/
theorem request_has_uri_iff_splitGet :
    ∃ cs s rq, Run Step (.init 65536 1000) cs s ∧
      streamWorker twoHosts 0 true true (s.objs 3) = .processed rq ∧ rq.method = ascii "GET" ∧
      rq.uri ≠ none ∧ rq.unparsedUri ≠ none ∧ rq.theRequest ≠ none := by
  have eq : (execAll runSect (.init 65536 1000) splitGet).map
      (fun r => decide ((r.1.objs 3).dispatched = true ∧ (r.1.objs 3).method = some (ascii "GET") ∧
        (r.1.objs 3).path = some (ascii "/x") ∧ (r.1.objs 3).requestBodyOverflow = false ∧
        Each (HeaderLaw (r.1.objs 3).streamId) r.1.log ∧
        (twoHosts.updateVhost (streamRequest twoHosts 0 (r.1.objs 3))).status = 200)) =
        some true := by
    decide +kernel
  obtain ⟨⟨s, cs⟩, h, obs⟩ := Option.map_eq_some_iff.mp eq
  obtain ⟨dispatched, hm, hp, fits, nghttp3, ok⟩ := of_decide_eq_true obs
  have run := execAll_run runSect_step h
  obtain ⟨rq, handed, _⟩ := streamWorker_processed ok fits
  have get := (processed_path handed hm hp).1
  refine ⟨cs, s, rq, run, handed, get,
    (request_has_uri_iff run (.inl rfl) nghttp3 dispatched handed).mpr ?_⟩
  rw [get]
  decide +kernel

/-- A CONNECT request, which has a method and an authority. -/
def connectRequest : List (Sect × List H3.Answer) :=
  requestOpen ++
  [(.drain, [.order [0, 1, 2, 3], .states .ok .ok, .read (.data [1, 2, 0, 0]),
      .called [.beginHeaders 0, .recvHeader 0 .method (ascii ":method") connectMethod,
        .recvHeader 0 .authority (ascii ":authority") (ascii "a:443"), .endHeaders 0 false] 4,
        .read .fin,
      .called [] 0]),
    (.dispatch 3, [])]

/-- It is processed without a URI and without a request line. -/
theorem connect_without_uri :
    ∃ cs s rq, Run Step (.init 65536 1000) cs s ∧ Each (HeaderLaw (s.objs 3).streamId) s.log ∧
      (s.objs 3).dispatched = true ∧ streamWorker twoHosts 0 true true (s.objs 3) = .processed rq ∧
      rq.uri = none ∧ rq.unparsedUri = none ∧ rq.theRequest = none := by
  have eq : (execAll runSect (.init 65536 1000) connectRequest).map
      (fun r => decide ((r.1.objs 3).dispatched = true ∧ (r.1.objs 3).method = some connectMethod ∧
        (r.1.objs 3).path = none ∧ (r.1.objs 3).requestBodyOverflow = false ∧
        Each (HeaderLaw (r.1.objs 3).streamId) r.1.log ∧
        (twoHosts.updateVhost (streamRequest twoHosts 0 (r.1.objs 3))).status = 200)) =
        some true := by
    decide +kernel
  obtain ⟨⟨s, cs⟩, h, obs⟩ := Option.map_eq_some_iff.mp eq
  obtain ⟨dispatched, hm, hp, fits, nghttp3, ok⟩ := of_decide_eq_true obs
  obtain ⟨rq, handed, _⟩ := streamWorker_processed ok fits
  exact ⟨cs, s, rq, execAll_run runSect_step h, nghttp3, dispatched, handed,
    (processed_pathless handed hm hp).2⟩

end ModHttp3.Worker

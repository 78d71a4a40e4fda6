import ModHttp3.Lib.History
import ModHttp3.Lib.Frames
import ModHttp3.Session.Binding

/-!
# What nghttp3 reports about a request stream

`Nghttp3Law` is what nghttp3 promises about one stream: it reports header blocks and DATA payload
only when bytes of this stream are passed to it, the payload of exactly these bytes, only after a
header block has begun, and nothing more once it has asked to stop the stream; it takes the end of a
stream only between two frames. Under this law the body buffer of the stream object is what nghttp3
reported, unless it overflowed (`Heard`).
-/

namespace ModHttp3.H3
open ModHttp3.Lib ModHttp3.Lib.Script

/-- The stream a callback is about. -/
def Cb.sid : Cb → Int
  | .beginHeaders sid => sid
  | .recvHeader sid _ _ _ => sid
  | .endHeaders sid _ => sid
  | .recvData sid _ => sid
  | .stopSending sid _ => sid
  | .resetStream sid _ => sid
  | .streamClose sid _ => sid

/-- The body bytes a callback reports for a stream. -/
def Cb.dataFor (sid : Int) : Cb → List UInt8
  | .recvData sid' data => if sid' = sid then data else []
  | _ => []

/-- A header block of the stream begins. -/
def Cb.begins (sid : Int) : Cb → Bool
  | .beginHeaders sid' => sid' == sid
  | _ => false

/-- A header block of the stream ends. -/
def Cb.endsHeaders (sid : Int) : Cb → Bool
  | .endHeaders sid' _ => sid' == sid
  | _ => false

/-- nghttp3 wants no more bytes of the stream. -/
def Cb.stops (sid : Int) : Cb → Bool
  | .stopSending sid' _ => sid' == sid
  | _ => false

/-- The callback reports something that was in the bytes of the stream. -/
def Cb.reports (sid : Int) : Cb → Bool
  | .beginHeaders sid' => sid' == sid
  | .recvHeader sid' _ _ _ => sid' == sid
  | .endHeaders sid' _ => sid' == sid
  | .recvData sid' _ => sid' == sid
  | _ => false

/-- The callbacks of an entry. -/
def Entry.cbs : Entry → List Cb
  | .call _ cbs _ => cbs
  | _ => []

/-- Some callback was of this kind. -/
def seen (p : Cb → Bool) (log : List Entry) : Bool := log.any fun e => e.cbs.any p

/-- The bytes a call passes to nghttp3 for a stream, and whether they end it. -/
def Call.reading (sid : Int) : Call → Option (List UInt8 × Bool)
  | .readStream sid' data fin => if sid' = sid then some (data, fin) else none
  | _ => none

/-- The bytes an entry passes to nghttp3 for a stream. -/
def Entry.fedTo (sid : Int) : Entry → List UInt8
  | .call c _ _ => ((c.reading sid).map Prod.fst).getD []
  | _ => []

/-- The bytes of a stream that were passed to nghttp3. -/
def fedTo (sid : Int) (log : List Entry) : List UInt8 := log.flatMap (·.fedTo sid)

/-- The body bytes that nghttp3 reported for a stream. -/
def deliveredTo (sid : Int) (log : List Entry) : List UInt8 :=
  log.flatMap fun e => e.cbs.flatMap (·.dataFor sid)

/-- Body bytes come after the beginning of a header block, and nothing is reported of a stream that
was stopped. -/
def Ordered (sid : Int) : Bool → Bool → List Cb → Prop
  | _, _, [] => True
  | begun, stopped, cb :: cbs =>
    (cb.reports sid = true → stopped = false) ∧ (cb.dataFor sid ≠ [] → begun = true) ∧
      Ordered sid (begun || cb.begins sid) (stopped || cb.stops sid) cbs

/-- What nghttp3 may do about the stream `sid`. -/
def Nghttp3Law (sid : Int) (pre : List Entry) : Entry → Prop
  | .call c cbs rv =>
    match c.reading sid with
    -- a call that does not read the stream reports nothing of it
    | none => ∀ cb ∈ cbs, cb.reports sid = false
    | some (data, fin) =>
      Ordered sid (seen (Cb.begins sid) pre) (seen (Cb.stops sid) pre) cbs ∧
      (data = [] → ∀ cb ∈ cbs, cb.reports sid = false) ∧
      (fin = false → .endHeaders sid true ∉ cbs) ∧
      -- an accepted read of a stream that was not stopped: the payload is reported as it comes, and
      -- a FIN is only accepted between two frames
      (0 ≤ rv → seen (Cb.stops sid) pre = false → cbs.any (Cb.stops sid) = false →
        cbs.flatMap (·.dataFor sid) = Frames.payloadFrom (Frames.place (fedTo sid pre)) data ∧
        (fin = true → Frames.place (fedTo sid pre ++ data) = .start))
  | _ => True

instance Ordered.decidable (sid : Int) :
    ∀ (begun stopped : Bool) (cbs : List Cb), Decidable (Ordered sid begun stopped cbs)
  | _, _, [] => .isTrue trivial
  | begun, stopped, cb :: cbs =>
    have := Ordered.decidable sid (begun || cb.begins sid) (stopped || cb.stops sid) cbs
    inferInstanceAs (Decidable ((cb.reports sid = true → stopped = false) ∧
      (cb.dataFor sid ≠ [] → begun = true) ∧
      Ordered sid (begun || cb.begins sid) (stopped || cb.stops sid) cbs))

instance Nghttp3Law.decidable {sid : Int} {pre : List Entry} : ∀ e, Decidable (Nghttp3Law sid pre e)
  | .call c cbs rv =>
    match h : c.reading sid with
    | none => decidable_of_iff (∀ cb ∈ cbs, cb.reports sid = false) (by rw [Nghttp3Law, h])
    | some (data, fin) =>
      decidable_of_iff (Ordered sid (seen (Cb.begins sid) pre) (seen (Cb.stops sid) pre) cbs ∧
        (data = [] → ∀ cb ∈ cbs, cb.reports sid = false) ∧
        (fin = false → .endHeaders sid true ∉ cbs) ∧
        (0 ≤ rv → seen (Cb.stops sid) pre = false → cbs.any (Cb.stops sid) = false →
          cbs.flatMap (·.dataFor sid) = Frames.payloadFrom (Frames.place (fedTo sid pre)) data ∧
          (fin = true → Frames.place (fedTo sid pre ++ data) = .start))) (by rw [Nghttp3Law, h])
  | .got _ _ => .isTrue trivial
  | .op _ => .isTrue trivial
  | .processed _ _ => .isTrue trivial

/-- What a callback does to its stream. -/
def Cb.on (max : Nat) : Cb → H3Stream → H3Stream
  | .beginHeaders _, x => if x.isBidi && x.headers.isNone then { x with headers := some [] } else x
  | .recvHeader _ token name value, x =>
    if token = .other then { x with headers := x.headers.map (· ++ [(name, value)]) }
    else (setPseudo x token value).1
  | .endHeaders _ fin, x =>
    if x.isBidi then
      { x with headersComplete := true, bodyComplete := x.bodyComplete || fin }
    else
      x
  | .recvData _ data, x => recvBody max data x
  | .stopSending _ _, x =>
    { x with
      qstream := none, responseCancelled := true, done := true, bodyComplete := true,
      bodyTruncated := true }
  | .resetStream _ _, x => { x with responseCancelled := true, done := true }
  | .streamClose _ _, x => { x with qstream := none, responseCancelled := true, done := true }

section
variable {s t : Session} {r : Ref} {cb : Cb} {sid : Int}

/-- The objects after one of them lost its QUIC stream. -/
lemma dropQstream_objs (s : Session) (r : Ref) :
    (dropQstream s r).objs = Function.update s.objs r { s.objs r with qstream := none } := by
  rw [dropQstream]
  split
  · rename_i hq
    have same : { s.objs r with qstream := none } = s.objs r := by
      rw [← hq]
    rw [same, Function.update_eq_self]
  · rfl

/-- Changing an object whose handle was dropped before. -/
lemma dropQstream_modifyObj (s : Session) (r : Ref) (f : H3Stream → H3Stream) :
    ((dropQstream s r).modifyObj r f).objs =
      Function.update s.objs r (f { s.objs r with qstream := none }) := by
  rw [Session.modifyObj_objs, dropQstream_objs, Function.update_self, Function.update_idem]

/-- A callback changes the object that is bound to its stream, and no other. -/
lemma runCb_objs (s : Session) (cb : Cb) (r : Ref) :
    (runCb s cb).objs r =
      if (runCb s cb).userData cb.sid = some r then cb.on s.maxRequestBodySize (s.objs r) else
        s.objs r := by
  have update : ∀ {o : Option Ref} {r' : Ref} {f : H3Stream → H3Stream}, o = some r' →
      Function.update s.objs r' (f (s.objs r')) r = if o =
      some r then f (s.objs r) else s.objs r := by
    rintro o r' f rfl
    by_cases eq : r = r'
    · subst eq
      rw [Function.update_self, if_pos rfl]
    · rw [Function.update_of_ne eq, if_neg fun h => eq (Option.some.inj h).symm]
  cases cb with
  | beginHeaders sid =>
    rw [runCb, Cb.sid]
    rcases onBeginHeaders_cases s sid with ⟨eq, unbound, _⟩ | ⟨r', _, eq⟩
    · rw [eq, unbound, if_neg (Option.some_ne_none r).symm]
    · rw [eq]
      exact update (f := Cb.on _ (.beginHeaders sid)) (Function.update_self ..)
  | recvHeader sid token name value =>
    cases bound : s.userData sid with
    | none => simp [runCb, onRecvHeader, Cb.sid, bound]
    | some r' =>
      have step := update (f := Cb.on s.maxRequestBodySize (.recvHeader sid token name value)) bound
      by_cases other : token = .other
      · simp only [runCb, onRecvHeader, Cb.sid, bound, if_pos other]
        refine Eq.trans ?_ step
        simp only [Cb.on, if_pos other]
        rfl
      · simp only [runCb, onRecvHeader, Cb.sid, bound, if_neg other]
        refine Eq.trans ?_ step
        simp only [Cb.on, if_neg other]
        rfl
  | endHeaders sid fin =>
    cases bound : s.userData sid with
    | none => simp [runCb, onEndHeaders, Cb.sid, bound]
    | some r' =>
      simp only [runCb, onEndHeaders, Cb.sid, bound]
      exact update (f := Cb.on _ (.endHeaders sid fin)) bound
  | recvData sid data =>
    cases bound : s.userData sid with
    | none => simp [runCb, onRecvData, Cb.sid, bound]
    | some r' =>
      simp only [runCb, onRecvData, Cb.sid, bound]
      exact update (f := Cb.on _ (.recvData sid data)) bound
  | stopSending sid err =>
    cases bound : s.userData sid with
    | none => simp [runCb, onStopSending, Cb.sid, bound]
    | some r' =>
      simp only [runCb, onStopSending, Cb.sid, bound]
      rw [dropQstream_modifyObj]
      refine update (f := Cb.on _ (.stopSending sid err)) ?_
      exact (congrFun (dropQstream_userData r') sid).trans bound
  | resetStream sid err =>
    cases bound : s.userData sid with
    | none => simp [runCb, onResetStream, Cb.sid, bound]
    | some r' =>
      simp only [runCb, onResetStream, Cb.sid, bound]
      split
      · exact update (f := Cb.on _ (.resetStream sid err)) bound
      · exact update (f := Cb.on _ (.resetStream sid err)) bound
  | streamClose sid err =>
    cases bound : s.userData sid with
    | none => simp [runCb, onStreamClose, Cb.sid, bound]
    | some r' =>
      simp only [runCb, onStreamClose, Cb.sid, bound]
      rw [dropQstream_modifyObj]
      refine update (f := Cb.on _ (.streamClose sid err)) ?_
      exact (congrFun (dropQstream_userData r') sid).trans bound

/-- A header changes nothing but what holds headers. -/
lemma Cb.on_recvHeader (sid : Int) (max : Nat) {token : Token} {name value : List UInt8}
    (x : H3Stream) :
    ∃ m sc a p hs, Cb.on max (.recvHeader sid token name value) x =
      { x with method := m, scheme := sc, authority := a, path := p, headers := hs } := by
  rw [Cb.on]
  split
  · exact ⟨_, _, _, _, _, rfl⟩
  · unfold setPseudo
    split
    · exact ⟨_, _, _, _, _, rfl⟩
    · cases token <;> exact ⟨_, _, _, _, _, rfl⟩

/-- `on_begin_headers` changes nothing of an object but its header table. -/
lemma Cb.on_beginHeaders (sid : Int) (max : Nat) (x : H3Stream) :
    ∃ hs, Cb.on max (.beginHeaders sid) x = { x with headers := hs } := by
  rw [Cb.on]
  split <;> exact ⟨_, rfl⟩

/-- Body bytes change nothing but the body. -/
lemma recvBody_cases (max : Nat) (data : List UInt8) (x : H3Stream) :
    (recvBody max data x = x ∧ (x.isBidi = false ∨ data = [] ∨ x.requestBodyOverflow = true)) ∨
    recvBody max data x = { x with requestBodyOverflow := true } ∨
    (x.requestBodyOverflow = false ∧ ∃ capacity, recvBody max data x =
      { x with requestBody := x.requestBody ++ data, requestBodyCapacity := capacity }) := by
  rw [recvBody]
  split
  · exact .inl ⟨rfl, ‹_›⟩
  · rename_i take
    dsimp only
    split
    · exact .inr (.inl rfl)
    · simp only [not_or, Bool.not_eq_true] at take
      exact .inr (.inr ⟨take.2.2, _, rfl⟩)

/-- Unless the buffer overflows, a callback adds the bytes it reports. -/
lemma Cb.on_body {max : Nat} {x : H3Stream} (bidi : x.isBidi = true)
    (ok : (cb.on max x).requestBodyOverflow = false) :
    x.requestBodyOverflow = false ∧ (cb.on max x).requestBody =
      x.requestBody ++ cb.dataFor cb.sid := by
  cases cb with
  | recvData sid data =>
    simp only [Cb.on, Cb.dataFor, Cb.sid, if_true] at ok ⊢
    rcases recvBody_cases max data x with ⟨eq, why⟩ | eq | ⟨ok, _, eq⟩
    · rw [eq] at ok ⊢
      rcases why with no | rfl | full
      · rw [bidi] at no
        cases no
      · exact ⟨ok, (List.append_nil _).symm⟩
      · rw [ok] at full
        cases full
    · rw [eq] at ok
      cases ok
    · rw [eq]
      exact ⟨ok, rfl⟩
  | beginHeaders sid =>
    obtain ⟨_, eq⟩ := Cb.on_beginHeaders sid max x
    rw [eq] at ok ⊢
    exact ⟨ok, (List.append_nil _).symm⟩
  | recvHeader sid token name value =>
    obtain ⟨_, _, _, _, _, eq⟩ := Cb.on_recvHeader sid max x
    rw [eq] at ok ⊢
    exact ⟨ok, (List.append_nil _).symm⟩
  | endHeaders sid fin =>
    rw [Cb.on, if_pos bidi] at ok ⊢
    exact ⟨ok, (List.append_nil _).symm⟩
  | stopSending | resetStream | streamClose => exact ⟨ok, (List.append_nil _).symm⟩

/-- What a callback does to the flags: only the end of a header block completes the headers, and
only that or a stop the body. -/
structure Cb.Flags (cb : Cb) (x y : H3Stream) : Prop where
  truncated : x.bodyTruncated = true → y.bodyTruncated = true
  stopped : cb.stops cb.sid = true → y.bodyTruncated = true
  headers : y.headersComplete = true → x.headersComplete = true ∨ cb.endsHeaders cb.sid = true
  complete : y.bodyComplete = true →
    x.bodyComplete = true ∨ y.bodyTruncated = true ∨ cb = .endHeaders cb.sid true

/-- What a callback does to the flags of its object. -/
lemma Cb.on_flags {max : Nat} {x : H3Stream} : cb.Flags x (cb.on max x) := by
  cases cb with
  | recvData sid data =>
    rw [Cb.on]
    rcases recvBody_cases max data x with ⟨eq, _⟩ | eq | ⟨_, _, eq⟩
    all_goals
      rw [eq]
      exact ⟨id, nofun, .inl, .inl⟩
  | beginHeaders sid =>
    obtain ⟨_, eq⟩ := Cb.on_beginHeaders sid max x
    rw [eq]
    exact ⟨id, nofun, .inl, .inl⟩
  | recvHeader sid token name value =>
    obtain ⟨_, _, _, _, _, eq⟩ := Cb.on_recvHeader sid max x
    rw [eq]
    exact ⟨id, nofun, .inl, .inl⟩
  | endHeaders sid fin =>
    rw [Cb.on]
    split
    · refine ⟨id, nofun, fun _ => .inr (by simp [Cb.endsHeaders, Cb.sid]), ?_⟩
      intro complete
      cases fin with
      | true => exact .inr (.inr rfl)
      | false => exact .inl ((Bool.or_false _).symm.trans complete)
    · exact ⟨id, nofun, .inl, .inl⟩
  | stopSending sid err => exact ⟨fun _ => rfl, fun _ => rfl, .inl, fun _ => .inr (.inl rfl)⟩
  | resetStream | streamClose => exact ⟨id, nofun, .inl, .inl⟩

end

/-- The body of the object bound to a stream is `got`; an object of the stream that is not bound has
none. -/
structure Body (sid : Int) (s : Session) (got : List UInt8) : Prop where
  unbound : s.userData sid = none → got = []
  body : ∀ r, s.userData sid = some r → (s.objs r).requestBodyOverflow = false →
    (s.objs r).requestBody = got
  blank : ∀ r, (s.objs r).streamId = sid → s.userData sid ≠ some r →
    (s.objs r).requestBody = [] ∧ (s.objs r).requestBodyOverflow = false

section
variable {s t : Session} {r : Ref} {cb : Cb} {cbs : List Cb} {sid : Int} {got : List UInt8}

/-- Another stream's callback has no data for this one. -/
lemma Cb.dataFor_of_ne (ne : cb.sid ≠ sid) : cb.dataFor sid = [] := by
  cases cb with
  | recvData sid' data => exact if_neg ne
  | _ => rfl

/-- A stream that has no object afterwards had none before. -/
lemma userData_unbound (frame : s.Frame t) (after : t.userData sid = none) :
    s.userData sid = none := by
  by_contra bound
  obtain ⟨r, before⟩ := Option.ne_none_iff_exists'.mp bound
  rw [frame.userData sid r before] at after
  cases after

/-- A stream that is bound stays bound to its object. -/
lemma userData_new (frame : s.Frame t) (after : t.userData sid = some r)
    (new : s.userData sid ≠ some r) :
    s.userData sid = none := by
  by_contra bound
  obtain ⟨r', before⟩ := Option.ne_none_iff_exists'.mp bound
  rw [frame.userData sid r' before, ← before] at after
  exact new after

/-- A callback that changes an object is one of its stream. -/
lemma runCb_sid (bound : Bound s) (id : (s.objs r).streamId = sid)
    (changed : (runCb s cb).userData cb.sid = some r) : cb.sid = sid := by
  have effect := runCb_effect (s := s) cb
  rw [← ((bound.effect effect).userData _ r changed).2.1, (effect.frame.objs r).streamId, id]

/-- Nor one that its stream is not bound to. -/
lemma runCb_objs_unbound (bound : Bound s) (id : (s.objs r).streamId = sid)
    (unbound : (runCb s cb).userData sid ≠ some r) : (runCb s cb).objs r = s.objs r := by
  rw [runCb_objs, if_neg]
  intro changed
  rw [runCb_sid bound id changed] at changed
  exact unbound changed

/-- A callback adds its data to the body. -/
lemma Body.runCb (hs : Body sid s got) (bound : Bound s) (bidi : sidIsBidi sid = true)
    (begun : cb.dataFor sid ≠ [] → s.userData sid ≠ none) :
    Body sid (runCb s cb) (got ++ cb.dataFor sid) := by
  have effect := runCb_effect (s := s) cb
  have frame := effect.frame
  have bound' := bound.effect effect
  refine ⟨?_, ?_, ?_⟩
  · intro unbound
    have before := userData_unbound frame unbound
    have quiet : cb.dataFor sid = [] := by
      by_contra data
      exact begun data before
    rw [hs.unbound before, quiet]
    rfl
  · intro r user ok
    have id : (s.objs r).streamId = sid := by
      rw [← (frame.objs r).streamId]
      exact (bound'.userData sid r user).2.1
    have before : (s.objs r).requestBodyOverflow = false → (s.objs r).requestBody = got := by
      by_cases eq : s.userData sid = some r
      · exact hs.body r eq
      · intro _
        rw [hs.unbound (userData_new frame user eq)]
        exact (hs.blank r id eq).1
    rw [runCb_objs] at ok ⊢
    split
    · rename_i changed
      rw [if_pos changed] at ok
      have isBidi : (s.objs r).isBidi = true := by
        rw [bound.isBidi, id]
        exact bidi
      obtain ⟨ok, body⟩ := Cb.on_body isBidi ok
      rw [body, before ok, runCb_sid bound id changed]
    · rename_i other
      rw [if_neg other] at ok
      have ne : cb.sid ≠ sid := by
        rintro rfl
        exact other user
      rw [before ok, Cb.dataFor_of_ne ne, List.append_nil]
  · intro r id user
    rw [(frame.objs r).streamId] at id
    rw [runCb_objs_unbound bound id user]
    exact hs.blank r id fun eq => user (frame.userData sid r eq)

end

/-- What the objects of a stream say about it agrees with what was reported: the body, whether a
header block began, whether nghttp3 stopped the stream, and whether a header block ended. -/
structure Hears (sid : Int) (s : Session) (got : List UInt8) (begun stopped ended : Bool) :
    Prop where
  body : Body sid s got
  begun : begun = true → s.userData sid ≠ none
  stopped : stopped = true → ∀ r, s.userData sid = some r → (s.objs r).bodyTruncated = true
  headers : ∀ r, (s.objs r).streamId = sid → (s.objs r).headersComplete = true → ended = true

section
variable {s t : Session} {r : Ref} {cb : Cb} {cbs : List Cb} {sid : Int} {got : List UInt8}
  {begun stopped ended : Bool}

/-- The begin of the headers reports something of the stream. -/
lemma Cb.begins_reports (h : cb.begins sid = true) : cb.reports sid = true := by
  cases cb with
  | beginHeaders => exact h
  | _ => cases h

/-- A silent callback has no data. -/
lemma Cb.dataFor_of_silent (h : cb.reports sid = false) : cb.dataFor sid = [] := by
  cases cb with
  | recvData sid' data => exact if_neg fun eq => absurd (beq_iff_eq.mpr eq) (Bool.not_eq_true _ ▸ h)
  | _ => rfl

/-- The end of the headers reports something of the stream. -/
lemma Cb.endsHeaders_reports (h : cb.endsHeaders sid = true) : cb.reports sid = true := by
  cases cb with
  | endHeaders => exact h
  | _ => cases h

/-- Callbacks that report nothing are in order. -/
lemma Ordered.of_silent (silent : ∀ cb ∈ cbs, cb.reports sid = false) :
    Ordered sid begun stopped cbs := by
  induction cbs generalizing begun stopped with
  | nil => trivial
  | cons cb cbs ih =>
    have quiet := silent cb List.mem_cons_self
    refine ⟨fun h => ?_, fun h => ?_, ih fun cb mem => silent cb (List.mem_cons_of_mem _ mem)⟩
    · rw [quiet] at h
      cases h
    · exact absurd (Cb.dataFor_of_silent quiet) h

/-- Only the beginning of a header block changes the user data. -/
lemma runCb_userData (other : ∀ sid, cb ≠ .beginHeaders sid) :
    (runCb s cb).userData = s.userData := by
  cases cb with
  | beginHeaders sid => exact absurd rfl (other sid)
  | recvHeader =>
    simp only [runCb, onRecvHeader]
    split
    · rfl
    · split <;> rfl
  | endHeaders =>
    rw [runCb, onEndHeaders]
    split <;> rfl
  | recvData =>
    rw [runCb, onRecvData]
    split <;> rfl
  | stopSending =>
    rw [runCb, onStopSending]
    split
    · rfl
    · exact dropQstream_userData _
  | resetStream =>
    simp only [runCb, onResetStream]
    split
    · rfl
    · split <;> rfl
  | streamClose =>
    rw [runCb, onStreamClose]
    split
    · rfl
    · exact dropQstream_userData _

/-- Only the beginning of one of its header blocks binds a stream. -/
lemma runCb_binds (user : (runCb s cb).userData sid = some r) (unbound : s.userData sid ≠ some r) :
    cb.begins sid = true := by
  by_cases begin : ∃ sid', cb = .beginHeaders sid'
  · obtain ⟨sid', rfl⟩ := begin
    rw [runCb] at user
    rcases onBeginHeaders_cases s sid' with ⟨eq, _⟩ | ⟨r', _, eq⟩
    · rw [eq] at user
      exact absurd user unbound
    · rw [eq] at user
      have user : Function.update s.userData sid' (some r') sid = some r := user
      by_cases same : sid = sid'
      · rw [same]
        exact beq_self_eq_true _
      · rw [Function.update_of_ne same] at user
        exact absurd user unbound
  · rw [runCb_userData fun sid' eq => begin ⟨sid', eq⟩] at user
    exact absurd user unbound

/-- The stream that is being read is bound when a header block begins. -/
lemma runCb_begins (begins : cb.begins sid = true)
    (pending : s.pendingSid = sid ∧ s.pendingH3s ≠ none) :
    (runCb s cb).userData sid ≠ none := by
  cases cb with
  | beginHeaders sid' =>
    obtain rfl : sid' = sid := beq_iff_eq.mp begins
    rw [runCb]
    rcases onBeginHeaders_cases s sid' with ⟨_, _, unbound⟩ | ⟨r, _, eq⟩
    · exact absurd (unbound pending.1) pending.2
    · rw [eq]
      show Function.update s.userData sid' (some r) sid' ≠ none
      rw [Function.update_self]
      exact Option.some_ne_none r
  | _ => cases begins

/-- A callback that stops a stream is one of that stream. -/
lemma Cb.stops_sid (stops : cb.stops sid = true) : cb.sid = sid := by
  cases cb with
  | stopSending => exact beq_iff_eq.mp stops
  | _ => cases stops

/-- An object of the stream is as before, or the callback was about the stream. -/
lemma runCb_flags (cb : Cb) (bound : Bound s) (id : (s.objs r).streamId = sid) :
    ((runCb s cb).objs r = s.objs r ∧ (runCb s cb).userData cb.sid ≠ some r) ∨
      (cb.sid = sid ∧ cb.Flags (s.objs r) ((runCb s cb).objs r)) := by
  rw [runCb_objs]
  split
  · rename_i changed
    exact .inr ⟨runCb_sid bound id changed, Cb.on_flags⟩
  · exact .inl ⟨rfl, ‹_›⟩

/-- What is heard with one more callback. -/
lemma Hears.runCb (hs : Hears sid s got begun stopped ended) (bound : Bound s)
    (bidi : sidIsBidi sid = true) (reports : cb.reports sid = true → stopped = false)
    (data : cb.dataFor sid ≠ [] → begun = true)
    (pending : cb.begins sid = true → s.pendingSid = sid ∧ s.pendingH3s ≠ none) :
    Hears sid (runCb s cb) (got ++ cb.dataFor sid) (begun || cb.begins sid)
      (stopped || cb.stops sid)
      (ended || cb.endsHeaders sid) := by
  have effect := runCb_effect (s := s) cb
  have frame := effect.frame
  refine ⟨hs.body.runCb bound bidi fun h => hs.begun (data h), ?_, ?_, ?_⟩
  · intro h
    rcases (Bool.or_eq_true _ _).mp h with h | h
    · obtain ⟨r, user⟩ := Option.ne_none_iff_exists'.mp (hs.begun h)
      rw [frame.userData sid r user]
      nofun
    · exact runCb_begins h (pending h)
  · intro h r user
    have before : s.userData sid = some r := by
      by_contra unbound
      have begins := runCb_binds user unbound
      have go := reports (Cb.begins_reports begins)
      rw [go, Bool.false_or] at h
      cases cb with
      | beginHeaders => cases h
      | _ => cases begins
    have id := (bound.userData sid r before).2.1
    rcases runCb_flags cb bound id with ⟨same, other⟩ | ⟨_, flags⟩
    · rcases (Bool.or_eq_true _ _).mp h with h | h
      · rw [same]
        exact hs.stopped h r before
      · rw [Cb.stops_sid h] at other
        exact absurd user other
    · rcases (Bool.or_eq_true _ _).mp h with h | h
      · exact flags.truncated (hs.stopped h r before)
      · exact flags.stopped (by rw [Cb.stops_sid h]; exact h)
  · intro r id complete
    rw [(frame.objs r).streamId] at id
    rw [Bool.or_eq_true]
    rcases runCb_flags cb bound id with ⟨same, _⟩ | ⟨mine, flags⟩
    · rw [same] at complete
      exact .inl (hs.headers r id complete)
    · rcases flags.headers complete with before | ends
      · exact .inl (hs.headers r id before)
      · exact .inr (mine ▸ ends)

/-- What is heard with several callbacks in order. -/
lemma Hears.runCbs (hs : Hears sid s got begun stopped ended) (bound : Bound s)
    (bidi : sidIsBidi sid = true) (ordered : Ordered sid begun stopped cbs)
    (pending : (∃ cb ∈ cbs, cb.begins sid = true) → s.pendingSid = sid ∧ s.pendingH3s ≠ none) :
    Hears sid (runCbs s cbs) (got ++ cbs.flatMap (·.dataFor sid)) (begun || cbs.any (Cb.begins sid))
      (stopped || cbs.any (Cb.stops sid)) (ended || cbs.any (Cb.endsHeaders sid)) := by
  induction cbs generalizing s got begun stopped ended with
  | nil => simpa [H3.runCbs] using hs
  | cons cb cbs ih =>
    obtain ⟨reports, data, rest⟩ := ordered
    have effect := runCb_effect (s := s) cb
    have first := hs.runCb bound bidi reports data fun h => pending ⟨cb, List.mem_cons_self, h⟩
    have all := ih first (bound.effect effect) rest fun ⟨cb, mem, h⟩ => by
      rw [effect.frame.pendingSid, effect.frame.pendingH3s]
      exact pending ⟨cb, List.mem_cons_of_mem _ mem, h⟩
    simpa [H3.runCbs, List.append_assoc, Bool.or_assoc] using all

end

/-- The entry neither reads bytes nor calls nghttp3. -/
def Entry.idle : Entry → Bool
  | .call _ _ _ => false
  | .op (.use u _) => !u.isData
  | _ => true

/-- Two objects that agree on what was reported of the request. -/
structure H3Stream.Alike (x y : H3Stream) : Prop where
  streamId : y.streamId = x.streamId
  headersComplete : y.headersComplete = x.headersComplete
  bodyTruncated : y.bodyTruncated = x.bodyTruncated
  requestBody : y.requestBody = x.requestBody
  requestBodyOverflow : y.requestBodyOverflow = x.requestBodyOverflow

/-- And on the progress of the request, except that the second may not be dispatched any more. -/
structure H3Stream.Kept (x y : H3Stream) : Prop extends x.Alike y where
  bodyComplete : y.bodyComplete = x.bodyComplete
  dispatched : y.dispatched = true → x.dispatched = true

/-- Nothing happens to any request; a new object may appear. -/
structure Calm (s t : Session) : Prop where
  objs : ∀ r, (s.objs r).Kept (t.objs r) ∨
    (∃ sid h, t.objs r = .init sid h) ∧ ∀ sid, s.userData sid ≠ some r
  userData : t.userData = s.userData
  dead : s.ngh3Dead = true → t.ngh3Dead = true
  log : ∃ es, t.log = s.log ++ es ∧ ∀ e ∈ es, e.idle = true

/-- A change of an object that is not about its request: of its handle and its marks, except that it
is not dispatched. -/
inductive H3Stream.Marked (x : H3Stream) : H3Stream → Prop where
  | intro {qstream done writeBlocked dispatched workerDone responseCancelled} :
    (dispatched = true → x.dispatched = true) →
    x.Marked { x with qstream, done, writeBlocked, dispatched, workerDone, responseCancelled }

/-- Objects change in this way only; a new one may appear. -/
structure Quiet (s t : Session) : Prop where
  objs : ∀ r, (s.objs r).Marked (t.objs r) ∨
    (∃ sid h, t.objs r = .init sid h) ∧ ∀ sid, s.userData sid ≠ some r
  userData : t.userData = s.userData
  dead : s.ngh3Dead = true → t.ngh3Dead = true
  log : ∃ es, t.log = s.log ++ es ∧ ∀ e ∈ es, e.idle = true

/-- The moves that concern requests. -/
inductive Loud (s : Session) : Session → Prop where
  | call {c} (cbs : List Cb) (rv : Int) :
    c.isRead = false →
    Loud s (runCbs (s.emit (.call c cbs rv)) cbs)
  | feed {r h data} (cbs : List Cb) (rv : Int) :
    (s.objs r).qstream = some h →
    data ≠ [] →
    sidIsServer (s.objs r).streamId = false →
    Loud s (s.feed r h data cbs rv)
  | feedFin {r h u} (cbs : List Cb) (rv : Int) :
    (s.objs r).qstream = some h →
    s.log.getLast? = some (.op (.use u h)) →
    u.ends = true →
    Loud s (s.feedFin r cbs rv)
  | dispatch {r} :
    r ∈ s.completed →
    s.ngh3Dead = false →
    Loud s (s.modifyObj r fun x => { x with dispatched := true })

section
variable {s t : Session} {r : Ref} {x : H3Stream} {sid : Int}

/-- An object is like itself. -/
lemma H3Stream.Alike.refl : x.Alike x := ⟨rfl, rfl, rfl, rfl, rfl⟩

/-- An object is marked as itself. -/
lemma H3Stream.Marked.refl : x.Marked x := .intro id

/-- A marked object is kept. -/
lemma H3Stream.Marked.kept {y : H3Stream} (marked : x.Marked y) : x.Kept y := by
  cases marked with
  | intro dispatched => exact ⟨⟨rfl, rfl, rfl, rfl, rfl⟩, rfl, dispatched⟩

/-- A quiet move is calm. -/
lemma Quiet.calm (quiet : Quiet s t) : Calm s t :=
  ⟨fun r => (quiet.objs r).imp_left H3Stream.Marked.kept, quiet.userData, quiet.dead, quiet.log⟩

/-- A change of the session that leaves all objects and user data as they are. -/
lemma Quiet.same (objs : t.objs = s.objs) (userData : t.userData = s.userData)
    (dead : s.ngh3Dead = true → t.ngh3Dead = true)
    (log : ∃ es, t.log = s.log ++ es ∧ ∀ e ∈ es, e.idle = true) : Quiet s t := by
  refine ⟨fun r => .inl ?_, userData, dead, log⟩
  rw [objs]
  exact .refl

/-- A change of one object that keeps its request. -/
lemma Quiet.update (marked : (s.objs r).Marked x) (objs : t.objs = Function.update s.objs r x)
    (userData : t.userData = s.userData) (dead : t.ngh3Dead = s.ngh3Dead) (log : t.log = s.log) :
    Quiet s t := by
  refine ⟨fun r' => .inl ?_, userData, dead ▸ id, [], log.trans (List.append_nil _).symm, nofun⟩
  rw [objs]
  exact update_rel (P := H3Stream.Marked) marked (fun _ => .refl) r'

/-- Every move is quiet or loud. -/
lemma Move.quiet_or_loud (m : Move s t) (bound : Bound s) : Quiet s t ∨ Loud s t := by
  have noEntries : ∃ es, s.log = s.log ++ es ∧ ∀ e ∈ es, e.idle = true :=
    ⟨[], (List.append_nil _).symm, nofun⟩
  have one : ∀ e : Entry, e.idle = true → ∃ es, s.log ++ [e] = s.log ++ es ∧ ∀ e ∈ es,
      e.idle = true :=
    fun e idle => ⟨[e], rfl, List.forall_mem_singleton.mpr idle⟩
  cases m with
  | call cbs rv other => exact .inr (.call cbs rv other)
  | feed cbs rv hq ne client => exact .inr (.feed cbs rv hq ne client)
  | feedFin cbs rv hq last ends => exact .inr (.feedFin cbs rv hq last ends)
  | dispatch mem alive => exact .inr (.dispatch mem alive)
  | use u owner other => exact .inl (.same rfl rfl id (one _ (by rw [Entry.idle, other]; rfl)))
  | acquire | freeHeld | popFree | process => exact .inl (.same rfl rfl id (one _ rfl))
  | @track sid h taken =>
    refine .inl ⟨fun r => ?_, rfl, id, noEntries⟩
    by_cases eq : r = s.next
    · subst eq
      -- the new object is not bound: the bound ones are older
      refine .inr ⟨⟨sid, some h, Function.update_self ..⟩, ?_⟩
      intro sid' user
      exact absurd (bound.userData sid' _ user).1 (Nat.lt_irrefl _)
    · have same : (s.track sid h).objs r = s.objs r := Function.update_of_ne eq _ _
      rw [same]
      exact .inl .refl
  | @retrack r h mem taken =>
    have marked : (s.objs r).Marked { s.objs r with qstream := some h } := .intro id
    exact .inl (.update marked rfl rfl rfl rfl)
  | writeBlocked r b n =>
    have marked : (s.objs r).Marked { s.objs r with writeBlocked := b } := .intro id
    exact .inl (.update marked rfl rfl rfl rfl)
  | done r =>
    have marked : (s.objs r).Marked { s.objs r with done := true } := .intro id
    exact .inl (.update marked rfl rfl rfl rfl)
  | cancel r =>
    have marked : (s.objs r).Marked { s.objs r with responseCancelled := true } := .intro id
    exact .inl (.update marked rfl rfl rfl rfl)
  | @workerDone r _ =>
    have marked : (s.objs r).Marked { s.objs r with workerDone := true } := .intro id
    exact .inl (.update marked rfl rfl rfl rfl)
  | @undispatch r _ =>
    have marked : (s.objs r).Marked { s.objs r with dispatched := false } := .intro nofun
    exact .inl (.update marked rfl rfl rfl rfl)
  | dead => exact .inl (.same rfl rfl (fun _ => rfl) noEntries)
  | _ => exact .inl (.same rfl rfl id noEntries)

/-- Every move is calm or loud. -/
lemma Move.calm_or_loud (m : Move s t) (bound : Bound s) : Calm s t ∨ Loud s t :=
  (m.quiet_or_loud bound).imp_left Quiet.calm

end

/-- The reports in a log are those the objects of a stream have heard. -/
def Heard (sid : Int) (s : Session) (log : List Entry) : Prop :=
  Hears sid s (deliveredTo sid log) (seen (Cb.begins sid) log) (seen (Cb.stops sid) log)
    (seen (Cb.endsHeaders sid) log)

section
variable {s t : Session} {r : Ref} {sid : Int} {log es : List Entry} {e : Entry} {p : Cb → Bool}

/-- An idle entry makes no callbacks. -/
lemma Entry.idle_cbs (idle : e.idle = true) : e.cbs = [] := by
  cases e with
  | call => cases idle
  | _ => rfl

/-- An idle entry feeds nothing. -/
lemma Entry.idle_fedTo (idle : e.idle = true) : e.fedTo sid = [] := by
  cases e with
  | call => cases idle
  | _ => rfl

/-- What was seen in two logs in a row. -/
lemma seen_append : seen p (log ++ es) = (seen p log || seen p es) := List.any_append

/-- Nothing is seen where no callbacks are made. -/
lemma seen_silent (silent : ∀ e ∈ es, e.cbs = []) : seen p es = false := by
  rw [seen, List.any_eq_false]
  intro e mem
  rw [silent e mem]
  nofun

/-- What was delivered in two logs in a row. -/
lemma deliveredTo_append :
    deliveredTo sid (log ++ es) = deliveredTo sid log ++ deliveredTo sid es :=
  List.flatMap_append

/-- Nothing is delivered where no callbacks are made. -/
lemma deliveredTo_silent (silent : ∀ e ∈ es, e.cbs = []) : deliveredTo sid es = [] := by
  rw [deliveredTo, List.flatMap_eq_nil_iff]
  intro e mem
  rw [silent e mem]
  rfl

/-- Entries without callbacks report nothing. -/
lemma Heard.silent (hs : Heard sid s log) (silent : ∀ e ∈ es, e.cbs = []) :
    Heard sid s (log ++ es) := by
  unfold Heard
  rw [deliveredTo_append, deliveredTo_silent silent, List.append_nil]
  simp only [seen_append, seen_silent silent, Bool.or_false]
  exact hs

/-- A calm move leaves what was heard. -/
lemma Heard.calm (hs : Heard sid s s.log) (calm : Calm s t) : Heard sid t t.log := by
  obtain ⟨es, log, idle⟩ := calm.log
  have bound : ∀ r, s.userData sid = some r → (s.objs r).Kept (t.objs r) := by
    intro r user
    rcases calm.objs r with kept | ⟨_, unbound⟩
    · exact kept
    · exact absurd user (unbound sid)
  rw [log]
  refine Heard.silent ⟨⟨?_, ?_, ?_⟩, ?_, ?_, ?_⟩ fun e mem => Entry.idle_cbs (idle e mem)
  · rw [calm.userData]
    exact hs.body.unbound
  · intro r user ok
    rw [calm.userData] at user
    rw [(bound r user).requestBodyOverflow] at ok
    rw [(bound r user).requestBody]
    exact hs.body.body r user ok
  · intro r id user
    rw [calm.userData] at user
    rcases calm.objs r with kept | ⟨⟨sid', h, new⟩, _⟩
    · rw [kept.requestBody, kept.requestBodyOverflow]
      exact hs.body.blank r (kept.streamId ▸ id) user
    · rw [new]
      exact ⟨rfl, rfl⟩
  · rw [calm.userData]
    exact hs.begun
  · intro stopped r user
    rw [calm.userData] at user
    rw [(bound r user).bodyTruncated]
    exact hs.stopped stopped r user
  · intro r id complete
    rcases calm.objs r with kept | ⟨⟨sid', h, new⟩, _⟩
    · exact hs.headers r (kept.streamId ▸ id) (kept.headersComplete ▸ complete)
    · rw [new] at complete
      cases complete

/-- What was heard is a matter of the objects and the user data. -/
lemma Heard.congr (hs : Heard sid s log) (objs : ∀ r, (s.objs r).Alike (t.objs r))
    (userData : t.userData = s.userData) : Heard sid t log := by
  refine ⟨⟨?_, ?_, ?_⟩, ?_, ?_, ?_⟩
  · exact userData ▸ hs.body.unbound
  · intro r user ok
    rw [(objs r).requestBodyOverflow] at ok
    rw [(objs r).requestBody]
    exact hs.body.body r (userData ▸ user) ok
  · intro r id user
    rw [(objs r).requestBody, (objs r).requestBodyOverflow]
    exact hs.body.blank r ((objs r).streamId ▸ id) (userData ▸ user)
  · exact userData ▸ hs.begun
  · intro stopped r user
    rw [(objs r).bodyTruncated]
    exact hs.stopped stopped r (userData ▸ user)
  · intro r id complete
    exact hs.headers r ((objs r).streamId ▸ id) ((objs r).headersComplete ▸ complete)

/-- Callbacks of a stream that begin a header block come when its bytes are read. -/
lemma Nghttp3Law.ordered {c : Call} {cbs : List Cb} {rv : Int}
    (law : Nghttp3Law sid log (.call c cbs rv)) :
    Ordered sid (seen (Cb.begins sid) log) (seen (Cb.stops sid) log) cbs := by
  rw [Nghttp3Law] at law
  split at law
  · exact .of_silent law
  · exact law.1

/-- A call of nghttp3 and its callbacks. -/
lemma Heard.called {c : Call} {cbs : List Cb} {rv : Int} (hs : Heard sid s log) (bound : Bound s)
    (bidi : sidIsBidi sid = true) (law : Nghttp3Law sid log (.call c cbs rv))
    (pending : (∃ cb ∈ cbs, cb.begins sid = true) → s.pendingSid = sid ∧ s.pendingH3s ≠ none) :
    Heard sid (runCbs s cbs) (log ++ [Entry.call c cbs rv]) := by
  have heard := Hears.runCbs hs bound bidi law.ordered pending
  unfold Heard
  simpa [deliveredTo, seen, Entry.cbs] using heard

/-- What is logged after a call are resets. -/
lemma runCbs_silent (cbs : List Cb) :
    ∃ es, (runCbs s cbs).log = s.log ++ es ∧ ∀ e ∈ es, e.idle = true := by
  obtain ⟨es, log, resets⟩ := runCbs_log (s := s) cbs
  refine ⟨es, log, ?_⟩
  intro e mem
  obtain ⟨err, h, rfl⟩ := resets e mem
  rfl

/-- A call that passes no bytes of the stream to nghttp3 reports nothing of it. -/
lemma Nghttp3Law.silent {c : Call} {cbs : List Cb} {rv : Int}
    (law : Nghttp3Law sid log (.call c cbs rv))
    (empty : ∀ data fin, c.reading sid = some (data, fin) → data = []) :
    ∀ cb ∈ cbs, cb.reports sid = false := by
  rw [Nghttp3Law] at law
  split at law
  · exact law
  · rename_i data fin eq
    exact law.2.1 (empty data fin eq)

/-- A call that reads nothing reads nothing of the stream. -/
lemma Call.reading_of_other {c : Call} (other : c.isRead = false) : c.reading sid = none := by
  cases c with
  | readStream => cases other
  | _ => rfl

/-- Silent callbacks do not begin the stream. -/
lemma no_begins {cbs : List Cb} (silent : ∀ cb ∈ cbs, cb.reports sid = false) :
    ¬∃ cb ∈ cbs, cb.begins sid = true := by
  rintro ⟨cb, mem, begins⟩
  have reports := Cb.begins_reports begins
  rw [silent cb mem] at reports
  cases reports

/-- A call during which the stream is not being read. -/
lemma Heard.called_silent {c : Call} {cbs : List Cb} {rv : Int} (hs : Heard sid s s.log)
    (bound : Bound s) (bidi : sidIsBidi sid = true)
    (law : Each (Nghttp3Law sid) (runCbs (s.emit (.call c cbs rv)) cbs).log)
    (empty : ∀ data fin, c.reading sid = some (data, fin) → data = []) :
    Heard sid (runCbs (s.emit (.call c cbs rv)) cbs)
      (runCbs (s.emit (.call c cbs rv)) cbs).log := by
  obtain ⟨es, log, idle⟩ := runCbs_silent (s := s.emit (.call c cbs rv)) cbs
  rw [log] at law ⊢
  have law : Nghttp3Law sid s.log (.call c cbs rv) := law.entry
  have before : Heard sid (s.emit (.call c cbs rv)) s.log := hs.congr (fun _ => .refl) rfl
  refine (before.called (bound.emit _) bidi law ?_).silent fun e mem => Entry.idle_cbs (idle e mem)
  exact fun begins => absurd begins (no_begins (law.silent empty))

/-- Bytes that are read from a stream of the client, and what nghttp3 reports. -/
lemma Heard.feed {h : Handle} {data : List UInt8} {cbs : List Cb} {rv : Int}
    (hs : Heard sid s s.log) (bound : Bound s) (lt : r < s.next)
    (client : sidIsServer (s.objs r).streamId = false) (bidi : sidIsBidi sid = true)
    (law : Each (Nghttp3Law sid) (s.feed r h data cbs rv).log) :
    Heard sid (s.feed r h data cbs rv) (s.feed r h data cbs rv).log := by
  obtain ⟨es, log, idle⟩ := runCbs_silent (s := s.reading r h data cbs rv) cbs
  have log : (s.feed r h data cbs rv).log = (s.reading r h data cbs rv).log ++ es := log
  rw [log] at law ⊢
  have law : Nghttp3Law sid (s.log ++ [Entry.op (.use (.read (.data data)) h)])
    (.call (.readStream (s.objs r).streamId data false) cbs rv) := law.entry
  have before : Heard sid (s.reading r h data cbs rv)
      (s.log ++ [Entry.op (.use (.read (.data data)) h)]) := by
    refine (hs.congr (t := s.reading r h data cbs rv) (fun _ => .refl) rfl).silent ?_
    intro e mem
    rw [List.mem_singleton.mp mem]
    rfl
  have quiet : ∀ e ∈ es, e.cbs = [] := fun e mem => Entry.idle_cbs (idle e mem)
  have after := (before.called (bound.reading lt client) bidi law ?_).silent quiet
  · exact after.congr (fun _ => .refl) rfl
  · intro begins
    by_cases mine : (s.objs r).streamId = sid
    · exact ⟨mine, nofun⟩
    · refine absurd begins (no_begins (law.silent ?_))
      intro data' fin eq
      rw [Call.reading, if_neg mine] at eq
      cases eq

/-- Every move keeps what was heard in agreement with what was reported. -/
theorem Heard.move (hs : Heard sid s s.log) (owns : Owns s) (bound : Bound s)
    (bidi : sidIsBidi sid = true) (law : Each (Nghttp3Law sid) t.log) (m : Move s t) :
    Heard sid t t.log := by
  rcases m.calm_or_loud bound with calm | loud
  · exact hs.calm calm
  cases loud with
  | call cbs rv other =>
    refine hs.called_silent bound bidi law ?_
    intro data fin eq
    rw [Call.reading_of_other other] at eq
    cases eq
  | feed cbs rv hq ne client => exact hs.feed bound (owns.lt_next hq) client bidi law
  | @feedFin r h u cbs rv hq last ends =>
    have called :=
      hs.called_silent (c := .readStream (s.objs r).streamId [] true) bound bidi law (by
      intro data fin eq
      rw [Call.reading] at eq
      split at eq
      · cases eq
        rfl
      · cases eq)
    refine called.congr (fun r' => ?_) rfl
    refine update_rel (P := H3Stream.Alike) ?_ (fun _ => .refl) r'
    exact ⟨rfl, rfl, rfl, rfl, rfl⟩
  | @dispatch r mem alive =>
    refine hs.congr (fun r' => ?_) rfl
    refine update_rel (P := H3Stream.Alike) ?_ (fun _ => .refl) r'
    exact ⟨rfl, rfl, rfl, rfl, rfl⟩

end

end ModHttp3.H3

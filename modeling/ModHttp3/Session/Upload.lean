import ModHttp3.Session.Heard
import ModHttp3.Session.Identity

/-!
# Truncated uploads

When is a request that reaches `ap_process_request` and passes the access checker complete?
`QuicLaw` is what QUIC promises about the stream, `Nghttp3Law` what nghttp3 promises.
`drain_one_stream` takes the end of the request from `h3q_stream_is_read_finished`, which does not
tell a FIN from a reset by the client or a lost connection, so a third condition is needed
(`Intact`): the stream is not found aborted between two frames, after its headers and before its
FIN. In every run that meets it, a request that is processed has the whole body that the client
sent, and the client ended it (`processed_upload_complete`). Without it a request whose upload was
cut off is processed as if it were complete (`truncated_upload_processed`).
-/

namespace ModHttp3.H3
open ModHttp3.Lib ModHttp3.Lib.Script

/-- What a client does with its side of a stream: the bytes it sends, and whether it ends them with
a FIN. -/
structure Peer where
  sent : List UInt8
  fin : Bool

/-- The bytes a use reads. -/
def Use.bytes : Use → List UInt8
  | .read (.data data) => data
  | _ => []

/-- The use reports the FIN of the client. -/
def Use.finished : Use → Bool
  | .read .fin => true
  | .isReadFinished .finished _ => true
  | _ => false

/-- The use reports that the client reset the stream or that the connection was closed. -/
def Use.aborted : Use → Bool
  | .isReadFinished .resetRemote _ => true
  | .isReadFinished .connClosed _ => true
  | _ => false

/-- The bytes an entry reads from a handle. -/
def Entry.readFrom (h : Handle) : Entry → List UInt8
  | .op (.use u h') => if h' = h then u.bytes else []
  | _ => []

/-- The bytes that were read from a handle. -/
def readFrom (h : Handle) (log : List Entry) : List UInt8 := log.flatMap (·.readFrom h)

/-- What QUIC may do about the stream `sid`, whose handle is `h`: the bytes come in order, none
after the stream was aborted, and its FIN is reported if the client sent one and all bytes were
read. -/
def QuicLaw (peer : Peer) (h : Handle) (sid : Int) (pre : List Entry) : Entry → Prop
  | .got h' sid' => h' = h ↔ sid' = sid
  | .op (.use u h') => h' = h →
    (readFrom h pre ++ u.bytes) <+: peer.sent ∧
    (u.bytes ≠ [] → used Use.aborted h pre = false) ∧
    (u.finished = true → peer.fin = true ∧ readFrom h pre = peer.sent)
  | _ => True

/-- If the stream is found aborted between two frames and after its headers, its FIN was read
before. -/
def Intact (h : Handle) (sid : Int) (pre : List Entry) : Entry → Prop
  | .op (.use u h') => h' = h → u.aborted = true → seen (Cb.endsHeaders sid) pre = true →
    Frames.place (readFrom h pre) = .start → used Use.finished h pre = true
  | _ => True

instance QuicLaw.decidable {peer : Peer} {h : Handle} {sid : Int} {pre : List Entry} :
    ∀ e, Decidable (QuicLaw peer h sid pre e)
  | .got h' sid' => inferInstanceAs (Decidable (h' = h ↔ sid' = sid))
  | .op (.use u h') => inferInstanceAs (Decidable (h' = h →
      (readFrom h pre ++ u.bytes) <+: peer.sent ∧
      (u.bytes ≠ [] → used Use.aborted h pre = false) ∧
      (u.finished = true → peer.fin = true ∧ readFrom h pre = peer.sent)))
  | .op (.free _) => .isTrue trivial
  | .call _ _ _ => .isTrue trivial
  | .processed _ _ => .isTrue trivial

instance Intact.decidable {h : Handle} {sid : Int} {pre : List Entry} :
    ∀ e, Decidable (Intact h sid pre e)
  | .op (.use u h') => inferInstanceAs (Decidable (h' = h → u.aborted = true →
      seen (Cb.endsHeaders sid) pre = true → Frames.place (readFrom h pre) = .start →
      used Use.finished h pre = true))
  | .op (.free _) => .isTrue trivial
  | .got _ _ => .isTrue trivial
  | .call _ _ _ => .isTrue trivial
  | .processed _ _ => .isTrue trivial

/-- The client ended the stream, and all it sent was read. -/
def Received (peer : Peer) (h : Handle) (log : List Entry) : Prop :=
  peer.fin = true ∧ readFrom h log = peer.sent

/-- Nothing more will be reported of the stream. -/
def Over (h : Handle) (sid : Int) (log : List Entry) : Prop :=
  used Use.aborted h log = true ∨ seen (Cb.stops sid) log = true

/-- How far the request on a stream is. -/
structure Progress (peer : Peer) (h : Handle) (sid : Int) (s : Session) : Prop where
  fed : fedTo sid s.log = readFrom h s.log
  delivered : s.ngh3Dead = true ∨ seen (Cb.stops sid) s.log = true ∨
    deliveredTo sid s.log = Frames.payload (fedTo sid s.log)
  complete : ∀ r, (s.objs r).streamId = sid → (s.objs r).bodyComplete = true →
    (s.objs r).bodyTruncated = true ∨ s.ngh3Dead = true ∨ Received peer h s.log ∨
      (Over h sid s.log ∧ (s.objs r).headersComplete = false)
  dispatched : ∀ r, (s.objs r).streamId = sid → (s.objs r).dispatched = true →
    (s.objs r).bodyTruncated = true ∨
      (Received peer h s.log ∧ deliveredTo sid s.log = Frames.payload peer.sent)

/-- The laws of the environment hold along a log, and the condition on aborted streams. -/
structure Lawful (peer : Peer) (h : Handle) (sid : Int) (log : List Entry) : Prop where
  quic : Each (QuicLaw peer h sid) log
  nghttp3 : Each (Nghttp3Law sid) log
  intact : Each (Intact h sid) log

/-- What can happen to an object of the stream when nothing is reported of it. -/
inductive Steady (sid : Int) (x y : H3Stream) : Prop where
  | fresh :
    y.bodyComplete = false →
    y.dispatched = false →
    Steady sid x y
  | kept :
    x.streamId = sid →
    (x.bodyTruncated = true → y.bodyTruncated = true) →
    (y.headersComplete = true → x.headersComplete = true) →
    (y.bodyComplete = true → x.bodyComplete = true ∨ y.bodyTruncated = true) →
    (y.dispatched = true → x.dispatched = true) →
    Steady sid x y

section
variable {peer : Peer} {h : Handle} {sid : Int} {s t : Session} {r : Ref} {log es : List Entry}
  {e : Entry}
  {p : Use → Bool} {cbs : List Cb}

/-- The laws hold of every prefix of a log. -/
lemma Lawful.before (laws : Lawful peer h sid (log ++ es)) : Lawful peer h sid log :=
  ⟨laws.quic.before, laws.nghttp3.before, laws.intact.before⟩

/-- What was read from a handle in two logs in a row. -/
lemma readFrom_append : readFrom h (log ++ es) = readFrom h log ++ readFrom h es :=
  List.flatMap_append

/-- What was fed in two logs in a row. -/
lemma fedTo_append : fedTo sid (log ++ es) = fedTo sid log ++ fedTo sid es := List.flatMap_append

/-- A stream that is over stays over. -/
lemma Over.append (gone : Over h sid log) : Over h sid (log ++ es) := by
  rw [Over, used_append, seen_append, Bool.or_eq_true, Bool.or_eq_true]
  exact gone.imp .inl .inl

/-- What was read is a beginning of what the client sent. -/
lemma readFrom_isPrefix (quic : Each (QuicLaw peer h sid) log) : readFrom h log <+: peer.sent := by
  induction log using List.reverseRecOn with
  | nil => exact List.nil_prefix
  | append_singleton log e ih =>
    have law : QuicLaw peer h sid log e := quic.last
    have before := ih quic.before
    rw [readFrom_append]
    have same : e.readFrom h = [] → readFrom h log ++ readFrom h [e] <+: peer.sent := by
      intro empty
      rw [readFrom, readFrom, List.flatMap_singleton, empty, List.append_nil]
      exact before
    cases e with
    | op o =>
      cases o with
      | use u h' =>
        by_cases mine : h' = h
        · rw [readFrom, readFrom, List.flatMap_singleton, Entry.readFrom, if_pos mine]
          exact (law mine).1
        · exact same (if_neg mine)
      | free => exact same rfl
    | _ => exact same rfl

/-- Once the FIN was reported, all was read. -/
lemma received_of_finished (quic : Each (QuicLaw peer h sid) log)
    (fin : used Use.finished h log = true) :
    Received peer h log := by
  obtain ⟨e, mem, uses⟩ := List.any_eq_true.mp fin
  obtain ⟨pre, post, rfl, law⟩ := quic.of_mem mem
  have all := readFrom_isPrefix quic
  cases e with
  | op o =>
    cases o with
    | use u h' =>
      rw [Entry.uses, Bool.and_eq_true, beq_iff_eq] at uses
      obtain ⟨peerFin, sent⟩ := (law uses.1).2.2 uses.2
      refine ⟨peerFin, ?_⟩
      rw [readFrom_append, sent] at all ⊢
      exact (all.eq_of_length_le (by simp)).symm ▸ rfl
    | free => cases uses
  | _ => cases uses

/-- The entry has nothing to do with the stream. -/
structure Entry.Foreign (h : Handle) (sid : Int) (e : Entry) : Prop where
  readFrom : e.readFrom h = []
  fedTo : e.fedTo sid = []
  reports : ∀ cb ∈ e.cbs, cb.reports sid = false

/-- An idle entry is not about the stream. -/
lemma Entry.foreign_of_idle (idle : e.idle = true) : e.Foreign h sid := by
  refine ⟨?_, Entry.idle_fedTo idle, fun cb mem => ?_⟩
  · cases e with
    | op o =>
      cases o with
      | use u h' =>
        have empty : u.bytes = [] := by
          cases u with
          | read result =>
            cases result with
            | data => cases idle
            | _ => rfl
          | _ => rfl
        rw [Entry.readFrom, empty]
        split <;> rfl
      | free => rfl
    | _ => rfl
  · rw [Entry.idle_cbs idle] at mem
    cases mem

/-- Entries that are not about the stream read nothing of it. -/
lemma readFrom_foreign (foreign : ∀ e ∈ es, e.Foreign h sid) :
    H3.readFrom h (log ++ es) = H3.readFrom h log := by
  have empty : H3.readFrom h es = [] :=
    List.flatMap_eq_nil_iff.mpr fun e mem => (foreign e mem).readFrom
  rw [readFrom_append, empty, List.append_nil]

/-- Entries that are not about the stream feed nothing of it. -/
lemma fedTo_foreign (foreign : ∀ e ∈ es, e.Foreign h sid) :
    H3.fedTo sid (log ++ es) = H3.fedTo sid log := by
  have empty : H3.fedTo sid es = [] :=
    List.flatMap_eq_nil_iff.mpr fun e mem => (foreign e mem).fedTo
  rw [fedTo_append, empty, List.append_nil]

/-- Entries that are not about the stream deliver nothing of it. -/
lemma deliveredTo_foreign (foreign : ∀ e ∈ es, e.Foreign h sid) :
    deliveredTo sid (log ++ es) = deliveredTo sid log := by
  have empty : deliveredTo sid es = [] := by
    refine List.flatMap_eq_nil_iff.mpr fun e mem => List.flatMap_eq_nil_iff.mpr fun cb mem' => ?_
    exact Cb.dataFor_of_silent ((foreign e mem).reports cb mem')
  rw [deliveredTo_append, empty, List.append_nil]

/-- When nothing is read from the stream and nothing reported of it, the request is as far as
before. -/
lemma Progress.steady (hs : Progress peer h sid s) (log : t.log = s.log ++ es)
    (foreign : ∀ e ∈ es, e.Foreign h sid) (dead : s.ngh3Dead = true → t.ngh3Dead = true)
    (objs : ∀ r, (t.objs r).streamId = sid → Steady sid (s.objs r) (t.objs r)) :
    Progress peer h sid t := by
  have received : Received peer h s.log → Received peer h t.log := by
    rw [Received, Received, log, readFrom_foreign foreign]
    exact id
  refine ⟨?_, ?_, ?_, ?_⟩
  · rw [log, fedTo_foreign foreign, readFrom_foreign foreign]
    exact hs.fed
  · rw [log, fedTo_foreign foreign, deliveredTo_foreign foreign, seen_append, Bool.or_eq_true]
    exact hs.delivered.imp dead (Or.imp_left .inl)
  · intro r id complete
    cases objs r id with
    | fresh incomplete _ =>
      rw [incomplete] at complete
      cases complete
    | kept id' truncated headers before _ =>
      rcases before complete with before | now
      · rcases hs.complete r id' before with h | h | h | ⟨gone, headless⟩
        · exact .inl (truncated h)
        · exact .inr (.inl (dead h))
        · exact .inr (.inr (.inl (received h)))
        · refine .inr (.inr (.inr ⟨log ▸ gone.append, ?_⟩))
          by_contra whole
          rw [headers (Bool.not_eq_false _ ▸ whole)] at headless
          cases headless
      · exact .inl now
  · intro r id dispatched
    cases objs r id with
    | fresh _ undispatched =>
      rw [undispatched] at dispatched
      cases dispatched
    | kept id' truncated _ _ before =>
      rcases hs.dispatched r id' (before dispatched) with h | ⟨all, body⟩
      · exact .inl (truncated h)
      · refine .inr ⟨received all, ?_⟩
        rw [log, deliveredTo_foreign foreign]
        exact body

/-- A calm move leaves the progress of the upload. -/
lemma Progress.calm (hs : Progress peer h sid s) (calm : Calm s t) : Progress peer h sid t := by
  obtain ⟨es, log, idle⟩ := calm.log
  refine hs.steady log (fun e mem => Entry.foreign_of_idle (idle e mem)) calm.dead ?_
  intro r id
  rcases calm.objs r with kept | ⟨⟨sid', h, new⟩, _⟩
  · refine .kept (kept.streamId ▸ id) ?_ ?_ ?_ kept.dispatched
    · exact kept.bodyTruncated ▸ fun h => h
    · exact kept.headersComplete ▸ fun h => h
    · exact kept.bodyComplete ▸ .inl
  · rw [new]
    exact .fresh rfl rfl

/-- What the callbacks of a call do to the flags of an object of the stream. -/
structure Flagged (sid : Int) (cbs : List Cb) (x y : H3Stream) : Prop where
  truncated : x.bodyTruncated = true → y.bodyTruncated = true
  headers : y.headersComplete = true → x.headersComplete = true ∨
    ∃ cb ∈ cbs, cb.endsHeaders sid = true
  complete : y.bodyComplete = true →
    x.bodyComplete = true ∨ y.bodyTruncated = true ∨ .endHeaders sid true ∈ cbs

/-- What callbacks do to the flags of an object. -/
lemma runCbs_flagged (cbs : List Cb) (bound : Bound s) (id : (s.objs r).streamId = sid) :
    Flagged sid cbs (s.objs r) ((runCbs s cbs).objs r) := by
  induction cbs generalizing s with
  | nil => exact ⟨fun h => h, .inl, .inl⟩
  | cons cb cbs ih =>
    have effect := runCb_effect (s := s) cb
    have rest := ih (bound.effect effect) ((effect.frame.objs r).streamId.trans id)
    have first : Flagged sid [cb] (s.objs r) ((runCb s cb).objs r) := by
      rcases runCb_flags cb bound id with ⟨same, _⟩ | ⟨mine, flags⟩
      · rw [same]
        exact ⟨fun h => h, .inl, .inl⟩
      · refine ⟨flags.truncated, fun h => ?_, fun h => ?_⟩
        · exact (flags.headers h).imp_right fun ends => ⟨cb, List.mem_singleton_self _, mine ▸ ends⟩
        · refine (flags.complete h).imp_right (Or.imp_right fun eq => ?_)
          rw [← mine]
          exact List.mem_singleton.mpr eq.symm
    refine ⟨rest.truncated ∘ first.truncated, fun h => ?_, fun h => ?_⟩
    · rcases rest.headers h with h | ⟨cb', mem, ends⟩
      · rcases first.headers h with h | ⟨cb', mem, ends⟩
        · exact .inl h
        · rw [List.mem_singleton.mp mem] at ends
          exact .inr ⟨cb, List.mem_cons_self, ends⟩
      · exact .inr ⟨cb', List.mem_cons_of_mem _ mem, ends⟩
    · rcases rest.complete h with h | h | mem
      · rcases first.complete h with h | h | mem
        · exact .inl h
        · exact .inr (.inl (rest.truncated h))
        · rw [List.mem_singleton.mp mem]
          exact .inr (.inr List.mem_cons_self)
      · exact .inr (.inl h)
      · exact .inr (.inr (List.mem_cons_of_mem _ mem))

/-- Callbacks that report nothing of the stream. -/
lemma runCbs_steady (bound : Bound s) (silent : ∀ cb ∈ cbs, cb.reports sid = false)
    (id : ((runCbs s cbs).objs r).streamId = sid) :
    Steady sid (s.objs r) ((runCbs s cbs).objs r) := by
  have frame := (runCbs_frame (s := s) cbs).objs r
  have id := frame.streamId ▸ id
  have flagged := runCbs_flagged cbs bound id
  refine .kept id flagged.truncated ?_ ?_ (frame.dispatched ▸ fun h => h)
  · intro complete
    rcases flagged.headers complete with h | ⟨cb, mem, ends⟩
    · exact h
    · have reports := Cb.endsHeaders_reports ends
      rw [silent cb mem] at reports
      cases reports
  · intro complete
    rcases flagged.complete complete with h | h | mem
    · exact .inl h
    · exact .inr h
    · have reports := silent _ mem
      simp [Cb.reports] at reports

/-- A call that neither reads nor reports anything of the stream is not about it. -/
lemma Entry.foreign_call {c : Call} {rv : Int} (unread : c.reading sid = none)
    (silent : ∀ cb ∈ cbs, cb.reports sid = false) : (Entry.call c cbs rv).Foreign h sid := by
  refine ⟨rfl, ?_, silent⟩
  rw [Entry.fedTo, unread]
  rfl

/-- A call of nghttp3 that is not about the stream. -/
lemma Progress.called {c : Call} {rv : Int} (hs : Progress peer h sid s) (bound : Bound s)
    (law : Each (Nghttp3Law sid) (runCbs (s.emit (.call c cbs rv)) cbs).log)
    (unread : c.reading sid = none) :
    Progress peer h sid (runCbs (s.emit (.call c cbs rv)) cbs) := by
  obtain ⟨es, log, idle⟩ := runCbs_silent (s := s.emit (.call c cbs rv)) cbs
  rw [log] at law
  have law : Nghttp3Law sid s.log (.call c cbs rv) := law.entry
  have silent := law.silent fun data fin eq => by rw [unread] at eq; cases eq
  have foreign : ∀ e ∈ [Entry.call c cbs rv] ++ es, e.Foreign h sid := by
    intro e mem
    rcases List.mem_append.mp mem with mem | mem
    · rw [List.mem_singleton.mp mem]
      exact Entry.foreign_call unread silent
    · exact Entry.foreign_of_idle (idle e mem)
  refine hs.steady (log.trans (List.append_assoc ..)) foreign ?_ ?_
  · rw [(runCbs_frame cbs).ngh3Dead]
    exact fun h => h
  · intro r id
    exact runCbs_steady (s := s.emit _) (bound.emit _) silent id

/-- Nothing is reported of a stream after nghttp3 stopped it. -/
lemma Ordered.silent {begun : Bool} (ordered : Ordered sid begun true cbs) :
    ∀ cb ∈ cbs, cb.reports sid = false := by
  induction cbs generalizing begun with
  | nil => nofun
  | cons cb cbs ih =>
    obtain ⟨reports, _, rest⟩ := ordered
    intro cb' mem
    rcases List.mem_cons.mp mem with rfl | mem
    · by_contra reported
      cases reports (Bool.not_eq_false _ ▸ reported)
    · exact ih rest cb' mem

/-- The handle of an object is the handle of the stream if the object is. -/
lemma QuicLaw.handle (quic : Each (QuicLaw peer h sid) s.log) (bound : Bound s) {h' : Handle}
    (hq : (s.objs r).qstream = some h') : h' = h ↔ (s.objs r).streamId = sid := by
  obtain ⟨_, _, _, law⟩ := quic.of_mem (bound.got r h' hq)
  exact law

/-- Bytes of another stream. -/
lemma Progress.feed_foreign {h' : Handle} {data : List UInt8} {rv : Int}
    (hs : Progress peer h sid s) (bound : Bound s) (lt : r < s.next)
    (client : sidIsServer (s.objs r).streamId = false) (ne : h' ≠ h)
    (other : (s.objs r).streamId ≠ sid)
    (law : Each (Nghttp3Law sid) (s.feed r h' data cbs rv).log) :
    Progress peer h sid (s.feed r h' data cbs rv) := by
  obtain ⟨es, log, idle⟩ := runCbs_silent (s := s.reading r h' data cbs rv) cbs
  have log : (s.feed r h' data cbs rv).log = (s.reading r h' data cbs rv).log ++ es := log
  rw [log] at law
  have law : Nghttp3Law sid (s.log ++ [Entry.op (.use (.read (.data data)) h')])
    (.call (.readStream (s.objs r).streamId data false) cbs rv) := law.entry
  have unread : (Call.readStream (s.objs r).streamId data false).reading sid = none := if_neg other
  have silent := law.silent fun data fin eq => by rw [unread] at eq; cases eq
  have foreign : ∀ e ∈ [Entry.op (.use (.read (.data data)) h')] ++
      ([Entry.call (.readStream (s.objs r).streamId data false) cbs rv] ++ es),
      e.Foreign h sid := by
    intro e mem
    rcases List.mem_append.mp mem with mem | mem
    · rw [List.mem_singleton.mp mem]
      exact ⟨if_neg ne, rfl, nofun⟩
    · rcases List.mem_append.mp mem with mem | mem
      · rw [List.mem_singleton.mp mem]
        exact Entry.foreign_call unread silent
      · exact Entry.foreign_of_idle (idle e mem)
  refine hs.steady (log.trans ?_) foreign ?_ ?_
  · show s.log ++ [_] ++ [_] ++ es = _
    rw [List.append_assoc, List.append_assoc]
  · intro dead
    show ((runCbs _ cbs).ngh3Dead || _) = true
    rw [(runCbs_frame cbs).ngh3Dead]
    show (s.ngh3Dead || _) = true
    rw [dead]
    rfl
  · intro r' id
    exact runCbs_steady (s := s.reading r h' data cbs rv) (bound.reading lt client) silent id

/-- What reading bytes of the stream adds to a log. -/
structure Logged (h : Handle) (sid : Int) (data : List UInt8) (cbs : List Cb)
    (log log' : List Entry) :
    Prop where
  read : readFrom h log' = readFrom h log ++ data
  fed : fedTo sid log' = fedTo sid log ++ data
  delivered : deliveredTo sid log' = deliveredTo sid log ++ cbs.flatMap (·.dataFor sid)
  stops : seen (Cb.stops sid) log' = (seen (Cb.stops sid) log || cbs.any (Cb.stops sid))

/-- What the laws say when bytes of the stream are read. -/
structure FedLaw (peer : Peer) (h : Handle) (sid : Int) (data : List UInt8) (cbs : List Cb)
    (rv : Int) (log : List Entry) : Prop where
  unread : ¬Received peer h log
  present : used Use.aborted h log = false
  ordered : Ordered sid (seen (Cb.begins sid) log) (seen (Cb.stops sid) log) cbs
  unended : .endHeaders sid true ∉ cbs
  reported : 0 ≤ rv → seen (Cb.stops sid) log = false → cbs.any (Cb.stops sid) = false →
    cbs.flatMap (·.dataFor sid) = Frames.payloadFrom (Frames.place (fedTo sid log)) data

/-- What is logged when bytes are passed to nghttp3. -/
lemma feed_log (h : Handle) (data : List UInt8) (cbs : List Cb) (rv : Int)
    (mine : (s.objs r).streamId = sid) :
    ∃ es : List Entry, (s.feed r h data cbs rv).log =
      s.log ++ [Entry.op (.use (.read (.data data)) h)] ++
      [Entry.call (.readStream sid data false) cbs rv] ++ es ∧ ∀ e ∈ es, e.idle = true := by
  rw [← mine]
  exact runCbs_silent (s := s.reading r h data cbs rv) cbs

/-- A use makes no callbacks. -/
lemma seen_use {u : Use} (p : Cb → Bool) : seen p (log ++ [Entry.op (.use u h)]) = seen p log := by
  rw [seen_append]
  exact Bool.or_false _

/-- A use feeds nothing. -/
lemma fedTo_use {u : Use} : fedTo sid (log ++ [Entry.op (.use u h)]) = fedTo sid log := by
  rw [fedTo_append]
  exact List.append_nil _

/-- The entries of passing bytes to nghttp3, as far as they are about the stream. -/
lemma feed_logged (h : Handle) (data : List UInt8) (cbs : List Cb) (rv : Int)
    (mine : (s.objs r).streamId = sid) :
    Logged h sid data cbs s.log (s.feed r h data cbs rv).log := by
  obtain ⟨es, log, idle⟩ := feed_log h data cbs rv mine
  have foreign : ∀ e ∈ es, e.Foreign h sid := fun e mem => Entry.foreign_of_idle (idle e mem)
  rw [log]
  refine ⟨?_, ?_, ?_, ?_⟩
  · rw [readFrom_foreign foreign, readFrom_append, readFrom_append]
    simp [readFrom, Entry.readFrom, Use.bytes]
  · rw [fedTo_foreign foreign, fedTo_append, fedTo_use]
    simp [fedTo, Entry.fedTo, Call.reading]
  · rw [deliveredTo_foreign foreign, deliveredTo_append, deliveredTo_append]
    simp [deliveredTo, Entry.cbs]
  · rw [seen_append, seen_append, seen_use, seen_silent fun e mem => Entry.idle_cbs (idle e mem)]
    simp [seen, Entry.cbs]

/-- What the laws say when bytes are passed to nghttp3. -/
lemma Lawful.feed {data : List UInt8} {rv : Int}
    (laws : Lawful peer h sid (s.feed r h data cbs rv).log) (mine : (s.objs r).streamId = sid)
    (ne : data ≠ []) : FedLaw peer h sid data cbs rv s.log := by
  obtain ⟨es, log, _⟩ := feed_log h data cbs rv mine
  rw [log] at laws
  have quic : QuicLaw peer h sid s.log (.op (.use (.read (.data data)) h)) :=
    laws.quic.before.before.last
  have law := laws.nghttp3.entry
  have reading : (Call.readStream sid data false).reading sid = some (data, false) := if_pos rfl
  rw [Nghttp3Law, reading, seen_use, seen_use, fedTo_use] at law
  obtain ⟨ordered, _, notEnded, reported⟩ := law
  refine ⟨?_, (quic rfl).2.1 ne, ordered, notEnded rfl, fun ok go on => (reported ok go on).1⟩
  rintro ⟨_, all⟩
  have more : readFrom h s.log ++ data <+: peer.sent := (quic rfl).1
  rw [← all] at more
  have len := more.length_le
  rw [List.length_append] at len
  exact ne (List.length_eq_zero_iff.mp (by omega))

/-- Bytes of the stream itself: QUIC still hands out bytes, so the stream is neither aborted nor
read to its end, and no request on it was complete. -/
lemma Progress.feed {data : List UInt8} {rv : Int} (hs : Progress peer h sid s) (bound : Bound s)
    (lt : r < s.next) (client : sidIsServer (s.objs r).streamId = false)
    (mine : (s.objs r).streamId = sid) (ne : data ≠ [])
    (laws : Lawful peer h sid (s.feed r h data cbs rv).log) :
    Progress peer h sid (s.feed r h data cbs rv) := by
  have law := laws.feed mine ne
  have logged := feed_logged h data cbs rv mine
  have dead := s.feed_dead (r := r) (h := h) data cbs rv
  have frame : ∀ r', (s.objs r').Frame ((s.feed r h data cbs rv).objs r') :=
    Session.feed_frame data cbs rv
  have flagged : ∀ r', (s.objs r').streamId = sid →
      Flagged sid cbs (s.objs r') ((s.feed r h data cbs rv).objs r') :=
    fun r' id => runCbs_flagged (s := s.reading r h data cbs rv) cbs (bound.reading lt client) id
  refine ⟨?_, ?_, ?_, ?_⟩
  · rw [logged.fed, logged.read, hs.fed]
  · rw [dead, logged.stops, logged.delivered, logged.fed, Frames.payload_append, Bool.or_eq_true,
      Bool.or_eq_true, decide_eq_true_iff]
    rcases hs.delivered with h | h | h
    · exact .inl (.inl h)
    · exact .inr (.inl (.inl h))
    · by_cases neg : rv < 0
      · exact .inl (.inr neg)
      · refine .inr (Classical.or_iff_not_imp_left.mpr fun go => ?_)
        simp only [not_or, Bool.not_eq_true] at go
        rw [h, law.reported (Int.not_lt.mp neg) go.1 go.2]
  · intro r' id complete
    rw [(frame r').streamId] at id
    rw [dead, Bool.or_eq_true]
    rcases (flagged r' id).complete complete with before | now | ended
    · rcases hs.complete r' id before with h | h | h | ⟨gone, headless⟩
      · exact .inl ((flagged r' id).truncated h)
      · exact .inr (.inl (.inl h))
      -- bytes still come, so the stream was not read to its end and is not aborted
      · exact absurd h law.unread
      · rcases gone with h | stopped
        · rw [law.present] at h
          cases h
        · refine .inr (.inr (.inr ⟨.inr ?_, ?_⟩))
          · rw [logged.stops, stopped]
            rfl
          -- after a stop nothing is reported, so the headers stay incomplete
          · have ordered := law.ordered
            rw [stopped] at ordered
            by_contra whole
            rcases (flagged r' id).headers (Bool.not_eq_false _ ▸ whole) with h | ⟨cb, mem, ends⟩
            · rw [h] at headless
              cases headless
            · have reports := Cb.endsHeaders_reports ends
              rw [ordered.silent cb mem] at reports
              cases reports
    · exact .inl now
    · exact absurd ended law.unended
  · intro r' id dispatched
    rw [(frame r').streamId] at id
    rw [(frame r').dispatched] at dispatched
    rcases hs.dispatched r' id dispatched with h | ⟨h, _⟩
    · exact .inl ((flagged r' id).truncated h)
    · exact absurd h law.unread

/-- Passing the end of a stream to nghttp3 changes no object but its own. -/
lemma feedFin_alike (s : Session) (r : Ref) (cbs : List Cb) (rv : Int) (r' : Ref) :
    ((s.told r cbs rv).objs r').Alike ((s.feedFin r cbs rv).objs r') ∧
      ((s.feedFin r cbs rv).objs r').dispatched = (s.objs r').dispatched := by
  rw [feedFin_objs, ← (told_frame s r cbs rv r').dispatched]
  refine update_rel (P := fun x y => x.Alike y ∧ y.dispatched = x.dispatched) ?_
    (fun _ => ⟨.refl, rfl⟩) r'
  exact ⟨⟨rfl, rfl, rfl, rfl, rfl⟩, rfl⟩

/-- The end of another stream. -/
lemma Progress.feedFin_foreign {rv : Int} (hs : Progress peer h sid s) (bound : Bound s)
    (other : (s.objs r).streamId ≠ sid) (law : Each (Nghttp3Law sid) (s.feedFin r cbs rv).log) :
    Progress peer h sid (s.feedFin r cbs rv) := by
  have unread : (Call.readStream (s.objs r).streamId [] true).reading sid = none := if_neg other
  have told : Progress peer h sid (s.told r cbs rv) := hs.called bound law unread
  refine told.steady (List.append_nil _).symm nofun ?_ ?_
  · intro dead
    show ((s.told r cbs rv).ngh3Dead || _) = true
    rw [dead]
    rfl
  · intro r' id
    have ne : r' ≠ r := by
      rintro rfl
      rw [(feedFin_alike s r' cbs rv r').1.streamId, (told_frame s r' cbs rv r').streamId] at id
      exact other id
    rw [feedFin_objs, Function.update_of_ne ne] at id ⊢
    exact .kept id (fun h => h) (fun h => h) .inl fun h => h

/-- A stream ends by being finished or aborted. -/
lemma Use.ends_cases {u : Use} (ends : u.ends = true) : u.finished = true ∨ u.aborted = true := by
  cases u with
  | read result =>
    cases result with
    | fin => exact .inl rfl
    | _ => cases ends
  | isReadFinished rstate wstate =>
    cases rstate with
    | finished => exact .inl rfl
    | resetRemote | connClosed => exact .inr rfl
    | _ => simp [Use.ends, H3.isReadFinished] at ends
  | _ => cases ends

/-- An abort has no bytes. -/
lemma Use.aborted_bytes {u : Use} (aborted : u.aborted = true) : u.bytes = [] := by
  cases u with
  | isReadFinished => rfl
  | _ => cases aborted

/-- What the laws say when nghttp3 takes the end of the stream: everything was read, or the stream
was aborted before its headers were complete. -/
lemma Lawful.ended {u : Use} {rv : Int} (fed : fedTo sid log = readFrom h log)
    (last : log.getLast? = some (.op (.use u h))) (ends : u.ends = true) (ok : 0 ≤ rv)
    (go : seen (Cb.stops sid) log = false) (on : cbs.any (Cb.stops sid) = false)
    (laws : Lawful peer h sid (log ++ [Entry.call (.readStream sid [] true) cbs rv])) :
    Received peer h log ∨
    (used Use.aborted h log = true ∧ seen (Cb.endsHeaders sid) log = false) := by
  have reading : (Call.readStream sid [] true).reading sid = some ([], true) := if_pos rfl
  have law := laws.nghttp3.last
  rw [Nghttp3Law, reading] at law
  have start : Frames.place (fedTo sid log ++ []) = .start := (law.2.2.2 ok go on).2 rfl
  obtain ⟨pre, rfl⟩ := List.getLast?_eq_some_iff.mp last
  have intact : Intact h sid pre (.op (.use u h)) := laws.before.intact.last
  have uses : ∀ {p : Use → Bool}, p u = true → used p h (pre ++ [Entry.op (.use u h)]) = true := by
    intro p hp
    rw [used_append]
    simp [used, Entry.uses, hp]
  rcases Use.ends_cases ends with finished | aborted
  · exact .inl (received_of_finished laws.before.quic (uses finished))
  · rw [seen_use]
    rw [List.append_nil, fed, readFrom_append] at start
    have empty : readFrom h [.op (.use u h)] = [] := by
      simp [readFrom, Entry.readFrom, Use.aborted_bytes aborted]
    rw [empty, List.append_nil] at start
    cases headers : seen (Cb.endsHeaders sid) pre with
    | false => exact .inr ⟨uses aborted, rfl⟩
    | true =>
      refine .inl (received_of_finished laws.before.quic ?_)
      rw [used_append, intact rfl aborted headers start]
      rfl

/-- The end of the stream itself: a FIN, or the stream was aborted. -/
lemma Progress.feedFin {u : Use} {rv : Int} (hs : Progress peer h sid s) (bound : Bound s)
    (heard : Heard sid (s.feedFin r cbs rv) (s.feedFin r cbs rv).log)
    (bound' : Bound (s.feedFin r cbs rv)) (mine : (s.objs r).streamId = sid)
    (last : s.log.getLast? = some (.op (.use u h))) (ends : u.ends = true)
    (laws : Lawful peer h sid (s.feedFin r cbs rv).log) :
    Progress peer h sid (s.feedFin r cbs rv) := by
  obtain ⟨es, log, idle⟩ : ∃ es : List Entry, (s.feedFin r cbs rv).log = s.log ++
      [Entry.call (.readStream sid [] true) cbs rv] ++ es ∧ ∀ e ∈ es, e.idle = true := by
    rw [← mine]
    exact runCbs_silent (s := s.emit (.call (.readStream (s.objs r).streamId [] true) cbs rv)) cbs
  have reading : (Call.readStream sid [] true).reading sid = some ([], true) := if_pos rfl
  rw [log] at laws
  have law := laws.nghttp3.entry
  have silent : ∀ cb ∈ cbs, cb.reports sid = false :=
    law.silent fun data fin eq => by rw [reading] at eq; cases eq; rfl
  have foreign : ∀ e ∈ [Entry.call (.readStream sid [] true) cbs rv] ++ es, e.Foreign h sid := by
    intro e mem
    rcases List.mem_append.mp mem with mem | mem
    · rw [List.mem_singleton.mp mem]
      refine ⟨rfl, ?_, silent⟩
      rw [Entry.fedTo, reading]
      rfl
    · exact Entry.foreign_of_idle (idle e mem)
  rw [List.append_assoc] at log
  have received : Received peer h s.log → Received peer h (s.feedFin r cbs rv).log := by
    rw [Received, Received, log, readFrom_foreign foreign]
    exact fun h => h
  have flagged : ∀ r', (s.objs r').streamId = sid →
      Flagged sid cbs (s.objs r') ((s.told r cbs rv).objs r') :=
    fun r' id => runCbs_flagged (s := s.emit _) cbs (bound.emit _) id
  refine ⟨?_, ?_, ?_, ?_⟩
  · rw [log, fedTo_foreign foreign, readFrom_foreign foreign]
    exact hs.fed
  · rw [log, fedTo_foreign foreign, deliveredTo_foreign foreign, seen_append, Bool.or_eq_true,
      feedFin_dead, Bool.or_eq_true]
    exact hs.delivered.imp .inl (Or.imp_left .inl)
  · intro r' id _
    rw [feedFin_dead, Bool.or_eq_true, decide_eq_true_iff]
    by_cases neg : rv < 0
    · exact .inr (.inl (.inr neg))
    · cases stops : seen (Cb.stops sid) (s.feedFin r cbs rv).log with
      | true =>
        cases headers : ((s.feedFin r cbs rv).objs r').headersComplete with
        | true =>
          have user := bound'.headers r' headers
          rw [id] at user
          exact .inl (heard.stopped stops r' user)
        | false => exact .inr (.inr (.inr ⟨.inr stops, rfl⟩))
      | false =>
        have stops' := stops
        rw [log, seen_append, seen_append, Bool.or_eq_false_iff, Bool.or_eq_false_iff] at stops'
        have on : cbs.any (Cb.stops sid) = false := by
          have := stops'.2.1
          simpa [seen, Entry.cbs] using this
        -- nghttp3 accepted the end and stopped nothing: all bytes came, or the stream was aborted
        -- early
        rcases laws.before.ended hs.fed last ends (Int.not_lt.mp neg) stops'.1 on with all |
          ⟨aborted, unended⟩
        · exact .inr (.inr (.inl (received all)))
        · refine .inr (.inr (.inr ⟨.inl ?_, ?_⟩))
          · rw [log, used_append, aborted]
            rfl
          · by_contra whole
            -- had the headers been complete, their end would have been reported before
            have ended := heard.headers r' id (Bool.not_eq_false _ ▸ whole)
            rw [log, seen_append, unended, Bool.false_or] at ended
            obtain ⟨e, mem, ended⟩ := List.any_eq_true.mp ended
            obtain ⟨cb, mem', ended⟩ := List.any_eq_true.mp ended
            have reports := Cb.endsHeaders_reports ended
            rw [(foreign e mem).reports cb mem'] at reports
            cases reports
  · intro r' id dispatched
    obtain ⟨alike, same⟩ := feedFin_alike s r cbs rv r'
    rw [alike.streamId, (told_frame s r cbs rv r').streamId] at id
    rw [same] at dispatched
    rcases hs.dispatched r' id dispatched with h | ⟨all, body⟩
    · rw [alike.bodyTruncated]
      exact .inl ((flagged r' id).truncated h)
    · refine .inr ⟨received all, ?_⟩
      rw [log, deliveredTo_foreign foreign]
      exact body

/-- A request goes to a worker only when its stream is complete. -/
lemma Progress.dispatch (hs : Progress peer h sid s) (bound : Bound s) (heard : Heard sid s s.log)
    (mem : r ∈ s.completed) (alive : s.ngh3Dead = false) :
    Progress peer h sid (s.modifyObj r fun x => { x with dispatched := true }) := by
  have same : ∀ {α : Type} (f : H3Stream → α), (∀ x, f { x with dispatched := true } = f x) →
      ∀ r', f ((s.modifyObj r fun x => { x with dispatched := true }).objs r') = f (s.objs r') := by
    intro α f keep
    exact update_rel (P := fun x y => f y = f x) (keep _) fun _ => rfl
  have id := same H3Stream.streamId fun _ => rfl
  have truncated := same H3Stream.bodyTruncated fun _ => rfl
  refine ⟨hs.fed, hs.delivered, ?_, ?_⟩
  · intro r' mine complete
    rw [id] at mine
    rw [same H3Stream.bodyComplete fun _ => rfl] at complete
    rw [truncated, same H3Stream.headersComplete fun _ => rfl]
    exact hs.complete r' mine complete
  · intro r' mine dispatched
    rw [id] at mine
    rw [truncated]
    by_cases eq : r' = r
    · subst eq
      have whole := bound.completed r' mem
      simp only [H3Stream.whole, Bool.and_eq_true] at whole
      rcases hs.complete r' mine whole.2 with h | h | received | ⟨_, headless⟩
      · exact .inl h
      · rw [alive] at h
        cases h
      · rcases hs.delivered with h | stopped | all
        · rw [alive] at h
          cases h
        · exact .inl (heard.stopped stopped r' (mine ▸ bound.headers r' whole.1.2))
        · refine .inr ⟨received, all.trans ?_⟩
          rw [hs.fed, received.2]
      -- an aborted stream has no complete headers, and is not dispatched
      · rw [whole.1.2] at headless
        cases headless
    · rw [Session.modifyObj_objs, Function.update_of_ne eq] at dispatched
      exact hs.dispatched r' mine dispatched

/-- Every move keeps the progress of the upload. -/
lemma Progress.move (hs : Progress peer h sid s) (owns : Owns s) (bound : Bound s)
    (heard : Heard sid s s.log) (bidi : sidIsBidi sid = true) (laws : Lawful peer h sid t.log)
    (m : Move s t) : Progress peer h sid t := by
  have heard' := heard.move owns bound bidi laws.nghttp3 m
  have bound' := bound.move owns m
  rcases m.calm_or_loud bound with calm | loud
  · exact hs.calm calm
  obtain ⟨es, log⟩ := m.extends
  have before : Lawful peer h sid s.log := by
    rw [log] at laws
    exact laws.before
  cases loud with
  | call cbs rv other => exact hs.called bound laws.nghttp3 (Call.reading_of_other other)
  | @feed r h' data cbs rv hq ne client =>
    have handle := QuicLaw.handle before.quic bound hq
    by_cases mine : (s.objs r).streamId = sid
    · obtain rfl := handle.mpr mine
      exact hs.feed bound (owns.lt_next hq) client mine ne laws
    · exact hs.feed_foreign bound (owns.lt_next hq) client (fun eq => mine (handle.mp eq)) mine
        laws.nghttp3
  | @feedFin r h' u cbs rv hq last ends =>
    by_cases mine : (s.objs r).streamId = sid
    · obtain rfl := (QuicLaw.handle before.quic bound hq).mpr mine
      exact hs.feedFin bound heard' bound' mine last ends laws
    · exact hs.feedFin_foreign bound mine laws.nghttp3
  | dispatch mem alive => exact hs.dispatch bound heard mem alive

/-- In a new session nothing was uploaded. -/
lemma Progress.init (b m : Nat) : Progress peer h sid (.init b m) :=
  ⟨rfl, .inr (.inr rfl), fun _ _ => nofun, fun _ _ => nofun⟩

/-- In a new session nothing was heard. -/
lemma Heard.init (b m : Nat) : Heard sid (.init b m) [] :=
  ⟨⟨fun _ => rfl, nofun, fun _ _ _ => ⟨rfl, rfl⟩⟩, nofun, nofun, fun _ _ => nofun⟩

/-- Along every sequence of moves that meets the laws, the request gets no further than what was
read of it, and what the object has heard is what was reported. -/
lemma Progress.moves {b m : Nat} (bidi : sidIsBidi sid = true) (ms : Moves (.init b m) t)
    (laws : Lawful peer h sid t.log) : Progress peer h sid t ∧ Heard sid t t.log := by
  induction ms with
  | refl => exact ⟨.init b m, .init b m⟩
  | @tail s t ms mv ih =>
    have owns := (Owns.init b m).moves ms
    have bound := (Bound.init b m).moves (Owns.init b m) ms
    obtain ⟨es, log⟩ := mv.extends
    have before : Lawful peer h sid s.log := by
      rw [log] at laws
      exact laws.before
    obtain ⟨hs, heard⟩ := ih before
    exact ⟨hs.move owns bound heard bidi laws mv, heard.move owns bound bidi laws.nghttp3 mv⟩

end

/-- In every run in which QUIC and nghttp3 keep their laws and the stream is not found aborted after
its headers and before its FIN: a request that a worker processes and the access checker lets
through was ended by the client, and its body is what the client sent. -/
theorem processed_upload_complete {b m : Nat} {cs : List Sect} {s : Session} {peer : Peer}
    {h : Handle} {sid : Int} {r : Ref} (run : Run Step (.init b m) cs s)
    (quic : Each (QuicLaw peer h sid) s.log) (nghttp3 : Each (Nghttp3Law sid) s.log)
    (intact : Each (Intact h sid) s.log) (id : (s.objs r).streamId = sid)
    (reached : Sect.enabled s (.process r) = true) (ok : hookAccessChecker (s.objs r) = 0) :
    peer.fin = true ∧ (s.objs r).requestBodyOverflow = false ∧
      (s.objs r).requestBody = Frames.payload peer.sent := by
  simp only [Sect.enabled, Bool.and_eq_true] at reached
  have dispatched := reached.1.2
  have bound := run_bound run
  have whole := bound.dispatched r dispatched
  have bidi : sidIsBidi sid = true := by
    simp only [H3Stream.whole, Bool.and_eq_true, bound.isBidi, id] at whole
    exact whole.1.1
  obtain ⟨progress, heard⟩ := Progress.moves bidi (run_moves run).1 ⟨quic, nghttp3, intact⟩
  have overflow : (s.objs r).requestBodyOverflow = false := by
    by_contra h
    rw [hookAccessChecker, if_pos (Bool.not_eq_false _ ▸ h)] at ok
    cases ok
  have whole' : (s.objs r).bodyTruncated = false := by
    by_contra h
    rw [hookAccessChecker, overflow, if_neg Bool.false_ne_true,
      if_pos (Bool.not_eq_false _ ▸ h)] at ok
    cases ok
  have user := bound.headers r (H3Stream.whole_headersComplete whole)
  rw [id] at user
  rcases progress.dispatched r id dispatched with h | ⟨received, body⟩
  · rw [whole'] at h
    cases h
  · exact ⟨received.1, overflow, (heard.body.body r user overflow).trans body⟩

/-- The beginning of an upload: a HEADERS frame and a DATA frame with the body `ab`. -/
def uploadBegin : List UInt8 := [1, 2, 0, 0, 0, 2, 97, 98]

/-- A drain pass reads the header block and the first DATA frame. -/
def uploadRead : List (Sect × List Answer) :=
  requestOpen ++
  [(.drain, [.order [0, 1, 2, 3], .states .ok .ok, .read (.data uploadBegin),
      .called [.beginHeaders 0, .recvHeader 0 .method [] [80, 79, 83, 84], .endHeaders 0 false,
        .recvData 0 [97, 98]] 8, .read .nothing])]

/-- The client ends the stream after the first DATA frame. -/
theorem processed_upload_complete_ended :
    ∃ cs s, Run Step (.init 65536 1000) cs s ∧ Sect.enabled s (.process 3) = true ∧
      hookAccessChecker (s.objs 3) = 0 ∧ (s.objs 3).requestBody = [97, 98] := by
  let peer : Peer := { sent := uploadBegin, fin := true }
  have eq : (execAll runSect (.init 65536 1000) (uploadRead.append
      [(.drain, [.order [0, 1, 2, 3], .states .ok .ok, .read .fin, .called [] 0]),
        (.dispatch 3, [])])).map
      (fun r => decide (Each (QuicLaw peer 3 0) r.1.log ∧ Each (Nghttp3Law 0) r.1.log ∧
        Each (Intact 3 0) r.1.log ∧ (r.1.objs 3).streamId = 0 ∧
        Sect.enabled r.1 (.process 3) = true ∧ hookAccessChecker (r.1.objs 3) = 0)) =
        some true := by decide +kernel
  obtain ⟨⟨s, cs⟩, h, obs⟩ := Option.map_eq_some_iff.mp eq
  have run : Run Step (.init 65536 1000) cs s := execAll_run runSect_step h
  obtain ⟨quic, nghttp3, intact, id, reached, ok⟩ := of_decide_eq_true obs
  have complete := processed_upload_complete run quic nghttp3 intact id reached ok
  exact ⟨cs, s, run, reached, ok, complete.2.2.trans (by decide)⟩

/-- The client resets the stream after the first of two DATA frames: what was read so far is
processed, and the access checker lets it through. -/
theorem truncated_upload_processed :
    ∃ peer : Peer, peer.fin = false ∧ Frames.payload peer.sent = [97, 98, 99, 100] ∧
      ∃ cs s, Run Step (.init 65536 1000) cs s ∧ Each (QuicLaw peer 3 0) s.log ∧
      Each (Nghttp3Law 0) s.log ∧
        (s.objs 3).streamId = 0 ∧ Sect.enabled s (.process 3) = true ∧
        hookAccessChecker (s.objs 3) = 0 ∧ (s.objs 3).requestBody = [97, 98] := by
  refine ⟨{ sent := uploadBegin ++ [0, 2, 99, 100], fin := false }, rfl, by decide, ?_⟩
  have eq : (execAll runSect (.init 65536 1000) (uploadRead.append
      [(.drain, [.order [0, 1, 2, 3], .states .resetRemote .ok, .called [] 0,
        .called [.streamClose 0 256] 0]), (.dispatch 3, [])])).map
      (fun r => decide (Each (QuicLaw { sent := uploadBegin ++ [0, 2, 99, 100], fin := false } 3 0)
        r.1.log ∧ Each (Nghttp3Law 0) r.1.log ∧ (r.1.objs 3).streamId = 0 ∧
        Sect.enabled r.1 (.process 3) = true ∧ hookAccessChecker (r.1.objs 3) = 0 ∧
        (r.1.objs 3).requestBody = [97, 98])) = some true := by
    decide +kernel
  obtain ⟨⟨s, cs⟩, h, obs⟩ := Option.map_eq_some_iff.mp eq
  exact ⟨cs, s, execAll_run runSect_step h, of_decide_eq_true obs⟩

end ModHttp3.H3

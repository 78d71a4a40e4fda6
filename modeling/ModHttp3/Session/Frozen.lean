import ModHttp3.Session.Heard
import ModHttp3.Session.Identity

/-!
# Requests stay as they were dispatched

Workers read the request of a stream without the lock, so nothing may change it once it was
dispatched. A stream is dispatched only when its body is complete, and `body_complete` is set in
three places. In two of them the end of the stream was read before (`feed_stream_fin`,
`on_end_headers` with a FIN); QUIC keeps reporting the end (`EndLaw`), so `drain_one_stream` does
not read the stream again nor end it once more. In the third, `on_stop_sending`, the stream has lost
its handle. Without a call that reads the stream nghttp3 reports nothing of it (`ReportLaw`), and
only reports change a request.
-/

namespace ModHttp3.H3
open ModHttp3.Lib ModHttp3.Lib.Script

/-- The fields of a stream that its worker reads without the lock. -/
structure Request where
  method : Option (List UInt8)
  scheme : Option (List UInt8)
  authority : Option (List UInt8)
  path : Option (List UInt8)
  headers : Option (List (List UInt8 × List UInt8))
  requestBody : List UInt8
  requestBodyCapacity : Nat
  requestBodyOverflow : Bool

/-- The request of a stream. -/
def H3Stream.request (x : H3Stream) : Request where
  method := x.method
  scheme := x.scheme
  authority := x.authority
  path := x.path
  headers := x.headers
  requestBody := x.requestBody
  requestBodyCapacity := x.requestBodyCapacity
  requestBodyOverflow := x.requestBodyOverflow

/-- The entry passes bytes of the stream, or its end, to nghttp3. -/
def Entry.reads (sid : Int) : Entry → Bool
  | .call c _ _ => (c.reading sid).isSome
  | _ => false

/-- Once the end of the stream with the handle `h` was read or reported, its state is final. -/
def EndLaw (h : Handle) (pre : List Entry) : Entry → Prop
  | .op (.use (.isReadFinished rstate wstate) h') =>
    h' = h → used Use.ends h pre = true → (isReadFinished rstate wstate).1 = true
  | _ => True

/-- nghttp3 reports header blocks and body bytes of a stream only from a call that reads it, and the
end of the request with a header block only when it was told the end of the stream. -/
def ReportLaw (sid : Int) (_ : List Entry) : Entry → Prop
  | .call c cbs _ =>
    (c.reading sid = none → ∀ cb ∈ cbs, cb.reports sid = false) ∧
    (.endHeaders sid true ∈ cbs → (c.reading sid).map Prod.snd = some true)
  | _ => True

instance EndLaw.decidable {h : Handle} {pre : List Entry} : ∀ e, Decidable (EndLaw h pre e)
  | .op (.use (.isReadFinished rstate wstate) h') => inferInstanceAs (Decidable (h' = h →
      used Use.ends h pre = true → (isReadFinished rstate wstate).1 = true))
  | .op (.use (.id _) _) => .isTrue trivial
  | .op (.use (.isWriteBlocked _) _) => .isTrue trivial
  | .op (.use (.read _) _) => .isTrue trivial
  | .op (.use (.write _ _ _) _) => .isTrue trivial
  | .op (.use (.reset _) _) => .isTrue trivial
  | .op (.free _) => .isTrue trivial
  | .got _ _ => .isTrue trivial
  | .call _ _ _ => .isTrue trivial
  | .processed _ _ => .isTrue trivial

instance ReportLaw.decidable {sid : Int} {pre : List Entry} : ∀ e, Decidable (ReportLaw sid pre e)
  | .call c cbs _ =>
    inferInstanceAs (Decidable ((c.reading sid = none → ∀ cb ∈ cbs, cb.reports sid = false) ∧
      (.endHeaders sid true ∈ cbs → (c.reading sid).map Prod.snd = some true)))
  | .got _ _ => .isTrue trivial
  | .op _ => .isTrue trivial
  | .processed _ _ => .isTrue trivial

/-- Nothing is read of the stream, and its request stays as it is. -/
structure Still (sid : Int) (r : Ref) (s t : Session) : Prop where
  request : (t.objs r).request = (s.objs r).request
  kept : (s.objs r).bodyComplete = true → (t.objs r).bodyComplete = true
  complete : (t.objs r).bodyComplete = true → (s.objs r).bodyComplete = true ∨
    (t.objs r).qstream = none
  qstream : (t.objs r).qstream = (s.objs r).qstream ∨ (t.objs r).qstream = none
  log : ∃ es, t.log = s.log ++ es ∧ ∀ e ∈ es, e.reads sid = false

/-- A stream whose request is complete has lost its handle, or its end was reported before the last
entry. -/
def Ended (h : Handle) (sid : Int) (s : Session) : Prop :=
  ∀ r < s.next, (s.objs r).streamId = sid → (s.objs r).bodyComplete = true →
    (s.objs r).qstream = none ∨ used Use.ends h s.log.dropLast = true

/-- What a move does to the stream `sid` with the object `r` and the handle `h`. -/
inductive About (h : Handle) (sid : Int) (r : Ref) (s t : Session) : Prop where
  | still :
    Still sid r s t →
    About h sid r s t
  | fed {data cbs rv} :
    (s.objs r).qstream = some h →
    sidIsServer (s.objs r).streamId = false →
    readable h s.log = true →
    t = s.feed r h data cbs rv →
    About h sid r s t
  | ended {u cbs rv} :
    (s.objs r).qstream = some h →
    s.log.getLast? = some (.op (.use u h)) →
    u.ends = true →
    (s.objs r).bodyComplete = false ∨ readable h s.log.dropLast = true →
    t = s.feedFin r cbs rv →
    About h sid r s t

section
variable {s t u : Session} {r : Ref} {h : Handle} {sid : Int} {cb : Cb} {cbs : List Cb}
  {log es : List Entry}

/-- Only two kinds of use say something about the end of a stream. -/
lemma Entry.opens_cases (h : Handle) (e : Entry) :
    (e.uses Use.ends h = false ∧ ∀ b, e.opens h b = b) ∨
      (∃ rstate wstate, e = .op (.use (.isReadFinished rstate wstate) h)) ∨
      e = .op (.use (.read .fin) h) := by
  cases e with
  | op o =>
    cases o with
    | use u h' =>
      by_cases eq : h' = h
      · subst eq
        cases u with
        | isReadFinished rstate wstate => exact .inr (.inl ⟨rstate, wstate, rfl⟩)
        | read result =>
          cases result with
          | fin => exact .inr (.inr rfl)
          | data | nothing => exact .inl ⟨Bool.and_false _, fun _ => rfl⟩
        | id | isWriteBlocked | write | reset => exact .inl ⟨Bool.and_false _, fun _ => rfl⟩
      · refine .inl ⟨by simp [Entry.uses, eq], fun b => ?_⟩
        rw [Entry.opens.eq_def]
        split
        · rename_i same
          cases same
          exact if_neg eq
        · rename_i same
          cases same
          exact if_neg eq
        · rfl
    | free => exact .inl ⟨rfl, fun _ => rfl⟩
  | got | call | processed => exact .inl ⟨rfl, fun _ => rfl⟩

/-- A handle that can be read has not come to its end. -/
lemma unended_of_readable (quic : Each (EndLaw h) log) (unread : readable h log = true) :
    used Use.ends h log = false := by
  induction log using List.reverseRecOn with
  | nil => rfl
  | append_singleton log e ih =>
    rw [readable_append] at unread
    rcases e.opens_cases h with ⟨unused, keep⟩ | ⟨rstate, wstate, rfl⟩ | rfl
    · rw [keep] at unread
      rw [used_append, ih quic.before unread]
      simp [used, unused]
    · rw [Entry.opens, if_pos rfl, Bool.not_eq_true'] at unread
      have before : used Use.ends h log = false := by
        by_contra ended
        rw [Bool.not_eq_false] at ended
        rw [quic.last rfl ended] at unread
        cases unread
      rw [used_append, before]
      simp [used, Entry.uses, Use.ends, unread]
    · rw [Entry.opens, if_pos rfl] at unread
      cases unread

/-- What was reported before stays reported. -/
lemma used_mono {p : Use → Bool} (used : used p h log = true) : H3.used p h (log ++ es) = true := by
  rw [used_append, used]
  rfl

/-- And before the last entry. -/
lemma used_dropLast_mono {p : Use → Bool} (used : used p h log.dropLast = true) :
    H3.used p h (log ++ es).dropLast = true := by
  rcases List.eq_nil_or_concat es with rfl | ⟨es, e, rfl⟩
  · rw [List.append_nil]
    exact used
  · rw [List.concat_eq_append, ← List.append_assoc, List.dropLast_concat]
    rcases List.eq_nil_or_concat log with rfl | ⟨log, e', rfl⟩
    · cases used
    · rw [List.concat_eq_append, List.dropLast_concat] at used
      rw [List.concat_eq_append, List.append_assoc]
      exact used_mono used

namespace Still

/-- Nothing happened to the request. -/
lemma refl : Still sid r s s := ⟨rfl, id, .inl, .inl rfl, [], (List.append_nil _).symm, nofun⟩

/-- Two such steps in a row. -/
lemma trans (h1 : Still sid r s t) (h2 : Still sid r t u) : Still sid r s u where
  request := h2.request.trans h1.request
  kept complete := h2.kept (h1.kept complete)
  complete := by
    intro complete
    rcases h2.complete complete with before | dropped
    · rcases h1.complete before with before | dropped
      · exact .inl before
      · rcases h2.qstream with eq | eq
        · exact .inr (eq.trans dropped)
        · exact .inr eq
    · exact .inr dropped
  qstream := by
    rcases h2.qstream with eq | eq
    · rw [eq]
      exact h1.qstream
    · exact .inr eq
  log := by
    obtain ⟨es, eq, hes⟩ := h1.log
    obtain ⟨fs, eq', hfs⟩ := h2.log
    refine ⟨es ++ fs, by rw [eq', eq, List.append_assoc], ?_⟩
    intro e mem
    exact (List.mem_append.mp mem).elim (hes e) (hfs e)

/-- A change that concerns neither the request nor the handle. -/
lemma same (request : (t.objs r).request = (s.objs r).request)
    (complete : (t.objs r).bodyComplete = (s.objs r).bodyComplete)
    (qstream : (t.objs r).qstream = (s.objs r).qstream)
    (log : ∃ es, t.log = s.log ++ es ∧ ∀ e ∈ es, e.reads sid = false) : Still sid r s t :=
  ⟨request, fun h => complete.trans h, fun h => .inl (complete.symm.trans h), .inl qstream, log⟩

/-- A change of an object that is not about the request. -/
lemma modifyObj {r' : Ref} {f : H3Stream → H3Stream} (request : ∀ x, (f x).request = x.request)
    (complete : ∀ x, (f x).bodyComplete = x.bodyComplete)
    (qstream : ∀ x, (f x).qstream = x.qstream) :
    Still sid r s (s.modifyObj r' f) := by
  refine same ?_ ?_ ?_ ⟨[], (List.append_nil _).symm, nofun⟩
  · exact update_rel (P := fun x y => y.request = x.request) (request _) (fun _ => rfl) r
  · exact update_rel (P := fun x y => y.bodyComplete = x.bodyComplete) (complete _) (fun _ => rfl) r
  · exact update_rel (P := fun x y => y.qstream = x.qstream) (qstream _) (fun _ => rfl) r

/-- An entry that does not read the stream. -/
lemma emit (e : Entry) (unread : e.reads sid = false) : Still sid r s (s.emit e) := by
  refine same rfl rfl rfl ⟨[e], rfl, ?_⟩
  intro e' mem
  rw [List.mem_singleton.mp mem]
  exact unread

end Still

/-- Callbacks that report nothing leave the request alone. -/
lemma Cb.on_still (max : Nat) (x : H3Stream) (silent : cb.reports cb.sid = false) :
    (cb.on max x).request = x.request := by
  cases cb with
  | stopSending | resetStream | streamClose => rfl
  | beginHeaders | recvHeader | endHeaders | recvData => simp [Cb.reports, Cb.sid] at silent

/-- A callback completes a request with the end of its header block, or it takes the handle away. -/
lemma Cb.on_complete {max : Nat} {x : H3Stream} (complete : (cb.on max x).bodyComplete = true) :
    x.bodyComplete = true ∨ (cb.on max x).qstream = none ∨ cb = .endHeaders cb.sid true := by
  cases cb with
  | endHeaders sid fin =>
    cases fin with
    | true => exact .inr (.inr rfl)
    | false =>
      rw [Cb.on] at complete
      split at complete
      · exact .inl ((Bool.or_false _).symm.trans complete)
      · exact .inl complete
  | recvData sid data =>
    rw [Cb.on] at complete
    rcases recvBody_cases max data x with ⟨eq, _⟩ | eq | ⟨_, _, eq⟩
    all_goals
      rw [eq] at complete
      exact .inl complete
  | beginHeaders sid =>
    obtain ⟨_, eq⟩ := Cb.on_beginHeaders sid max x
    rw [eq] at complete
    exact .inl complete
  | recvHeader sid token name value =>
    obtain ⟨_, _, _, _, _, eq⟩ := Cb.on_recvHeader sid max x
    rw [eq] at complete
    exact .inl complete
  | stopSending => exact .inr (.inl rfl)
  | resetStream | streamClose => exact .inl complete

/-- The callbacks of a call complete a request as one of them does. -/
lemma runCbs_complete (bound : Bound s) (id : (s.objs r).streamId = sid)
    (complete : ((runCbs s cbs).objs r).bodyComplete = true) :
    (s.objs r).bodyComplete = true ∨ ((runCbs s cbs).objs r).qstream = none ∨
    .endHeaders sid true ∈ cbs := by
  induction cbs generalizing s with
  | nil => exact .inl complete
  | cons cb cbs ih =>
    have effect := runCb_effect (s := s) cb
    have bound' := bound.effect effect
    have last := (runCbs_frame (s := runCb s cb) cbs).objs r
    rcases ih bound' ((effect.frame.objs r).streamId.trans id) complete with first | dropped | mem
    · rw [runCb_objs] at first
      split at first
      · rename_i user
        have mine := runCb_sid bound id user
        rcases Cb.on_complete first with before | lost | ends
        · exact .inl before
        · refine .inr (.inl ?_)
          rcases last.qstream with eq | eq
          · refine eq.trans ?_
            rw [runCb_objs, if_pos user]
            exact lost
          · exact eq
        · rw [mine] at ends
          exact .inr (.inr (ends ▸ List.mem_cons_self))
      · exact .inl first
    · exact .inr (.inl dropped)
    · exact .inr (.inr (List.mem_cons_of_mem _ mem))

/-- Callbacks that report nothing of the stream leave it still. -/
lemma runCbs_still (bound : Bound s) (id : (s.objs r).streamId = sid)
    (silent : ∀ cb ∈ cbs, cb.reports sid = false) : Still sid r s (runCbs s cbs) := by
  have frame := (runCbs_frame (s := s) cbs).objs r
  obtain ⟨es, log, resets⟩ := runCbs_log (s := s) cbs
  refine ⟨?_, frame.bodyComplete, ?_, frame.qstream, es, log, ?_⟩
  · clear frame log
    induction cbs generalizing s with
    | nil => rfl
    | cons cb cbs ih =>
      have effect := runCb_effect (s := s) cb
      have bound' := bound.effect effect
      have rest := ih bound' ((effect.frame.objs r).streamId.trans id)
        fun cb mem => silent cb (List.mem_cons_of_mem _ mem)
      refine rest.trans ?_
      rw [runCb_objs]
      split
      · rename_i user
        have mine := runCb_sid bound id user
        exact Cb.on_still _ _ (mine ▸ silent cb List.mem_cons_self)
      · rfl
  · intro complete
    rcases runCbs_complete bound id complete with before | dropped | ends
    · exact .inl before
    · exact .inr dropped
    · have reports := silent _ ends
      simp [Cb.reports] at reports
  · intro e mem
    obtain ⟨err, h, rfl⟩ := resets e mem
    rfl

/-- A call that does not read the stream leaves it still. -/
lemma Still.call {c : Call} {rv : Int} (bound : Bound s) (id : (s.objs r).streamId = sid)
    (other : c.reading sid = none) (law : ReportLaw sid s.log (.call c cbs rv)) :
    Still sid r s (runCbs (s.emit (.call c cbs rv)) cbs) := by
  have unread : (Entry.call c cbs rv).reads sid = false := by
    rw [Entry.reads, other]
    rfl
  exact (Still.emit _ unread).trans (runCbs_still (bound.emit _) id (law.1 other))

/-- So do bytes of another stream. -/
lemma Still.feed {r' : Ref} {h' : Handle} {data : List UInt8} {rv : Int} (bound : Bound s)
    (lt : r' < s.next) (client : sidIsServer (s.objs r').streamId = false)
    (id : (s.objs r).streamId = sid) (other : (s.objs r').streamId ≠ sid)
    (reports : Each (ReportLaw sid) (s.feed r' h' data cbs rv).log) :
    Still sid r s (s.feed r' h' data cbs rv) := by
  have unread : (Call.readStream (s.objs r').streamId data false).reading sid = none := if_neg other
  obtain ⟨es, log, _⟩ := runCbs_log (s := s.reading r' h' data cbs rv) cbs
  have law := (show Each (ReportLaw sid) (_ ++ es) from log ▸ reports).before.last
  have read : Still sid r s (s.reading r' h' data cbs rv) := by
    refine .same rfl rfl rfl
      ⟨[.op (.use (.read (.data data)) h'),
      .call (.readStream (s.objs r').streamId data false) cbs rv], List.append_assoc .., ?_⟩
    simp [Entry.reads, unread]
  have told := runCbs_still (bound.reading lt client) id (law.1 unread)
    (s := s.reading r' h' data cbs rv)
  refine (read.trans told).trans (.same rfl rfl rfl ⟨[], (List.append_nil _).symm, ?_⟩)
  exact fun _ mem => absurd mem List.not_mem_nil

/-- And the end of another stream. -/
lemma Still.feedFin {r' : Ref} {rv : Int} (bound : Bound s) (id : (s.objs r).streamId = sid)
    (other : (s.objs r').streamId ≠ sid)
    (reports : Each (ReportLaw sid) (s.feedFin r' cbs rv).log) :
    Still sid r s (s.feedFin r' cbs rv) := by
  have unread : (Call.readStream (s.objs r').streamId [] true).reading sid = none := if_neg other
  obtain ⟨es, log, _⟩ :=
    runCbs_log (s := s.emit (.call (.readStream (s.objs r').streamId [] true) cbs rv)) cbs
  have law := (show Each (ReportLaw sid) (_ ++ es) from log ▸ reports).before.last
  refine (Still.call bound id unread law).trans ?_
  have same : (s.feedFin r' cbs rv).objs r =
      (runCbs (s.emit (.call (.readStream (s.objs r').streamId [] true) cbs rv)) cbs).objs r := by
    refine Function.update_of_ne ?_ _ _
    rintro rfl
    exact other id
  refine .same ?_ ?_ ?_ ⟨[], (List.append_nil _).symm, nofun⟩
  all_goals rw [same]

/-- What a move does to a stream that is tracked. -/
lemma Move.about (m : Move s t) (owns : Owns s) (bound : Bound s) (sole : Sole h sid s)
    (ids : Each (IdLaw h sid) s.log) (reports : Each (ReportLaw sid) t.log) (lt : r < s.next)
    (id : (s.objs r).streamId = sid) : About h sid r s t := by
  have quiet : ∃ es, s.log = s.log ++ es ∧ ∀ e ∈ es, e.reads sid = false :=
    ⟨[], (List.append_nil _).symm, nofun⟩
  have kept : t.objs r = s.objs r → (∃ es, t.log = s.log ++ es ∧ ∀ e ∈ es, e.reads sid = false) →
      Still sid r s t := by
    intro same log
    refine .same ?_ ?_ ?_ log
    all_goals rw [same]
  have one : ∀ e : Entry, e.reads sid = false →
      ∃ es, s.log ++ [e] = s.log ++ es ∧ ∀ e ∈ es, e.reads sid = false :=
    fun e unread => ⟨[e], rfl, fun e' mem => List.mem_singleton.mp mem ▸ unread⟩
  cases m with
  | acquire | use | freeHeld | popFree | process => exact .still (kept rfl (one _ rfl))
  | track taken => exact .still (kept (Function.update_of_ne lt.ne _ _) quiet)
  | @retrack r' h' mem taken =>
    refine .still (kept (Function.update_of_ne ?_ _ _) quiet)
    rintro rfl
    exact sole.not_retracked ids lt taken id
  | @call c cbs rv other =>
    obtain ⟨es, log, _⟩ := runCbs_log (s := s.emit (.call c cbs rv)) cbs
    rw [log] at reports
    exact .still (.call bound id (Call.reading_of_other other) reports.before.last)
  | @feed r' h' data cbs rv hq ne client unread =>
    by_cases mine : (s.objs r').streamId = sid
    · obtain rfl := sole.unique r' r (owns.lt_next hq) lt mine id
      obtain rfl := (IdLaw.handle ids bound hq).mpr mine
      exact .fed hq client unread rfl
    · exact .still (.feed bound (owns.lt_next hq) client id mine reports)
  | @feedFin r' h' u cbs rv hq last ends unread =>
    by_cases mine : (s.objs r').streamId = sid
    · obtain rfl := sole.unique r' r (owns.lt_next hq) lt mine id
      obtain rfl := (IdLaw.handle ids bound hq).mpr mine
      exact .ended hq last ends unread rfl
    · exact .still (.feedFin bound id mine reports)
  | writeBlocked r' b n =>
    have blocked : Still sid r s (s.modifyObj r' fun x => { x with writeBlocked := b }) :=
      .modifyObj (fun _ => rfl) (fun _ => rfl) fun _ => rfl
    exact .still (blocked.trans (.same rfl rfl rfl ⟨[], (List.append_nil _).symm, nofun⟩))
  | done | cancel | dispatch | undispatch | workerDone =>
    exact .still (.modifyObj (fun _ => rfl) (fun _ => rfl) fun _ => rfl)
  | _ => exact .still (kept rfl quiet)

/-- A new object appears when a stream is tracked. -/
lemma Move.next (m : Move s t) : t.next = s.next ∨ ∃ sid h, t = s.track sid h := by
  cases m with
  | track taken => exact .inr ⟨_, _, rfl⟩
  | call cbs rv => exact .inl (runCbs_frame cbs).next
  | feed cbs rv => exact .inl (runCbs_frame cbs).next
  | feedFin cbs rv => exact .inl (runCbs_frame cbs).next
  | _ => exact .inl rfl

/-- An object keeps its stream. -/
lemma Move.streamId (m : Move s t) (lt : r < s.next) :
    (t.objs r).streamId = (s.objs r).streamId := by
  have update : ∀ (r' : Ref) (x : H3Stream), x.streamId = (s.objs r').streamId →
      (Function.update s.objs r' x r).streamId = (s.objs r).streamId :=
    fun r' x same => update_rel (P := fun x y => y.streamId = x.streamId) same (fun _ => rfl) r
  cases m with
  | track taken => exact congrArg H3Stream.streamId (Function.update_of_ne lt.ne _ _)
  | call cbs rv => exact ((runCbs_frame cbs).objs r).streamId
  | feed cbs rv => exact ((runCbs_frame cbs).objs r).streamId
  | @feedFin r' h u cbs rv =>
    rw [feedFin_objs, ← (told_frame s r' cbs rv r).streamId]
    refine update_rel (P := fun x y => y.streamId = x.streamId) ?_ (fun _ => rfl) r
    rfl
  | retrack | writeBlocked | done | cancel | dispatch | undispatch | workerDone =>
    exact update _ _ rfl
  | _ => rfl

/-- Every move keeps this: bytes of the stream do not complete its request, and its end was reported
before nghttp3 is told of it. -/
lemma Ended.move (hs : Ended h sid s) (owns : Owns s) (bound : Bound s) (sole : Sole h sid s)
    (ids : Each (IdLaw h sid) s.log) (reports : Each (ReportLaw sid) t.log) (m : Move s t) :
    Ended h sid t := by
  intro r lt id complete
  have old : r < s.next → (t.objs r).qstream = none ∨ used Use.ends h t.log.dropLast = true := by
    intro early
    rw [m.streamId early] at id
    obtain ⟨es, log⟩ := m.extends
    have kept : (s.objs r).bodyComplete = true →
        ((t.objs r).qstream = (s.objs r).qstream ∨ (t.objs r).qstream = none) →
        (t.objs r).qstream = none ∨ used Use.ends h t.log.dropLast = true := by
      intro before qstream
      rcases hs r early id before with lost | ended
      · rcases qstream with eq | eq
        · exact .inl (eq.trans lost)
        · exact .inl eq
      · rw [log]
        exact .inr (used_dropLast_mono ended)
    cases m.about owns bound sole ids reports early id with
    | still still =>
      rcases still.complete complete with before | lost
      · exact kept before still.qstream
      · exact .inl lost
    | @fed data cbs rv hq client unread eq =>
      subst eq
      rcases runCbs_complete (s := s.reading r h data cbs rv) (bound.reading early client) id
        complete with
        before | lost | ends
      · exact kept before (Session.feed_frame data cbs rv r).qstream
      · exact .inl lost
      -- bytes without a FIN do not end the stream
      · obtain ⟨fs, log, _⟩ := runCbs_log (s := s.reading r h data cbs rv) cbs
        have law : ReportLaw sid _ (.call (.readStream (s.objs r).streamId data false) cbs rv) :=
          (show Each (ReportLaw sid) (_ ++ fs) from log ▸ reports).before.last
        have reading : (Call.readStream (s.objs r).streamId data false).reading sid =
            some (data, false) :=
          if_pos id
        have fin := law.2 ends
        rw [reading] at fin
        cases fin
    | @ended u cbs rv hq last ends unread eq =>
      subst eq
      obtain ⟨fs, log, _⟩ :=
        runCbs_log (s := s.emit (.call (.readStream (s.objs r).streamId [] true) cbs rv)) cbs
      have reported : used Use.ends h s.log = true := by
        refine List.any_eq_true.mpr ⟨_, List.mem_of_getLast? last, ?_⟩
        rw [Entry.uses, ends, beq_self_eq_true]
        rfl
      refine .inr ?_
      show used Use.ends h (runCbs _ cbs).log.dropLast = true
      rw [log]
      refine used_dropLast_mono ?_
      rw [Session.emit, List.dropLast_concat]
      exact reported
  rcases m.next with next | ⟨sid', h', eq⟩
  · exact old (next ▸ lt)
  · subst eq
    by_cases new : r = s.next
    · subst new
      -- a new object is not complete
      have fresh : (s.track sid' h').objs s.next = .init sid' (some h') := Function.update_self ..
      rw [fresh] at complete
      cases complete
    · exact old (Nat.lt_of_le_of_ne (Nat.le_of_lt_succ lt) new)

/-- A move after the request is complete: QUIC reports the end of the stream, so it is neither read
nor ended again. -/
lemma Ended.still (hs : Ended h sid s) (owns : Owns s) (bound : Bound s) (sole : Sole h sid s)
    (ids : Each (IdLaw h sid) s.log) (quic : Each (EndLaw h) s.log)
    (reports : Each (ReportLaw sid) t.log) (lt : r < s.next) (id : (s.objs r).streamId = sid)
    (complete : (s.objs r).bodyComplete = true) (m : Move s t) : Still sid r s t := by
  have reported : (s.objs r).qstream = some h → used Use.ends h s.log.dropLast = true := by
    intro hq
    rcases hs r lt id complete with lost | reported
    · rw [hq] at lost
      cases lost
    · exact reported
  have split : s.log.dropLast ++ s.log.getLast?.toList = s.log := by
    rcases List.eq_nil_or_concat s.log with eq | ⟨log, e, eq⟩
    · rw [eq]
      rfl
    · rw [eq, List.concat_eq_append, List.dropLast_concat, List.getLast?_concat]
      rfl
  cases m.about owns bound sole ids reports lt id with
  | still still => exact still
  | fed hq client unread eq =>
    have ended : used Use.ends h s.log = true := split ▸ used_mono (reported hq)
    rw [unended_of_readable quic unread] at ended
    cases ended
  | ended hq last ends unread eq =>
    rcases unread with unread | unread
    · rw [complete] at unread
      cases unread
    · rw [← split] at quic
      have ended := reported hq
      rw [unended_of_readable quic.before unread] at ended
      cases ended

/-- What holds along every sequence of moves in which QUIC and nghttp3 keep their laws. -/
lemma Ended.moves {b m : Nat} (ms : Moves (.init b m) t) (ids : Each (IdLaw h sid) t.log)
    (reports : Each (ReportLaw sid) t.log) : Ended h sid t := by
  induction ms with
  | refl => exact nofun
  | tail ms mv ih =>
    obtain ⟨es, log⟩ := mv.extends
    have ids' : Each (IdLaw h sid) _ := (log ▸ ids).before
    have owns := (Owns.init b m).moves ms
    have bound := (Bound.init b m).moves (Owns.init b m) ms
    exact (ih ids' (log ▸ reports).before).move owns bound (.moves ms ids') ids' reports mv

/-- The moves after the request is complete. -/
lemma moves_still {b m : Nat} (first : Moves (.init b m) s) (ms : Moves s t)
    (ids : Each (IdLaw h sid) t.log) (quic : Each (EndLaw h) t.log)
    (reports : Each (ReportLaw sid) t.log) (lt : r < s.next) (id : (s.objs r).streamId = sid)
    (complete : (s.objs r).bodyComplete = true) :
    Still sid r s t ∧ r < t.next ∧ (t.objs r).streamId = sid := by
  induction ms with
  | refl => exact ⟨.refl, lt, id⟩
  | tail ms mv ih =>
    obtain ⟨es, log⟩ := mv.extends
    have ids' : Each (IdLaw h sid) _ := (log ▸ ids).before
    have quic' : Each (EndLaw h) _ := (log ▸ quic).before
    have reports' : Each (ReportLaw sid) _ := (log ▸ reports).before
    obtain ⟨before, lt, id⟩ := ih ids' quic' reports'
    have all := first.trans ms
    have owns := (Owns.init b m).moves all
    have bound := (Bound.init b m).moves (Owns.init b m) all
    have ended := Ended.moves all ids' reports'
    have still := ended.still owns bound (.moves all ids') ids' quic' reports lt id
      (before.kept complete) mv
    refine ⟨before.trans still, ?_, (mv.streamId lt).trans id⟩
    rcases mv.next with next | ⟨_, _, rfl⟩
    · exact next ▸ lt
    · exact Nat.lt_succ_of_lt lt

end

/-- Once a request was dispatched, it stays as it is, and nghttp3 gets no more bytes of its stream
and is not told its end again: at the end of every later section and at any point within. -/
theorem dispatched_request_frozen {b m : Nat} {cs cs' : List Sect} {s t u : Session} {r : Ref}
    {h : Handle} {sid : Int} (run : Run Step (.init b m) cs s)
    (dispatched : (s.objs r).dispatched = true) (id : (s.objs r).streamId = sid)
    (later : Run Step s cs' t)
    (within : u = t ∨ ∃ c as, Sect.enabled t c = true ∧ u = (exec c t as).1)
    (ids : Each (IdLaw h sid) u.log) (quic : Each (EndLaw h) u.log)
    (nghttp3 : Each (ReportLaw sid) u.log) :
    (u.objs r).request = (s.objs r).request ∧
      ∃ es, u.log = s.log ++ es ∧ ∀ data fin cbs rv,
      .call (.readStream sid data fin) cbs rv ∉ es := by
  have bound := run_bound run
  have whole := bound.dispatched r dispatched
  have lt := (bound.userData _ r (bound.headers r (H3Stream.whole_headersComplete whole))).1
  have moves : Moves s u := by
    have before := run_moves_from run later
    rcases within with rfl | ⟨c, as, enabled, rfl⟩
    · exact before
    · exact before.trans (exec_moves (run.append later) enabled as)
  have complete : (s.objs r).bodyComplete = true := by
    simp only [H3Stream.whole, Bool.and_eq_true] at whole
    exact whole.2
  obtain ⟨still, _, _⟩ := moves_still (run_moves run).1 moves ids quic nghttp3 lt id complete
  obtain ⟨es, log, unread⟩ := still.log
  refine ⟨still.request, es, log, ?_⟩
  intro data fin cbs rv mem
  have := unread _ mem
  simp [Entry.reads, Call.reading] at this

/-- The next drain pass asks for the state of its stream, and leaves the request as it is. -/
theorem dispatched_request_frozen_nextPass :
    ∃ cs cs' s t, Run Step (.init 65536 1000) cs s ∧ Run Step s cs' t ∧
    (s.objs 3).dispatched = true ∧
      used Use.ends 3 s.log = true ∧ t.log = s.log ++
        [Entry.op (.use (.isReadFinished .finished .ok) 3)] ∧
      (t.objs 3).request = (s.objs 3).request := by
  have eq : ((execAll runSect (.init 65536 1000) dispatchedGet).bind fun p =>
      (execAll runSect p.1 [(.drain, [.order [0, 1, 2, 3], .states .finished .ok])]).map
        fun q => (p, q, decide ((p.1.objs 3).dispatched = true ∧ (p.1.objs 3).streamId = 0 ∧
          used Use.ends 3 p.1.log = true ∧ q.1.log = p.1.log ++
          [Entry.op (.use (.isReadFinished .finished .ok) 3)] ∧ Each (IdLaw 3 0) q.1.log ∧
          Each (EndLaw 3) q.1.log ∧ Each (ReportLaw 0) q.1.log))).map (·.2.2) =
      some true := by decide +kernel
  obtain ⟨⟨⟨s, cs⟩, ⟨t, cs'⟩, obs⟩, h, rfl⟩ := Option.map_eq_some_iff.mp eq
  obtain ⟨⟨s, cs⟩, first, h⟩ := Option.bind_eq_some_iff.mp h
  obtain ⟨⟨t, cs'⟩, second, h⟩ := Option.map_eq_some_iff.mp h
  simp only [Prod.mk.injEq] at h
  obtain ⟨⟨rfl, rfl⟩, ⟨rfl, rfl⟩, obs⟩ := h
  obtain ⟨dispatched, id, ended, log, ids, quic, nghttp3⟩ := of_decide_eq_true obs
  have run := execAll_run runSect_step first
  have later := execAll_run runSect_step second
  have frozen := dispatched_request_frozen run dispatched id later (.inl rfl) ids quic nghttp3
  exact ⟨cs, cs', s, t, run, later, dispatched, ended, log, frozen.1⟩

end ModHttp3.H3

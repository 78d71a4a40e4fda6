import ModHttp3.Session.Heard
import ModHttp3.Session.Identity

/-!
# What a request can do to its connection

nghttp3 fails for good when one of its callbacks fails, and `drain_one_stream` then marks the
connection as dead. Of the callbacks that report a request only two can fail: `on_begin_headers` for
a stream that is not tracked, and `on_recv_header` when `set_pseudo` does not take the value of a
pseudo header. So a read of a tracked request stream leaves its connection alive exactly if all
pseudo headers in it have between 1 and 8191 bytes (`request_keeps_connection`); it never touches
the other streams.
-/

namespace ModHttp3.H3
open ModHttp3.Lib ModHttp3.Lib.Script

/-- What a callback returns; those that end a header block or bring body bytes return 0 always. -/
def cbRet (s : Session) : Cb → CbRet
  | .beginHeaders sid => (onBeginHeaders s sid).2
  | .recvHeader sid token name value => (onRecvHeader s sid token name value).2
  | _ => .ok

/-- The callbacks of a call return 0, one after the other. -/
def accepted : Session → List Cb → Bool
  | _, [] => true
  | s, cb :: cbs => (cbRet s cb == .ok) && accepted (runCb s cb) cbs

/-- The callback brings no pseudo header, or one with a value that `set_pseudo` takes. -/
def Cb.tame : Cb → Bool
  | .recvHeader _ token _ value => token == .other || (0 < value.length && value.length < 8192)
  | _ => true

/-- The callback brings a header field. -/
def Cb.isField : Cb → Bool
  | .recvHeader _ _ _ _ => true
  | _ => false

/-- What nghttp3 reports of bytes of the stream `sid`: nothing about other streams, and header
fields only after a header block has begun. -/
def Reports (sid : Int) : Bool → List Cb → Prop
  | _, [] => True
  | begun, cb :: cbs =>
    cb.reports sid = true ∧ (cb.isField = true → begun = true) ∧
      Reports sid (begun || cb.begins sid) cbs

instance Reports.decidable (sid : Int) :
    ∀ (begun : Bool) (cbs : List Cb), Decidable (Reports sid begun cbs)
  | _, [] => .isTrue trivial
  | begun, cb :: cbs =>
    have := Reports.decidable sid (begun || cb.begins sid) cbs
    inferInstanceAs (Decidable (cb.reports sid = true ∧ (cb.isField = true → begun = true) ∧
      Reports sid (begun || cb.begins sid) cbs))

section
variable {s : Session} {r r' : Ref} {h : Handle} {sid : Int} {cb : Cb} {cbs : List Cb}

/-- `set_pseudo` takes the values of 1 to 8191 bytes. -/
lemma setPseudo_ok {token : Token} (pseudo : token ≠ .other) (value : List UInt8) (x : H3Stream) :
    (setPseudo x token value).2 = .ok ↔ 0 < value.length ∧ value.length < 8192 := by
  unfold setPseudo
  split
  · rename_i bad
    constructor
    · intro ok
      cases ok
    · rintro ⟨pos, lt⟩
      omega
  · rename_i good
    have lens : 0 < value.length ∧ value.length < 8192 := by omega
    cases token with
    | other => exact absurd rfl pseudo
    | _ => exact ⟨fun _ => lens, fun _ => rfl⟩

/-- A callback that reports something of a stream is one of that stream. -/
lemma Cb.reports_sid (mine : cb.reports sid = true) : cb.sid = sid := by
  cases cb with
  | beginHeaders | recvHeader | endHeaders | recvData => exact beq_iff_eq.mp mine
  | stopSending | resetStream | streamClose => cases mine

/-- The header block of a stream that is being read can begin. -/
lemma onBeginHeaders_ok (pendingSid : s.pendingSid = sid) (pending : s.pendingH3s ≠ none) :
    (onBeginHeaders s sid).2 = .ok ∧ ((onBeginHeaders s sid).1.userData sid).isSome = true := by
  obtain ⟨r, eq⟩ := Option.ne_none_iff_exists'.mp pending
  have bound : (Function.update s.userData sid (some r) sid).isSome = true := by
    rw [Function.update_self]
    rfl
  simp only [onBeginHeaders]
  cases user : s.userData sid with
  | some r' =>
    refine ⟨rfl, ?_⟩
    show (Function.update s.userData sid (some r') sid).isSome = true
    rw [Function.update_self]
    rfl
  | none =>
    rw [if_pos pendingSid, eq]
    exact ⟨rfl, bound⟩

/-- A header field of a stream that nghttp3 can find is taken exactly if it is tame. -/
lemma onRecvHeader_ok {token : Token} {name value : List UInt8}
    (bound : (s.userData sid).isSome = true) :
    (onRecvHeader s sid token name value).2 = .ok ↔
    (Cb.recvHeader sid token name value).tame = true := by
  obtain ⟨r, user⟩ := Option.isSome_iff_exists.mp bound
  simp only [onRecvHeader, user, Cb.tame]
  by_cases other : token = .other
  · simp [other]
  · rw [if_neg other]
    simp [setPseudo_ok other, other]

/-- While a stream is being read, its callbacks are accepted exactly if they are tame. -/
lemma accepted_iff {begun : Bool} (reports : Reports sid begun cbs)
    (begins : begun = true → (s.userData sid).isSome = true) (pendingSid : s.pendingSid = sid)
    (pending : s.pendingH3s ≠ none) : accepted s cbs = true ↔ ∀ cb ∈ cbs, cb.tame = true := by
  induction cbs generalizing s begun with
  | nil => exact ⟨fun _ => nofun, fun _ => rfl⟩
  | cons cb cbs ih =>
    obtain ⟨mine, field, rest⟩ := reports
    have frame := (runCb_effect (s := s) cb).frame
    have ret : cbRet s cb = .ok ↔ cb.tame = true := by
      cases cb with
      | beginHeaders sid' =>
        obtain rfl : sid' = sid := Cb.reports_sid mine
        exact ⟨fun _ => rfl, fun _ => (onBeginHeaders_ok pendingSid pending).1⟩
      | recvHeader sid' token name value =>
        obtain rfl : sid' = sid := Cb.reports_sid mine
        exact onRecvHeader_ok (begins (field rfl))
      | _ => exact ⟨fun _ => rfl, fun _ => rfl⟩
    have next : (begun || cb.begins sid) = true → ((runCb s cb).userData sid).isSome = true := by
      intro either
      rcases Bool.or_eq_true_iff.mp either with before | now
      · obtain ⟨r, user⟩ := Option.isSome_iff_exists.mp (begins before)
        rw [frame.userData sid r user]
        rfl
      · cases cb with
        | beginHeaders sid' =>
          obtain rfl : sid' = sid := Cb.reports_sid mine
          exact (onBeginHeaders_ok pendingSid pending).2
        | _ => cases now
    rw [accepted, Bool.and_eq_true, beq_iff_eq, ret, List.forall_mem_cons]
    rw [ih rest next (frame.pendingSid.trans pendingSid) (frame.pendingH3s ▸ pending)]

/-- Reports of a stream change no object but the one it has. -/
lemma runCbs_others (cbs : List Cb) (mine : ∀ cb ∈ cbs, cb.sid = sid) (bound : Bound s)
    (sole : Sole h sid s) (lt : r < s.next) (id : (s.objs r).streamId = sid) (ne : r' ≠ r) :
    (runCbs s cbs).objs r' = s.objs r' := by
  induction cbs generalizing s with
  | nil => rfl
  | cons cb cbs ih =>
    have effect := runCb_effect (s := s) cb
    have frame := effect.frame
    have bound' := bound.effect effect
    have first : (runCb s cb).objs r' = s.objs r' := by
      rw [runCb_objs, if_neg]
      intro user
      obtain ⟨lt', id', _⟩ := bound'.userData _ _ user
      rw [frame.next] at lt'
      rw [(frame.objs r').streamId, mine cb List.mem_cons_self] at id'
      exact ne (sole.unique r' r lt' lt id' id)
    have rest := ih (fun cb mem => mine cb (List.mem_cons_of_mem _ mem)) bound' (sole.frame frame)
      (frame.next ▸ lt) ((frame.objs r).streamId.trans id)
    exact rest.trans first

/-- All the callbacks of a report are callbacks of its stream. -/
lemma Reports.mine {begun : Bool} (reports : Reports sid begun cbs) : ∀ cb ∈ cbs, cb.sid = sid := by
  induction cbs generalizing begun with
  | nil => exact nofun
  | cons cb cbs ih =>
    obtain ⟨mine, _, rest⟩ := reports
    exact List.forall_mem_cons.mpr ⟨Cb.reports_sid mine, ih rest⟩

end

/-- At any point of any drain pass: when bytes of a tracked request stream are read and nghttp3
fails only if a callback fails, the callbacks return 0, the connection stays alive and all other
streams stay as they are exactly if every pseudo header in these bytes has a value of 1 to 8191
bytes. -/
theorem request_keeps_connection {b m : Nat} {cs : List Sect} {t s : Session} {as : List Answer}
    {r : Ref} {h : Handle} {sid : Int} {data : List UInt8} {cbs : List Cb} {rv : Int}
    (run : Run Step (.init b m) cs t) (enabled : Sect.enabled t .drain = true)
    (within : s = (exec .drain t as).1) (ids : Each (IdLaw h sid) s.log)
    (id : (s.objs r).streamId = sid) (hq : (s.objs r).qstream = some h)
    (client : sidIsServer sid = false) (alive : s.ngh3Dead = false)
    (reports : Reports sid (s.userData sid).isSome cbs)
    (nghttp3 : rv < 0 ↔ accepted (s.reading r h data cbs rv) cbs = false) :
    (accepted (s.reading r h data cbs rv) cbs = true ∧ (s.feed r h data cbs rv).ngh3Dead = false ∧
      ∀ r' ≠ r, (s.feed r h data cbs rv).objs r' = s.objs r') ↔ ∀ cb ∈ cbs, cb.tame = true := by
  have moves : Moves (.init b m) s := within ▸ run_exec_moves run enabled as
  have owns := (Owns.init b m).moves moves
  have bound := (Bound.init b m).moves (Owns.init b m) moves
  have lt := owns.lt_next hq
  have ok : accepted (s.reading r h data cbs rv) cbs = true ↔ ∀ cb ∈ cbs, cb.tame = true := by
    refine accepted_iff reports (fun begun => begun) id ?_
    exact nofun
  have others : ∀ r' ≠ r, (s.feed r h data cbs rv).objs r' = s.objs r' := by
    intro r' ne
    have sole : Sole h sid (s.reading r h data cbs rv) :=
      (Sole.moves moves ids).same rfl (List.Subset.refl _) rfl fun _ => rfl
    exact runCbs_others cbs reports.mine (bound.reading lt (id.symm ▸ client)) sole lt id ne
  rw [← ok]
  constructor
  · rintro ⟨good, _, _⟩
    exact good
  · intro good
    refine ⟨good, ?_, others⟩
    have nonneg : ¬rv < 0 := by
      rw [nghttp3, good]
      nofun
    rw [Session.feed_dead, alive, decide_eq_false nonneg]
    rfl

/-- A GET request without a body arrives on the first stream. -/
theorem request_keeps_connection_get :
    ∃ cs s, Run Step (.init 65536 1000) cs s ∧ (s.objs 3).streamId = 0 ∧
      (s.feed 3 3 [1, 0] [.beginHeaders 0, .recvHeader 0 .method [] [71, 69, 84],
        .endHeaders 0 false]
        2).ngh3Dead = false := by
  let cbs : List Cb := [.beginHeaders 0, .recvHeader 0 .method [] [71, 69, 84], .endHeaders 0 false]
  have eq : (execAll runSect (.init 65536 1000) requestOpen).map
      (fun r => decide (Sect.enabled r.1 .drain = true ∧ Each (IdLaw 3 0) r.1.log ∧
        (r.1.objs 3).streamId = 0 ∧ (r.1.objs 3).qstream = some 3 ∧ r.1.ngh3Dead = false ∧
        Reports 0 (r.1.userData 0).isSome cbs ∧ accepted (r.1.reading 3 3 [1, 0] cbs 2) cbs =
        true)) =
      some true := by decide +kernel
  obtain ⟨⟨s, cs⟩, h, obs⟩ := Option.map_eq_some_iff.mp eq
  obtain ⟨enabled, ids, id, hq, alive, reports, good⟩ := of_decide_eq_true obs
  have run := execAll_run runSect_step h
  have within : s = (exec .drain s []).1 := rfl
  have nghttp3 : (2 : Int) < 0 ↔ accepted (s.reading 3 3 [1, 0] cbs 2) cbs = false := by
    rw [good]
    decide
  have keeps := request_keeps_connection run enabled within ids id hq rfl alive reports nghttp3
  refine ⟨cs, s, run, id, ?_⟩
  exact (keeps.mpr (by decide)).2.1

/-- A request whose path has 8192 bytes. -/
def longPath : List Cb := [.beginHeaders 0, .recvHeader 0 .path [] (List.replicate 8192 47)]

/-- It brings its connection down. -/
theorem long_path_kills_connection :
    ∃ cs s, Run Step (.init 65536 1000) cs s ∧ Sect.enabled s .drain = true ∧
    Each (IdLaw 3 0) s.log ∧
      (s.objs 3).streamId = 0 ∧ (s.objs 3).qstream = some 3 ∧ s.ngh3Dead = false ∧
      Reports 0 (s.userData 0).isSome longPath ∧
      accepted (s.reading 3 3 [1, 0] longPath (-902)) longPath = false ∧
      (s.feed 3 3 [1, 0] longPath (-902)).ngh3Dead = true := by
  have eq : (execAll runSect (.init 65536 1000) requestOpen).map
      (fun r => decide (Sect.enabled r.1 .drain = true ∧ Each (IdLaw 3 0) r.1.log ∧
        (r.1.objs 3).streamId = 0 ∧ (r.1.objs 3).qstream = some 3 ∧ r.1.ngh3Dead = false)) =
      some true := by decide +kernel
  obtain ⟨⟨s, cs⟩, h, obs⟩ := Option.map_eq_some_iff.mp eq
  obtain ⟨enabled, ids, id, hq, alive⟩ := of_decide_eq_true obs
  have reports : Reports 0 (s.userData 0).isSome longPath :=
    ⟨rfl, nofun, rfl, fun _ => Bool.or_true _, trivial⟩
  have untamed : ¬∀ cb ∈ longPath, cb.tame = true := by
    intro tame
    have path := tame _ (List.mem_cons_of_mem _ List.mem_cons_self)
    rw [Cb.tame, Bool.or_eq_true, Bool.and_eq_true, decide_eq_true_iff,
      List.length_replicate] at path
    rcases path with other | ⟨_, lt⟩
    · cases other
    · exact absurd (of_decide_eq_true lt) (Nat.lt_irrefl _)
  have ok : accepted (s.reading 3 3 [1, 0] longPath (-902)) longPath = true ↔
      ∀ cb ∈ longPath, cb.tame = true :=
    accepted_iff reports (fun begun => begun) id nofun
  rw [← ok, Bool.not_eq_true] at untamed
  refine ⟨cs, s, execAll_run runSect_step h, enabled, ids, id, hq, alive, reports, untamed, ?_⟩
  rw [Session.feed_dead]
  exact Bool.or_true _

end ModHttp3.H3

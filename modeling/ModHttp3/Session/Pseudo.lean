import ModHttp3.Session.Fields

/-!
# The pseudo headers of a request stream

`HeaderLaw` is what nghttp3 promises about the header block of a request: it begins when bytes of
the stream are passed to it, fields come after its beginning and pseudo headers only before its end,
and it ends only if the callbacks took all its fields and the pseudo headers are those of an
ordinary request or of a CONNECT request. The fields may come in any order and in any number of
reads, with anything else in between. Under this law the object of the stream has, at any time, the
pseudo headers that were reported last (`Spoken`).
-/

namespace ModHttp3.H3
open ModHttp3.Lib ModHttp3.Lib.Script

/-- The method of a CONNECT request. -/
def connectMethod : List UInt8 := "CONNECT".toUTF8.toList

/-- The pseudo header of a stream that a token stands for. -/
def H3Stream.pseudo (x : H3Stream) : Token → Option (List UInt8)
  | .method => x.method
  | .scheme => x.scheme
  | .path => x.path
  | .authority => x.authority
  | .other => none

/-- The value a callback reports for a pseudo header of a stream. -/
def Cb.value (sid : Int) (token : Token) : Cb → Option (List UInt8)
  | .recvHeader sid' token' _ value => if sid' = sid ∧ token' = token then some value else none
  | _ => none

/-- The values reported for a pseudo header. -/
def values (sid : Int) (token : Token) (hist : List Cb) : List (List UInt8) :=
  hist.filterMap (Cb.value sid token)

/-- The value that `set_pseudo` stores. -/
def Cb.taken (sid : Int) (token : Token) (cb : Cb) : Option (List UInt8) :=
  (cb.value sid token).filter fun v => 0 < v.length && v.length < 8192

/-- The callbacks of a log. -/
def told (log : List Entry) : List Cb := log.flatMap Entry.cbs

/-- A header block that nghttp3 accepts, as far as pseudo headers go: the callbacks took every
field, and the pseudo headers are those of an ordinary request, or of a CONNECT request, which has
neither scheme nor path. -/
def Admitted (sid : Int) (hist : List Cb) : Prop :=
  (∀ cb ∈ hist, cb.sid = sid → cb.tame = true) ∧
    if values sid .method hist = [connectMethod] then
      (values sid .authority hist).length = 1 ∧ values sid .scheme hist = [] ∧
        values sid .path hist = []
    else
      (values sid .method hist).length = 1 ∧ (values sid .scheme hist).length = 1 ∧
        (values sid .path hist).length = 1

/-- The order of the callbacks of a stream: fields come after the beginning of a header block,
pseudo headers not behind its end, and its end when it is admitted. -/
def CbLaw (sid : Int) (hist : List Cb) : Cb → Prop
  | .recvHeader sid' token _ _ =>
    sid' = sid → hist.any (Cb.begins sid) = true ∧
      (token ≠ .other → hist.any (Cb.endsHeaders sid) = false)
  | .endHeaders sid' _ => sid' = sid → Admitted sid hist
  | _ => True

/-- What nghttp3 may do about the header block of the stream `sid`. -/
def HeaderLaw (sid : Int) (pre : List Entry) : Entry → Prop
  | .call c cbs rv =>
    (cbs.any (Cb.begins sid) = true → (Entry.call c cbs rv).fedTo sid ≠ []) ∧
      EachFrom (CbLaw sid) (told pre) cbs
  | _ => True

instance Admitted.decidable {sid : Int} {hist : List Cb} : Decidable (Admitted sid hist) := by
  unfold Admitted
  infer_instance

instance CbLaw.decidable {sid : Int} (hist : List Cb) : ∀ cb, Decidable (CbLaw sid hist cb)
  | .recvHeader sid' token _ _ =>
    inferInstanceAs (Decidable (sid' = sid → hist.any (Cb.begins sid) = true ∧
      (token ≠ .other → hist.any (Cb.endsHeaders sid) = false)))
  | .endHeaders sid' _ => inferInstanceAs (Decidable (sid' = sid → Admitted sid hist))
  | .beginHeaders _ | .recvData _ _ | .stopSending _ _ | .resetStream _ _ | .streamClose _ _ =>
    .isTrue trivial

instance HeaderLaw.decidable {sid : Int} (pre : List Entry) : ∀ e, Decidable (HeaderLaw sid pre e)
  | .call c cbs rv => inferInstanceAs (Decidable ((cbs.any (Cb.begins sid) = true →
      (Entry.call c cbs rv).fedTo sid ≠ []) ∧ EachFrom (CbLaw sid) (told pre) cbs))
  | .got _ _ => .isTrue trivial
  | .op _ => .isTrue trivial
  | .processed _ _ => .isTrue trivial

section
variable {sid : Int} {token : Token} {hist : List Cb} {cb : Cb} {cbs : List Cb}
  {log es : List Entry}

/-- The values reported with one more callback. -/
lemma values_snoc :
    values sid token (hist ++ [cb]) = values sid token hist ++ (cb.value sid token).toList := by
  cases h : cb.value sid token <;> simp [values, h]

/-- What was told in two logs in a row. -/
lemma told_append : told (log ++ es) = told log ++ told es := List.flatMap_append

/-- Nothing is told by idle entries. -/
lemma told_silent (silent : ∀ e ∈ es, e.idle = true) : told es = [] := by
  rw [told, List.flatMap_eq_nil_iff]
  exact fun e mem => Entry.idle_cbs (silent e mem)

/-- Another stream's callback has no value for this one. -/
lemma Cb.value_sid (ne : cb.sid ≠ sid) : cb.value sid token = none := by
  cases cb with
  | recvHeader => exact if_neg fun h => ne h.1
  | _ => rfl

/-- A tame value is taken. -/
lemma Cb.taken_eq (pseudo : token ≠ .other) (tame : cb.sid = sid → cb.tame = true) :
    cb.taken sid token = cb.value sid token := by
  cases cb with
  | recvHeader sid' token' name value =>
    rw [Cb.taken, Cb.value]
    split
    · rename_i mine
      have fits := tame mine.1
      rw [Cb.tame, Bool.or_eq_true, beq_iff_eq] at fits
      rw [Option.filter_some, if_pos]
      exact fits.resolve_left fun other => pseudo (mine.2.symm.trans other)
    · rfl
  | _ => rfl

/-- The block stays as admitted when no pseudo header follows. -/
lemma Admitted.snoc (h : Admitted sid hist)
    (regular : ∀ token, token ≠ .other → cb.value sid token = none)
    (tame : cb.sid = sid → cb.tame = true) : Admitted sid (hist ++ [cb]) := by
  have same : ∀ token, token ≠ .other → values sid token (hist ++ [cb]) =
      values sid token hist := by
    intro token pseudo
    rw [values_snoc, regular token pseudo, Option.toList_none, List.append_nil]
  refine ⟨?_, ?_⟩
  · rw [List.forall_mem_append, List.forall_mem_singleton]
    exact ⟨h.1, tame⟩
  · rw [same .method nofun, same .scheme nofun, same .path nofun, same .authority nofun]
    exact h.2

/-- Once a header block has ended, an admitted block was reported. -/
lemma admitted_of_ended (law : Each (CbLaw sid) hist)
    (ended : hist.any (Cb.endsHeaders sid) = true) :
    Admitted sid hist := by
  induction hist using List.reverseRecOn with
  | nil => cases ended
  | append_singleton hist cb ih =>
    rw [List.any_append, List.any_cons, List.any_nil, Bool.or_false, Bool.or_eq_true] at ended
    cases cb with
    | recvHeader sid' token name value =>
      have before : hist.any (Cb.endsHeaders sid) = true := ended.resolve_right nofun
      by_cases mine : sid' = sid
      · -- a field of a trailer
        have other : token = .other := by
          by_contra pseudo
          exact absurd before (by rw [(law.last mine).2 pseudo]; nofun)
        subst other
        refine (ih law.before before).snoc (fun token pseudo => ?_) fun _ => rfl
        exact if_neg fun h => pseudo h.2.symm
      · refine (ih law.before before).snoc (fun token _ => Cb.value_sid mine) fun h => absurd h mine
    | endHeaders sid' fin =>
      rcases ended with before | now
      · exact (ih law.before before).snoc (fun _ _ => rfl) fun _ => rfl
      · have block : Admitted sid hist := law.last (beq_iff_eq.mp now)
        exact block.snoc (fun _ _ => rfl) fun _ => rfl
    | beginHeaders | recvData | stopSending | resetStream | streamClose =>
      exact (ih law.before (ended.resolve_right nofun)).snoc (fun _ _ => rfl) fun _ => rfl

/-- The calls of a lawful log make lawful callbacks. -/
lemma told_lawful (law : Each (HeaderLaw sid) log) : Each (CbLaw sid) (told log) := by
  induction log using List.reverseRecOn with
  | nil => trivial
  | append_singleton log e ih =>
    have first := ih law.before
    rw [told_append]
    cases e with
    | call c cbs rv =>
      have cbs' : told [Entry.call c cbs rv] = cbs := List.append_nil _
      rw [cbs']
      exact eachFrom_append.mpr ⟨first, law.last.2⟩
    | _ => exact (List.append_nil (told log)).symm ▸ first

end

/-- The object of a stream has the pseudo headers that were reported last, its other objects have
none; and it knows whether a header block began and ended. -/
structure Spoken (sid : Int) (s : Session) (hist : List Cb) : Prop where
  bound : ∀ r, s.userData sid = some r → ∀ token, token ≠ .other →
    (s.objs r).pseudo token = (hist.filterMap (Cb.taken sid token)).getLast?
  blank : ∀ r, (s.objs r).streamId = sid → s.userData sid ≠ some r →
    ∀ token, (s.objs r).pseudo token = none
  unbound : s.userData sid = none → hist.any (Cb.begins sid) = false ∧ ∀ token,
    values sid token hist = []
  ended : ∀ r, (s.objs r).streamId = sid → (s.objs r).headersComplete = true →
    hist.any (Cb.endsHeaders sid) = true

/-- Two objects that agree on the header block. -/
structure H3Stream.SameBlock (x y : H3Stream) : Prop where
  streamId : y.streamId = x.streamId
  headersComplete : y.headersComplete = x.headersComplete
  pseudo : y.pseudo = x.pseudo

/-- No header block changes; a new object may appear. -/
structure Unspoken (s t : Session) : Prop where
  objs : ∀ r, (s.objs r).SameBlock (t.objs r) ∨
    (∃ sid h, t.objs r = .init sid h) ∧ ∀ sid, s.userData sid ≠ some r
  userData : t.userData = s.userData
  log : told t.log = told s.log

section
variable {s t : Session} {sid : Int} {r : Ref} {x : H3Stream} {hist : List Cb} {cb : Cb}
  {cbs : List Cb}

/-- A block is the same as itself. -/
lemma H3Stream.SameBlock.refl : x.SameBlock x := ⟨rfl, rfl, rfl⟩

/-- A callback stores what it takes. -/
lemma Cb.on_pseudo {max : Nat} {token : Token} (pseudo : token ≠ .other) (mine : cb.sid = sid) :
    (cb.on max x).pseudo token = (cb.taken sid token).or (x.pseudo token) := by
  cases cb with
  | recvHeader sid' token' name value =>
    obtain rfl : sid' = sid := mine
    rw [Cb.on, Cb.taken, Cb.value]
    by_cases other : token' = .other
    · rw [if_pos other, if_neg fun h => pseudo (h.2.symm.trans other)]
      cases token with
      | _ => rfl
    · rw [if_neg other]
      unfold setPseudo
      split
      · rename_i bad
        split
        · rw [Option.filter_some, if_neg]
          · rfl
          · rw [Bool.and_eq_true, decide_eq_true_iff, decide_eq_true_iff]
            omega
        · rfl
      · rename_i good
        by_cases same : token' = token
        · subst same
          rw [if_pos ⟨rfl, rfl⟩, Option.filter_some, if_pos]
          · cases token' with
            | other => exact absurd rfl pseudo
            | _ => rfl
          · rw [Bool.and_eq_true, decide_eq_true_iff, decide_eq_true_iff]
            omega
        · rw [if_neg fun h => same h.2]
          cases token' with
          | other => exact absurd rfl other
          | _ =>
            cases token with
            | _ => first | rfl | exact absurd rfl same
  | beginHeaders sid' =>
    obtain ⟨_, eq⟩ := Cb.on_beginHeaders sid' max x
    rw [eq]
    cases token with
    | _ => rfl
  | endHeaders =>
    rw [Cb.on]
    split
    · cases token with
      | _ => rfl
    · rfl
  | recvData sid' data =>
    rw [Cb.on]
    rcases recvBody_cases max data x with ⟨eq, _⟩ | eq | ⟨_, _, eq⟩
    all_goals
      rw [eq]
      cases token with
      | _ => rfl
  | stopSending | resetStream | streamClose =>
    cases token with
    | _ => rfl

/-- A value of another stream is not taken. -/
lemma Cb.taken_sid {token : Token} (ne : cb.sid ≠ sid) : cb.taken sid token = none := by
  rw [Cb.taken, Cb.value_sid ne]
  rfl

/-- The last value that was taken, with one more callback. -/
lemma getLast?_taken_snoc {token : Token} :
    ((hist ++ [cb]).filterMap (Cb.taken sid token)).getLast? =
      (cb.taken sid token).or (hist.filterMap (Cb.taken sid token)).getLast? := by
  rw [List.filterMap_append]
  cases h : cb.taken sid token with
  | none => simp [h]
  | some v => simp [h]

/-- What no callback brought was not taken. -/
lemma taken_of_values {token : Token} (empty : values sid token hist = []) :
    hist.filterMap (Cb.taken sid token) = [] := by
  rw [values, List.filterMap_eq_nil_iff] at empty
  rw [List.filterMap_eq_nil_iff]
  intro cb mem
  rw [Cb.taken, empty cb mem]
  rfl

/-- A callback of a lawful header block. -/
lemma Spoken.runCb (hs : Spoken sid s hist) (bound : Bound s) (law : CbLaw sid hist cb)
    (pending : cb.begins sid = true → s.pendingSid = sid ∧ s.pendingH3s ≠ none) :
    Spoken sid (runCb s cb) (hist ++ [cb]) := by
  have effect := runCb_effect (s := s) cb
  have frame := effect.frame
  have bound' := bound.effect effect
  refine ⟨?_, ?_, ?_, ?_⟩
  · intro r user token pseudo
    have id : (s.objs r).streamId = sid := by
      rw [← (frame.objs r).streamId]
      exact (bound'.userData sid r user).2.1
    have before : (s.objs r).pseudo token = (hist.filterMap (Cb.taken sid token)).getLast? := by
      by_cases eq : s.userData sid = some r
      · exact hs.bound r eq token pseudo
      · have unbound := userData_new frame user eq
        rw [hs.blank r id eq, taken_of_values ((hs.unbound unbound).2 token)]
        rfl
    rw [getLast?_taken_snoc, runCb_objs]
    split
    · rename_i changed
      rw [Cb.on_pseudo pseudo (runCb_sid bound id changed), before]
    · rename_i other
      have ne : cb.sid ≠ sid := by
        rintro rfl
        exact other user
      rw [Cb.taken_sid ne, before]
      rfl
  · intro r id user
    rw [(frame.objs r).streamId] at id
    rw [runCb_objs_unbound bound id user]
    exact hs.blank r id fun eq => user (frame.userData sid r eq)
  · intro unbound
    have before := userData_unbound frame unbound
    obtain ⟨fresh, empty⟩ := hs.unbound before
    have begins : cb.begins sid = false := by
      by_contra begins
      rw [Bool.not_eq_false] at begins
      exact runCb_begins begins (pending begins) unbound
    have silent : ∀ token, cb.value sid token = Option.none := by
      intro token
      cases cb with
      | recvHeader sid' token' name value =>
        refine if_neg fun h => ?_
        have begun := (law h.1).1
        rw [fresh] at begun
        cases begun
      | _ => rfl
    refine ⟨?_, fun token => ?_⟩
    · rw [List.any_append, fresh, List.any_cons, begins]
      rfl
    · rw [values_snoc, empty, silent]
      rfl
  · intro r id complete
    rw [(frame.objs r).streamId] at id
    rw [List.any_append, Bool.or_eq_true]
    rcases runCb_flags cb bound id with ⟨same, _⟩ | ⟨about, flags⟩
    · rw [same] at complete
      exact .inl (hs.ended r id complete)
    · rcases flags.headers complete with before | ends
      · exact .inl (hs.ended r id before)
      · exact .inr (by rw [List.any_cons, ← about, ends]; rfl)

/-- What an object knows of the block after several callbacks. -/
lemma Spoken.runCbs (hs : Spoken sid s hist) (bound : Bound s) (law : EachFrom (CbLaw sid) hist cbs)
    (pending : cbs.any (Cb.begins sid) = true → s.pendingSid = sid ∧ s.pendingH3s ≠ none) :
    Spoken sid (runCbs s cbs) (hist ++ cbs) := by
  induction cbs generalizing s hist with
  | nil => exact (List.append_nil hist).symm ▸ hs
  | cons cb cbs ih =>
    have effect := runCb_effect (s := s) cb
    have first := hs.runCb bound law.1 fun begins => pending (by rw [List.any_cons, begins]; rfl)
    have rest := ih first (bound.effect effect) law.2 fun begins => by
      rw [effect.frame.pendingSid, effect.frame.pendingH3s]
      exact pending (by rw [List.any_cons, begins, Bool.or_true])
    rwa [List.append_assoc, List.singleton_append] at rest

/-- What was spoken is a matter of the objects and the user data. -/
lemma Spoken.congr (hs : Spoken sid s hist)
    (objs : ∀ r, (s.objs r).SameBlock (t.objs r) ∨
      (∃ sid h, t.objs r = .init sid h) ∧ ∀ sid, s.userData sid ≠ some r)
    (userData : t.userData = s.userData) : Spoken sid t hist := by
  refine ⟨?_, ?_, ?_, ?_⟩
  · intro r user token pseudo
    rw [userData] at user
    rcases objs r with same | ⟨_, unbound⟩
    · rw [same.pseudo]
      exact hs.bound r user token pseudo
    · exact absurd user (unbound sid)
  · intro r id user token
    rw [userData] at user
    rcases objs r with same | ⟨⟨sid', h, new⟩, _⟩
    · rw [same.pseudo]
      exact hs.blank r (same.streamId ▸ id) user token
    · rw [new]
      cases token with
      | _ => rfl
  · rw [userData]
    exact hs.unbound
  · intro r id complete
    rcases objs r with same | ⟨⟨sid', h, new⟩, _⟩
    · exact hs.ended r (same.streamId ▸ id) (same.headersComplete ▸ complete)
    · rw [new] at complete
      cases complete

/-- A move that tells nothing leaves what the object knows. -/
lemma Unspoken.spoken (quiet : Unspoken s t) (hs : Spoken sid s (told s.log)) :
    Spoken sid t (told t.log) := by
  rw [quiet.log]
  exact hs.congr quiet.objs quiet.userData

/-- A marked object has the same block. -/
lemma H3Stream.Marked.sameBlock {y : H3Stream} (marked : x.Marked y) : x.SameBlock y := by
  cases marked with
  | intro => exact ⟨rfl, rfl, rfl⟩

/-- A quiet move tells nothing. -/
lemma Quiet.unspoken (quiet : Quiet s t) : Unspoken s t := by
  obtain ⟨es, log, idle⟩ := quiet.log
  refine ⟨fun r => (quiet.objs r).imp_left H3Stream.Marked.sameBlock, quiet.userData, ?_⟩
  rw [log, told_append, told_silent idle, List.append_nil]

/-- A call of nghttp3 with its callbacks, made in a state with the objects of `s`. -/
lemma Spoken.called {u : Session} {c : Call} {rv : Int} (hs : Spoken sid s (told s.log))
    (bound : Bound u) (objs : u.objs = s.objs) (userData : u.userData = s.userData)
    {pre : List Entry} (silent : told pre = told s.log) (log : u.log = pre ++ [Entry.call c cbs rv])
    (law : Each (HeaderLaw sid) (H3.runCbs u cbs).log)
    (pending : (Entry.call c cbs rv).fedTo sid ≠ [] → u.pendingSid = sid ∧ u.pendingH3s ≠ none) :
    Spoken sid (H3.runCbs u cbs) (told (H3.runCbs u cbs).log) := by
  obtain ⟨es, log', idle⟩ := runCbs_silent (s := u) cbs
  rw [log', log] at law ⊢
  obtain ⟨begins, order⟩ : HeaderLaw sid pre (.call c cbs rv) := law.entry
  have before : Spoken sid u (told s.log) := by
    refine hs.congr (fun r => .inl ?_) userData
    rw [objs]
    exact .refl
  have called : told [Entry.call c cbs rv] = cbs := List.append_nil _
  rw [told_append, told_append, told_silent idle, called, silent, List.append_nil]
  rw [silent] at order
  exact before.runCbs bound order fun begun => pending (begins begun)

/-- Every move keeps what the objects have in agreement with what was reported. -/
theorem Spoken.move (hs : Spoken sid s (told s.log)) (owns : Owns s) (bound : Bound s)
    (law : Each (HeaderLaw sid) t.log) (m : Move s t) : Spoken sid t (told t.log) := by
  rcases m.quiet_or_loud bound with quiet | loud
  · exact quiet.unspoken.spoken hs
  cases loud with
  | @call c cbs rv other =>
    refine hs.called (bound.emit _) rfl rfl rfl rfl law fun fed => ?_
    rw [Entry.fedTo, Call.reading_of_other other] at fed
    exact absurd rfl fed
  | @feed r h data cbs rv hq ne client =>
    have silent : told (s.log ++ [Entry.op (.use (.read (.data data)) h)]) = told s.log := by
      rw [told_append]
      exact List.append_nil _
    have told :=
      hs.called (bound.reading (owns.lt_next hq) client) rfl rfl silent rfl law fun fed => ?_
    · exact told.congr (fun _ => .inl .refl) rfl
    · by_cases mine : (s.objs r).streamId = sid
      · exact ⟨mine, by rintro ⟨⟩⟩
      · rw [Entry.fedTo, Call.reading, if_neg mine] at fed
        exact absurd rfl fed
  | @feedFin r h u cbs rv hq last ends =>
    have told := hs.called (bound.emit (.call (.readStream (s.objs r).streamId [] true) cbs rv)) rfl
      rfl rfl rfl law
      fun fed => ?_
    · refine told.congr (fun r' => .inl ?_) rfl
      refine update_rel (P := H3Stream.SameBlock) ?_ (fun _ => .refl) r'
      exact ⟨rfl, rfl, rfl⟩
    · rw [Entry.fedTo, Call.reading] at fed
      split at fed <;> exact absurd rfl fed
  | @dispatch r mem alive =>
    refine hs.congr (fun r' => .inl ?_) rfl
    refine update_rel (P := H3Stream.SameBlock) ?_ (fun _ => .refl) r'
    exact ⟨rfl, rfl, rfl⟩

/-- A new session was told nothing. -/
lemma Spoken.init (b m : Nat) : Spoken sid (.init b m) [] where
  bound := nofun
  blank _ _ _ token := by
    cases token with
    | _ => rfl
  unbound _ := ⟨rfl, fun _ => rfl⟩
  ended := nofun

/-- In every run an object knows the pseudo headers that were reported for its stream. -/
lemma Spoken.moves {b m : Nat} (ms : Moves (.init b m) s) (law : Each (HeaderLaw sid) s.log) :
    Spoken sid s (told s.log) := by
  induction ms with
  | refl => exact .init b m
  | tail ms mv ih =>
    obtain ⟨es, log⟩ := mv.extends
    have owns := (Owns.init b m).moves ms
    have bound := (Bound.init b m).moves (Owns.init b m) ms
    exact (ih (log ▸ law).before).move owns bound law mv

/-- When a header block has ended, the stream has the pseudo headers of an ordinary request or of a
CONNECT request. -/
theorem pseudo_of_ended {b m : Nat} (ms : Moves (.init b m) s) (law : Each (HeaderLaw sid) s.log)
    (id : (s.objs r).streamId = sid) (complete : (s.objs r).headersComplete = true) :
    (∃ method scheme path, (s.objs r).method = some method ∧ method ≠ connectMethod ∧
      (s.objs r).scheme = some scheme ∧ (s.objs r).path = some path) ∨
    (∃ authority, (s.objs r).method = some connectMethod ∧ (s.objs r).authority = some authority ∧
      (s.objs r).scheme = none ∧ (s.objs r).path = none) := by
  have spoken := Spoken.moves ms law
  have bound := (Bound.init b m).moves (Owns.init b m) ms
  have user := bound.headers r complete
  rw [id] at user
  obtain ⟨tame, block⟩ := admitted_of_ended (told_lawful law) (spoken.ended r id complete)
  have reported : ∀ token, token ≠ .other → (s.objs r).pseudo token =
      (values sid token (told s.log)).getLast? := by
    intro token pseudo
    rw [spoken.bound r user token pseudo, values]
    congr 1
    exact List.filterMap_congr fun cb mem => Cb.taken_eq pseudo (tame cb mem)
  have method := reported .method nofun
  have scheme := reported .scheme nofun
  have path := reported .path nofun
  have authority := reported .authority nofun
  split at block
  · rename_i connect
    obtain ⟨one, noScheme, noPath⟩ := block
    obtain ⟨a, eq⟩ := List.length_eq_one_iff.mp one
    rw [connect] at method
    rw [noScheme] at scheme
    rw [noPath] at path
    rw [eq] at authority
    exact .inr ⟨a, method, authority, scheme, path⟩
  · rename_i ordinary
    obtain ⟨oneMethod, oneScheme, onePath⟩ := block
    obtain ⟨v, eqMethod⟩ := List.length_eq_one_iff.mp oneMethod
    obtain ⟨sc, eqScheme⟩ := List.length_eq_one_iff.mp oneScheme
    obtain ⟨p, eqPath⟩ := List.length_eq_one_iff.mp onePath
    rw [eqMethod] at method ordinary
    rw [eqScheme] at scheme
    rw [eqPath] at path
    refine .inl ⟨v, sc, p, method, ?_, scheme, path⟩
    rintro rfl
    exact ordinary rfl

end

end ModHttp3.H3

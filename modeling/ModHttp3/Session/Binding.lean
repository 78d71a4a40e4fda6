import ModHttp3.Session.Handles

/-!
# Which streams nghttp3 can reach

nghttp3 finds a stream object through the `stream_user_data` that `on_begin_headers` stores for its
id, and the only stream it can store is the one whose bytes are being read. So the object bound to
an id has this id, was opened by the client, and stays bound (`Bound`); a stream whose header block
is complete is bound. A stream goes to a worker only with its headers and its body complete, and
those flags are never cleared.
-/

namespace ModHttp3.H3
open ModHttp3.Lib ModHttp3.Lib.Script

/-- The stream has a complete request. -/
def H3Stream.whole (x : H3Stream) : Bool := x.isBidi && x.headersComplete && x.bodyComplete

/-- Streams, ids, handles and user data fit together. -/
structure Bound (s : Session) : Prop where
  nodup : s.streams.Nodup
  isBidi : ∀ r, (s.objs r).isBidi = sidIsBidi (s.objs r).streamId
  got : ∀ r h, (s.objs r).qstream = some h → .got h (s.objs r).streamId ∈ s.log
  userData : ∀ sid r, s.userData sid = some r →
    r < s.next ∧ (s.objs r).streamId = sid ∧ sidIsServer sid = false
  pending : ∀ r, s.pendingH3s = some r →
    r < s.next ∧ (s.objs r).streamId = s.pendingSid ∧ sidIsServer s.pendingSid = false
  headers : ∀ r, (s.objs r).headersComplete = true → s.userData (s.objs r).streamId = some r
  completed : ∀ r ∈ s.completed, (s.objs r).whole = true
  dispatched : ∀ r, (s.objs r).dispatched = true → (s.objs r).whole = true

section
variable {s t u : Session} {r : Ref} {h : Handle} {x y : H3Stream}

/-- A request that is whole stays whole. -/
lemma H3Stream.Frame.whole (frame : x.Frame y) (hx : x.whole = true) : y.whole = true := by
  simp only [H3Stream.whole, Bool.and_eq_true] at hx ⊢
  exact ⟨⟨frame.isBidi.trans hx.1.1, frame.headersComplete hx.1.2⟩, frame.bodyComplete hx.2⟩

/-- A request is ready if it is whole and was not dispatched. -/
lemma H3Stream.ready_iff : x.ready = true ↔ x.whole = true ∧ x.dispatched = false := by
  simp [H3Stream.ready, H3Stream.whole]

/-- A whole request has its headers. -/
lemma H3Stream.whole_headersComplete (hx : x.whole = true) : x.headersComplete = true := by
  simp only [H3Stream.whole, Bool.and_eq_true] at hx
  exact hx.1.2

/-- A new session has no streams. -/
lemma Bound.init (b m : Nat) : Bound (.init b m) :=
  ⟨List.nodup_nil, fun _ => rfl, nofun, nofun, nofun, nofun, nofun, nofun⟩

/-- The callbacks change objects within their frame, bound ones only. -/
lemma Bound.effect (hs : Bound s) (h : Effect s t) : Bound t := by
  have frame := h.frame
  have bound : ∀ sid r, t.userData sid = some r →
      r < t.next ∧ (t.objs r).streamId = sid ∧ sidIsServer sid = false := by
    intro sid r bound
    rw [frame.next, (frame.objs r).streamId]
    rcases h.userData bound with before | ⟨rfl, pending⟩
    · exact hs.userData sid r before
    · exact hs.pending r pending
  refine ⟨frame.streams ▸ hs.nodup, ?_, ?_, bound, ?_, ?_, ?_, ?_⟩
  · intro r
    rw [(frame.objs r).isBidi, (frame.objs r).streamId]
    exact hs.isBidi r
  · intro r h' hq
    obtain ⟨es, log, _⟩ := h.log
    rw [log, (frame.objs r).streamId]
    rcases (frame.objs r).qstream with eq | eq
    · exact List.mem_append_left _ (hs.got r h' (eq ▸ hq))
    · rw [eq] at hq
      cases hq
  · intro r pending
    rw [frame.next, (frame.objs r).streamId, frame.pendingSid]
    exact hs.pending r (frame.pendingH3s ▸ pending)
  · intro r headers
    rcases h.touched r with same | ⟨sid, touched⟩
    · rw [same] at headers ⊢
      exact frame.userData _ r (hs.headers r headers)
    · rw [(bound sid r touched).2.1]
      exact touched
  · intro r mem
    exact (frame.objs r).whole (hs.completed r (frame.completed ▸ mem))
  · intro r dispatched
    exact (frame.objs r).whole (hs.dispatched r ((frame.objs r).dispatched ▸ dispatched))

/-- Callbacks keep the bindings. -/
lemma Bound.runCbs (hs : Bound s) (cbs : List Cb) : Bound (runCbs s cbs) := by
  induction cbs generalizing s with
  | nil => exact hs
  | cons cb cbs ih => exact ih (hs.effect (runCb_effect cb))

/-- A change of one object that keeps its id, its handle and its progress. -/
lemma Bound.modifyObj (hs : Bound s) {f : H3Stream → H3Stream}
    (id : (f (s.objs r)).streamId = (s.objs r).streamId)
    (isBidi : (f (s.objs r)).isBidi = (s.objs r).isBidi)
    (qstream : (f (s.objs r)).qstream = (s.objs r).qstream)
    (headers : (f (s.objs r)).headersComplete = (s.objs r).headersComplete)
    (whole : (s.objs r).whole = true → (f (s.objs r)).whole = true)
    (dispatched : (f (s.objs r)).dispatched = true → (s.objs r).whole = true) :
    Bound (s.modifyObj r f) := by
  have id := update_rel (P := fun x y => y.streamId = x.streamId) id fun _ => rfl
  have isBidi := update_rel (P := fun x y => y.isBidi = x.isBidi) isBidi fun _ => rfl
  have qstream := update_rel (P := fun x y => y.qstream = x.qstream) qstream fun _ => rfl
  have headers :=
    update_rel (P := fun x y => y.headersComplete = x.headersComplete) headers fun _ => rfl
  have keeps := update_rel (P := fun x y => x.whole = true → y.whole = true) whole fun _ hx => hx
  refine ⟨hs.nodup, ?_, ?_, ?_, ?_, ?_, ?_, ?_⟩
  · intro r'
    rw [Session.modifyObj_objs, isBidi, id]
    exact hs.isBidi r'
  · intro r' h hq
    rw [Session.modifyObj_objs] at hq ⊢
    rw [id]
    exact hs.got r' h (qstream r' ▸ hq)
  · intro sid r' bound
    rw [Session.modifyObj_objs, id]
    exact hs.userData sid r' bound
  · intro r' pending
    rw [Session.modifyObj_objs, id]
    exact hs.pending r' pending
  · intro r' complete
    rw [Session.modifyObj_objs] at complete ⊢
    rw [id]
    exact hs.headers r' (headers r' ▸ complete)
  · exact fun r' mem => keeps r' (hs.completed r' mem)
  · refine fun r' => update_rel
      (P := fun x y => (x.dispatched = true → x.whole = true) → y.dispatched = true →
        y.whole = true)
      ?_ (fun _ hx => hx) r' (hs.dispatched r')
    exact fun _ d => whole (dispatched d)

/-- A change within the frame that leaves the handle and the header flag alone. -/
lemma Bound.mild (hs : Bound s) {f : H3Stream → H3Stream} (mild : Mild f)
    (headers : (f (s.objs r)).headersComplete = (s.objs r).headersComplete) :
    Bound (s.modifyObj r f) := by
  obtain ⟨frame, qstream⟩ := mild (s.objs r)
  refine hs.modifyObj frame.streamId frame.isBidi qstream headers frame.whole ?_
  intro dispatched
  exact hs.dispatched r (frame.dispatched ▸ dispatched)

/-- A new object is bound nowhere. -/
lemma Bound.track (hs : Bound s) {sid : Int} (got : .got h sid ∈ s.log)
    (tracked : ∀ r ∈ s.streams, r < s.next) :
    Bound (s.track sid h) := by
  have old : ∀ r < s.next, (s.track sid h).objs r = s.objs r :=
    fun r lt => Function.update_of_ne lt.ne _ _
  have new : (s.track sid h).objs s.next = .init sid (some h) := Function.update_self ..
  have other : ∀ r, r ≠ s.next → (s.track sid h).objs r = s.objs r :=
    fun r ne => Function.update_of_ne ne _ _
  have lt : ∀ r, (s.objs r).whole = true → r < s.next := by
    intro r whole
    exact (hs.userData _ r (hs.headers r (H3Stream.whole_headersComplete whole))).1
  refine ⟨?_, ?_, ?_, ?_, ?_, ?_, ?_, ?_⟩
  · refine List.nodup_append.mpr ⟨hs.nodup, by simp, ?_⟩
    intro r mem r' mem'
    rw [List.mem_singleton.mp mem']
    exact (tracked r mem).ne
  · intro r
    by_cases eq : r = s.next
    · rw [eq, new]
      rfl
    · rw [other r eq]
      exact hs.isBidi r
  · intro r h' hq
    by_cases eq : r = s.next
    · rw [eq, new] at hq ⊢
      cases hq
      exact got
    · rw [other r eq] at hq ⊢
      exact hs.got r h' hq
  · intro sid' r bound
    have before := hs.userData sid' r bound
    rw [old r before.1]
    exact ⟨Nat.lt_succ_of_lt before.1, before.2⟩
  · intro r pending
    have before := hs.pending r pending
    rw [old r before.1]
    exact ⟨Nat.lt_succ_of_lt before.1, before.2⟩
  · intro r headers
    by_cases eq : r = s.next
    · rw [eq, new] at headers
      cases headers
    · rw [other r eq] at headers ⊢
      exact hs.headers r headers
  · intro r mem
    have whole := hs.completed r mem
    rw [old r (lt r whole)]
    exact whole
  · intro r dispatched
    by_cases eq : r = s.next
    · rw [eq, new] at dispatched
      cases dispatched
    · rw [other r eq] at dispatched ⊢
      exact hs.dispatched r dispatched

/-- Opening the QUIC stream of an object keeps the bindings. -/
lemma Bound.retrack (hs : Bound s) (got : .got h (s.objs r).streamId ∈ s.log) :
    Bound (s.retrack r h) := by
  have same : ∀ {α : Type} (f : H3Stream → α), (∀ x q, f { x with qstream := q } = f x) →
      ∀ r', f ((s.retrack r h).objs r') = f (s.objs r') := by
    intro α f keep
    exact update_rel (P := fun x y => f y = f x) (keep _ _) fun _ => rfl
  have id := same H3Stream.streamId fun _ _ => rfl
  have whole := same H3Stream.whole fun _ _ => rfl
  refine ⟨hs.nodup, ?_, ?_, ?_, ?_, ?_, ?_, ?_⟩
  · intro r'
    rw [id, same H3Stream.isBidi fun _ _ => rfl]
    exact hs.isBidi r'
  · intro r' h' hq
    rw [id]
    refine update_rel (r := r) (x := { s.objs r with qstream := some h })
      (P := fun x y => (x.qstream = some h' → .got h' x.streamId ∈ s.log) → y.qstream = some h' →
        .got h' x.streamId ∈ s.log) ?_ (fun _ hx => hx) r' (hs.got r' h') hq
    rintro _ ⟨⟩
    exact got
  · intro sid r' bound
    rw [id]
    exact hs.userData sid r' bound
  · intro r' pending
    rw [id]
    exact hs.pending r' pending
  · intro r' headers
    rw [same H3Stream.headersComplete fun _ _ => rfl] at headers
    rw [id]
    exact hs.headers r' headers
  · intro r' mem
    rw [whole]
    exact hs.completed r' mem
  · intro r' dispatched
    rw [same H3Stream.dispatched fun _ _ => rfl] at dispatched
    rw [whole]
    exact hs.dispatched r' dispatched

/-- A change that only adds to the log. -/
lemma Bound.log (hs : Bound s) (log : s.log ⊆ u.log)
    (same : u =
      { s with log := u.log, handles := u.handles, held := u.held, pendingFree := u.pendingFree }) :
    Bound u := by
  rw [same]
  exact ⟨hs.nodup, hs.isBidi, fun r h hq => log (hs.got r h hq), hs.userData, hs.pending,
    hs.headers, hs.completed, hs.dispatched⟩

/-- An entry of the log keeps the bindings. -/
lemma Bound.emit (hs : Bound s) (e : Entry) : Bound (s.emit e) :=
  hs.log (List.subset_append_left _ _) rfl

/-- The stream that is being read can be bound. -/
lemma Bound.reading (hs : Bound s) (lt : r < s.next)
    (client : sidIsServer (s.objs r).streamId = false) {data : List UInt8} {cbs : List Cb}
    {rv : Int} : Bound (s.reading r h data cbs rv) := by
  refine ⟨hs.nodup, hs.isBidi, ?_, hs.userData, ?_, hs.headers, hs.completed, hs.dispatched⟩
  · intro r' h' hq
    exact List.mem_append_left _ (List.mem_append_left _ (hs.got r' h' hq))
  · rintro _ ⟨⟩
    exact ⟨lt, rfl, client⟩

/-- Every move keeps this. -/
theorem Bound.move (hs : Bound s) (owns : Owns s) (m : Move s t) : Bound t := by
  have added : ∀ es : List Entry, s.log ⊆ s.log ++ es := fun es => List.subset_append_left _ es
  cases m with
  | acquire sid => exact hs.log (added _) rfl
  | use u owner other => exact hs.emit _
  | freeHeld => exact hs.log (added _) rfl
  | popFree => exact hs.log (added _) rfl
  | process => exact hs.emit _
  | track taken => exact hs.track taken.2.1 owns.tracked
  | retrack mem taken => exact hs.retrack taken.2.1
  | call cbs rv other => exact (hs.emit _).runCbs cbs
  | @feed r h data cbs rv hq ne client =>
    have fed := (hs.reading (h := h) (owns.lt_next hq) client).runCbs
      (s := s.reading r h data cbs rv) cbs
    exact ⟨fed.nodup, fed.isBidi, fed.got, fed.userData, nofun, fed.headers, fed.completed,
      fed.dispatched⟩
  | @feedFin r h u cbs rv hq last ends =>
    have fed := (hs.emit (.call (.readStream (s.objs r).streamId [] true) cbs rv)).runCbs cbs
    unfold Session.feedFin
    apply Bound.mild
    · exact ⟨fed.nodup, fed.isBidi, fed.got, fed.userData, fed.pending, fed.headers, fed.completed,
        fed.dispatched⟩
    · exact fun x => ⟨⟨rfl, rfl, rfl, rfl, rfl, id, id, fun _ => rfl, .inl rfl⟩, rfl⟩
    · rfl
  | writeBlocked r b n =>
    have blocked : Bound (s.modifyObj r fun x => { x with writeBlocked := b }) :=
      hs.modifyObj rfl rfl rfl rfl id (hs.dispatched r)
    exact ⟨blocked.nodup, blocked.isBidi, blocked.got, blocked.userData, blocked.pending,
      blocked.headers, blocked.completed, blocked.dispatched⟩
  | done r | cancel r | workerDone => exact hs.modifyObj rfl rfl rfl rfl id (hs.dispatched _)
  | @completed r ready =>
    refine ⟨hs.nodup, hs.isBidi, hs.got, hs.userData, hs.pending, hs.headers, ?_, hs.dispatched⟩
    intro r' mem
    rcases List.mem_append.mp mem with mem | mem
    · exact hs.completed r' mem
    · rw [List.mem_singleton.mp mem]
      exact (H3Stream.ready_iff.mp ready).1
  | newPass =>
    exact ⟨hs.nodup, hs.isBidi, hs.got, hs.userData, hs.pending, hs.headers, nofun, hs.dispatched⟩
  | @reclaim r rec =>
    exact ⟨hs.nodup.erase r, hs.isBidi, hs.got, hs.userData, hs.pending, hs.headers, hs.completed,
      hs.dispatched⟩
  | @dispatch r mem alive => exact hs.modifyObj rfl rfl rfl rfl id fun _ => hs.completed r mem
  | undispatch => exact hs.modifyObj rfl rfl rfl rfl id nofun
  | _ =>
    exact ⟨hs.nodup, hs.isBidi, hs.got, hs.userData, hs.pending, hs.headers, hs.completed,
      hs.dispatched⟩

/-- Moves keep the bindings. -/
lemma Bound.moves (hs : Bound s) (owns : Owns s) (ms : Moves s t) : Bound t := by
  induction ms with
  | refl => exact hs
  | tail ms m ih => exact ih.move (owns.moves ms) m

end

/-- In every run streams, ids, handles and user data fit together. -/
lemma run_bound {b m : Nat} {cs : List Sect} {s : Session} (run : Run Step (.init b m) cs s) :
    Bound s :=
  (Bound.init b m).moves (Owns.init b m) (run_moves run).1

end ModHttp3.H3

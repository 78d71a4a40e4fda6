import ModHttp3.Lib.Halting
import ModHttp3.Session.Moves

/-!
# What a flush does

`flush_nghttp3` first re-enables streams whose send buffer has room again (`Scan`, in single steps
`Unblocking`) and then writes, turn by turn, what nghttp3 has to send (`FlushTurn`).
`flushNghttp3_wp` is the rule for flushes: what these steps keep while the connection is alive holds
until the loop ends, either because nghttp3 has nothing more to send or because it failed.
-/

namespace ModHttp3.H3
open ModHttp3.Lib ModHttp3.Lib.Script

/-- nghttp3 is called, and makes callbacks. -/
def Called (c : Call) (s t : Session) : Prop := ∃ cbs rv, t = runCbs (s.emit (.call c cbs rv)) cbs

/-- Re-enabling the streams that are write-blocked. -/
inductive Unblocking (s : Session) : Session → Prop where
  | query {r h} (blocked : Bool) :
    (s.objs r).qstream = some h →
    Unblocking s (s.emit (.op (.use (.isWriteBlocked blocked) h)))
  | unblock {r t} :
    Called (.unblockStream (s.objs r).streamId) (s.unblock r) t →
    Unblocking s t

/-- What the scan for streams to re-enable does with a stream. -/
inductive Scan (r : Ref) (s : Session) : Session → Prop where
  /-- the stream is not write-blocked -/
  | unmarked :
    (s.objs r).writeBlocked = false →
    Scan r s s
  /-- its send buffer is still full -/
  | full {h} :
    (s.objs r).writeBlocked = true →
    (s.objs r).qstream = some h →
    Scan r s (s.emit (.op (.use (.isWriteBlocked true) h)))
  /-- its send buffer has room, or is gone with the handle -/
  | unblock {u t} :
    (s.objs r).writeBlocked = true →
    ((s.objs r).qstream = none ∧ u = s) ∨
      (∃ h, (s.objs r).qstream = some h ∧ u = s.emit (.op (.use (.isWriteBlocked false) h))) →
    Called (.unblockStream (s.objs r).streamId) (u.unblock r) t →
    Scan r s t

/-- nghttp3 has bytes of a stream to send, or its end. -/
def Writev (sid : Int) (fin : Bool) (lens : List Nat) (s t : Session) : Prop :=
  ∃ cbs nvec, 0 ≤ nvec ∧ ¬(nvec = 0 ∧ sid < 0) ∧
    t = runCbs (s.emit (.call (.writevStream sid fin lens) cbs nvec)) cbs

/-- nghttp3 is told that bytes of a stream were sent and acknowledged. -/
def Offsets (sid : Int) (n : Nat) (s t : Session) : Prop :=
  ∃ u, Called (.addWriteOffset sid n) s u ∧ Called (.addAckOffset sid n) u t

/-- A stream with a full send buffer is blocked in nghttp3, unless it is marked as blocked
already. -/
def Blocking (res : WriteResult) (sid : Int) (r : Ref) (s t : Session) : Prop :=
  ((res.blocked = true → (s.objs r).writeBlocked = true) ∧ t = s) ∨
  (res.blocked = true ∧ (s.objs r).writeBlocked = false ∧ Called (.blockStream sid) (s.block r) t)

/-- One turn of the loop of `flush_nghttp3`; the flag says whether it goes on. -/
inductive FlushTurn (s : Session) : Bool → Session → Prop where
  /-- nghttp3 failed -/
  | failed {sid fin lens cbs nvec} :
    nvec < 0 →
    FlushTurn s false
    { runCbs (s.emit (.call (.writevStream sid fin lens) cbs nvec)) cbs with ngh3Dead := true }
  /-- nghttp3 has nothing to send -/
  | nothing {sid fin lens cbs} :
    sid < 0 →
    FlushTurn s false (runCbs (s.emit (.call (.writevStream sid fin lens) cbs 0)) cbs)
  /-- the stream is gone -/
  | swallowed {sid fin lens u t} :
    Writev sid fin lens s u →
    (∀ r, u.find sid = some r → (u.objs r).qstream = none) →
    Offsets sid lens.sum u t →
    FlushTurn s true t
  /-- the stream is broken -/
  | broken {sid fin lens r h res u t} :
    Writev sid fin lens s u →
    u.find sid = some r →
    (u.objs r).qstream = some h →
    res.broken = true →
    Offsets sid lens.sum (u.emit (.op (.use (.write lens fin res) h))) t →
    FlushTurn s true t
  /-- bytes were written -/
  | written {sid fin lens r h res u v t} :
    Writev sid fin lens s u →
    u.find sid = some r →
    (u.objs r).qstream = some h →
    res.broken = false →
    Offsets sid res.accepted (u.emit (.op (.use (.write lens fin res) h))) v →
    Blocking res sid r v t →
    FlushTurn s true t

section
variable {s t : Session} {r : Ref} {sid : Int}

/-- A call of nghttp3 takes one answer. -/
lemma callNgh3_takes (c : Call) : Takes 1 (callNgh3 c) s (fun _ t => Called c s t) := by
  refine .ask_bind ?_
  rintro _ ⟨cbs, rv⟩ _
  exact .modify_bind (.pure ⟨cbs, rv, rfl⟩)

/-- A call of nghttp3, with the callbacks it makes. -/
lemma callNgh3_wp {S : Session → Prop} (c : Call) (stop : S s) :
    Wp (callNgh3 c) s (fun _ t => Called c s t) S := by
  refine .bind (.ask stop ?_)
  rintro _ ⟨cbs, rv⟩ _
  exact .bind (.modify (.pure ⟨cbs, rv, rfl⟩))

/-- Adding the offsets takes two answers. -/
lemma addOffsets_takes (n : Nat) : Takes 2 (addOffsets sid n) s (fun _ t => Offsets sid n s t) := by
  refine .bind (k := 1) ((callNgh3_takes _).mono (Nat.le_refl 1) ?_) (Nat.le_refl 2)
  intro _ u write
  refine .bind (k := 0) ((callNgh3_takes _).mono (Nat.le_refl 1) ?_) (Nat.le_refl 1)
  intro _ t ack
  exact .pure ⟨u, write, ack⟩

/-- A turn asks at most five times: for the output, how much of it was written, and in three calls
of nghttp3. -/
lemma flushTurn_takes : Takes 5 flushTurn s (fun go t => FlushTurn s go t) := by
  refine .ask_bind ?_
  rintro _ ⟨cbs, nvec, sid, fin, lens⟩ _
  refine .modify_bind ?_
  dsimp only
  split
  · rename_i neg
    exact .modify_bind (.pure (.failed neg))
  split
  · rename_i idle
    obtain ⟨rfl, neg⟩ := idle
    exact .pure (.nothing neg)
  rename_i nonneg offered
  refine .get_bind ?_
  have writev : Writev sid fin lens s
      (runCbs (s.emit (.call (.writevStream sid fin lens) cbs nvec)) cbs) :=
    ⟨cbs, nvec, Int.not_lt.mp nonneg, offered, rfl⟩
  -- the callbacks may have dropped the stream: what follows is about the session they left
  generalize runCbs (s.emit (.call (.writevStream sid fin lens) cbs nvec)) cbs = u at writev
  have passed : ∀ {v : Session} {n k : Nat}, 2 ≤ k → (∀ t, Offsets sid n v t → FlushTurn s true t) →
      Takes k (addOffsets sid n >>= fun _ => pure true) v (fun go t => FlushTurn s go t) := by
    intro v n k le turn
    refine .bind (k := 0) ((addOffsets_takes n).mono (Nat.le_refl 2) ?_) le
    exact fun _ t offsets => .pure (turn t offsets)
  cases find : u.find sid with
  | none =>
    refine passed (by decide) fun t offsets => .swallowed writev ?_ offsets
    rw [find]
    exact nofun
  | some r =>
    dsimp only
    cases hq : (u.objs r).qstream with
    | none =>
      refine passed (by decide) fun t offsets => .swallowed writev ?_ offsets
      rw [find]
      rintro _ ⟨⟩
      exact hq
    | some h =>
      refine .ask_bind ?_
      intro _ res _
      refine .modify_bind ?_
      split
      · rename_i broken
        exact passed (by decide) fun t offsets => .broken writev find hq broken offsets
      · rename_i whole
        rw [Bool.not_eq_true] at whole
        refine .bind (k := 1) ((addOffsets_takes _).mono (Nat.le_refl 2) ?_) (Nat.le_refl 3)
        intro _ v offsets
        have done : ∀ t, Blocking res sid r v t → FlushTurn s true t :=
          fun t last => .written writev find hq whole offsets last
        split
        · rename_i full
          refine .get_bind ?_
          split
          · rename_i marked
            exact .pure (done v (.inl ⟨fun _ => marked, rfl⟩))
          · rename_i unmarked
            rw [Bool.not_eq_true] at unmarked
            refine .modify_bind (.bind (k := 0) ((callNgh3_takes _).mono (Nat.le_refl 1) ?_)
              (Nat.le_refl 1))
            intro _ t blocked
            exact .pure (done t (.inr ⟨full, unmarked, blocked⟩))
        · rename_i room
          exact .pure (done v (.inl ⟨fun full => absurd full room, rfl⟩))

/-- The rule for the scan: `J rs` holds while the streams `rs` are to be looked at. It asks for
their order and at most twice for each of them. -/
lemma unblockWritableStreams_takes {J : List Ref → Session → Prop}
    (idle : s.blockedStreams ≤ 0 → J [] s) (init : ∀ rs, rs.Perm s.streams → J rs s)
    (step : ∀ r rs u v, J (r :: rs) u → Scan r u v → J rs v) :
    Takes (s.streams.length * 2 + 1) unblockWritableStreams s (fun _ t => J [] t) := by
  refine .get_bind ?_
  split
  · exact .pure (idle ‹_›)
  have order : Takes 1 iterate s (fun rs t => t = s ∧ rs.Perm s.streams) := by
    refine .get_bind (.ask ?_)
    intro a rs answer
    split at answer
    · split at answer
      · cases answer
        rename_i perm
        exact ⟨rfl, List.isPerm_iff.mp perm⟩
      · cases answer
    · cases answer
  refine .bind (k := s.streams.length * 2) (order.mono (Nat.le_refl 1) ?_)
    (Nat.le_of_eq (Nat.add_comm ..))
  rintro refs _ ⟨rfl, perm⟩
  rw [← perm.length_eq]
  refine Takes.forEach ?_ (init refs perm)
  intro r rs s hs
  have next : ∀ t, Scan r s t → J rs t := fun t => step r rs s t hs
  refine .get_bind ?_
  split
  · rename_i marked
    have go : ∀ u, ((s.objs r).qstream = none ∧ u = s) ∨
        (∃ h, (s.objs r).qstream = some h ∧ u = s.emit (.op (.use (.isWriteBlocked false) h))) →
        Takes 1 (do
          Script.modify (·.unblock r)
          let _ ← callNgh3 (.unblockStream (s.objs r).streamId)
          pure true) u (fun go t => go = true ∧ J rs t) := by
      intro u room
      refine .modify_bind (.bind (k := 0) ((callNgh3_takes _).mono (Nat.le_refl 1) ?_)
        (Nat.le_refl 1))
      intro _ t called
      exact .pure ⟨rfl, next t (.unblock marked room called)⟩
    dsimp only
    cases hq : (s.objs r).qstream with
    | none => exact .bind (n := 0) (k := 1) (.pure (go s (.inl ⟨hq, rfl⟩))) (by decide)
    | some h =>
      refine .bind (n := 1) (k := 1) (.ask_bind ?_) (Nat.le_refl 2)
      intro _ blocked _
      refine .modify_bind (.pure ?_)
      cases blocked with
      | true => exact .pure ⟨rfl, next _ (.full marked hq)⟩
      | false => exact go _ (.inr ⟨h, hq, rfl⟩)
  · rename_i unmarked
    rw [Bool.not_eq_true] at unmarked
    exact .pure ⟨rfl, next s (.unmarked unmarked)⟩

/-- A property that unblocking keeps survives the scan. -/
lemma Scan.unblocking {J : Session → Prop} (scan : Scan r s t)
    (step : ∀ u v, J u → Unblocking u v → J v) (hs : J s) : J t := by
  cases scan with
  | unmarked => exact hs
  | full _ hq => exact step _ _ hs (.query true hq)
  | unblock _ room called =>
    rcases room with ⟨_, rfl⟩ | ⟨h, hq, rfl⟩
    · exact step _ _ hs (.unblock called)
    · exact step _ _ (step _ _ hs (.query false hq)) (.unblock called)

/-- A call that reads nothing is a move. -/
lemma Called.move {c : Call} (called : Called c s t) (other : c.isRead = false) : Move s t := by
  obtain ⟨cbs, rv, rfl⟩ := called
  exact .call cbs rv other

/-- Asking for vectors is a move. -/
lemma Writev.move {fin : Bool} {lens : List Nat} (writev : Writev sid fin lens s t) : Move s t := by
  obtain ⟨cbs, nvec, _, _, rfl⟩ := writev
  exact .call cbs nvec rfl

/-- Adding offsets is made of moves. -/
lemma Offsets.moves {n : Nat} (offsets : Offsets sid n s t) : Moves s t := by
  obtain ⟨u, write, ack⟩ := offsets
  exact .head (write.move rfl) (ack.move rfl).moves

/-- Unblocking a stream is made of moves. -/
lemma Unblocking.moves (m : Unblocking s t) : Moves s t := by
  cases m with
  | query blocked hq => exact (Move.use _ (.inl ⟨_, hq⟩) rfl).moves
  | @unblock r _ called => exact .head (.writeBlocked r false _) (called.move rfl).moves

/-- A turn of the flush is made of moves. -/
lemma FlushTurn.moves {go : Bool} (m : FlushTurn s go t) : Moves s t := by
  cases m with
  | failed neg => exact .head (.call _ _ rfl) Move.dead.moves
  | nothing neg => exact (Move.call _ _ rfl).moves
  | swallowed writev _ offsets => exact .head writev.move offsets.moves
  | broken writev _ hq _ offsets =>
    exact .head writev.move (.head (.use _ (.inl ⟨_, hq⟩) rfl) offsets.moves)
  | written writev _ hq _ offsets last =>
    refine .head writev.move (.head (.use _ (.inl ⟨_, hq⟩) rfl) (offsets.moves.trans ?_))
    rcases last with ⟨_, rfl⟩ | ⟨_, _, blocked⟩
    · exact .refl
    · exact .head (.writeBlocked _ true _) (blocked.move rfl).moves

/-- What each release keeps holds when the deferred list is empty. -/
lemma freePending_rule {K : Session → Prop}
    (free : ∀ u h, K u → K ({ u with pendingFree := u.pendingFree.dropLast }.emit (.op (.free h))))
    (n : Nat) (hs : K s) : K (s.freePending n) := by
  induction n generalizing s with
  | zero => exact hs
  | succ n ih =>
    rw [Session.freePending]
    split
    · exact hs
    · exact ih (free _ _ hs)

/-- The rule for flushes: `I rs` holds while the streams `rs` are to be looked at for re-enabling,
`I []` while the connection is alive, and `K` once the loop has ended. -/
lemma flushNghttp3_scan_wp {I : List Ref → Session → Prop} {K : Session → Prop}
    (idle : s.ngh3Dead = false → s.blockedStreams ≤ 0 → I [] s)
    (init : s.ngh3Dead = false → ∀ rs, rs.Perm s.streams → I rs s)
    (scan : ∀ r rs u v, I (r :: rs) u → Scan r u v → I rs v)
    (turn : ∀ u go v, I [] u → FlushTurn u go v → if go = true then I [] v else K v)
    (free : ∀ u h, K u → K ({ u with pendingFree := u.pendingFree.dropLast }.emit (.op (.free h))))
    (dead : s.ngh3Dead = true → K s) :
    Wp flushNghttp3 s (fun _ t => K t) (fun _ => True) := by
  refine .bind (.get ?_)
  split
  · rename_i gone
    exact .pure (dead gone)
  rename_i here
  rw [Bool.not_eq_true] at here
  refine .bind ((unblockWritableStreams_takes (idle here) (init here) scan).wp.mono ?_ fun _ => id)
  intro _ u hu
  refine .bind (Wp.mono (Wp.loop (K := K) ?_ (fun _ _ => trivial) hu) ?_ fun _ => id)
  · intro v hv
    exact flushTurn_takes.wp.mono (fun go w step => turn v go w hv step) fun _ => id
  · intro _ v hv
    exact .modify (freePending_rule free _ hv)

/-- The same for a property that does not depend on the streams that are left. -/
lemma flushNghttp3_wp {J K : Session → Prop} (unblocking : ∀ u v, J u → Unblocking u v → J v)
    (turn : ∀ u go v, J u → FlushTurn u go v → if go = true then J v else K v)
    (free : ∀ u h, K u → K ({ u with pendingFree := u.pendingFree.dropLast }.emit (.op (.free h))))
    (alive : s.ngh3Dead = false → J s) (dead : s.ngh3Dead = true → K s) :
    Wp flushNghttp3 s (fun _ t => K t) (fun _ => True) := by
  refine flushNghttp3_scan_wp (I := fun _ => J) (fun here _ => alive here)
    (fun here _ _ => alive here) ?_ turn free
    dead
  intro r rs u v hu scan
  exact scan.unblocking unblocking hu

/-- A relation between the states of a session that holds along everything a flush does. -/
structure FlushClosed (R : Session → Session → Prop) : Prop where
  refl : ∀ s, R s s
  trans : ∀ s t u, R s t → R t u → R s u
  emit : ∀ s e, R s (s.emit e)
  callbacks : ∀ s cbs, R s (runCbs s cbs)
  mark : ∀ (s : Session) r b n,
    R s { s.modifyObj r fun x => { x with writeBlocked := b } with blockedStreams := n }
  dead : ∀ s : Session, R s { s with ngh3Dead := true }
  pop : ∀ (s : Session) handles, R s { s with pendingFree := handles }

namespace FlushClosed
variable {R : Session → Session → Prop}

/-- A call is in the relation. -/
lemma called {c : Call} (hR : FlushClosed R) (called : Called c s t) : R s t := by
  obtain ⟨cbs, rv, rfl⟩ := called
  exact hR.trans _ _ _ (hR.emit s _) (hR.callbacks _ cbs)

/-- Adding offsets is in the relation. -/
lemma offsets {n : Nat} (hR : FlushClosed R) (offsets : Offsets sid n s t) : R s t := by
  obtain ⟨u, write, ack⟩ := offsets
  exact hR.trans _ _ _ (hR.called write) (hR.called ack)

/-- Asking for vectors is in the relation. -/
lemma writev {fin : Bool} {lens : List Nat} (hR : FlushClosed R)
    (writev : Writev sid fin lens s t) : R s t := by
  obtain ⟨cbs, nvec, _, _, rfl⟩ := writev
  exact hR.called ⟨cbs, nvec, rfl⟩

/-- Unblocking a stream is in the relation. -/
lemma unblocking (hR : FlushClosed R) (step : Unblocking s t) : R s t := by
  cases step with
  | query => exact hR.emit s _
  | unblock called => exact hR.trans _ _ _ (hR.mark s _ false _) (hR.called called)

/-- A turn of the flush is in the relation. -/
lemma turn {go : Bool} (hR : FlushClosed R) (turn : FlushTurn s go t) : R s t := by
  cases turn with
  | failed neg => exact hR.trans _ _ _ (hR.called ⟨_, _, rfl⟩) (hR.dead _)
  | nothing neg => exact hR.called ⟨_, _, rfl⟩
  | swallowed writev _ offsets => exact hR.trans _ _ _ (hR.writev writev) (hR.offsets offsets)
  | broken writev _ _ _ offsets =>
    exact hR.trans _ _ _ (hR.writev writev) (hR.trans _ _ _ (hR.emit _ _) (hR.offsets offsets))
  | written writev _ _ _ offsets last =>
    refine hR.trans _ _ _ (hR.writev writev)
      (hR.trans _ _ _ (hR.emit _ _) (hR.trans _ _ _ (hR.offsets offsets) ?_))
    rcases last with ⟨_, rfl⟩ | ⟨_, _, called⟩
    · exact hR.refl _
    · exact hR.trans _ _ _ (hR.mark _ _ true _) (hR.called called)

/-- The whole section. -/
lemma flush (hR : FlushClosed R) (st : Step s .flush t) : R s t := by
  have start : R s s := hR.refl s
  refine st.ends (flushNghttp3_wp (J := R s) (K := R s) ?_ ?_ ?_ (fun _ => start) fun _ => start)
  · exact fun u v hu step => hR.trans _ _ _ hu (hR.unblocking step)
  · intro u go v hu turn
    split
    all_goals exact hR.trans _ _ _ hu (hR.turn turn)
  · exact fun u h hu => hR.trans _ _ _ hu (hR.trans _ _ _ (hR.pop u _) (hR.emit _ _))

end FlushClosed

/-- The rule for destroying a session: the responses are cancelled and the deferred handles
released; the log, the objects and the mark of a dead connection are otherwise left alone. -/
lemma destroy_wp {K : Session → Prop}
    (cancel : ∀ u r, K u → K (u.modifyObj r fun x => { x with responseCancelled := true }))
    (free : ∀ u h, K u → K ({ u with pendingFree := u.pendingFree.dropLast }.emit (.op (.free h))))
    (other : ∀ u v : Session, K u → v.log = u.log → v.objs = u.objs → v.next = u.next →
      v.ngh3Dead = u.ngh3Dead → K v)
    (hs : K s) : Wp (exec .destroy) s (fun _ t => K t) (fun _ => True) := by
  refine .bind (.bind (.modify (.bind (.modify (.modify (.modify ?_))))))
  have cancelled : ∀ (rs : List Ref) (u : Session), K u →
      K (rs.foldl (fun s r => s.modifyObj r fun x => { x with responseCancelled := true }) u) := by
    intro rs
    induction rs with
    | nil => exact fun _ hu => hu
    | cons r rs ih => exact fun u hu => ih _ (cancel u r hu)
  have gone : K { s with ngh3 := false } := other s _ hs rfl rfl rfl rfl
  exact other _ _ (freePending_rule free _ (cancelled s.streams _ gone)) rfl rfl rfl rfl

end

end ModHttp3.H3

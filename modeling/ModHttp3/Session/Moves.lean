import ModHttp3.Lib.Run
import ModHttp3.Session.Drive

/-!
# What a section can do to a session

`Move` lists the changes of the session state that the sections are made of, each with what is known
when it happens. One lemma for each program says that it only makes such moves, on every list of
answers and wherever it is stopped; `exec_goes` (`Control`) puts them together. What every move
keeps therefore holds of a session at any time.
-/

namespace ModHttp3.H3
open ModHttp3.Lib ModHttp3.Lib.Script

/-- The use reports the end of the stream: a FIN was read, or the receiving part is in a final
state. -/
def Use.ends : Use → Bool
  | .read .fin => true
  | .isReadFinished rstate wstate => (H3.isReadFinished rstate wstate).1
  | _ => false

/-- The use reads bytes. -/
def Use.isData : Use → Bool
  | .read (.data _) => true
  | _ => false

/-- The call passes bytes of a stream, or its end, to nghttp3. -/
def Call.isRead : Call → Bool
  | .readStream _ _ _ => true
  | _ => false

/-- The entry is such a use of the handle. -/
def Entry.uses (p : Use → Bool) (h : Handle) : Entry → Bool
  | .op (.use u h') => h' == h && p u
  | _ => false

/-- There was such a use of the handle. -/
def used (p : Use → Bool) (h : Handle) (log : List Entry) : Bool := log.any (Entry.uses p h)

/-- Whether a handle can be read after an entry: a query of its state decides, and its FIN is the
end. -/
def Entry.opens (h : Handle) (before : Bool) : Entry → Bool
  | .op (.use (.isReadFinished rstate wstate) h') =>
    if h' = h then !(H3.isReadFinished rstate wstate).1 else before
  | .op (.use (.read .fin) h') => if h' = h then false else before
  | _ => before

/-- The last query of the handle found its stream unfinished, and its FIN was not read since. -/
def readable (h : Handle) (log : List Entry) : Bool := log.foldl (Entry.opens h) false

/-- A local variable has the handle of the stream with this id; it is the one accepted last, or this
is a stream of the server. -/
def Session.taken (s : Session) (sid : Int) (h : Handle) : Prop :=
  h ∈ s.held ∧ .got h sid ∈ s.log ∧
    ((s.phase = .serving ∧ h + 1 = s.handles) ∨ sidIsServer sid = true)

/-- The changes of the session state. -/
inductive Move : Session → Session → Prop where
  | acquire {s} (sid : Int) : Move s (s.acquire sid)
  | use {s h} (u : Use) :
    (∃ r, (s.objs r).qstream = some h) ∨ h ∈ s.held →
    u.isData = false →
    Move s (s.emit (.op (.use u h)))
  | freeHeld {s h} :
    h ∈ s.held →
    (s.phase = .serving ∧ h + 1 = s.handles) ∨ s.phase = .created →
    Move s (s.freeHeld h)
  | track {s sid h} :
    s.taken sid h →
    Move s (s.track sid h)
  | retrack {s r h} :
    r ∈ s.streams →
    s.taken (s.objs r).streamId h →
    Move s (s.retrack r h)
  | call {s c} (cbs : List Cb) (rv : Int) :
    c.isRead = false →
    Move s (runCbs (s.emit (.call c cbs rv)) cbs)
  | feed {s r h data} (cbs : List Cb) (rv : Int) :
    (s.objs r).qstream = some h →
    data ≠ [] →
    sidIsServer (s.objs r).streamId = false →
    readable h s.log = true →
    Move s (s.feed r h data cbs rv)
  | feedFin {s r h u} (cbs : List Cb) (rv : Int) :
    (s.objs r).qstream = some h →
    s.log.getLast? = some (.op (.use u h)) →
    u.ends = true →
    (s.objs r).bodyComplete = false ∨ readable h s.log.dropLast = true →
    Move s (s.feedFin r cbs rv)
  | popFree {s h} :
    s.pendingFree.getLast? = some h →
    Move s ({ s with pendingFree := s.pendingFree.dropLast }.emit (.op (.free h)))
  | dead {s} : Move s { s with ngh3Dead := true }
  | writeBlocked {s} (r : Ref) (b : Bool) (n : Int) :
    Move s { s.modifyObj r fun x => { x with writeBlocked := b } with blockedStreams := n }
  | done {s} (r : Ref) : Move s (s.modifyObj r fun x => { x with done := true })
  | cancel {s} (r : Ref) : Move s (s.modifyObj r fun x => { x with responseCancelled := true })
  | completed {s r} :
    (s.objs r).ready = true →
    Move s { s with completed := s.completed ++ [r] }
  | cursor {s} (i : Nat) : Move s { s with streamDrainCursor := i }
  | newPass {s} : Move s { s with completed := [] }
  | reclaim {s r} :
    (s.objs r).reclaimable = true →
    Move s { s with streams := s.streams.erase r }
  | ngh3Gone {s} : Move s { s with ngh3 := false }
  | created {s} :
    s.phase = .created →
    Move s { s with controlStreamsCreated := true }
  | phase {s p} :
    s.phase = .created ∨ p = .destroyed →
    Move s { s with phase := p }
  | dispatch {s r} :
    r ∈ s.completed →
    s.ngh3Dead = false →
    Move s (s.modifyObj r fun x => { x with dispatched := true })
  | undispatch {s r} :
    (s.objs r).workerDone = false →
    Move s (s.modifyObj r fun x => { x with dispatched := false })
  | process {s r} :
    (s.objs r).dispatched = true →
    Move s (s.emit (.processed r (hookAccessChecker (s.objs r))))
  | workerDone {s r} :
    (s.objs r).dispatched = true →
    Move s (s.modifyObj r fun x => { x with workerDone := true })

/-- Any number of moves. -/
abbrev Moves := Relation.ReflTransGen Move

/-- The state in which nghttp3 was told the end of a stream. -/
def Session.told (s : Session) (r : Ref) (cbs : List Cb) (rv : Int) : Session :=
  runCbs (s.emit (.call (.readStream (s.objs r).streamId [] true) cbs rv)) cbs

/-- The moves of the read loop of a client's stream. -/
inductive Reading (r : Ref) : Session → Session → Prop where
  | use {s h} (result : ReadResult) :
    (s.objs r).qstream = some h →
    (Use.read result).isData = false →
    Reading r s (s.emit (.op (.use (.read result) h)))
  | feed {s h data} (cbs : List Cb) (rv : Int) :
    (s.objs r).qstream = some h →
    data ≠ [] →
    sidIsServer (s.objs r).streamId = false →
    readable h s.log = true →
    s.ngh3Dead = false →
    Reading r s (s.feed r h data cbs rv)
  | feedFin {s h} (cbs : List Cb) (rv : Int) :
    (s.objs r).qstream = some h →
    s.log.getLast? = some (.op (.use (.read .fin) h)) →
    readable h s.log.dropLast = true →
    s.ngh3Dead = false →
    Reading r s (s.feedFin r cbs rv)
  | done {s} : Reading r s (s.modifyObj r fun x => { x with done := true })

/-- nghttp3 is told that the stream is closed, if it still has a handle. -/
def Closing (r : Ref) (writeFinished : Bool) (s t : Session) : Prop :=
  (((s.objs r).qstream.isSome && writeFinished) = false ∧ t = s) ∨
  (((s.objs r).qstream.isSome && writeFinished) = true ∧
    ∃ cbs rv, t = runCbs (s.emit (.call (.closeStream (s.objs r).streamId) cbs rv)) cbs)

/-- What reading a stream does: it asks for the state of the stream and reads it, or, if its
receiving part is in a final state, ends it. -/
inductive Visit (r : Ref) (s : Session) : Session → Prop where
  | read {t} :
    (s.objs r).qstream = none →
    Relation.ReflTransGen (Reading r) s t →
    Visit r s t
  | unfinished {h rstate wstate t} :
    (s.objs r).qstream = some h →
    (isReadFinished rstate wstate).1 = false →
    Relation.ReflTransGen (Reading r) (s.emit (.op (.use (.isReadFinished rstate wstate) h))) t →
    Visit r s t
  | finished {h rstate wstate u t} :
    (s.objs r).qstream = some h →
    (isReadFinished rstate wstate).1 = true →
    ((s.objs r).bodyComplete = true ∧ u = s.emit (.op (.use (.isReadFinished rstate wstate) h))) ∨
      ((s.objs r).bodyComplete = false ∧
        ∃ cbs rv, u = (s.emit (.op (.use (.isReadFinished rstate wstate) h))).feedFin r cbs rv) →
    Closing r (isReadFinished rstate wstate).2 u t →
    Visit r s t

section
variable {s t : Session} {r : Ref} {h : Handle} {sid : Int}

/-- One move. -/
lemma Move.moves (m : Move s t) : Moves s t := .single m

/-- What a section that came to its end has led to. -/
lemma Step.ends {c : Sect} {Q : Unit → Session → Prop} {S : Session → Prop} (st : Step s c t)
    (h : Wp (exec c) s Q S) : Q () t := by
  obtain ⟨_, as, rest, eq⟩ := st
  have := h as
  rw [eq] at this
  exact this

/-- What was used in two logs in a row. -/
lemma used_append {p : Use → Bool} {log es : List Entry} :
    used p h (log ++ es) = (used p h log || used p h es) := List.any_append

/-- Whether a handle is readable after one more entry. -/
lemma readable_append (h : Handle) (log : List Entry) (e : Entry) :
    readable h (log ++ [e]) = e.opens h (readable h log) := by
  rw [readable, List.foldl_concat]
  rfl

/-- Entries that say nothing about the end of a stream. -/
lemma readable_keeps {log es : List Entry} (keep : ∀ e ∈ es, ∀ b, e.opens h b = b) :
    readable h (log ++ es) = readable h log := by
  rw [readable, List.foldl_append]
  change es.foldl (Entry.opens h) (readable h log) = readable h log
  induction es with
  | nil => rfl
  | cons e es ih =>
    rw [List.foldl_cons, keep e List.mem_cons_self]
    exact ih fun e mem => keep e (List.mem_cons_of_mem _ mem)

/-- Feeding bytes says nothing about the end of a stream. -/
lemma Session.feed_readable (data : List UInt8) (cbs : List Cb) (rv : Int) (h' : Handle) :
    readable h' (s.feed r h data cbs rv).log = readable h' s.log := by
  obtain ⟨es, log, resets⟩ := runCbs_log (s := s.reading r h data cbs rv) cbs
  have fed : (s.feed r h data cbs rv).log = s.log ++ (.op (.use (.read (.data data)) h) ::
      .call (.readStream (s.objs r).streamId data false) cbs rv :: es) := by
    refine log.trans ?_
    simp only [Session.reading, Session.emit, List.append_assoc, List.cons_append, List.nil_append]
  rw [fed]
  refine readable_keeps fun e mem b => ?_
  simp only [List.mem_cons] at mem
  rcases mem with rfl | rfl | mem
  · rfl
  · rfl
  · obtain ⟨err, h, rfl⟩ := resets e mem
    rfl

/-- What `track_stream` does: nothing, or it gives the handle to a stream object with this id. -/
lemma trackStream_wp :
    Wp (trackStream sid h) s
      (fun o t => (o = none ∧ t = s) ∨
        (o.isSome = true ∧
          (t = s.track sid h ∨ ∃ r ∈ s.streams, (s.objs r).streamId = sid ∧ t = s.retrack r h)))
      (fun t => t = s) := by
  refine .bind (.get ?_)
  cases eq : s.find sid with
  | some r =>
    have hr : (s.objs r).streamId = sid := by
      have := List.find?_some eq
      simpa using this
    have mem : r ∈ s.streams := List.mem_of_find?_eq_some eq
    exact .bind (.modify (.pure (.inr ⟨rfl, .inr ⟨r, mem, hr, rfl⟩⟩)))
  | none =>
    refine .bind (.ask rfl ?_)
    intro _ ok _
    cases ok with
    | false => exact .pure (.inl ⟨rfl, rfl⟩)
    | true => exact .bind (.modify (.pure (.inr ⟨rfl, .inl rfl⟩)))

/-- The state in which a new stream was accepted and asked for its id. -/
def Session.accepted (s : Session) (sid : Int) : Session :=
  (s.acquire sid).emit (.op (.use (.id sid) s.handles))

/-- What one turn of the accept loop does: nothing, or it takes a stream and frees it again, or
tracks it. -/
lemma acceptStream_wp :
    Wp acceptStream s
      (fun more t => (more = false ∧ t = s) ∨
        (more = true ∧ ∃ sid, t = (s.accepted sid).freeHeld s.handles ∨
          t = (s.accepted sid).track sid s.handles ∨ ∃ r ∈ s.streams,
          t = (s.accepted sid).retrack r s.handles))
      (fun _ => True) := by
  refine .bind (.ask trivial ?_)
  rintro _ (_ | sid) _
  · exact .pure (.inl ⟨rfl, rfl⟩)
  refine .bind (.get (.bind (.modify (.bind (.modify ?_)))))
  split
  · exact .bind (.modify (.pure (.inr ⟨rfl, sid, .inl rfl⟩)))
  · refine .bind (trackStream_wp.mono ?_ fun _ _ => trivial)
    rintro o t (⟨rfl, rfl⟩ | ⟨tracked, rfl | ⟨r, mem, _, rfl⟩⟩)
    · exact .bind (.modify (.pure (.inr ⟨rfl, sid, .inl rfl⟩)))
    · obtain ⟨r, rfl⟩ := Option.isSome_iff_exists.mp tracked
      exact .pure (.inr ⟨rfl, sid, .inr (.inl rfl)⟩)
    · obtain ⟨r', rfl⟩ := Option.isSome_iff_exists.mp tracked
      exact .pure (.inr ⟨rfl, sid, .inr (.inr ⟨r, mem, rfl⟩)⟩)

/-- One turn of the accept loop. -/
lemma acceptStream_goes (serving : s.phase = .serving) : GoesFrom Move acceptStream s := by
  refine .ask_bind ?_
  rintro _ (_ | sid) _
  · exact Goes.pure s
  · refine .get_bind (.modify_bind (Move.acquire sid).moves ?_)
    have held : s.handles ∈ (s.acquire sid).held := List.mem_cons_self
    refine .modify_bind (Move.use (.id sid) (.inr held) rfl).moves ?_
    generalize eq : (s.acquire sid).emit (.op (.use (.id sid) s.handles)) = u
    have newest : s.handles ∈ u.held ∧ u.phase = .serving ∧ s.handles + 1 = u.handles := by
      subst eq
      exact ⟨held, serving, rfl⟩
    have free : Move u (u.freeHeld s.handles) := .freeHeld newest.1 (.inl newest.2)
    by_cases neg : sid < 0
    · rw [if_pos neg]
      exact .modify_bind free.moves (Goes.pure _)
    · rw [if_neg neg]
      have taken : u.taken sid s.handles := by
        refine ⟨newest.1, ?_, .inl newest.2⟩
        subst eq
        simp [Session.acquire, Session.emit]
      refine Wp.bind (trackStream_wp.mono ?_ ?_)
      · rintro o t (⟨rfl, rfl⟩ | ⟨tracked, move⟩)
        · exact Wp.bind (Wp.modify (Wp.pure free.moves))
        · obtain ⟨r, rfl⟩ := Option.isSome_iff_exists.mp tracked
          refine Wp.pure ?_
          rcases move with rfl | ⟨r, mem, hr, rfl⟩
          · exact (Move.track taken).moves
          · exact (Move.retrack mem (hr.symm ▸ taken)).moves
      · rintro t rfl
        exact .refl

/-- A call that reads nothing is made of moves. -/
lemma callNgh3_goes {c : Call} (other : c.isRead = false) : Goes Move (callNgh3 c) := by
  refine Goes.ask.bind ?_
  rintro ⟨cbs, rv⟩
  exact (Goes.modify fun s => (Move.call cbs rv other).moves).bind fun _ => Goes.pure

/-- Adding offsets is made of moves. -/
lemma addOffsets_goes (sid : Int) (n : Nat) : Goes Move (addOffsets sid n) :=
  (callNgh3_goes rfl).bind fun _ => (callNgh3_goes rfl).bind fun _ => Goes.pure

/-- Iterating over the streams is no move. -/
lemma iterate_goes : Goes Move iterate := Goes.get_bind fun _ => GoesFrom.ask

/-- Marking the session as dead is a move. -/
lemma markNgh3Dead_goes : Goes Move markNgh3Dead := Goes.modify fun _ => Move.dead.moves

/-- Unblocking the streams is made of moves. -/
lemma unblockWritableStreams_goes : Goes Move unblockWritableStreams := by
  refine Goes.get_bind fun s => ?_
  split
  · exact Goes.pure s
  refine (iterate_goes.bind fun refs => Goes.forEach fun r _ => Goes.get_bind fun s => ?_) s
  have go : Goes Move (do
      Script.modify (·.unblock r)
      let _ ← callNgh3 (.unblockStream (s.objs r).streamId)
      pure true) :=
    (Goes.modify fun _ => (Move.writeBlocked r false _).moves).bind
      fun _ => (callNgh3_goes rfl).bind fun _ => Goes.pure
  split
  · dsimp only
    cases eq : (s.objs r).qstream with
    | none => exact GoesFrom.bind (Goes.pure s) fun _ => by split; exacts [Goes.pure, go]
    | some h =>
      refine GoesFrom.bind ?_ fun full => by split; exacts [Goes.pure, go]
      refine .ask_bind fun _ blocked _ => ?_
      exact .modify_bind (Move.use _ (.inl ⟨r, eq⟩) rfl).moves (Goes.pure _)
  · exact Goes.pure s

/-- The deferred list is emptied handle by handle. -/
lemma freePending_moves (n : Nat) (s : Session) : Moves s (s.freePending n) := by
  induction n generalizing s with
  | zero => exact .refl
  | succ n ih =>
    rw [Session.freePending]
    split
    · exact .refl
    · rename_i h eq
      exact .head (.popFree eq) (ih _)

/-- A turn of the flush is made of moves. -/
lemma flushTurn_goes : Goes Move flushTurn := by
  refine Goes.ask.bind ?_
  rintro ⟨cbs, nvec, sid, fin, lens⟩
  refine
    (Goes.modify fun s => (Move.call (c := .writevStream sid fin lens) cbs nvec rfl).moves).bind
      fun _ => ?_
  have skip : Goes Move (do addOffsets sid lens.sum; pure true) :=
    (addOffsets_goes _ _).bind fun _ => Goes.pure
  dsimp only
  split
  · exact markNgh3Dead_goes.bind fun _ => Goes.pure
  split
  · exact Goes.pure
  refine Goes.get_bind fun s => ?_
  split
  · exact skip s
  rename_i r _
  split
  · exact skip s
  rename_i h eq
  refine .ask_bind fun _ res _ => ?_
  refine .modify_bind (Move.use _ (.inl ⟨r, eq⟩) rfl).moves ?_
  split
  · exact skip _
  refine ((addOffsets_goes _ _).bind fun _ => ?_) _
  split
  · refine Goes.get_bind fun t => ?_
    split
    · exact Goes.pure t
    · refine .modify_bind (Move.writeBlocked r true _).moves ?_
      exact ((callNgh3_goes rfl).bind fun _ => Goes.pure) _
  · exact Goes.pure

/-- The flush is made of moves. -/
lemma flushNghttp3_goes : Goes Move flushNghttp3 := by
  refine Goes.get_bind fun s => ?_
  split
  · exact Goes.pure s
  · refine (unblockWritableStreams_goes.bind fun _ => (Goes.loop flushTurn_goes).bind fun _ => ?_) s
    exact Goes.modify fun s => freePending_moves _ s

/-- `feed_stream_fin` passes the end of the stream to nghttp3. -/
lemma feedStreamFin_wp :
    Wp (feedStreamFin r) s (fun _ t => ∃ cbs rv, t = s.feedFin r cbs rv) (fun t => t = s) := by
  refine .bind (.ask rfl ?_)
  rintro _ ⟨cbs, rv⟩ _
  exact .modify ⟨cbs, rv, rfl⟩

/-- Feeding keeps the frame of the objects. -/
lemma Session.feed_frame (data : List UInt8) (cbs : List Cb) (rv : Int) (r' : Ref) :
    (s.objs r').Frame ((s.feed r h data cbs rv).objs r') :=
  (runCbs_frame (s := s.reading r h data cbs rv) cbs).objs r'

/-- After the end of a stream its body is complete. -/
lemma feedFin_objs {cbs : List Cb} {rv : Int} : (s.feedFin r cbs rv).objs =
    Function.update (s.told r cbs rv).objs r
      { (s.told r cbs rv).objs r with bodyComplete := true } := rfl

/-- Passing the end of a stream to nghttp3 frames the objects. -/
lemma told_frame (s : Session) (r : Ref) (cbs : List Cb) (rv : Int) (r' : Ref) :
    (s.objs r').Frame ((s.told r cbs rv).objs r') :=
  (runCbs_frame (s := s.emit _) cbs).objs r'

/-- The session is dead afterwards if nghttp3 refused the end of the stream. -/
lemma feedFin_dead {cbs : List Cb} {rv : Int} :
    (s.feedFin r cbs rv).ngh3Dead = (s.ngh3Dead || decide (rv < 0)) := by
  show ((runCbs _ cbs).ngh3Dead || _) = _
  rw [(runCbs_frame cbs).ngh3Dead]
  rfl

/-- The session is dead afterwards if nghttp3 refused the bytes. -/
lemma Session.feed_dead (data : List UInt8) (cbs : List Cb) (rv : Int) :
    (s.feed r h data cbs rv).ngh3Dead = (s.ngh3Dead || decide (rv < 0)) := by
  show ((runCbs (s.reading r h data cbs rv) cbs).ngh3Dead || _) = _
  rw [(runCbs_frame cbs).ngh3Dead]
  rfl

/-- The read loop is made of reads. -/
lemma readLoop_goes (client : sidIsServer (s.objs r).streamId = false)
    (unread : ∀ h, (s.objs r).qstream = some h → readable h s.log = true)
    (alive : s.ngh3Dead = false) (reads bytes : Nat) :
    GoesFrom (Reading r) (readLoop r reads bytes) s := by
  induction reads generalizing s bytes with
  | zero => exact Goes.pure s
  | succ reads ih =>
    refine .get_bind ?_
    split
    · exact Goes.pure s
    split
    · exact .modify_bind (.single .done) (Goes.pure _)
    rename_i h hq
    refine .ask_bind ?_
    rintro a (data | _ | _) eq
    · have ne : data ≠ [] := by
        rintro rfl
        split at eq
        · split at eq
          · cases eq
            rename_i pos
            exact absurd pos.1 (Nat.lt_irrefl 0)
          · cases eq
        · rename_i result no
          cases eq
          exact no [] rfl
        · cases eq
      refine .ask_bind ?_
      rintro _ ⟨cbs, rv⟩ _
      refine .modify_bind (.single (.feed cbs rv hq ne client (unread h hq) alive)) ?_
      dsimp only
      split
      · exact .modify_bind (.single .done) (Goes.pure _)
      · rename_i nonneg
        refine .get_bind ?_
        split
        · exact Goes.pure _
        -- the handle may be gone after the callbacks, but it is not another one
        · refine ih ?_ ?_ ?_ _
          · rw [(Session.feed_frame data cbs rv r).streamId]
            exact client
          · intro h' hq'
            rw [Session.feed_readable]
            rcases (Session.feed_frame data cbs rv r).qstream with eq | eq
            · exact unread h' (eq ▸ hq')
            · rw [eq] at hq'
              cases hq'
          · rw [Session.feed_dead, alive, decide_eq_false nonneg]
            rfl
    · refine .modify_bind (.single (.use .fin hq rfl)) ?_
      refine GoesFrom.bind (feedStreamFin_wp.mono ?_ ?_) fun _ => Goes.pure
      · rintro _ _ ⟨cbs, rv, rfl⟩
        refine .single (.feedFin cbs rv hq List.getLast?_concat ?_ alive)
        rw [Session.emit, List.dropLast_concat]
        exact unread h hq
      · rintro t rfl
        exact .refl
    · exact .modify_bind (.single (.use .nothing hq rfl)) (Goes.pure _)

/-- What the query does: nothing without a handle, else it is a use of the handle. -/
lemma queryFinished_wp :
    Wp (queryFinished r) s
      (fun f t => ((s.objs r).qstream = none ∧ f = (false, false) ∧ t = s) ∨
        ∃ h rstate wstate, (s.objs r).qstream = some h ∧ f = isReadFinished rstate wstate ∧
          t = s.emit (.op (.use (.isReadFinished rstate wstate) h)))
      (fun t => t = s) := by
  refine .bind (.get ?_)
  cases hq : (s.objs r).qstream with
  | none => exact .pure (.inl ⟨rfl, rfl, rfl⟩)
  | some h =>
    refine .bind (.ask rfl ?_)
    rintro _ ⟨rstate, wstate⟩ _
    exact .bind (.modify (.pure (.inr ⟨h, rstate, wstate, rfl, rfl, rfl⟩)))

/-- Closing a finished stream. -/
lemma closeFinished_wp (writeFinished : Bool) :
    Wp (closeFinished r writeFinished) s (fun _ t => Closing r writeFinished s t)
      (fun t => t = s) := by
  refine .bind (.get ?_)
  split
  · rename_i close
    refine .bind (.bind (.ask rfl ?_))
    rintro _ ⟨cbs, rv⟩ _
    exact .bind (.modify (.pure (.pure (.inr ⟨close, cbs, rv, rfl⟩))))
  · rename_i closed
    rw [Bool.not_eq_true] at closed
    exact .pure (.inl ⟨closed, rfl⟩)

/-- Nothing is left to read: the stream is ready or not. -/
lemma drained_wp {S : Session → Prop} (budget : Budget) :
    Wp (drained r budget) s (fun b t => t = s ∧ b.1 = (t.objs r).ready) S :=
  .bind (.get (.pure ⟨rfl, rfl⟩))

/-- A read is a move. -/
lemma Reading.move (m : Reading r s t) : Move s t := by
  cases m with
  | use result hq other => exact .use _ (.inl ⟨r, hq⟩) other
  | feed cbs rv hq ne client unread => exact .feed cbs rv hq ne client unread
  | feedFin cbs rv hq last unread => exact .feedFin cbs rv hq last rfl (.inr unread)
  | done => exact .done r

/-- Reads are moves. -/
lemma reading_moves (ms : Relation.ReflTransGen (Reading r) s t) : Moves s t :=
  Relation.ReflTransGen.mono (fun _ _ m => m.move) s t ms

/-- Closing a stream is made of moves. -/
lemma Closing.moves {writeFinished : Bool} (h : Closing r writeFinished s t) : Moves s t := by
  rcases h with ⟨_, rfl⟩ | ⟨_, cbs, rv, rfl⟩
  · exact .refl
  · exact (Move.call cbs rv rfl).moves

/-- A visit of a stream is made of moves. -/
lemma Visit.moves (v : Visit r s t) : Moves s t := by
  cases v with
  | read hq reads => exact reading_moves reads
  | unfinished hq _ reads => exact .head (.use _ (.inl ⟨r, hq⟩) rfl) (reading_moves reads)
  | @finished h rstate wstate u _ hq fin fed closing =>
    refine .head (.use (.isReadFinished rstate wstate) (.inl ⟨r, hq⟩) rfl) ?_
    rcases fed with ⟨_, rfl⟩ | ⟨unread, cbs, rv, rfl⟩
    · exact closing.moves
    · exact .head (.feedFin cbs rv hq List.getLast?_concat fin (.inl unread)) closing.moves

/-- Reading a client's stream; the result says whether it is ready. -/
lemma drainOneStream_wp (alive : s.ngh3Dead = false)
    (client : sidIsServer (s.objs r).streamId = false) (budget : Budget) :
    Wp (drainOneStream r budget) s (fun b t => Visit r s t ∧ b.1 = (t.objs r).ready) (Moves s) := by
  have last : ∀ {budget : Budget} {t : Session}, Visit r s t →
      Wp (drained r budget) t (fun b t => Visit r s t ∧ b.1 = (t.objs r).ready) (Moves s) := by
    intro budget t visit
    refine (drained_wp budget).mono ?_ fun _ => id
    rintro b _ ⟨rfl, eq⟩
    exact ⟨visit, eq⟩
  refine .bind (queryFinished_wp.mono ?_ ?_)
  · rintro f t (⟨hq, rfl, rfl⟩ | ⟨h, rstate, wstate, hq, rfl, rfl⟩)
    -- without a handle the read loop only marks the stream as done
    · have usable : ∀ h, (t.objs r).qstream = some h → readable h t.log = true := by
        rw [hq]
        exact nofun
      refine .bind ((readLoop_goes client usable alive _ _).mono ?_ fun _ => reading_moves)
      exact fun _ t reads => last (.read hq reads)
    · have used : Moves s (s.emit (.op (.use (.isReadFinished rstate wstate) h))) :=
        (Move.use _ (.inl ⟨r, hq⟩) rfl).moves
      cases fin : (isReadFinished rstate wstate).1 with
      | true =>
        have close : ∀ u, Moves s u →
            (((s.objs r).bodyComplete = true ∧
              u = s.emit (.op (.use (.isReadFinished rstate wstate) h))) ∨
              ((s.objs r).bodyComplete = false ∧
                ∃ cbs rv, u = (s.emit (.op (.use (.isReadFinished rstate wstate) h))).feedFin r cbs
                rv)) →
            Wp (closeFinished r (isReadFinished rstate wstate).2 >>= fun _ => drained r budget) u
              (fun b t => Visit r s t ∧ b.1 = (t.objs r).ready) (Moves s) := by
          intro u moves fed
          refine .bind ((closeFinished_wp _).mono ?_ ?_)
          · exact fun _ t closing => last (.finished hq fin fed closing)
          · rintro t rfl
            exact moves
        refine .bind (.get ?_)
        split
        · rename_i whole
          exact close _ used (.inl ⟨whole, rfl⟩)
        · rename_i unread
          rw [Bool.not_eq_true] at unread
          refine .bind (feedStreamFin_wp.mono ?_ ?_)
          · rintro _ _ ⟨cbs, rv, rfl⟩
            exact close _ (used.tail (.feedFin cbs rv hq List.getLast?_concat fin (.inl unread)))
              (.inr ⟨unread, cbs, rv, rfl⟩)
          · rintro t rfl
            exact used
      | false =>
        have unread : ∀ h', (s.objs r).qstream = some h' →
            readable h' (s.log ++ [Entry.op (.use (.isReadFinished rstate wstate) h)]) = true := by
          intro h' hq'
          rw [hq] at hq'
          cases hq'
          -- the query that just answered makes the handle readable
          rw [readable_append, Entry.opens, if_pos rfl, fin]
          rfl
        refine .bind ((readLoop_goes (s := s.emit _) client unread alive _ _).mono ?_ ?_)
        · exact fun _ t reads => last (.unfinished hq fin reads)
        · exact fun t reads => used.trans (reading_moves reads)
  · rintro t rfl
    exact .refl

/-- The loop of the drain is made of moves. -/
lemma drainLoop_goes (n : Nat) (todo : List (Ref × Nat)) (budget : Budget) :
    Goes Move (drainLoop n todo budget) := by
  induction todo generalizing budget with
  | nil => exact Goes.pure
  | cons p todo ih =>
    obtain ⟨r, i⟩ := p
    refine Goes.get_bind fun s => ?_
    split
    · exact Goes.pure s
    split
    · exact ih budget s
    rename_i alive skip
    rw [Bool.not_eq_true] at alive
    simp only [Bool.or_eq_true, not_or, Bool.not_eq_true] at skip
    refine Wp.bind ((drainOneStream_wp alive skip.2 budget).mono ?_ fun _ => id)
    rintro ⟨ready, budget⟩ t ⟨visit, eq⟩
    have ht := visit.moves
    refine Wp.mono (?_ : GoesFrom Move _ _) (fun _ _ => ht.trans) fun _ => ht.trans
    refine .modify_bind ?_ ?_
    · split
      · rename_i h
        rw [Bool.and_eq_true] at h
        exact (Move.completed (by rw [← eq, h.1])).moves
      · exact .refl
    · split
      · exact .modify (Move.cursor _).moves
      · exact ih _ _

/-- Reclaiming one stream. -/
lemma reclaim_moves (s : Session) (r : Ref) : Moves s (s.reclaim r) := by
  rw [Session.reclaim]
  split
  · rename_i rec
    dsimp only
    split
    · refine .head (.writeBlocked r false _) (.single (.reclaim ?_))
      show (Function.update s.objs r { s.objs r with writeBlocked := false } r).reclaimable = true
      rw [Function.update_self]
      exact rec
    · exact .single (.reclaim rec)
  · exact .refl

/-- Doing something for each element of a list. -/
lemma foldl_moves {α : Type} {f : Session → α → Session} (h : ∀ s a, Moves s (f s a)) (as : List α)
    (s : Session) : Moves s (as.foldl f s) := by
  induction as generalizing s with
  | nil => exact .refl
  | cons a as ih => exact (h s a).trans (ih _)

/-- What each step of a fold keeps, the fold keeps. -/
lemma foldl_keeps {σ α β : Type} {g : σ → α → σ} (f : σ → β) (keep : ∀ s a, f (g s a) = f s)
    (as : List α) (s : σ) : f (as.foldl g s) = f s := by
  induction as generalizing s with
  | nil => rfl
  | cons a as ih => exact (ih _).trans (keep s a)

/-- The drain is made of moves. -/
lemma drainReadyStreams_goes : Goes Move drainReadyStreams := by
  refine iterate_goes.bind fun snapshot => ?_
  refine (Goes.modify fun _ => Move.newPass.moves).bind fun _ => Goes.get_bind fun s => ?_
  refine ((drainLoop_goes _ _ _).bind fun _ => ?_) s
  exact Goes.modify fun s => foldl_moves reclaim_moves snapshot s

/-- Destroying the session is made of moves. -/
lemma destroySession_goes : Goes Move destroySession := by
  refine (Goes.modify fun _ => Move.ngh3Gone.moves).bind fun _ => ?_
  refine (Goes.modify fun s => foldl_moves (fun s r => (Move.cancel r).moves) s.streams s).bind
    fun _ => ?_
  exact Goes.modify fun s => freePending_moves _ s

end

end ModHttp3.H3

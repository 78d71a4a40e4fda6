import ModHttp3.Session.Flush
import ModHttp3.Session.Identity
import ModHttp3.Session.Reclaim

/-!
# Block accounting

A stream whose send buffer is full is marked in three places: `write_blocked` of its object,
`blocked_streams` of the session, which counts these marks, and in nghttp3, which is told with
`nghttp3_conn_block_stream` and `nghttp3_conn_unblock_stream`. The flush loop, the scan for streams
to re-enable and the reclaim loop change them. They agree between any two sections (`Accounted`,
`block_accounting`): the flush marks a tracked stream that is not marked, the scan takes back what
it finds marked (`Marking`), and a stream that is reclaimed is not counted any more. Everything else
leaves the three alone (`Session.Unmoved`).

nghttp3 is never told that a reclaimed stream is unblocked. This does no harm because QUIC does not
use the id of the stream again (`Settled.traced`).
-/

namespace ModHttp3.H3
open ModHttp3.Lib ModHttp3.Lib.Script

/-- Whether nghttp3 has the stream blocked after an entry. -/
def Entry.blocks (sid : Int) (before : Bool) : Entry → Bool
  | .call (.blockStream sid') _ _ => if sid' = sid then true else before
  | .call (.unblockStream sid') _ _ => if sid' = sid then false else before
  | _ => before

/-- nghttp3 has the stream blocked: the last `nghttp3_conn_block_stream` for it is not followed by
an `nghttp3_conn_unblock_stream`. -/
def blockedIn (sid : Int) (log : List Entry) : Bool := log.foldl (Entry.blocks sid) false

/-- The entry blocks or unblocks no stream. -/
def Entry.NoBlock (e : Entry) : Prop := ∀ sid b, e.blocks sid b = b

/-- The three records of blocked streams agree for the streams in the hash, which have distinct
ids. -/
structure Accounted (s : Session) : Prop where
  count : s.blockedStreams = s.streams.countP fun r => (s.objs r).writeBlocked
  flags : ∀ r ∈ s.streams, blockedIn (s.objs r).streamId s.log = (s.objs r).writeBlocked
  nodup : s.streams.Nodup
  unique : ∀ r ∈ s.streams, ∀ r' ∈ s.streams, (s.objs r).streamId = (s.objs r').streamId → r = r'

/-- Moreover, what nghttp3 has blocked are streams that have an object, in the hash or reclaimed. -/
structure Settled (s : Session) : Prop extends Accounted s where
  tracked : ∀ r ∈ s.streams, r < s.next
  traced : ∀ sid, blockedIn sid s.log = true → ∃ r < s.next, (s.objs r).streamId = sid

/-- Nothing happened to the streams in the hash, their marks, and what nghttp3 was told about
them. -/
structure Session.Unmoved (s t : Session) : Prop where
  streams : t.streams = s.streams
  next : t.next = s.next
  blockedStreams : t.blockedStreams = s.blockedStreams
  streamId : ∀ r, (t.objs r).streamId = (s.objs r).streamId
  writeBlocked : ∀ r, (t.objs r).writeBlocked = (s.objs r).writeBlocked
  blocked : ∀ sid, blockedIn sid t.log = blockedIn sid s.log

/-- What a step of a flush does to the marks: nothing, or it takes one away or sets one, and tells
nghttp3. -/
inductive Marking (s : Session) : Session → Prop where
  | unmoved {t} :
    s.Unmoved t →
    Marking s t
  | unblock {r u t} :
    s.Unmoved u →
    r ∈ u.streams →
    (u.objs r).writeBlocked = true →
    Called (.unblockStream (u.objs r).streamId) (u.unblock r) t →
    Marking s t
  | block {r u t} :
    s.Unmoved u →
    r ∈ u.streams →
    (u.objs r).writeBlocked = false →
    Called (.blockStream (u.objs r).streamId) (u.block r) t →
    Marking s t

section
variable {s t u : Session} {r : Ref} {c : Call} {sid : Int} {log es : List Entry}

/-- Entries that are not about blocking leave a stream as it was. -/
lemma blockedIn_append (noBlock : ∀ e ∈ es, e.NoBlock) :
    blockedIn sid (log ++ es) = blockedIn sid log := by
  rw [blockedIn, List.foldl_append]
  change es.foldl (Entry.blocks sid) (blockedIn sid log) = blockedIn sid log
  induction es with
  | nil => rfl
  | cons e es ih =>
    rw [List.foldl_cons, noBlock e List.mem_cons_self]
    exact ih fun e' mem => noBlock e' (List.mem_cons_of_mem _ mem)

/-- Whether a stream is blocked after one more entry. -/
lemma blockedIn_snoc (e : Entry) :
    blockedIn sid (log ++ [e]) = e.blocks sid (blockedIn sid log) := by
  rw [blockedIn, List.foldl_concat]
  rfl

/-- Callbacks block no stream. -/
lemma blockedIn_runCbs (s : Session) (cbs : List Cb) :
    blockedIn sid (runCbs s cbs).log = blockedIn sid s.log := by
  obtain ⟨es, eq, resets⟩ := runCbs_log (s := s) cbs
  rw [eq, blockedIn_append]
  intro e mem
  obtain ⟨_, _, rfl⟩ := resets e mem
  exact fun _ _ => rfl

namespace Session.Unmoved

/-- Nothing moved. -/
lemma refl : s.Unmoved s := ⟨rfl, rfl, rfl, fun _ => rfl, fun _ => rfl, fun _ => rfl⟩

/-- Two such steps in a row. -/
lemma trans (h1 : s.Unmoved t) (h2 : t.Unmoved u) : s.Unmoved u where
  streams := h2.streams.trans h1.streams
  next := h2.next.trans h1.next
  blockedStreams := h2.blockedStreams.trans h1.blockedStreams
  streamId r := (h2.streamId r).trans (h1.streamId r)
  writeBlocked r := (h2.writeBlocked r).trans (h1.writeBlocked r)
  blocked sid := (h2.blocked sid).trans (h1.blocked sid)

/-- An entry that is not about blocking. -/
lemma emit {e : Entry} (noBlock : e.NoBlock) : s.Unmoved (s.emit e) :=
  ⟨rfl, rfl, rfl, fun _ => rfl, fun _ => rfl, fun sid => (blockedIn_snoc e).trans (noBlock sid _)⟩

/-- A change of an object that keeps its id and its mark. -/
lemma modifyObj {f : H3Stream → H3Stream} (streamId : ∀ x, (f x).streamId = x.streamId)
    (writeBlocked : ∀ x, (f x).writeBlocked = x.writeBlocked) : s.Unmoved (s.modifyObj r f) where
  streams := rfl
  next := rfl
  blockedStreams := rfl
  streamId := update_rel (P := fun x y => y.streamId = x.streamId) (streamId _) fun _ => rfl
  writeBlocked := update_rel (P := fun x y => y.writeBlocked = x.writeBlocked) (writeBlocked _)
    fun _ => rfl
  blocked _ := rfl

/-- A change of something else. -/
lemma same (streams : t.streams = s.streams) (next : t.next = s.next)
    (blockedStreams : t.blockedStreams = s.blockedStreams) (objs : t.objs = s.objs)
    (log : t.log = s.log) :
    s.Unmoved t :=
  ⟨streams, next, blockedStreams, fun _ => by rw [objs], fun _ => by rw [objs],
    fun _ => by rw [log]⟩

/-- Callbacks move nothing. -/
lemma runCbs (cbs : List Cb) : s.Unmoved (H3.runCbs s cbs) where
  streams := (runCbs_frame cbs).streams
  next := (runCbs_frame cbs).next
  blockedStreams := (runCbs_frame cbs).blockedStreams
  streamId r := ((runCbs_frame cbs).objs r).streamId
  writeBlocked r := ((runCbs_frame cbs).objs r).writeBlocked
  blocked _ := blockedIn_runCbs s cbs

end Session.Unmoved

/-- A call that is not about blocking. -/
lemma Called.unmoved (called : Called c s t) (noBlock : ∀ cbs rv, (Entry.call c cbs rv).NoBlock) :
    s.Unmoved t := by
  obtain ⟨cbs, rv, rfl⟩ := called
  exact (Session.Unmoved.emit (noBlock cbs rv)).trans (.runCbs cbs)

/-- Adding offsets blocks nothing. -/
lemma Offsets.unmoved {n : Nat} (offsets : Offsets sid n s t) : s.Unmoved t := by
  obtain ⟨u, write, ack⟩ := offsets
  exact (write.unmoved fun _ _ _ _ => rfl).trans (ack.unmoved fun _ _ _ _ => rfl)

/-- Asking for vectors blocks nothing. -/
lemma Writev.unmoved {fin : Bool} {lens : List Nat} (writev : Writev sid fin lens s t) :
    s.Unmoved t := by
  obtain ⟨cbs, nvec, _, _, rfl⟩ := writev
  exact Called.unmoved (c := .writevStream sid fin lens) ⟨cbs, nvec, rfl⟩ fun _ _ _ _ => rfl

/-- The scan removes no stream. -/
lemma Scan.streams (scan : Scan r s t) : t.streams = s.streams := by
  cases scan with
  | unmarked | full => rfl
  | unblock _ room called =>
    obtain ⟨cbs, rv, rfl⟩ := called
    rw [(runCbs_frame cbs).streams]
    rcases room with ⟨_, rfl⟩ | ⟨h, _, rfl⟩
    all_goals rfl

/-- Getting a handle blocks nothing. -/
lemma acquire_unmoved (s : Session) (sid : Int) : s.Unmoved (s.acquire sid) := by
  have taken : s.Unmoved { s with handles := s.handles + 1, held := s.handles :: s.held } :=
    .same rfl rfl rfl rfl rfl
  exact taken.trans (.emit fun _ _ => rfl)

/-- Freeing a handle blocks nothing. -/
lemma freeHeld_unmoved (s : Session) (h : Handle) : s.Unmoved (s.freeHeld h) := by
  have dropped : s.Unmoved { s with held := s.held.erase h } := .same rfl rfl rfl rfl rfl
  exact dropped.trans (.emit fun _ _ => rfl)

/-- Opening the stream of an object blocks nothing. -/
lemma retrack_unmoved (s : Session) (r : Ref) (h : Handle) : s.Unmoved (s.retrack r h) := by
  have given : s.Unmoved (s.modifyObj r fun x => { x with qstream := some h }) :=
    .modifyObj (fun _ => rfl) fun _ => rfl
  exact given.trans (.same rfl rfl rfl rfl rfl)

/-- Freeing a waiting handle blocks nothing. -/
lemma popFree_unmoved (s : Session) (h : Handle) :
    s.Unmoved ({ s with pendingFree := s.pendingFree.dropLast }.emit (.op (.free h))) := by
  have popped : s.Unmoved { s with pendingFree := s.pendingFree.dropLast } :=
    .same rfl rfl rfl rfl rfl
  exact popped.trans (.emit fun _ _ => rfl)

/-- A fold of such steps. -/
lemma foldl_unmoved {α : Type} {f : Session → α → Session}
    (h : ∀ (s : Session) a, s.Unmoved (f s a)) (as : List α) (s : Session) :
    s.Unmoved (as.foldl f s) := by
  induction as generalizing s with
  | nil => exact .refl
  | cons a as ih => exact (h s a).trans (ih _)

/-- The account survives what blocks nothing. -/
lemma Accounted.unmoved (hs : Accounted s) (m : s.Unmoved t) : Accounted t where
  count := by
    rw [m.blockedStreams, m.streams, hs.count]
    simp only [m.writeBlocked]
  flags r mem := by
    rw [m.streams] at mem
    rw [m.streamId, m.writeBlocked, m.blocked]
    exact hs.flags r mem
  nodup := m.streams ▸ hs.nodup
  unique r mem r' mem' same := by
    rw [m.streams] at mem mem'
    rw [m.streamId, m.streamId] at same
    exact hs.unique r mem r' mem' same

/-- So does the state between two sections. -/
lemma Settled.unmoved (hs : Settled s) (m : s.Unmoved t) : Settled t := by
  refine ⟨hs.toAccounted.unmoved m, ?_, ?_⟩
  · rw [m.streams, m.next]
    exact hs.tracked
  · intro sid blocked
    rw [m.blocked] at blocked
    obtain ⟨r, lt, id⟩ := hs.traced sid blocked
    exact ⟨r, m.next ▸ lt, (m.streamId r).trans id⟩

/-- The number of marks when one of them changes. -/
lemma countP_update {rs : List Ref} {p q : Ref → Bool} (nodup : rs.Nodup) (mem : r ∈ rs)
    (same : ∀ r', r' ≠ r → q r' = p r') :
    rs.countP q + (p r).toNat = rs.countP p + (q r).toNat := by
  have perm := List.perm_cons_erase mem
  have rest : (rs.erase r).countP q = (rs.erase r).countP p := by
    refine List.countP_congr ?_
    intro r' mem'
    rw [same r' (List.Nodup.mem_erase_iff nodup |>.mp mem').1]
  rw [perm.countP_eq q, perm.countP_eq p, List.countP_cons, List.countP_cons, rest]
  cases p r <;> cases q r <;> simp

/-- One mark changes, the count follows, and nghttp3 is told. -/
lemma Accounted.mark {b : Bool} {n : Int} (hs : Accounted s) (mem : r ∈ s.streams)
    (other : (s.objs r).writeBlocked = !b) (count : n = s.blockedStreams + b.toNat - (!b).toNat)
    (tell : ∀ cbs rv sid before, (Entry.call c cbs rv).blocks sid before = if (s.objs r).streamId =
      sid then b else before)
    (called : Called c
      { s.modifyObj r fun x => { x with writeBlocked := b } with blockedStreams := n } t) :
    Accounted t := by
  obtain ⟨cbs, rv, rfl⟩ := called
  -- the callbacks come last and move nothing
  refine Accounted.unmoved ?_ (.runCbs cbs)
  generalize marked : (s.modifyObj r fun x => { x with writeBlocked := b }) = v
  have ids : ∀ r', (v.objs r').streamId = (s.objs r').streamId := by
    rw [← marked]
    exact update_rel (P := fun x y => y.streamId = x.streamId) rfl fun _ => rfl
  have mine : (v.objs r).writeBlocked = b := by
    rw [← marked, Session.modifyObj_objs, Function.update_self]
  have others : ∀ r', r' ≠ r → (v.objs r').writeBlocked = (s.objs r').writeBlocked := by
    intro r' ne
    rw [← marked, Session.modifyObj_objs, Function.update_of_ne ne]
  have streams : v.streams = s.streams := by rw [← marked]; rfl
  have log : v.log = s.log := by rw [← marked]; rfl
  refine ⟨?_, ?_, streams ▸ hs.nodup, ?_⟩
  · have marks := countP_update (p := fun r => (s.objs r).writeBlocked)
      (q := fun r => (v.objs r).writeBlocked)
      hs.nodup mem others
    rw [mine, other] at marks
    show n = (v.streams.countP fun r => (v.objs r).writeBlocked : Nat)
    rw [count, hs.count, streams]
    omega
  · intro r' mem'
    show blockedIn (v.objs r').streamId (v.log ++ [_]) = (v.objs r').writeBlocked
    replace mem' : r' ∈ s.streams := streams ▸ mem'
    rw [ids, log, blockedIn_snoc, tell]
    by_cases eq : r' = r
    · subst eq
      rw [if_pos rfl, mine]
    · rw [if_neg fun id => eq (hs.unique r mem r' mem' id).symm, others r' eq]
      exact hs.flags r' mem'
  · intro r₁ mem₁ r₂ mem₂ id
    refine hs.unique r₁ (streams ▸ mem₁) r₂ (streams ▸ mem₂) ?_
    rw [← ids r₁, ← ids r₂]
    exact id

/-- Marking a stream keeps the account. -/
lemma Accounted.marking (hs : Accounted s) (m : Marking s t) : Accounted t := by
  cases m with
  | unmoved moved => exact hs.unmoved moved
  | unblock moved mem marked called =>
    refine (hs.unmoved moved).mark (b := false) mem marked ?_ (fun _ _ _ _ => rfl) called
    simp
  | block moved mem unmarked called =>
    refine (hs.unmoved moved).mark (b := true) mem unmarked ?_ (fun _ _ _ _ => rfl) called
    simp

/-- nghttp3 is told of a tracked stream. -/
lemma Settled.told (hs : Settled s) (mem : r ∈ s.streams) (streams : u.streams = s.streams)
    (next : u.next = s.next) (ids : ∀ r, (u.objs r).streamId = (s.objs r).streamId)
    (log : u.log = s.log)
    (tell : ∀ cbs rv sid before, (Entry.call c cbs rv).blocks sid before = true →
      before = true ∨ (s.objs r).streamId = sid)
    (called : Called c u t) (accounted : Accounted t) : Settled t := by
  obtain ⟨cbs, rv, rfl⟩ := called
  have frame := runCbs_frame (s := u.emit (.call c cbs rv)) cbs
  refine ⟨accounted, ?_, ?_⟩
  · rw [frame.streams, frame.next]
    show ∀ r ∈ u.streams, r < u.next
    rw [streams, next]
    exact hs.tracked
  · intro sid blocked
    rw [blockedIn_runCbs] at blocked
    replace blocked : blockedIn sid (u.log ++ [Entry.call c cbs rv]) = true := blocked
    rw [blockedIn_snoc, log] at blocked
    obtain ⟨r', lt, id⟩ : ∃ r' < s.next, (s.objs r').streamId = sid := by
      rcases tell cbs rv sid _ blocked with before | id
      · exact hs.traced sid before
      · exact ⟨r, hs.tracked r mem, id⟩
    refine ⟨r', ?_, ?_⟩
    · rw [frame.next]
      exact next ▸ lt
    · rw [(frame.objs r').streamId]
      exact (ids r').trans id

/-- So does it keep the state between two sections. -/
lemma Settled.marking (hs : Settled s) (m : Marking s t) : Settled t := by
  have accounted := hs.toAccounted.marking m
  cases m with
  | unmoved moved => exact hs.unmoved moved
  | @unblock r u _ moved mem marked called =>
    refine (hs.unmoved moved).told (u := u.unblock r) mem rfl rfl ?_ rfl ?_ called accounted
    · exact update_rel (P := fun x y => y.streamId = x.streamId) rfl fun _ => rfl
    · intro cbs rv sid before blocked
      rw [Entry.blocks] at blocked
      split at blocked
      · cases blocked
      · exact .inl blocked
  | @block r u _ moved mem unmarked called =>
    refine (hs.unmoved moved).told (u := u.block r) mem rfl rfl ?_ rfl ?_ called accounted
    · exact update_rel (P := fun x y => y.streamId = x.streamId) rfl fun _ => rfl
    · intro cbs rv sid before blocked
      rw [Entry.blocks] at blocked
      split at blocked
      · exact .inr ‹_›
      · exact .inl blocked

/-- The scan for streams to re-enable. -/
lemma Scan.marking (scan : Scan r s t) (mem : r ∈ s.streams) : Marking s t := by
  cases scan with
  | unmarked => exact .unmoved .refl
  | full => exact .unmoved (.emit fun _ _ => rfl)
  | @unblock u _ marked room called =>
    have asked : s.Unmoved u := by
      rcases room with ⟨_, rfl⟩ | ⟨h, _, rfl⟩
      · exact .refl
      · exact .emit fun _ _ => rfl
    rw [← asked.streamId] at called
    exact .unblock asked (asked.streams ▸ mem) ((asked.writeBlocked r).trans marked) called

/-- One turn of a flush. -/
lemma FlushTurn.marking {go : Bool} (turn : FlushTurn s go t) : Marking s t := by
  cases turn with
  | @failed sid fin lens cbs nvec neg =>
    have called : s.Unmoved _ :=
      Called.unmoved (c := .writevStream sid fin lens) ⟨cbs, nvec, rfl⟩ fun _ _ _ _ => rfl
    exact .unmoved (called.trans (.same rfl rfl rfl rfl rfl))
  | @nothing sid fin lens cbs neg =>
    exact .unmoved (Called.unmoved (c := .writevStream sid fin lens) ⟨cbs, 0, rfl⟩
      fun _ _ _ _ => rfl)
  | swallowed writev gone offsets => exact .unmoved (writev.unmoved.trans offsets.unmoved)
  | broken writev found hq broken offsets =>
    exact .unmoved ((writev.unmoved.trans (.emit fun _ _ => rfl)).trans offsets.unmoved)
  | @written sid fin lens r h res u v _ writev found hq whole offsets last =>
    have wrote : u.Unmoved (u.emit (.op (.use (.write lens fin res) h))) := .emit fun _ _ => rfl
    have after : u.Unmoved v := wrote.trans offsets.unmoved
    have moved : s.Unmoved v := writev.unmoved.trans after
    rcases last with ⟨_, rfl⟩ | ⟨_, unmarked, called⟩
    · exact .unmoved moved
    · obtain ⟨mem, id⟩ := Session.find_some found
      rw [← id, ← after.streamId] at called
      exact .block moved (after.streams ▸ mem) unmarked called

/-- A flush. -/
lemma flush_settled (hs : Settled s) (st : Step s .flush t) : Settled t := by
  refine st.ends (flushNghttp3_scan_wp (I := fun rs u => Settled u ∧ rs ⊆ u.streams) (K := Settled)
    (fun _ _ => ⟨hs, List.nil_subset _⟩) (fun _ rs perm => ⟨hs, perm.subset⟩) ?_ ?_ ?_ fun _ => hs)
  · rintro r rs u v ⟨hu, left⟩ scan
    refine ⟨hu.marking (scan.marking (left List.mem_cons_self)), ?_⟩
    rw [scan.streams]
    exact fun r' mem => left (List.mem_cons_of_mem _ mem)
  · rintro u go v ⟨hu, _⟩ turn
    have hv := hu.marking turn.marking
    split
    · exact ⟨hv, List.nil_subset _⟩
    · exact hv
  · exact fun u h hu => hu.unmoved (popFree_unmoved u h)

/-- A new stream object, of a stream that had none. -/
lemma Settled.track {h : Handle} (hs : Settled s)
    (fresh : ∀ r < s.next, (s.objs r).streamId ≠ sid) :
    Settled (s.track sid h) := by
  have old : ∀ r < s.next, (s.track sid h).objs r = s.objs r :=
    fun r lt => Function.update_of_ne lt.ne _ _
  have new : (s.track sid h).objs s.next = .init sid (some h) := Function.update_self ..
  have unblocked : blockedIn sid s.log = false := by
    by_contra blocked
    rw [Bool.not_eq_false] at blocked
    obtain ⟨r, lt, id⟩ := hs.traced sid blocked
    exact fresh r lt id
  have known : ∀ r ∈ (s.track sid h).streams, r ∈ s.streams ∨ r = s.next := by
    intro r mem
    exact (List.mem_append.mp mem).imp_right List.mem_singleton.mp
  refine ⟨⟨?_, ?_, ?_, ?_⟩, ?_, ?_⟩
  · show s.blockedStreams =
      ((s.streams ++ [s.next]).countP fun r => ((s.track sid h).objs r).writeBlocked : Nat)
    rw [List.countP_append, List.countP_singleton, new, hs.count]
    have same : (s.streams.countP fun r => ((s.track sid h).objs r).writeBlocked) =
        s.streams.countP fun r => (s.objs r).writeBlocked := by
      refine List.countP_congr fun r mem => ?_
      rw [old r (hs.tracked r mem)]
    rw [same]
    rfl
  · intro r mem
    rcases known r mem with mem | rfl
    · rw [old r (hs.tracked r mem)]
      exact hs.flags r mem
    · rw [new]
      exact unblocked
  · refine List.nodup_append.mpr ⟨hs.nodup, List.nodup_singleton _, ?_⟩
    rintro r mem _ (_ | ⟨_, ⟨⟩⟩) rfl
    exact Nat.lt_irrefl _ (hs.tracked _ mem)
  · intro r mem r' mem' same
    rcases known r mem with mem | rfl
    · rcases known r' mem' with mem' | rfl
      · rw [old r (hs.tracked r mem), old r' (hs.tracked r' mem')] at same
        exact hs.unique r mem r' mem' same
      · rw [old r (hs.tracked r mem), new] at same
        exact absurd same (fresh r (hs.tracked r mem))
    · rcases known r' mem' with mem' | rfl
      · rw [old r' (hs.tracked r' mem'), new] at same
        exact absurd same.symm (fresh r' (hs.tracked r' mem'))
      · rfl
  · intro r mem
    rcases known r mem with mem | rfl
    · exact Nat.lt_succ_of_lt (hs.tracked r mem)
    · exact Nat.lt_succ_self _
  · intro sid' blocked
    obtain ⟨r, lt, id⟩ := hs.traced sid' blocked
    exact ⟨r, Nat.lt_succ_of_lt lt, by rw [old r lt, id]⟩

/-- What reclaiming a stream does to the marks: only its own is taken away, and counted. -/
lemma reclaim_marks (finished : (s.objs r).reclaimable = true) :
    (s.reclaim r).blockedStreams = s.blockedStreams - (s.objs r).writeBlocked.toNat ∧
      (s.reclaim r).next = s.next ∧
      ∀ r', r' ≠ r → ((s.reclaim r).objs r').writeBlocked = (s.objs r').writeBlocked := by
  rw [Session.reclaim, if_pos finished]
  dsimp only
  cases marked : (s.objs r).writeBlocked with
  | false => exact ⟨(Int.sub_zero _).symm, rfl, fun _ _ => rfl⟩
  | true =>
    refine ⟨rfl, rfl, fun r' ne => ?_⟩
    exact congrArg H3Stream.writeBlocked (Function.update_of_ne ne _ _)

/-- A stream of the hash is reclaimed; nghttp3 is not told. -/
lemma Settled.reclaim (hs : Settled s) (mem : r ∈ s.streams) : Settled (s.reclaim r) := by
  by_cases finished : (s.objs r).reclaimable = true
  · obtain ⟨count, next, others⟩ := reclaim_marks finished
    have streams : (s.reclaim r).streams = s.streams.erase r := by
      rw [reclaim_streams, if_pos finished]
    have ids : ∀ r', ((s.reclaim r).objs r').streamId = (s.objs r').streamId :=
      fun r' => reclaim_objs H3Stream.streamId (fun _ _ => rfl) s r' r
    have left : ∀ r' ∈ (s.reclaim r).streams, r' ≠ r ∧ r' ∈ s.streams := by
      rw [streams]
      exact fun r' mem' => hs.nodup.mem_erase_iff.mp mem'
    refine ⟨⟨?_, ?_, streams ▸ hs.nodup.erase r, ?_⟩, ?_, ?_⟩
    · have marks := (List.perm_cons_erase mem).countP_eq fun r => (s.objs r).writeBlocked
      have same : ((s.reclaim r).streams.countP fun r' => ((s.reclaim r).objs r').writeBlocked) =
          (s.streams.erase r).countP fun r' => (s.objs r').writeBlocked := by
        rw [streams]
        refine List.countP_congr fun r' mem' => ?_
        rw [others r' (hs.nodup.mem_erase_iff.mp mem').1]
      rw [List.countP_cons] at marks
      rw [count, same, hs.count, marks]
      cases (s.objs r).writeBlocked
      all_goals simp
    · intro r' mem'
      obtain ⟨ne, mem'⟩ := left r' mem'
      rw [ids, others r' ne, reclaim_log]
      exact hs.flags r' mem'
    · intro r₁ mem₁ r₂ mem₂ same
      rw [ids, ids] at same
      exact hs.unique r₁ (left r₁ mem₁).2 r₂ (left r₂ mem₂).2 same
    · intro r' mem'
      rw [next]
      exact hs.tracked r' (left r' mem').2
    · intro sid blocked
      rw [reclaim_log] at blocked
      obtain ⟨r', lt, id⟩ := hs.traced sid blocked
      exact ⟨r', next ▸ lt, (ids r').trans id⟩
  · rw [Session.reclaim, if_neg finished]
    exact hs

/-- The reclaim loop over a snapshot of the hash. -/
lemma Settled.reclaimed {rs : List Ref} (hs : Settled s) (nodup : rs.Nodup) (mem : rs ⊆ s.streams) :
    Settled (rs.foldl Session.reclaim s) := by
  induction rs generalizing s with
  | nil => exact hs
  | cons r rs ih =>
    have tail := List.nodup_cons.mp nodup
    refine ih (hs.reclaim (mem List.mem_cons_self)) tail.2 ?_
    intro r' mem'
    have before : r' ∈ s.streams := mem (List.mem_cons_of_mem _ mem')
    rw [reclaim_streams]
    split
    · refine (List.mem_erase_of_ne ?_).mpr before
      rintro rfl
      exact tail.1 mem'
    · exact before

/-- A drain pass. -/
lemma drain_settled (hs : Settled s) (st : Step s .drain t) : Settled t := by
  have reads : ∀ e : Entry, e.isRead = true → e.NoBlock := by
    intro e reads
    unfold Entry.isRead at reads
    split at reads
    all_goals first | exact fun _ _ => rfl | cases reads
  have query : ∀ e : Entry, e.isQuery = true → e.NoBlock := by
    intro e query
    unfold Entry.isQuery at query
    split at query
    · exact fun _ _ => rfl
    · cases query
  obtain ⟨u, snapshot, later, perm, rfl⟩ := drain_later reads query st
  obtain ⟨es, log, noBlock⟩ := later.log
  have moved : s.Unmoved u :=
    ⟨later.streams, later.next, later.blockedStreams, fun r => (later.objs r).streamId,
      fun r => (later.objs r).writeBlocked, fun _ => by rw [log, blockedIn_append noBlock]⟩
  refine (hs.unmoved moved).reclaimed (perm.nodup_iff.mpr hs.nodup) ?_
  rw [later.streams]
  exact perm.subset

/-- An object is new only for a stream that had none: QUIC does not use an id again. -/
lemma track_fresh {b m : Nat} {h : Handle} (moves : Moves (.init b m) (s.track sid h))
    (ids : UniqueIds (s.track sid h).log) : ∀ r < s.next, (s.objs r).streamId ≠ sid := by
  intro r lt same
  have old : (s.track sid h).objs r = s.objs r := Function.update_of_ne lt.ne _ _
  have new : (s.track sid h).objs s.next = .init sid (some h) := Function.update_self ..
  have eq : r = s.next := by
    refine ids.unique moves (Nat.lt_succ_of_lt lt) (Nat.lt_succ_self _) ?_
    rw [old, new, same]
    rfl
  exact lt.ne eq

/-- A stream is accepted. -/
lemma accept_settled {b m : Nat} (hs : Settled s) (moves : Moves (.init b m) t)
    (ids : UniqueIds t.log) (st : Step s .accept t) : Settled t := by
  have accepted : ∀ sid, s.Unmoved (s.accepted sid) :=
    fun sid => (acquire_unmoved s sid).trans (.emit fun _ _ => rfl)
  have ends : Wp (exec .accept) s
      (fun _ t => s.Unmoved t ∨ ∃ sid, t = (s.accepted sid).track sid s.handles)
        (fun _ => True) := by
    refine .bind (acceptStream_wp.mono ?_ fun _ => id)
    rintro more t (⟨_, rfl⟩ | ⟨_, sid, rfl | rfl | ⟨r, _, rfl⟩⟩)
    · exact .pure (.inl .refl)
    · exact .pure (.inl ((accepted sid).trans (freeHeld_unmoved _ _)))
    · exact .pure (.inr ⟨sid, rfl⟩)
    · exact .pure (.inl ((accepted sid).trans (retrack_unmoved _ r _)))
  rcases st.ends ends with moved | ⟨sid, rfl⟩
  · exact hs.unmoved moved
  · exact (hs.unmoved (accepted sid)).track (track_fresh moves ids)

/-- A new session has no blocked streams. -/
lemma Settled.init (b m : Nat) : Settled (.init b m) :=
  ⟨⟨rfl, nofun, List.nodup_nil, nofun⟩, nofun, nofun⟩

/-- Opening the control streams. -/
lemma Settled.openings {b m : Nat} (os : Openings (.init b m) s) (ids : UniqueIds s.log) :
    Settled s := by
  induction os with
  | refl => exact .init b m
  | @tail u v os o ih =>
    have moves : Moves (.init b m) v := openings_moves (os.tail o)
    obtain ⟨es, log⟩ := o.move.extends
    have hu : Settled u := ih (ids.before log)
    cases o with
    | acquire server => exact hu.unmoved (acquire_unmoved _ _)
    | track held got server => exact hu.track (track_fresh moves ids)
    | retrack => exact hu.unmoved (retrack_unmoved _ _ _)

/-- So has one after its streams were created. -/
lemma create_settled {b m : Nat} (ids : UniqueIds t.log) (st : Step (.init b m) .create t) :
    Settled t := by
  have ends : Wp (exec .create) (.init b m)
      (fun _ t => ∃ u, Openings (.init b m) u ∧ u.Unmoved t ∧ handedOut t.log = handedOut u.log)
        (fun _ => True) := by
    refine .bind ((createControlStreams_wp rfl).mono ?_ fun _ _ => trivial)
    rintro ok v (⟨rfl, u, hu, _, rfl⟩ | ⟨rfl, u, cs, hu, _, _, rfl⟩)
    · exact .modify ⟨u, hu, .same rfl rfl rfl rfl rfl, rfl⟩
    · have freed := foldl_unmoved (f := fun s (c : Handle × Int) => s.freeHeld c.1)
        (fun s c => freeHeld_unmoved s c.1) cs u
      refine .modify ⟨u, hu, freed.trans (.same rfl rfl rfl rfl rfl), ?_⟩
      refine foldl_keeps (fun s : Session => handedOut s.log) (fun s c => handedOut_append ?_) cs u
      rintro _ (_ | ⟨_, ⟨⟩⟩)
      rfl
  obtain ⟨u, os, moved, same⟩ := st.ends ends
  rw [UniqueIds, same] at ids
  exact (Settled.openings os ids).unmoved moved

/-- Destroying the session. -/
lemma destroy_unmoved (st : Step s .destroy t) : s.Unmoved t := by
  have ends : Wp (exec .destroy) s (fun _ t => s.Unmoved t) (fun _ => True) := by
    refine .bind (.bind (.modify (.bind (.modify (.modify (.modify ?_))))))
    have gone : s.Unmoved { s with ngh3 := false } := .same rfl rfl rfl rfl rfl
    have cancelled :=
      foldl_unmoved (f := fun s r => s.modifyObj r fun x => { x with responseCancelled := true })
      (fun _ _ => .modifyObj (fun _ => rfl) fun _ => rfl) s.streams { s with ngh3 := false }
    have freed : ∀ n u, s.Unmoved u → s.Unmoved (u.freePending n) :=
      fun n u hu => freePending_rule (K := s.Unmoved) (fun u h hu => hu.trans (popFree_unmoved u h))
        n hu
    exact (freed _ _ (gone.trans cancelled)).trans (.same rfl rfl rfl rfl rfl)
  exact st.ends ends

/-- Every section. -/
lemma step_settled {b m : Nat} {c : Sect} (hs : Settled s)
    (first : s.phase = .created → s = .init b m) (moves : Moves (.init b m) t)
    (ids : UniqueIds t.log) (st : Step s c t) : Settled t := by
  have one : ∀ {f : Session → Session}, (∀ s : Session, s.Unmoved (f s)) →
      Wp (Script.modify f : Prog Unit) s (fun _ t => Settled t) (fun _ => True) :=
    fun unmoved => .modify (hs.unmoved (unmoved s))
  cases c with
  | create =>
    obtain rfl := first (by simpa [Sect.enabled] using st.1)
    exact create_settled ids st
  | accept => exact accept_settled hs moves ids st
  | drain => exact drain_settled hs st
  | flush => exact flush_settled hs st
  | destroy => exact hs.unmoved (destroy_unmoved st)
  | dispatch r | undispatch r | workerDone r =>
    exact st.ends (one fun s => .modifyObj (fun _ => rfl) fun _ => rfl)
  | process r => exact st.ends (one fun s => .emit fun _ _ => rfl)

/-- Every run. -/
lemma run_settled {b m : Nat} {cs : List Sect} (run : Run Step (.init b m) cs s)
    (ids : UniqueIds s.log) :
    Settled s := by
  induction run with
  | nil => exact .init b m
  | @snoc s t cs c before st ih =>
    obtain ⟨es, log⟩ := moves_extends (run_moves_from before (.snoc .nil st))
    exact step_settled (ih (ids.before log)) (run_moves before).2 (run_moves (.snoc before st)).1
      ids st

end

/-- In the scan of `s` that led to `t` the send buffer of the stream was reported full; the stream
still has the handle, unless nghttp3 made callbacks when other streams were re-enabled. -/
def FoundFull (s t : Session) (r : Ref) : Prop :=
  ∃ h, (s.objs r).qstream = some h ∧ .op (.use (.isWriteBlocked true) h) ∈ s.since t ∧
    ((∀ sid cbs rv, .call (.unblockStream sid) cbs rv ∈ s.since t → cbs = []) →
      (t.objs r).qstream = some h)

/-- What the scan for streams to re-enable has found when `rs` are left of those in the hash. -/
structure Scanned (s : Session) (rs : List Ref) (u : Session) : Prop where
  log : ∃ es, u.log = s.log ++ es
  streams : u.streams = s.streams
  handles : ∀ r h, (u.objs r).qstream = some h → (s.objs r).qstream = some h
  /-- only callbacks take handles away -/
  quiet : (∀ sid cbs rv, .call (.unblockStream sid) cbs rv ∈ s.since u → cbs = []) →
    ∀ r, (u.objs r).qstream = (s.objs r).qstream
  full : ∀ r ∈ s.streams, (u.objs r).writeBlocked = true →
    r ∈ rs ∨ ∃ h, (s.objs r).qstream = some h ∧ .op (.use (.isWriteBlocked true) h) ∈ s.since u

section
variable {s t u v : Session} {r : Ref} {rs : List Ref}

/-- The entries since a state, in two pieces. -/
lemma since_append {es : List Entry} (before : ∃ es, u.log = s.log ++ es)
    (log : v.log = u.log ++ es) :
    s.since v = s.since u ++ es := by
  obtain ⟨fs, eq⟩ := before
  rw [Session.since, Session.since, log, eq, List.append_assoc, List.drop_left, List.drop_left]

/-- A stream has been looked at: it is not marked any more, or was found full. -/
lemma Scanned.next {es : List Entry} (hu : Scanned s (r :: rs) u) (log : v.log = u.log ++ es)
    (streams : v.streams = u.streams)
    (handles : ∀ r h, (v.objs r).qstream = some h → (u.objs r).qstream = some h)
    (quiet : (∀ sid cbs rv, .call (.unblockStream sid) cbs rv ∈ es → cbs = []) →
      ∀ r, (v.objs r).qstream = (u.objs r).qstream)
    (others : ∀ r', r' ≠ r → (v.objs r').writeBlocked = (u.objs r').writeBlocked)
    (full : (v.objs r).writeBlocked = true → ∃ h, (u.objs r).qstream = some h ∧
      .op (.use (.isWriteBlocked true) h) ∈ es) :
    Scanned s rs v := by
  have since := since_append hu.log log
  refine ⟨?_, streams.trans hu.streams, fun r h hq => hu.handles r h (handles r h hq), ?_, ?_⟩
  · obtain ⟨fs, eq⟩ := hu.log
    exact ⟨fs ++ es, by rw [log, eq, List.append_assoc]⟩
  · intro silent r
    rw [since] at silent
    rw [quiet fun sid cbs rv mem => silent sid cbs rv (List.mem_append_right _ mem)]
    exact hu.quiet (fun sid cbs rv mem => silent sid cbs rv (List.mem_append_left _ mem)) r
  · intro r' tracked marked
    rw [since]
    by_cases eq : r' = r
    · subst eq
      obtain ⟨h, hq, mem⟩ := full marked
      exact .inr ⟨h, hu.handles _ h hq, List.mem_append_right _ mem⟩
    · rw [others r' eq] at marked
      rcases hu.full r' tracked marked with mem | ⟨h, hq, mem⟩
      · exact .inl ((List.mem_cons.mp mem).resolve_left eq)
      · exact .inr ⟨h, hq, List.mem_append_left _ mem⟩

/-- One stream is looked at. -/
lemma Scanned.scan (hu : Scanned s (r :: rs) u) (scan : Scan r u v) : Scanned s rs v := by
  cases scan with
  | unmarked unmarked =>
    refine hu.next (List.append_nil _).symm rfl (fun _ _ => id) (fun _ _ => rfl) (fun _ _ => rfl) ?_
    intro marked
    rw [unmarked] at marked
    cases marked
  | full marked hq =>
    refine hu.next rfl rfl (fun _ _ => id) (fun _ _ => rfl) (fun _ _ => rfl) ?_
    exact fun _ => ⟨_, hq, List.mem_singleton_self _⟩
  | @unblock w _ marked room called =>
    obtain ⟨cbs, rv, rfl⟩ := called
    have asked : w.objs = u.objs ∧ w.streams = u.streams ∧ ∃ fs, w.log = u.log ++ fs := by
      rcases room with ⟨_, rfl⟩ | ⟨h, _, rfl⟩
      · exact ⟨rfl, rfl, [], (List.append_nil _).symm⟩
      · exact ⟨rfl, rfl, _, rfl⟩
    obtain ⟨objs, streams, fs, log⟩ := asked
    generalize call : Entry.call (.unblockStream (u.objs r).streamId) cbs rv = e
    obtain ⟨gs, after, _⟩ := runCbs_log (s := (w.unblock r).emit e) cbs
    have frame := runCbs_frame (s := (w.unblock r).emit e) cbs
    have qstreams : ∀ r', ((w.unblock r).objs r').qstream = (u.objs r').qstream := by
      rw [← objs]
      exact update_rel (P := fun x y => y.qstream = x.qstream) rfl fun _ => rfl
    have entries : (runCbs ((w.unblock r).emit e) cbs).log = u.log ++ (fs ++ e :: gs) := by
      rw [after]
      show w.log ++ [e] ++ gs = _
      rw [log]
      simp
    refine hu.next entries (frame.streams.trans streams) ?_ ?_ ?_ ?_
    · intro r' h hq
      rcases (frame.objs r').qstream with eq | eq
      · rw [← qstreams, ← hq, eq]
        rfl
      · rw [eq] at hq
        cases hq
    · intro silent r'
      have empty : cbs = [] := by
        refine silent (u.objs r).streamId cbs rv ?_
        rw [call]
        exact List.mem_append_right _ List.mem_cons_self
      subst empty
      exact qstreams r'
    · intro r' ne
      rw [(frame.objs r').writeBlocked, ← objs]
      exact congrArg H3Stream.writeBlocked (Function.update_of_ne ne _ _)
    · intro marked
      rw [(frame.objs r).writeBlocked] at marked
      have unmarked : ((w.unblock r).objs r).writeBlocked = false := by
        show (Function.update w.objs r _ r).writeBlocked = false
        rw [Function.update_self]
      exact absurd (marked.symm.trans unmarked) nofun

/-- The whole scan: it is left out only if no stream is marked. -/
lemma Accounted.scan (hs : Accounted s) : Wp unblockWritableStreams s
    (fun _ t => ∀ r ∈ t.streams, (t.objs r).writeBlocked = true → FoundFull s t r)
      (fun _ => True) := by
  have unmarked : s.blockedStreams ≤ 0 → ∀ r ∈ s.streams, (s.objs r).writeBlocked ≠ true := by
    intro idle r mem marked
    have pos : 0 < s.streams.countP fun r => (s.objs r).writeBlocked :=
      List.countP_pos_iff.mpr ⟨r, mem, marked⟩
    rw [hs.count] at idle
    omega
  have start : ∀ rs, (∀ r ∈ s.streams, (s.objs r).writeBlocked = true → r ∈ rs) → Scanned s rs s :=
    fun rs left => ⟨⟨[], (List.append_nil _).symm⟩, rfl, fun _ _ => id, fun _ _ => rfl,
      fun r mem marked => .inl (left r mem marked)⟩
  refine (unblockWritableStreams_takes (J := Scanned s) ?_ ?_ ?_).wp.mono ?_ fun _ => id
  · exact fun idle => start [] fun r mem marked => absurd marked (unmarked idle r mem)
  · exact fun rs perm => start rs fun r mem _ => perm.mem_iff.mpr mem
  · exact fun r rs u v hu scan => hu.scan scan
  · intro _ t ht r mem marked
    obtain ⟨h, hq, found⟩ := (ht.full r (ht.streams ▸ mem) marked).resolve_left List.not_mem_nil
    exact ⟨h, hq, found, fun silent => (ht.quiet silent r).trans hq⟩

end

/-- In every reachable state of a session between two sections, as QUIC uses no id twice:
`blocked_streams` is the number of streams in the hash that are marked `write_blocked`, such a
stream is marked exactly when nghttp3 has it blocked, and after the scan for streams to re-enable
every stream still marked was found full. -/
theorem block_accounting {b m : Nat} {cs : List Sect} {s : Session}
    (run : Run Step (.init b m) cs s) (ids : UniqueIds s.log) :
    s.blockedStreams = s.streams.countP (fun r => (s.objs r).writeBlocked) ∧ 0 ≤ s.blockedStreams ∧
    (∀ r ∈ s.streams, blockedIn (s.objs r).streamId s.log = true ↔ (s.objs r).writeBlocked = true) ∧
    ∀ as t rest, unblockWritableStreams s as = (t, some ((), rest)) →
      ∀ r ∈ t.streams, (t.objs r).writeBlocked = true → FoundFull s t r := by
  have hs := (run_settled run ids).toAccounted
  refine ⟨hs.count, ?_, fun r mem => by rw [hs.flags r mem], ?_⟩
  · rw [hs.count]
    exact Int.natCast_nonneg _
  · intro as t rest returned
    have scanned := hs.scan as
    rw [returned] at scanned
    exact scanned

/-- The send buffer of the first request stream is full after three of four bytes. -/
def bufferFull : List (Sect × List Answer) :=
  requestOpen ++
  [(.flush,
    [.writev [] 2 0 false [2, 2], .written { accepted := 3, blocked := true, broken := false },
    .called [] 0, .called [] 0, .called [] 0, .writev [] 0 (-1) false []])]

/-- The stream is marked and counted, and stays so while its send buffer is full. -/
theorem block_accounting_bufferFull :
    ∃ cs s t, Run Step (.init 65536 1000) cs s ∧ s.blockedStreams = 1 ∧ 0 ≤ s.blockedStreams ∧
      blockedIn (s.objs 3).streamId s.log = true ∧ (t.objs 3).writeBlocked = true ∧
      FoundFull s t 3 := by
  let as : List Answer := [.order [0, 1, 2, 3], .writeBlocked true]
  have eq : (execAll runSect (.init 65536 1000) bufferFull).map
      (fun r => decide (UniqueIds r.1.log ∧ 3 ∈ r.1.streams ∧ r.1.blockedStreams = 1 ∧
        (r.1.objs 3).writeBlocked = true ∧ (unblockWritableStreams r.1 as).2 = some ((), []) ∧
        3 ∈ (unblockWritableStreams r.1 as).1.streams ∧
        ((unblockWritableStreams r.1 as).1.objs 3).writeBlocked = true)) =
        some true := by decide +kernel
  obtain ⟨⟨s, cs⟩, h, obs⟩ := Option.map_eq_some_iff.mp eq
  obtain ⟨ids, mem, one, marked, returned, mem', marked'⟩ := of_decide_eq_true obs
  have run := execAll_run runSect_step h
  obtain ⟨_, nonneg, flags, full⟩ := block_accounting run ids
  exact ⟨cs, s, _, run, one, nonneg, (flags 3 mem).mpr marked, marked',
    full as _ [] (Prod.ext rfl returned) 3 mem' marked'⟩

end ModHttp3.H3

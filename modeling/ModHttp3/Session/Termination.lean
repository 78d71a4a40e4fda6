import Mathlib.Algebra.Order.BigOperators.Group.Finset
import ModHttp3.Session.Blocking
import ModHttp3.Session.Wire

/-!
# A flush comes to an end

The loop of `flush_nghttp3` goes on until nghttp3 has nothing to send. A turn may write bytes of a
stream, or only its end, or nothing when the send buffer is full; then the stream is blocked in
nghttp3, but only if it is not marked as blocked already. So no single count goes down, and that a
full stream is not returned again and again rests on the mark being what nghttp3 believes
(`Accounted`).

What does go down is the output that nghttp3 holds, its ends included, and the streams that are not
blocked, taken together (`Output.todo`). `flush_returns` bounds the answers a flush can take by what
there is at its beginning: a flush that was given more has returned.

`WriteLaw` is what is assumed of nghttp3; the outcome of a write is any that `h3q_stream_write` can
return.
-/

namespace ModHttp3.H3
open ModHttp3.Lib ModHttp3.Lib.Script

/-- What nghttp3 holds of a stream: bytes that were not written, and whether its end is still to be
sent. -/
structure Held where
  bytes : Nat
  fin : Bool
deriving DecidableEq

/-- The output that nghttp3 holds; only finitely many streams have some. -/
structure Output where
  ids : Finset Int
  held : Int → Held
  empty : ∀ sid ∉ ids, held sid = { bytes := 0, fin := false }

/-- `nghttp3_conn_add_write_offset` consumes bytes and, when nothing is left, the end. -/
def Held.advance (x : Held) (n : Nat) : Held where
  bytes := x.bytes - n
  fin := x.fin && decide (0 < x.bytes - n)

/-- What is left of the output of a stream after an entry. -/
def Entry.consume (sid : Int) (x : Held) : Entry → Held
  | .call (.addWriteOffset sid' n) _ _ => if sid' = sid then x.advance n else x
  | _ => x

/-- What is left of the output of a stream after some entries. -/
def Output.left (o : Output) (sid : Int) (es : List Entry) : Held :=
  es.foldl (Entry.consume sid) (o.held sid)

/-- `nghttp3_conn_writev_stream` returns `n` bytes of a stream: some that it holds, or none if only
the end is to be sent. -/
def Held.Offers (x : Held) (n : Nat) : Prop := n ≤ x.bytes ∧ (0 < n ∨ (x.bytes = 0 ∧ x.fin = true))

instance Held.Offers.decidable {x : Held} {n : Nat} : Decidable (x.Offers n) :=
  inferInstanceAs (Decidable (n ≤ x.bytes ∧ (0 < n ∨ (x.bytes = 0 ∧ x.fin = true))))

/-- The environment of a flush that begins with the history `log` and the output `o`, after the
entries `pre`: nghttp3 fails, has nothing to send, or returns a stream that is not blocked and has
output or an unsent end; a write ends as `h3q_stream_write` does for some outcomes of
`SSL_write_ex`. -/
def WriteLaw (o : Output) (log pre : List Entry) : Entry → Prop
  | .call (.writevStream sid _ lens) _ nvec =>
    nvec < 0 ∨ (nvec = 0 ∧ sid = -1) ∨
      (blockedIn sid (log ++ pre) = false ∧ (o.left sid pre).Offers lens.sum)
  | .op (.use (.write lens fin res) _) =>
    ∃ vecs ssl, vecs.map List.length = lens ∧ (streamWrite vecs fin ssl).result = res
  | _ => True

/-- The bytes and the end. -/
def Held.size (x : Held) : Nat := x.bytes + x.fin.toNat

/-- All output that nghttp3 holds, and one more for each stream that can be blocked. -/
def Output.size (o : Output) : Nat := ∑ sid ∈ o.ids, ((o.held sid).size + 1)

/-- What is left to do in a flush of `s` that has led to `u`: the output, and the streams to
block. -/
def Output.todo (o : Output) (s u : Session) : Nat :=
  ∑ sid ∈ o.ids, ((o.left sid (s.since u)).size + (!blockedIn sid u.log).toNat)

/-- The log was added to, and the output of streams is consumed as `f` says. -/
def Session.Consumes (f : Int → Held → Held) (s t : Session) : Prop :=
  ∃ es, t.log = s.log ++ es ∧ ∀ sid x, es.foldl (Entry.consume sid) x = f sid x

section
variable {o : Output} {s t u v : Session} {sid : Int} {n : Nat} {x : Held} {f g : Int → Held → Held}
  {c : Call}
  {es : List Entry}

/-- Taking bytes leaves no more than there was. -/
lemma Held.advance_size (x : Held) (n : Nat) : (x.advance n).size ≤ x.size := by
  rw [Held.size, Held.size, Held.advance]
  cases x.fin
  · simp
  · by_cases left : 0 < x.bytes - n
    all_goals simp [left]
    all_goals omega

/-- Taking what is offered leaves less. -/
lemma Held.Offers.advance_size (offers : x.Offers n) : (x.advance n).size < x.size := by
  obtain ⟨le, pos | ⟨zero, last⟩⟩ := offers
  · have fin : (x.fin && decide (0 < x.bytes - n)).toNat ≤ x.fin.toNat := by
      cases x.fin <;> simp [Bool.toNat_le]
    show x.bytes - n + (x.fin && decide (0 < x.bytes - n)).toNat < x.bytes + x.fin.toNat
    omega
  · simp [Held.size, Held.advance, zero, last]

/-- What is left after two logs in a row. -/
lemma Output.left_append (es fs : List Entry) :
    o.left sid (es ++ fs) = fs.foldl (Entry.consume sid) (o.left sid es) :=
  List.foldl_append

/-- An entry leaves no more than there was. -/
lemma Entry.consume_size (e : Entry) (x : Held) : (e.consume sid x).size ≤ x.size := by
  unfold Entry.consume
  split
  · split
    · exact x.advance_size _
    · exact Nat.le_refl _
  · exact Nat.le_refl _

/-- The output only gets less. -/
lemma Output.left_size (o : Output) (sid : Int) (es : List Entry) :
    (o.left sid es).size ≤ (o.held sid).size := by
  induction es using List.reverseRecOn with
  | nil => exact Nat.le_refl _
  | append_singleton es e ih =>
    rw [Output.left_append]
    exact (e.consume_size _).trans ih

/-- A stream that nghttp3 returns is one of those that had output. -/
lemma Held.Offers.mem (offers : (o.left sid es).Offers n) : sid ∈ o.ids := by
  by_contra out
  have empty := (o.left_size sid es).trans_eq (congrArg Held.size (o.empty sid out))
  have less := offers.advance_size
  rw [Held.size] at empty
  exact absurd (less.trans_le empty) (Nat.not_lt_zero _)

/-- What is still to do is at most all the output. -/
lemma Output.todo_le_size (o : Output) (s u : Session) : o.todo s u ≤ o.size := by
  refine Finset.sum_le_sum fun sid _ => Nat.add_le_add (o.left_size _ _) ?_
  cases blockedIn sid u.log
  all_goals decide

/-- One stream has less to do, and no other one more. -/
lemma Output.todo_lt (mem : sid ∈ o.ids)
    (others : ∀ sid', sid' ≠ sid → o.left sid' (s.since v) = o.left sid' (s.since u) ∧
      blockedIn sid' v.log = blockedIn sid' u.log)
    (less : (o.left sid (s.since v)).size + (!blockedIn sid v.log).toNat <
      (o.left sid (s.since u)).size + (!blockedIn sid u.log).toNat) : o.todo s v < o.todo s u := by
  refine Finset.sum_lt_sum ?_ ⟨sid, mem, less⟩
  intro sid' _
  by_cases eq : sid' = sid
  · subst eq
    exact less.le
  · rw [(others sid' eq).1, (others sid' eq).2]

namespace Session.Consumes

/-- What two steps consume. -/
lemma trans (h1 : s.Consumes f t) (h2 : t.Consumes g u) :
    s.Consumes (fun sid => g sid ∘ f sid) u := by
  obtain ⟨es, eq, hes⟩ := h1
  obtain ⟨fs, eq', hfs⟩ := h2
  refine ⟨es ++ fs, by rw [eq', eq, List.append_assoc], ?_⟩
  intro sid x
  rw [List.foldl_append, hes, hfs]
  rfl

/-- What an entry consumes. -/
lemma emit (e : Entry) : s.Consumes (fun sid x => e.consume sid x) (s.emit e) :=
  ⟨[e], rfl, fun _ _ => rfl⟩

/-- What is left after a step. -/
lemma left (consumes : u.Consumes f v) (before : ∃ es, u.log = s.log ++ es) (sid : Int) :
    o.left sid (s.since v) = f sid (o.left sid (s.since u)) := by
  obtain ⟨es, log, hes⟩ := consumes
  rw [since_append before log, Output.left_append, hes]

end Session.Consumes

/-- Resets consume nothing. -/
lemma resets_consume (resets : ∀ e ∈ es, ∃ err h, e = Entry.op (.use (.reset err) h)) (x : Held) :
    es.foldl (Entry.consume sid) x = x := by
  induction es with
  | nil => rfl
  | cons e es ih =>
    obtain ⟨err, h, rfl⟩ := resets e List.mem_cons_self
    exact ih fun e' mem => resets e' (List.mem_cons_of_mem _ mem)

/-- A call of nghttp3: its callbacks consume nothing. -/
lemma Called.consumes (called : Called c s t)
    (consume : ∀ cbs rv sid x, (Entry.call c cbs rv).consume sid x = f sid x) :
    s.Consumes f t := by
  obtain ⟨cbs, rv, rfl⟩ := called
  obtain ⟨es, log, resets⟩ := runCbs_log (s := s.emit (.call c cbs rv)) cbs
  refine ⟨Entry.call c cbs rv :: es, ?_, ?_⟩
  · rw [log]
    exact List.append_assoc ..
  · intro sid x
    rw [List.foldl_cons, consume, resets_consume resets]

/-- Asking for vectors consumes nothing. -/
lemma Writev.consumes {fin : Bool} {lens : List Nat} (writev : Writev sid fin lens s t) :
    s.Consumes (fun _ => id) t := by
  obtain ⟨cbs, nvec, _, _, rfl⟩ := writev
  exact Called.consumes (c := .writevStream sid fin lens) ⟨cbs, nvec, rfl⟩ fun _ _ _ _ => rfl

/-- The write offset consumes what it is given; the acknowledgement does nothing more. -/
lemma Offsets.consumes (offsets : Offsets sid n s t) :
    s.Consumes (fun sid' x => if sid = sid' then x.advance n else x) t := by
  obtain ⟨u, write, ack⟩ := offsets
  have wrote : s.Consumes (fun sid' x => if sid = sid' then x.advance n else x) u :=
    write.consumes fun _ _ _ _ => rfl
  have acked : u.Consumes (fun _ => id) t := ack.consumes fun _ _ _ _ => rfl
  exact wrote.trans acked

/-- What nghttp3 returned, in a history that keeps the law. -/
lemma Writev.offered {fin : Bool} {lens : List Nat} (writev : Writev sid fin lens u t)
    (log : v.log = t.log ++ es) (before : ∃ es, u.log = s.log ++ es)
    (lawful : Each (WriteLaw o s.log) (s.since v)) :
    blockedIn sid u.log = false ∧ (o.left sid (s.since u)).Offers lens.sum := by
  obtain ⟨cbs, nvec, nonneg, offered, rfl⟩ := writev
  obtain ⟨fs, after, _⟩ :=
    runCbs_log (s := u.emit (.call (.writevStream sid fin lens) cbs nvec)) cbs
  have entries : v.log = u.log ++
      ([Entry.call (.writevStream sid fin lens) cbs nvec] ++ (fs ++ es)) := by
    rw [log, after]
    simp [Session.emit]
  rw [since_append before entries, ← List.append_assoc] at lawful
  have whole : s.log ++ s.since u = u.log := by
    obtain ⟨gs, eq⟩ := before
    rw [Session.since, eq, List.drop_left]
  rcases lawful.entry with neg | ⟨rfl, rfl⟩ | offered
  · exact absurd nonneg (Int.not_le.mpr neg)
  · exact absurd ⟨rfl, by decide⟩ offered
  · rwa [whole] at offered

/-- What `h3q_stream_write` returned, in a history that keeps the law. -/
lemma written_result {lens : List Nat} {fin : Bool} {res : WriteResult} {h : Handle}
    (log : v.log = u.log ++ [Entry.op (.use (.write lens fin res) h)] ++ es)
    (before : ∃ es, u.log = s.log ++ es) (lawful : Each (WriteLaw o s.log) (s.since v)) :
    res.accepted ≤ lens.sum ∧ (res.blocked = false → res.broken = false →
      res.accepted = lens.sum) := by
  rw [List.append_assoc] at log
  rw [since_append before log, ← List.append_assoc] at lawful
  obtain ⟨vecs, ssl, rfl, rfl⟩ := lawful.entry
  exact streamWrite_accepted ssl vecs fin

/-- A turn that consumes all that nghttp3 returned, or blocks the stream, leaves less to do. -/
lemma Output.todo_turn (before : ∃ es, u.log = s.log ++ es)
    (offers : (o.left sid (s.since u)).Offers n) {k : Nat}
    (consumes : u.Consumes (fun sid' x => if sid = sid' then x.advance k else x) v)
    (others : ∀ sid', sid' ≠ sid → blockedIn sid' v.log = blockedIn sid' u.log)
    (progress : (k = n ∧ blockedIn sid v.log = blockedIn sid u.log) ∨
      (blockedIn sid u.log = false ∧ blockedIn sid v.log = true)) :
    o.todo s v < o.todo s u := by
  refine Output.todo_lt offers.mem ?_ ?_
  · intro sid' ne
    rw [consumes.left before, if_neg ne.symm]
    exact ⟨rfl, others sid' ne⟩
  · rw [consumes.left before, if_pos rfl]
    rcases progress with ⟨rfl, same⟩ | ⟨free, blocked⟩
    · rw [same]
      exact Nat.add_lt_add_right offers.advance_size _
    · rw [free, blocked]
      exact Nat.lt_succ_of_le (Held.advance_size _ _)

/-- What blocking a stream does to the log. -/
lemma block_told {r : Ref} (called : Called (.blockStream sid) (s.block r) t) :
    s.Consumes (fun _ => id) t ∧ ∀ sid', blockedIn sid' t.log = if sid =
      sid' then true else blockedIn sid' s.log := by
  have consumes : (s.block r).Consumes (fun _ => id) t := called.consumes fun _ _ _ _ => rfl
  refine ⟨consumes, ?_⟩
  obtain ⟨cbs, rv, rfl⟩ := called
  intro sid'
  rw [blockedIn_runCbs]
  show blockedIn sid' (s.log ++ [_]) = _
  exact blockedIn_snoc (.call (.blockStream sid) cbs rv)

/-- Every turn that goes on leaves less to do. -/
lemma FlushTurn.todo_lt (turn : FlushTurn u true v) (accounted : Accounted u)
    (before : ∃ es, u.log = s.log ++ es) (lawful : Each (WriteLaw o s.log) (s.since v)) :
    o.todo s v < o.todo s u := by
  cases turn with
  | swallowed writev gone offsets =>
    have moved := writev.unmoved.trans offsets.unmoved
    obtain ⟨es, log, _⟩ := offsets.consumes
    obtain ⟨_, offers⟩ := writev.offered log before lawful
    exact Output.todo_turn before offers (writev.consumes.trans offsets.consumes)
      (fun sid' _ => moved.blocked sid')
      (.inl ⟨rfl, moved.blocked _⟩)
  | @broken sid fin lens r h res w _ writev found hq broken offsets =>
    have wrote : w.Unmoved (w.emit (.op (.use (.write lens fin res) h))) := .emit fun _ _ => rfl
    have moved := (writev.unmoved.trans wrote).trans offsets.unmoved
    have consumes : w.Consumes (fun sid' y => if sid = sid' then y.advance lens.sum else y) v :=
      (Session.Consumes.emit (.op (.use (.write lens fin res) h))).trans offsets.consumes
    have consumes' := writev.consumes.trans consumes
    obtain ⟨es, log, _⟩ := consumes
    obtain ⟨_, offers⟩ := writev.offered log before lawful
    exact Output.todo_turn before offers consumes' (fun sid' _ => moved.blocked sid')
      (.inl ⟨rfl, moved.blocked _⟩)
  | @written sid fin lens r h res w x _ writev found hq whole offsets last =>
    have wrote : w.Unmoved (w.emit (.op (.use (.write lens fin res) h))) := .emit fun _ _ => rfl
    have after : w.Unmoved x := wrote.trans offsets.unmoved
    have moved : u.Unmoved x := writev.unmoved.trans after
    obtain ⟨es, log, _⟩ := offsets.consumes
    replace log : x.log = w.log ++ [Entry.op (.use (.write lens fin res) h)] ++ es := log
    have consumes : u.Consumes (fun sid' y => if sid = sid' then y.advance res.accepted else y) x :=
      writev.consumes.trans ((Session.Consumes.emit (.op (.use (.write lens fin res) h))).trans
        offsets.consumes)
    -- whatever comes last, the law says what was returned and what was written
    obtain ⟨fs, rest⟩ : ∃ fs, v.log = x.log ++ fs := by
      rcases last with ⟨_, rfl⟩ | ⟨_, _, called⟩
      · exact ⟨[], (List.append_nil _).symm⟩
      · obtain ⟨fs, rest, _⟩ := (block_told called).1
        exact ⟨fs, rest⟩
    have entries : v.log = w.log ++ [Entry.op (.use (.write lens fin res) h)] ++ (es ++ fs) := by
      rw [rest, log, List.append_assoc]
    have offered := writev.offered (entries.trans (List.append_assoc ..)) before lawful
    have result : res.accepted ≤ lens.sum ∧
        (res.blocked = false → res.broken = false → res.accepted = lens.sum) := by
      refine written_result entries ?_ lawful
      obtain ⟨gs, eq⟩ := before
      obtain ⟨ks, eq', _⟩ := writev.consumes
      exact ⟨gs ++ ks, by rw [eq', eq, List.append_assoc]⟩
    rcases last with ⟨marked, rfl⟩ | ⟨_, _, called⟩
    · -- a full stream would be marked, and nghttp3 would have it blocked
      have room : res.blocked = false := by
        by_contra full
        rw [Bool.not_eq_false] at full
        obtain ⟨mem, id⟩ := Session.find_some found
        have flag := (accounted.unmoved moved).flags r (after.streams ▸ mem)
        rw [marked full, after.streamId, id, moved.blocked, offered.1] at flag
        cases flag
      exact Output.todo_turn before offered.2 consumes (fun sid' _ => moved.blocked sid')
        (.inl ⟨result.2 room whole, moved.blocked sid⟩)
    · obtain ⟨told, blocked⟩ := block_told called
      refine Output.todo_turn before offered.2 (consumes.trans told) ?_ (.inr ⟨offered.1, ?_⟩)
      · intro sid' ne
        rw [blocked, if_neg ne.symm, moved.blocked]
      · rw [blocked, if_pos rfl]

/-- The law of an earlier state. -/
lemma WriteLaw.back (moves : Moves u v) (lawful : Each (WriteLaw o s.log) (s.since v)) :
    Each (WriteLaw o s.log) (s.since u) := by
  obtain ⟨es, log⟩ := moves_extends moves
  rw [Session.since, log, List.drop_append] at lawful
  exact lawful.before

/-- The loop of a flush that is stopped has had few answers or refused one. -/
lemma flushLoop_of_measure {as : List Answer} (accounted : Accounted u)
    (before : ∃ es, u.log = s.log ++ es) (stopped : (loop flushTurn u as).2 = none)
    (lawful : Each (WriteLaw o s.log) (s.since (loop flushTurn u as).1)) :
    as.length < 5 * (o.todo s u + 1) ∨ Refuses (loop flushTurn) u as := by
  refine loop_of_measure (L := fun v => Each (WriteLaw o s.log) (s.since v)) (μ := o.todo s)
    (J := fun v => Accounted v ∧ ∃ es, v.log = s.log ++ es) ?_ ?_ ?_ ⟨accounted, before⟩ stopped
      lawful
  · rintro v ⟨hv, pre⟩
    refine flushTurn_takes.mono (Nat.le_refl 5) ?_
    rintro _ w turn rfl lawful
    refine ⟨⟨hv.marking turn.marking, ?_⟩, turn.todo_lt hv pre lawful⟩
    obtain ⟨es, log⟩ := pre
    obtain ⟨fs, log'⟩ := moves_extends turn.moves
    exact ⟨es ++ fs, by rw [log', log, List.append_assoc]⟩
  · intro v as w go rest eq
    exact flushTurn_takes.reads rfl eq
  · intro v as lawful
    exact WriteLaw.back ((flushTurn_goes v).reach as) lawful

/-- The scan for streams to re-enable. -/
lemma Accounted.unblocked (hs : Accounted s) :
    Takes (s.streams.length * 2 + 1) unblockWritableStreams s
    (fun _ u => Accounted u ∧ ∃ es, u.log = s.log ++ es) := by
  have longer : ∀ {r : Ref} {u v : Session}, Scan r u v → (∃ es, u.log = s.log ++ es) →
      ∃ es, v.log = s.log ++ es := by
    intro r u v scan before
    refine scan.unblocking (J := fun u => ∃ es, u.log = s.log ++ es) ?_ before
    rintro u v ⟨es, log⟩ m
    obtain ⟨fs, log'⟩ := moves_extends m.moves
    exact ⟨es ++ fs, by rw [log', log, List.append_assoc]⟩
  have start : ∃ es, s.log = s.log ++ es := ⟨[], (List.append_nil _).symm⟩
  refine
    (unblockWritableStreams_takes (J := fun rs u => Accounted u ∧ rs ⊆ u.streams ∧ ∃ es,
      u.log = s.log ++ es)
    (fun _ => ⟨hs, List.nil_subset _, start⟩) (fun rs perm => ⟨hs, perm.subset, start⟩) ?_).mono
    (Nat.le_refl _) ?_
  · rintro r rs u v ⟨hu, left, before⟩ scan
    refine ⟨hu.marking (scan.marking (left List.mem_cons_self)), ?_, longer scan before⟩
    rw [scan.streams]
    exact fun r' mem => left (List.mem_cons_of_mem _ mem)
  · exact fun _ u hu => ⟨hu.1, hu.2.2⟩

/-- A flush of a connection that is alive. -/
lemma flushNghttp3_alive (alive : s.ngh3Dead = false) : flushNghttp3 s = (do
    unblockWritableStreams
    loop flushTurn
    Script.modify fun s => s.freePending s.pendingFree.length : Prog Unit) s := by
  show (if s.ngh3Dead then pure () else _ : Prog Unit) s = _
  rw [alive]
  rfl

end

/-- `flush_nghttp3` returns. For every session whose records of blocked streams agree, whatever
output nghttp3 holds and however the writes end: once the environment has given so many answers that
fit the questions and keep the law, the flush has returned. -/
theorem flush_returns {s : Session} (accounted : Accounted s) (o : Output) {as : List Answer}
    (lawful : Each (WriteLaw o s.log) (s.since (flushNghttp3 s as).1))
    (fits : ¬Refuses flushNghttp3 s as)
    (enough : s.streams.length * 2 + 1 + 5 * (o.size + 1) ≤ as.length) :
    ∃ t rest, flushNghttp3 s as = (t, some ((), rest)) := by
  cases dead : s.ngh3Dead with
  | true =>
    refine ⟨s, as, ?_⟩
    show (if s.ngh3Dead then pure () else _ : Prog Unit) s as = _
    rw [dead]
    rfl
  | false =>
    rcases returned : flushNghttp3 s as with ⟨t, _ | ⟨⟨⟩, rest⟩⟩
    · exfalso
      unfold Refuses at fits
      rw [returned] at lawful
      rw [flushNghttp3_alive dead] at returned fits
      obtain ⟨_, u, rest, ⟨hu, before⟩, later, length, fits⟩ :=
        accounted.unblocked.bind_stopped (congrArg Prod.snd returned) fits (by omega)
      rw [later] at returned
      have stopped := bind_modify_stopped (congrArg Prod.snd returned)
      rw [returned] at stopped
      have last :=
        flushLoop_of_measure (o := o) hu before (congrArg Prod.snd stopped) (by rwa [stopped])
      rcases last with few | refuses
      · have bound := o.todo_le_size s u
        omega
      · exact fits refuses.bind
    · exact ⟨t, rest, rfl⟩

/-- nghttp3 still holds the last byte of the first request stream, and its end. -/
def lastByte : Output where
  ids := {0}
  held sid := if sid = 0 then { bytes := 1, fin := true } else { bytes := 0, fin := false }
  empty _ out := if_neg (Finset.notMem_singleton.mp out)

/-- The stream has room again and the rest of it is written. Until then the flush waits. -/
theorem flush_returns_lastByte :
    ∃ cs s as, Run Step (.init 65536 1000) cs s ∧ Accounted s ∧ s.blockedStreams = 1 ∧
      Each (WriteLaw lastByte s.log) (s.since (flushNghttp3 s as).1) ∧
      (flushNghttp3 s (as.take 7)).2 = none ∧ ¬Refuses flushNghttp3 s (as.take 7) ∧
      ∃ t rest, flushNghttp3 s as = (t, some ((), rest)) := by
  let as : List Answer :=
    [.order [0, 1, 2, 3], .writeBlocked false, .called [] 0, .writev [] 1 0 true [1],
    .written { accepted := 1, blocked := false, broken := false }, .called [] 0, .called [] 0,
    .writev [] 0 (-1) false []] ++ List.replicate 21 (.called [] 0)
  have eq : (execAll runSect (.init 65536 1000) bufferFull).map
      (fun r => decide (UniqueIds r.1.log ∧ r.1.streams.length = 4 ∧ r.1.blockedStreams = 1 ∧
        (flushNghttp3 r.1 as).2.isSome = true ∧ (flushNghttp3 r.1 (as.take 7)).2.isNone = true ∧
        r.1.since (flushNghttp3 r.1 as).1 =
          [.op (.use (.isWriteBlocked false) 3), .call (.unblockStream 0) [] 0,
            .call (.writevStream 0 true [1]) [] 1,
          .op (.use (.write [1] true { accepted := 1, blocked := false, broken := false }) 3),
          .call (.addWriteOffset 0 1) [] 0, .call (.addAckOffset 0 1) [] 0,
          .call (.writevStream (-1) false []) [] 0])) = some true := by decide +kernel
  obtain ⟨⟨s, cs⟩, h, obs⟩ := Option.map_eq_some_iff.mp eq
  obtain ⟨ids, streams, one, returns, pending, since⟩ := of_decide_eq_true obs
  have run := execAll_run runSect_step h
  have accounted := (run_settled run ids).toAccounted
  have lawful : Each (WriteLaw lastByte s.log) (s.since (flushNghttp3 s as).1) := by
    rw [since]
    refine ⟨trivial, trivial, .inr (.inr ⟨?_, by decide⟩), ⟨[[0]], fun _ => .accepts 1, rfl, rfl⟩,
      trivial, trivial, .inr (.inl ⟨rfl, rfl⟩), trivial⟩
    simp [blockedIn, List.foldl_append, Entry.blocks]
  have waits : ∀ k, ¬Refuses flushNghttp3 s (as.take k) := by
    intro k refuses
    have stopped := refuses (as.drop k)
    rw [List.take_append_drop] at stopped
    rw [stopped] at returns
    cases returns
  refine ⟨cs, s, as, run, accounted, one, lawful, Option.isNone_iff_eq_none.mp pending, waits 7, ?_⟩
  refine flush_returns accounted lastByte lawful ?_ ?_
  · rw [← List.take_length (l := as)]
    exact waits as.length
  · have size : lastByte.size = 3 := rfl
    rw [streams, size]
    decide

end ModHttp3.H3

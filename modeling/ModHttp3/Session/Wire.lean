import Mathlib.Algebra.Group.Prod
import Mathlib.Algebra.BigOperators.Group.List.Basic
import ModHttp3.Session.Flush
import ModHttp3.Session.Identity
import ModHttp3.Session.Reclaim

/-!
# Bytes on the wire

What OpenSSL accepts on a stream is a prefix of what nghttp3 outputs for it. `streamWrite` models
`h3q_stream_write` (`h3q_stream.c`) on the bytes of the vectors, with the outcomes of the calls of
`SSL_write_ex`; a `Wire` adds to the log of a session what nghttp3 returned and what OpenSSL
answered in each round of a flush.

`flush_nghttp3` moves the offsets of a stream that breaks past the bytes that were lost, and
`h3q_stream_write` asks OpenSSL nothing when it is given no vectors. So a stream that broke is
concluded if the end of its output comes in a round of its own; otherwise (`Wire.Careful`) the bytes
are `GapFree` as long as the stream has its handle (`Wire.Attached`).

C → Lean naming: `h3q_stream_write` → `streamWrite`; `SSL_stream_conclude` is `Written.concluded`,
and the sums of what `nghttp3_conn_add_write_offset` and `nghttp3_conn_add_ack_offset` were given
are `offsets`.
-/

namespace ModHttp3.H3
open ModHttp3.Lib ModHttp3.Lib.Script

/-- What `SSL_write_ex` does with a vector: it accepts the first `w` bytes (all, if there are no
more), has no room, or fails. -/
inductive SslWrite where
  | accepts (w : Nat)
  | wantWrite
  | fails
deriving DecidableEq

/-- The result of `h3q_stream_write`, the bytes OpenSSL accepted, and whether the stream was
concluded. -/
structure Written where
  result : WriteResult
  taken : List UInt8
  concluded : Bool

/-- The loop of `h3q_stream_write`; `ssl k` is the outcome for the vector `k`. -/
def writeLoop (ssl : Nat → SslWrite) (k : Nat) (res : WriteResult) (taken : List UInt8) :
    List (List UInt8) → WriteResult × List UInt8
  | [] => (res, taken)
  | vec :: vecs =>
    match ssl k with
    | .wantWrite => ({ res with blocked := true }, taken)
    | .fails => ({ res with broken := true }, taken)
    | .accepts w =>
      let w := min w vec.length
      let res := { res with accepted := res.accepted + w }
      if w < vec.length then
        ({ res with blocked := true }, taken ++ vec.take w)
      else
        writeLoop ssl (k + 1) res (taken ++ vec.take w) vecs

/-- Write vectors to a stream, and its end (C `h3q_stream_write`). -/
def streamWrite (vecs : List (List UInt8)) (fin : Bool) (ssl : Nat → SslWrite) : Written :=
  let expected := (vecs.map List.length).sum
  let (res, taken) := writeLoop ssl 0 { accepted := 0, blocked := false, broken := false } [] vecs
  { result := res
    taken := taken
    concluded := fin && !res.blocked && !res.broken && res.accepted == expected }

section
variable (ssl : Nat → SslWrite) (vecs : List (List UInt8)) (fin : Bool)

/-- The loop accepts a prefix of the vectors, and counts it. -/
lemma writeLoop_spec (k : Nat) (res : WriteResult) (taken : List UInt8) :
    ∃ more, (writeLoop ssl k res taken vecs).2 = taken ++ more ∧
      (writeLoop ssl k res taken vecs).1.accepted = res.accepted + more.length ∧
      more <+: vecs.flatten := by
  induction vecs generalizing k res taken with
  | nil => exact ⟨[], (List.append_nil _).symm, rfl, List.prefix_rfl⟩
  | cons vec vecs ih =>
    rw [writeLoop]
    cases ssl k with
    | wantWrite | fails => exact ⟨[], (List.append_nil _).symm, rfl, List.nil_prefix⟩
    | accepts w =>
      dsimp only
      split
      · refine ⟨vec.take (min w vec.length), rfl, ?_, ?_⟩
        · rw [List.length_take, Nat.min_assoc, Nat.min_self]
        · exact List.IsPrefix.trans ( List.take_prefix _ _) (List.prefix_append _ _)
      · rename_i whole
        have all : vec.take (min w vec.length) = vec :=
          List.take_of_length_le (Nat.le_of_not_lt whole)
        obtain ⟨more, rest, count, start⟩ := ih (k + 1)
          { res with accepted := res.accepted + min w vec.length }
            (taken ++ vec.take (min w vec.length))
        refine ⟨vec ++ more, ?_, ?_, ?_⟩
        · rw [rest, all, List.append_assoc]
        · have len : min w vec.length = vec.length := by omega
          rw [count, List.length_append, len, Nat.add_assoc]
        · exact (List.prefix_append_right_inj vec).mpr start

/-- What a write takes is a prefix of the vectors, and the count it returns is its length. -/
lemma streamWrite_taken : (streamWrite vecs fin ssl).taken <+: vecs.flatten ∧
    (streamWrite vecs fin ssl).result.accepted = (streamWrite vecs fin ssl).taken.length := by
  obtain ⟨more, taken, count, start⟩ :=
    writeLoop_spec ssl vecs 0 { accepted := 0, blocked := false, broken := false } []
  rw [List.nil_append] at taken
  rw [Nat.zero_add] at count
  have same : (streamWrite vecs fin ssl).taken = more := taken
  rw [same]
  exact ⟨start, count⟩

/-- The loop accepts all of the vectors if it neither runs out of room nor fails. -/
lemma writeLoop_whole (k : Nat) (res : WriteResult) (taken : List UInt8)
    (room : (writeLoop ssl k res taken vecs).1.blocked = false)
    (whole : (writeLoop ssl k res taken vecs).1.broken = false) :
    (writeLoop ssl k res taken vecs).1.accepted = res.accepted + (vecs.map List.length).sum := by
  induction vecs generalizing k res taken with
  | nil => rfl
  | cons vec vecs ih =>
    rw [writeLoop] at room whole ⊢
    cases outcome : ssl k with
    | wantWrite =>
      rw [outcome] at room
      cases room
    | fails =>
      rw [outcome] at whole
      cases whole
    | accepts w =>
      rw [outcome] at room whole
      dsimp only at room whole ⊢
      split at room
      · cases room
      · rename_i all
        rw [if_neg all] at whole ⊢
        rw [ih _ _ _ room whole, List.map_cons, List.sum_cons]
        dsimp only
        omega

/-- What `h3q_stream_write` returns: it accepts no more than it was given, and all of it unless the
stream is blocked or broken. -/
lemma streamWrite_accepted :
    (streamWrite vecs fin ssl).result.accepted ≤ (vecs.map List.length).sum ∧
      ((streamWrite vecs fin ssl).result.blocked = false →
        (streamWrite vecs fin ssl).result.broken = false →
        (streamWrite vecs fin ssl).result.accepted = (vecs.map List.length).sum) := by
  refine ⟨?_, fun room whole => ?_⟩
  · obtain ⟨start, count⟩ := streamWrite_taken ssl vecs fin
    rw [count, ← List.length_flatten]
    exact start.length_le
  · exact (writeLoop_whole ssl vecs 0 _ [] room whole).trans (Nat.zero_add _)

variable {ssl vecs fin}

/-- A stream is concluded only at the end of the output and after all vectors were accepted. -/
lemma streamWrite_concluded (concluded : (streamWrite vecs fin ssl).concluded = true) :
    fin = true ∧ (streamWrite vecs fin ssl).result.broken = false ∧
      (streamWrite vecs fin ssl).taken = vecs.flatten := by
  obtain ⟨start, count⟩ := streamWrite_taken ssl vecs fin
  have all :
    (fin && !(streamWrite vecs fin ssl).result.blocked &&
      !(streamWrite vecs fin ssl).result.broken &&
    (streamWrite vecs fin ssl).result.accepted == (vecs.map List.length).sum) = true := concluded
  simp only [Bool.and_eq_true, Bool.not_eq_true', beq_iff_eq] at all
  refine ⟨all.1.1.1, all.1.2, start.eq_of_length ?_⟩
  rw [← count, all.2, List.length_flatten]

/-- OpenSSL accepts nothing if every call fails, and the stream is broken unless there was none. -/
lemma streamWrite_fails (fails : ∀ k < vecs.length, ssl k = .fails) :
    (streamWrite vecs fin ssl).taken = [] ∧
    (vecs ≠ [] → (streamWrite vecs fin ssl).result.broken = true) := by
  cases vecs with
  | nil => exact ⟨rfl, fun ne => absurd rfl ne⟩
  | cons vec vecs =>
    have first : ssl 0 = .fails := fails 0 (Nat.succ_pos _)
    simp [streamWrite, writeLoop, first]

end

/-- The use is a write in which the stream broke. -/
def Use.breaks : Use → Bool
  | .write _ _ res => res.broken
  | _ => false

/-- What nghttp3 is told to add to the two offsets of a stream. -/
def Entry.advance (sid : Int) : Entry → Nat × Nat
  | .call (.addWriteOffset sid' n) _ _ => if sid' = sid then (n, 0) else 0
  | .call (.addAckOffset sid' n) _ _ => if sid' = sid then (0, n) else 0
  | _ => 0

/-- The write offset and the ack offset of a stream that nghttp3 was given. -/
def offsets (sid : Int) (log : List Entry) : Nat × Nat := (log.map (Entry.advance sid)).sum

/-- A stream on the wire: its handle and its id, all that nghttp3 outputs for it, and after each
history the vectors of the round that nghttp3 returned and the outcomes of writing them. -/
structure Wire where
  handle : Handle
  sid : Int
  out : List UInt8
  vecs : List Entry → List (List UInt8)
  ssl : List Entry → Nat → SslWrite

namespace Wire

/-- What `h3q_stream_write` does after a history. -/
def write (w : Wire) (pre : List Entry) (fin : Bool) : Written :=
  streamWrite (w.vecs pre) fin (w.ssl pre)

/-- The bytes that OpenSSL accepts on the stream. -/
def taken (w : Wire) (pre : List Entry) : Entry → List UInt8
  | .op (.use (.write _ fin _) h) => if h = w.handle then (w.write pre fin).taken else []
  | _ => []

/-- All bytes that OpenSSL has accepted on the stream. -/
def sent (w : Wire) (log : List Entry) : List UInt8 := gather w.taken log

/-- The stream has broken. -/
def broke (w : Wire) (log : List Entry) : Bool := used Use.breaks w.handle log

/-- The stream is concluded. -/
def concludes (w : Wire) (pre : List Entry) : Entry → Bool
  | .op (.use (.write _ fin _) h) => h == w.handle && (w.write pre fin).concluded
  | _ => false

/-- nghttp3 says that a round reaches the end of the output. -/
def signals (w : Wire) : Entry → Bool
  | .call (.writevStream sid fin _) _ _ => sid == w.sid && fin
  | _ => false

/-- A round of a flush: nghttp3 returned the output from its write offset on, with `fin` only at its
end; `h3q_stream_write` returned `res`; and a stream that broke keeps breaking. -/
@[mk_iff round_iff]
structure Round (w : Wire) (pre : List Entry) (lens : List Nat) (fin : Bool) (res : WriteResult) :
    Prop where
  lens : (w.vecs pre).map List.length = lens
  output : (w.vecs pre).flatten <+: w.out.drop (offsets w.sid pre).1
  last : fin = true → (offsets w.sid pre).1 + (w.vecs pre).flatten.length = w.out.length
  result : (w.write pre fin).result = res
  breaks : w.broke pre = true → ∀ k < (w.vecs pre).length, w.ssl pre k = .fails

/-- How nghttp3 and OpenSSL behave. There is no output for a stream that QUIC has not handed out. -/
def Law (w : Wire) (pre : List Entry) : Entry → Prop
  | .call (.writevStream sid _ _) _ nvec => 0 ≤ nvec → sid = w.sid → .got w.handle w.sid ∈ pre
  | .op (.use (.write lens fin res) h) => h = w.handle → w.Round pre lens fin res
  | _ => True

/-- The entry is a write of no vectors that ends the stream. -/
def endsEmpty (w : Wire) : Entry → Bool
  | .op (.use (.write lens fin _) h) => h == w.handle && lens.isEmpty && fin
  | _ => false

/-- The end of the output does not come in a round of its own once the stream has broken. -/
def Careful (w : Wire) (pre : List Entry) (e : Entry) : Prop :=
  w.endsEmpty e = true → w.broke pre = false

/-- The stream is concluded only after nghttp3 signalled the end of its output and all of it was
accepted, and not if it is broken. -/
def Concluded (w : Wire) (pre : List Entry) (e : Entry) : Prop :=
  w.concludes pre e = true →
    pre.any w.signals = true ∧ w.sent (pre ++ [e]) = w.out ∧ w.broke (pre ++ [e]) = false

end Wire

/-- The bytes on the wire are a prefix of the output. Until the stream breaks, both offsets count
the bytes that were accepted; and the stream is concluded only when it should be. -/
structure GapFree (w : Wire) (s : Session) : Prop where
  sent : w.sent s.log <+: w.out
  offsets : w.broke s.log = false → offsets w.sid s.log =
    ((w.sent s.log).length, (w.sent s.log).length)
  concluded : Each w.Concluded s.log

/-- The stream still has its QUIC handle. -/
def Wire.Attached (w : Wire) (s : Session) : Prop := ∃ r, (s.objs r).qstream = some w.handle

/-- A history in which everybody behaves. -/
structure Wire.Lawful (w : Wire) (log : List Entry) : Prop where
  ids : Each (IdLaw w.handle w.sid) log
  law : Each w.Law log
  careful : Each w.Careful log

/-- The bytes on the wire are gap free as long as the stream has its handle, since after that
`flush_nghttp3` swallows its output; and nothing was done about a stream that QUIC has not handed
out. -/
structure Wired (w : Wire) (s : Session) : Prop where
  sent : w.sent s.log <+: w.out
  counted : ∀ r, (s.objs r).qstream = some w.handle → w.broke s.log = false →
    offsets w.sid s.log = ((w.sent s.log).length, (w.sent s.log).length)
  concluded : Each w.Concluded s.log
  fresh : .got w.handle w.sid ∉ s.log → offsets w.sid s.log = 0 ∧ w.sent s.log = []

section
variable {w : Wire} {s t u : Session} {r : Ref} {es : List Entry}

/-- The laws hold of every prefix of a log. -/
lemma Wire.Lawful.before {log : List Entry} (lawful : w.Lawful (log ++ es)) : w.Lawful log :=
  ⟨lawful.ids.before, lawful.law.before, lawful.careful.before⟩

/-- The entry is not a write to the stream. -/
def Wire.Skips (w : Wire) (e : Entry) : Prop :=
  ∀ lens fin res, e ≠ .op (.use (.write lens fin res) w.handle)

/-- A write that is skipped is on another stream. -/
lemma Wire.Skips.ne {lens : List Nat} {fin : Bool} {res : WriteResult} {h : Handle}
    (skips : w.Skips (.op (.use (.write lens fin res) h))) : h ≠ w.handle := by
  rintro rfl
  exact skips lens fin res rfl

/-- A skipped entry takes nothing. -/
lemma Wire.Skips.taken {e : Entry} (skips : w.Skips e) (pre : List Entry) : w.taken pre e = [] := by
  unfold Wire.taken
  split
  · exact if_neg skips.ne
  · rfl

/-- A skipped entry concludes nothing. -/
lemma Wire.Skips.concludes {e : Entry} (skips : w.Skips e) (pre : List Entry) :
    w.concludes pre e = false := by
  unfold Wire.concludes
  split
  · rw [beq_eq_false_iff_ne.mpr skips.ne, Bool.false_and]
  · rfl

/-- A skipped entry does not break the stream. -/
lemma Wire.Skips.breaks {e : Entry} (skips : w.Skips e) : e.uses Use.breaks w.handle = false := by
  unfold Entry.uses
  split
  · rename_i u h
    cases u with
    | write lens fin res => rw [beq_eq_false_iff_ne.mpr skips.ne, Bool.false_and]
    | _ => exact Bool.and_false _
  · rfl

/-- Skipped entries send nothing. -/
lemma Wire.sent_skips (skips : ∀ e ∈ es, w.Skips e) (log : List Entry) :
    w.sent (log ++ es) = w.sent log :=
  gather_append fun e mem => (skips e mem).taken

/-- Whether the stream broke in two logs in a row. -/
lemma Wire.broke_append (w : Wire) (log es : List Entry) :
    w.broke (log ++ es) = (w.broke log || w.broke es) :=
  used_append

/-- Skipped entries do not break the stream. -/
lemma Wire.broke_skips (skips : ∀ e ∈ es, w.Skips e) (log : List Entry) :
    w.broke (log ++ es) = w.broke log := by
  have unbroken : w.broke es = false := by
    rw [Wire.broke, used, List.any_eq_false]
    intro e mem
    rw [(skips e mem).breaks]
    exact Bool.false_ne_true
  rw [w.broke_append, unbroken, Bool.or_false]

/-- Skipped entries conclude nothing. -/
lemma Wire.concluded_skips (skips : ∀ e ∈ es, w.Skips e) {log : List Entry}
    (h : Each w.Concluded log) :
    Each w.Concluded (log ++ es) := by
  refine h.append ?_
  intro e mem pre concludes
  rw [(skips e mem).concludes] at concludes
  cases concludes

/-- The offsets of two logs in a row. -/
lemma offsets_append (sid : Int) (log es : List Entry) :
    offsets sid (log ++ es) = offsets sid log + offsets sid es := by
  rw [offsets, List.map_append, List.sum_append]
  rfl

/-- A new session has sent nothing. -/
lemma Wired.init (b m : Nat) : Wired w (.init b m) := by
  refine ⟨?_, ?_, trivial, fun _ => ⟨rfl, rfl⟩⟩
  · exact List.nil_prefix
  · intro r hq
    cases hq

/-- A change that writes nothing to the stream and does not move its offsets. A handle that the
stream gets is one that QUIC has just handed out. -/
lemma Wired.skips (hs : Wired w s) (log : t.log = s.log ++ es) (skips : ∀ e ∈ es, w.Skips e)
    (still : offsets w.sid es = 0)
    (objs : ∀ r, (t.objs r).qstream = some w.handle →
      (∃ r, (s.objs r).qstream = some w.handle) ∨ .got w.handle w.sid ∉ s.log) : Wired w t := by
  have same : offsets w.sid t.log = offsets w.sid s.log := by
    rw [log, offsets_append, still, add_zero]
  refine ⟨?_, ?_, ?_, ?_⟩
  · rw [log, Wire.sent_skips skips]
    exact hs.sent
  · intro r hq whole
    rw [log, Wire.broke_skips skips] at whole
    rw [same, log, Wire.sent_skips skips]
    rcases objs r hq with ⟨r', hq'⟩ | new
    · exact hs.counted r' hq' whole
    · obtain ⟨zero, empty⟩ := hs.fresh new
      rw [zero, empty]
      rfl
  · rw [log]
    exact Wire.concluded_skips skips hs.concluded
  · intro new
    rw [same, log, Wire.sent_skips skips]
    refine hs.fresh fun mem => new ?_
    rw [log]
    exact List.mem_append_left _ mem

/-- Nothing is written to the stream, its offsets are moved by `n`, and it gets no handle. -/
structure Passes (w : Wire) (n : Nat × Nat) (s t : Session) : Prop where
  log : ∃ es, t.log = s.log ++ es ∧ (∀ e ∈ es, w.Skips e) ∧ offsets w.sid es = n
  objs : ∀ r, (t.objs r).qstream = some w.handle → (s.objs r).qstream = some w.handle

namespace Passes
variable {n m : Nat × Nat}

/-- Offsets of two steps add up. -/
lemma trans (h1 : Passes w n s t) (h2 : Passes w m t u) : Passes w (n + m) s u where
  log := by
    obtain ⟨es, eq, skips, moved⟩ := h1.log
    obtain ⟨fs, eq', skips', moved'⟩ := h2.log
    refine ⟨es ++ fs, by rw [eq', eq, List.append_assoc], ?_, by rw [offsets_append, moved, moved']⟩
    intro e mem
    exact (List.mem_append.mp mem).elim (skips e) (skips' e)
  objs r hq := h1.objs r (h2.objs r hq)

/-- A step that adds no offsets after one that may. -/
lemma then_still (h1 : Passes w n s t) (h2 : Passes w 0 t u) : Passes w n s u :=
  add_zero n ▸ h1.trans h2

/-- A change of something else. -/
lemma same (log : t.log = s.log) (objs : ∀ r, (t.objs r).qstream = (s.objs r).qstream) :
    Passes w 0 s t :=
  ⟨⟨[], log.trans (List.append_nil _).symm, nofun, rfl⟩, fun r hq => (objs r).symm.trans hq⟩

/-- A skipped entry adds its own offsets. -/
lemma emit (e : Entry) (skips : w.Skips e) : Passes w (e.advance w.sid) s (s.emit e) := by
  refine ⟨⟨[e], rfl, ?_, add_zero _⟩, fun _ => id⟩
  intro e' mem
  rw [List.mem_singleton.mp mem]
  exact skips

/-- Entries that neither write to the stream nor move its offsets. -/
lemma of_entries (log : t.log = s.log ++ es) (idle : ∀ e ∈ es, w.Skips e ∧ e.advance w.sid = 0)
    (objs : ∀ r, (t.objs r).qstream = (s.objs r).qstream ∨ (t.objs r).qstream = none) :
    Passes w 0 s t := by
  refine ⟨⟨es, log, fun e mem => (idle e mem).1, ?_⟩, ?_⟩
  · refine List.sum_eq_zero ?_
    intro n mem
    obtain ⟨e, there, rfl⟩ := List.mem_map.mp mem
    exact (idle e there).2
  · intro r hq
    rcases objs r with eq | eq
    · exact eq ▸ hq
    · rw [eq] at hq
      cases hq

/-- Callbacks add no offsets. -/
lemma runCbs (s : Session) (cbs : List Cb) : Passes w 0 s (runCbs s cbs) := by
  obtain ⟨es, log, resets⟩ := runCbs_log (s := s) cbs
  refine of_entries log ?_ fun r => ((runCbs_frame cbs).objs r).qstream
  intro e mem
  obtain ⟨err, h, rfl⟩ := resets e mem
  exact ⟨nofun, rfl⟩

end Passes

/-- A call adds its own offsets. -/
lemma Called.passes {c : Call} (called : Called c s t) :
    Passes w ((Entry.call c [] 0).advance w.sid) s t := by
  obtain ⟨cbs, rv, rfl⟩ := called
  have here : Passes w ((Entry.call c cbs rv).advance w.sid) s (s.emit (.call c cbs rv)) :=
    .emit _ nofun
  have same : (Entry.call c cbs rv).advance w.sid = (Entry.call c [] 0).advance w.sid := by
    cases c <;> rfl
  exact same ▸ here.then_still (.runCbs _ cbs)

/-- Adding offsets adds them to its stream. -/
lemma Offsets.passes {sid : Int} {n : Nat} (offsets : Offsets sid n s t) :
    Passes w (if sid = w.sid then (n, n) else 0) s t := by
  obtain ⟨u, write, ack⟩ := offsets
  have both := write.passes.trans (ack.passes (w := w))
  by_cases eq : sid = w.sid
  · simpa [Entry.advance, eq] using both
  · simpa [Entry.advance, eq] using both

/-- Asking for vectors adds no offsets. -/
lemma Writev.passes {sid : Int} {fin : Bool} {lens : List Nat} (writev : Writev sid fin lens s t) :
    Passes w 0 s t := by
  obtain ⟨cbs, nvec, _, _, rfl⟩ := writev
  exact Called.passes (c := .writevStream sid fin lens) ⟨cbs, nvec, rfl⟩

/-- Marking a stream as blocked adds no offsets. -/
lemma writeBlocked_passes (r : Ref) (b : Bool) (n : Int) :
    Passes w 0 s
      { s.modifyObj r fun x => { x with writeBlocked := b } with blockedStreams := n } := by
  refine .same rfl ?_
  exact update_rel (P := fun x y => y.qstream = x.qstream) rfl fun _ => rfl

/-- Unblocking a stream adds no offsets. -/
lemma Unblocking.passes (m : Unblocking s t) : Passes w 0 s t := by
  cases m with
  | @query r h blocked hq => exact .emit (.op (.use (.isWriteBlocked blocked) h)) nofun
  | @unblock r _ called => exact (writeBlocked_passes r false _).then_still called.passes

/-- The account survives a step that adds no offsets. -/
lemma Wired.passes (hs : Wired w s) (p : Passes w 0 s t) : Wired w t := by
  obtain ⟨es, log, skips, still⟩ := p.log
  exact hs.skips log skips still fun r hq => .inl ⟨r, p.objs r hq⟩

/-- The output of a stream that has lost its handle is swallowed. -/
lemma Wired.swallow {n : Nat × Nat} (hs : Wired w s) (got : .got w.handle w.sid ∈ s.log)
    (lost : ∀ r, (s.objs r).qstream ≠ some w.handle) (p : Passes w n s t) : Wired w t := by
  obtain ⟨es, log, skips, _⟩ := p.log
  refine ⟨?_, fun r hq => absurd (p.objs r hq) (lost r), ?_, fun new => absurd ?_ new⟩
  · rw [log, Wire.sent_skips skips]
    exact hs.sent
  · rw [log]
    exact Wire.concluded_skips skips hs.concluded
  · rw [log]
    exact List.mem_append_left _ got

/-- What comes next in a list continues a prefix of it. -/
lemma prefix_extend {α : Type} {xs ys out : List α} (start : xs <+: out)
    (next : ys <+: out.drop xs.length) :
    xs ++ ys <+: out := by
  obtain ⟨rest, rfl⟩ := start
  rw [List.drop_left] at next
  exact (List.prefix_append_right_inj xs).mpr next

/-- What was sent after a write. -/
lemma Wire.sent_write (w : Wire) (log : List Entry) (lens : List Nat) (fin : Bool)
    (res : WriteResult) :
    w.sent (log ++ [Entry.op (.use (.write lens fin res) w.handle)]) =
      w.sent log ++ (w.write log fin).taken := by
  rw [Wire.sent, gather_snoc, Wire.taken, if_pos rfl]
  rfl

/-- Whether the stream is broken after a write. -/
lemma Wire.broke_write (w : Wire) (log : List Entry) (lens : List Nat) (fin : Bool)
    (res : WriteResult) :
    w.broke (log ++ [Entry.op (.use (.write lens fin res) w.handle)]) =
      (w.broke log || res.broken) := by
  rw [w.broke_append, Wire.broke, Wire.broke, used, used, List.any_cons, List.any_nil,
    Bool.or_false, Entry.uses, beq_self_eq_true, Bool.true_and]
  rfl

/-- What is written to the stream continues what was sent before. -/
lemma Wired.sent_write {lens : List Nat} {fin : Bool} {res : WriteResult} (hs : Wired w s)
    (hq : (s.objs r).qstream = some w.handle) (round : w.Round s.log lens fin res) :
    w.sent s.log ++ (w.write s.log fin).taken <+: w.out := by
  cases broke : w.broke s.log with
  | true =>
    -- OpenSSL accepts nothing any more
    have nothing : (w.write s.log fin).taken = [] := (streamWrite_fails (round.breaks broke)).1
    rw [nothing, List.append_nil]
    exact hs.sent
  | false =>
    refine prefix_extend hs.sent ((streamWrite_taken _ _ _).1.trans ?_)
    have output := round.output
    rwa [hs.counted r hq broke] at output

/-- If this concludes the stream, everything was accepted. -/
lemma Wired.concluded_write {lens : List Nat} {fin : Bool} {res : WriteResult} (hs : Wired w s)
    (hq : (s.objs r).qstream = some w.handle) (round : w.Round s.log lens fin res)
    (careful : w.Careful s.log (.op (.use (.write lens fin res) w.handle)))
    (signalled : fin = true → s.log.any w.signals = true) :
    w.Concluded s.log (.op (.use (.write lens fin res) w.handle)) := by
  intro concludes
  have concluded : (w.write s.log fin).concluded = true := by
    simpa [Wire.concludes] using concludes
  obtain ⟨last, whole, all⟩ := streamWrite_concluded concluded
  have broke : w.broke s.log = false := by
    by_contra broke
    rw [Bool.not_eq_false] at broke
    -- only a round without vectors does not break a broken stream again
    have noVecs : w.vecs s.log = [] := by
      by_contra vecs
      exact Bool.false_ne_true (whole.symm.trans ((streamWrite_fails (round.breaks broke)).2 vecs))
    have empty : lens = [] := by rw [← round.lens, noVecs]; rfl
    have ends : w.endsEmpty (.op (.use (.write lens fin res) w.handle)) = true := by
      rw [Wire.endsEmpty, empty, last, beq_self_eq_true]
      rfl
    rw [careful ends] at broke
    cases broke
  refine ⟨signalled last, ?_, ?_⟩
  · rw [Wire.sent_write]
    refine (hs.sent_write hq round).eq_of_length ?_
    have length := round.last last
    rw [hs.counted r hq broke] at length
    rw [List.length_append, ← length]
    exact congrArg (_ + ·) (congrArg List.length all)
  · rw [Wire.broke_write, broke, ← round.result]
    exact whole

/-- A round that writes to the stream. -/
lemma Wired.write {lens : List Nat} {fin : Bool} {res : WriteResult} {n : Nat × Nat}
    (hs : Wired w s) (hq : (s.objs r).qstream = some w.handle) (got : .got w.handle w.sid ∈ s.log)
    (round : w.Round s.log lens fin res)
    (careful : w.Careful s.log (.op (.use (.write lens fin res) w.handle)))
    (signalled : fin = true → s.log.any w.signals = true)
    (p : Passes w n (s.emit (.op (.use (.write lens fin res) w.handle))) t)
    (moved : res.broken = false → n = (res.accepted, res.accepted)) : Wired w t := by
  obtain ⟨es, log, skips, amount⟩ := p.log
  replace log : t.log = s.log ++ [Entry.op (.use (.write lens fin res) w.handle)] ++ es := log
  have sent : w.sent t.log = w.sent s.log ++ (w.write s.log fin).taken := by
    rw [log, Wire.sent_skips skips, Wire.sent_write]
  refine ⟨?_, ?_, ?_, fun new => absurd ?_ new⟩
  · rw [sent]
    exact hs.sent_write hq round
  · intro r' hq' whole
    rw [log, Wire.broke_skips skips, Wire.broke_write, Bool.or_eq_false_iff] at whole
    have count : res.accepted = (w.write s.log fin).taken.length := by
      rw [← round.result]
      exact (streamWrite_taken _ _ _).2
    have before := hs.counted r hq whole.1
    have entry : offsets w.sid [.op (.use (.write lens fin res) w.handle)] = 0 := rfl
    rw [sent, List.length_append, ← count, log, offsets_append, offsets_append, before, amount,
      entry, moved whole.2]
    rfl
  · rw [log]
    exact Wire.concluded_skips skips
      (hs.concluded.snoc (hs.concluded_write hq round careful signalled))
  · rw [log, List.append_assoc]
    exact List.mem_append_left _ got

/-- The handle is in the object of its stream. -/
lemma Wire.Lawful.handle {b m : Nat} {h : Handle} (lawful : w.Lawful s.log)
    (moves : Moves (.init b m) s) (hq : (s.objs r).qstream = some h) :
    h = w.handle ↔ (s.objs r).streamId = w.sid :=
  IdLaw.handle lawful.ids ((Bound.init b m).moves (Owns.init b m) moves) hq

/-- A stream whose output is swallowed has no handle. -/
lemma Wire.Lawful.lost {b m : Nat} (lawful : w.Lawful s.log) (moves : Moves (.init b m) s)
    (gone : ∀ r, s.find w.sid = some r → (s.objs r).qstream = none) (r : Ref) :
    (s.objs r).qstream ≠ some w.handle := by
  intro hq
  have sole := Sole.moves moves lawful.ids
  have found := sole.find ((Owns.init b m).moves moves) (Listed.moves moves) hq
    ((lawful.handle moves hq).mp rfl)
  rw [gone r found] at hq
  cases hq

/-- What is logged when nghttp3 is asked for vectors. -/
lemma Writev.log {sid : Int} {fin : Bool} {lens : List Nat} (writev : Writev sid fin lens s t) :
    ∃ cbs nvec es, 0 ≤ nvec ∧ t.log = s.log ++ [Entry.call (.writevStream sid fin lens) cbs nvec] ++
      es := by
  obtain ⟨cbs, nvec, nonneg, _, rfl⟩ := writev
  obtain ⟨es, log, _⟩ := runCbs_log (s := s.emit (.call (.writevStream sid fin lens) cbs nvec)) cbs
  exact ⟨cbs, nvec, es, nonneg, log⟩

/-- nghttp3 returned a round of the stream, so QUIC has handed the stream out. -/
lemma Writev.got {fin : Bool} {lens : List Nat} (writev : Writev w.sid fin lens s t)
    (lawful : w.Lawful t.log) :
    .got w.handle w.sid ∈ t.log := by
  obtain ⟨cbs, nvec, es, nonneg, log⟩ := writev.log
  rw [log] at lawful ⊢
  have law : w.Law s.log (.call (.writevStream w.sid fin lens) cbs nvec) := lawful.law.entry
  exact List.mem_append_left _ (List.mem_append_left _ (law nonneg rfl))

/-- Vectors with the end of the stream signal it. -/
lemma Writev.signals {fin : Bool} {lens : List Nat} (writev : Writev w.sid fin lens s t)
    (last : fin = true) :
    t.log.any w.signals = true := by
  obtain ⟨cbs, nvec, es, _, log⟩ := writev.log
  rw [log, last, List.any_append, List.any_append, List.any_cons, Wire.signals, beq_self_eq_true]
  simp

/-- A round in which `h3q_stream_write` is called, for this stream or another one. -/
lemma Wired.round {b m : Nat} {sid : Int} {fin : Bool} {lens : List Nat} {h : Handle}
    {res : WriteResult} {n : Nat} (hs : Wired w s) (moves : Moves (.init b m) s)
    (writev : Writev sid fin lens s u) (found : u.find sid = some r)
    (hq : (u.objs r).qstream = some h)
    (offsets : Offsets sid n (u.emit (.op (.use (.write lens fin res) h))) t)
    (count : res.broken = false → n = res.accepted) (lawful : w.Lawful t.log) : Wired w t := by
  have after : Wired w u := hs.passes writev.passes
  have moves' : Moves (.init b m) u := moves.tail writev.move
  obtain ⟨es, log, _⟩ := (offsets.passes (w := w)).log
  replace log : t.log = u.log ++ [Entry.op (.use (.write lens fin res) h)] ++ es := log
  rw [log] at lawful
  have mine := lawful.before.before.handle moves' hq
  rw [(Session.find_some found).2] at mine
  by_cases here : h = w.handle
  · obtain rfl := here
    obtain rfl := mine.mp rfl
    have passes := offsets.passes (w := w)
    rw [if_pos rfl] at passes
    refine after.write hq (writev.got lawful.before.before) (lawful.law.entry rfl)
      lawful.careful.entry
      writev.signals passes ?_
    intro whole
    rw [count whole]
  · have passes := offsets.passes (w := w)
    rw [if_neg fun eq => here (mine.mpr eq)] at passes
    have other : Passes w 0 u (u.emit (.op (.use (.write lens fin res) h))) := by
      refine .emit (.op (.use (.write lens fin res) h)) ?_
      intro _ _ _ eq
      cases eq
      exact here rfl
    exact after.passes (other.then_still passes)

/-- One turn of a flush. -/
lemma Wired.flushTurn {b m : Nat} {go : Bool} (hs : Wired w s) (moves : Moves (.init b m) s)
    (turn : FlushTurn s go t) (lawful : w.Lawful t.log) : Wired w t := by
  cases turn with
  | @failed sid fin lens cbs nvec neg =>
    have called : Passes w 0 s _ := Called.passes (c := .writevStream sid fin lens) ⟨cbs, nvec, rfl⟩
    exact hs.passes (called.then_still (.same rfl fun _ => rfl))
  | @nothing sid fin lens cbs neg =>
    exact hs.passes (Called.passes (c := .writevStream sid fin lens) ⟨cbs, 0, rfl⟩)
  | @swallowed sid fin lens u _ writev gone offsets =>
    have after : Wired w u := hs.passes writev.passes
    have passes := offsets.passes (w := w)
    obtain ⟨es, log, _⟩ := passes.log
    rw [log] at lawful
    by_cases mine : sid = w.sid
    · obtain rfl := mine
      exact after.swallow (writev.got lawful.before)
        (lawful.before.lost (moves.tail writev.move) gone) passes
    · rw [if_neg mine] at passes
      exact after.passes passes
  | broken writev found hq broken offsets =>
    refine hs.round moves writev found hq offsets ?_ lawful
    intro whole
    rw [broken] at whole
    cases whole
  | @written sid fin lens r h res u v _ writev found hq whole offsets last =>
    have blocking : Passes w 0 v t := by
      rcases last with ⟨_, rfl⟩ | ⟨_, _, blocked⟩
      · exact .same rfl fun _ => rfl
      · exact (writeBlocked_passes r true _).then_still blocked.passes
    obtain ⟨es, log, _⟩ := blocking.log
    rw [log] at lawful
    exact (hs.round moves writev found hq offsets (fun _ => rfl) lawful.before).passes blocking

/-- The laws hold before moves if they hold after them. -/
lemma Moves.lawful (ms : Moves s t) (lawful : w.Lawful t.log) : w.Lawful s.log := by
  obtain ⟨es, log⟩ := moves_extends ms
  rw [log] at lawful
  exact lawful.before

/-- A flush. -/
lemma flush_wired {b m : Nat} (moves : Moves (.init b m) s) (hs : w.Lawful s.log → Wired w s)
    (st : Step s .flush t) (lawful : w.Lawful t.log) : Wired w t := by
  have ends : Wp (exec .flush) s (fun _ t => w.Lawful t.log → Wired w t) (fun _ => True) := by
    refine flushNghttp3_wp (J := fun u => Moves (.init b m) u ∧ (w.Lawful u.log → Wired w u))
      (K := fun u => w.Lawful u.log → Wired w u) ?_ ?_ ?_ (fun _ => ⟨moves, hs⟩) fun _ => hs
    · rintro u v ⟨hm, hu⟩ m
      exact ⟨hm.trans m.moves, fun lawful => (hu (Moves.lawful m.moves lawful)).passes m.passes⟩
    · rintro u go v ⟨hm, hu⟩ turn
      have next : w.Lawful v.log → Wired w v :=
        fun lawful => (hu (Moves.lawful turn.moves lawful)).flushTurn hm turn lawful
      split
      · exact ⟨hm.trans turn.moves, next⟩
      · exact next
    · intro u h hu lawful
      have popped : Passes w 0 u { u with pendingFree := u.pendingFree.dropLast } :=
        .same rfl fun _ => rfl
      have freed := popped.then_still (.emit (.op (.free h)) nofun)
      exact (hu lawful.before).passes freed
  exact st.ends ends lawful

/-- A drain pass. -/
lemma drain_passes (st : Step s .drain t) : Passes w 0 s t := by
  have reads : ∀ e : Entry, e.isRead = true → w.Skips e ∧ e.advance w.sid = 0 := by
    intro e reads
    unfold Entry.isRead at reads
    split at reads
    all_goals first | exact ⟨nofun, rfl⟩ | cases reads
  have query : ∀ e : Entry, e.isQuery = true → w.Skips e ∧ e.advance w.sid = 0 := by
    intro e query
    unfold Entry.isQuery at query
    split at query
    · exact ⟨nofun, rfl⟩
    · cases query
  obtain ⟨u, snapshot, later, _, rfl⟩ := drain_later reads query st
  obtain ⟨es, log, idle⟩ := later.log
  have visited : Passes w 0 s u := .of_entries log idle fun r => (later.objs r).qstream
  refine visited.then_still (.same (foldl_keeps Session.log reclaim_log snapshot u) fun r => ?_)
  exact foldl_keeps (fun t : Session => (t.objs r).qstream)
    (fun s r' => reclaim_objs H3Stream.qstream (fun _ _ => rfl) s r r') snapshot u

/-- Destroying the session. -/
lemma destroy_passes (st : Step s .destroy t) : Passes w 0 s t := by
  refine st.ends (destroy_wp (K := fun u => Passes w 0 s u) ?_ ?_ ?_ (.same rfl fun _ => rfl))
  · intro u r hu
    refine hu.then_still (.same rfl ?_)
    exact update_rel (P := fun x y => y.qstream = x.qstream) rfl fun _ => rfl
  · intro u h hu
    have popped : Passes w 0 u { u with pendingFree := u.pendingFree.dropLast } :=
      .same rfl fun _ => rfl
    exact hu.then_still (popped.then_still (.emit (.op (.free h)) nofun))
  · intro u v hu log objs _ _
    refine hu.then_still (.same log ?_)
    rw [objs]
    exact fun _ => rfl

/-- Accepting a stream: its handle is new. -/
lemma accept_wired {b m : Nat} (moves : Moves (.init b m) s) (hs : Wired w s)
    (st : Step s .accept t) :
    Wired w t := by
  have new : s.handles = w.handle → .got w.handle w.sid ∉ s.log := by
    intro eq mem
    exact Nat.lt_irrefl _ (eq ▸ moves_got_lt moves mem)
  have idle : ∀ sid, ∀ e ∈ [Entry.got s.handles sid, .op (.use (.id sid) s.handles)],
      w.Skips e := by
    intro sid e mem
    simp only [List.mem_cons, List.not_mem_nil, or_false] at mem
    rcases mem with rfl | rfl <;> exact nofun
  have log : ∀ sid, (s.accepted sid).log = s.log ++
      [Entry.got s.handles sid, Entry.op (.use (.id sid) s.handles)] :=
    fun _ => List.append_assoc ..
  -- one object may get the new handle
  have given : ∀ {t : Session} (sid : Int) (r : Ref), t.log = (s.accepted sid).log →
      (t.objs r).qstream = some s.handles → (∀ r', r' ≠ r → t.objs r' = s.objs r') → Wired w t := by
    intro t sid r eq hq others
    refine hs.skips (eq.trans (log sid)) (idle sid) rfl ?_
    intro r' hq'
    by_cases same : r' = r
    · subst same
      exact .inr (new (Option.some.inj (hq.symm.trans hq')))
    · exact .inl ⟨r', others r' same ▸ hq'⟩
  have ends : Wp (exec .accept) s (fun _ t => Wired w t) (fun _ => True) := by
    refine .bind (acceptStream_wp.mono ?_ fun _ => id)
    rintro more t (⟨_, rfl⟩ | ⟨_, sid, rfl | rfl | ⟨r, _, rfl⟩⟩)
    · exact .pure hs
    · have accepted : Wired w (s.accepted sid) :=
        hs.skips (log sid) (idle sid) rfl fun r hq => .inl ⟨r, hq⟩
      have freed : Passes w 0 (s.accepted sid) ((s.accepted sid).freeHeld s.handles) :=
        .of_entries rfl (by simp [Wire.Skips, Entry.advance]) fun _ => .inl rfl
      exact .pure (accepted.passes freed)
    · refine .pure (given sid s.next rfl ?_ fun r' ne => Function.update_of_ne ne _ _)
      show (Function.update s.objs s.next (.init sid (some s.handles)) s.next).qstream = _
      rw [Function.update_self]
      rfl
    · refine .pure (given sid r rfl ?_ fun r' ne => Function.update_of_ne ne _ _)
      show (Function.update s.objs r { s.objs r with qstream := some s.handles } r).qstream = _
      rw [Function.update_self]
  exact st.ends ends

/-- Opening the control streams of a new session. -/
lemma create_wired {b m : Nat} (st : Step (.init b m) .create t) : Wired w t := by
  have idle : ∀ e ∈ t.log, w.Skips e ∧ e.advance w.sid = 0 := by
    refine st.ends (create_wp (K := fun u => ∀ e ∈ u.log, w.Skips e ∧ e.advance w.sid = 0) rfl ?_ ?_
      ?_ nofun)
    · intro u v idle o
      cases o with
      | acquire server =>
        exact List.forall_mem_append.mpr ⟨idle, List.forall_mem_singleton.mpr ⟨nofun, rfl⟩⟩
      | track | retrack => exact idle
    · intro u h idle
      exact List.forall_mem_append.mpr ⟨idle, List.forall_mem_singleton.mpr ⟨nofun, rfl⟩⟩
    · intro u v idle log _ _ _
      rw [log]
      exact idle
  refine (Wired.init b m).skips (List.nil_append _).symm (fun e mem => (idle e mem).1) ?_
    fun _ _ => .inr nofun
  refine List.sum_eq_zero ?_
  intro n mem
  obtain ⟨e, there, rfl⟩ := List.mem_map.mp mem
  exact (idle e there).2

/-- Every section. -/
lemma step_wired {b m : Nat} {c : Sect} (moves : Moves (.init b m) s)
    (new : s.phase = .created → s = .init b m) (hs : w.Lawful s.log → Wired w s) (st : Step s c t)
    (lawful : w.Lawful t.log) : Wired w t := by
  have before : Wired w s := by
    refine hs (Moves.lawful (st.moves ?_).1 lawful)
    intro created
    rw [new created]
    rfl
  have marks : ∀ (r : Ref) {f : H3Stream → H3Stream}, (∀ x, (f x).qstream = x.qstream) →
      Wp (Script.modify (·.modifyObj r f) : Prog Unit) s (fun _ t => Wired w t)
      (fun _ => True) := by
    intro r f same
    refine .modify (before.passes (.same rfl ?_))
    exact update_rel (P := fun x y => y.qstream = x.qstream) (same _) fun _ => rfl
  cases c with
  | create =>
    obtain rfl := new (by simpa [Sect.enabled] using st.1)
    exact create_wired st
  | accept => exact accept_wired moves before st
  | drain => exact before.passes (drain_passes st)
  | flush => exact flush_wired moves hs st lawful
  | destroy => exact before.passes (destroy_passes st)
  | dispatch r | undispatch r | workerDone r => exact st.ends (marks r fun _ => rfl)
  | process r =>
    have ends : Wp (exec (.process r)) s (fun _ t => Wired w t) (fun _ => True) :=
      .modify (before.passes (.emit (.processed r _) (by rintro _ _ _ ⟨⟩)))
    exact st.ends ends

end

/-- In every run in which the end of the output of a stream that has broken does not come in a round
of its own, and as long as the stream has its QUIC handle, the bytes on the wire are a gap-free
prefix of the output of nghttp3. -/
theorem wire_gap_free {b m : Nat} {cs : List Sect} {s : Session} {w : Wire}
    (run : Run Step (.init b m) cs s) (ids : Each (IdLaw w.handle w.sid) s.log)
    (law : Each w.Law s.log) (careful : Each w.Careful s.log) (attached : w.Attached s) :
    GapFree w s := by
  have wired : w.Lawful s.log → Wired w s := by
    clear attached
    induction run with
    | nil => exact fun _ => .init b m
    | snoc run st ih =>
      intro lawful
      obtain ⟨moves, new⟩ := run_moves run
      have before : w.Lawful _ :=
        Moves.lawful (st.moves fun created => by rw [new created]; rfl).1 lawful
      exact step_wired moves new (fun _ => ih before.ids before.law before.careful before) st lawful
  have held := wired ⟨ids, law, careful⟩
  obtain ⟨r, hq⟩ := attached
  exact ⟨held.sent, held.counted r hq, held.concluded⟩

instance Wire.Round.decidable {w : Wire} {pre : List Entry} {lens : List Nat} {fin : Bool}
    {res : WriteResult} :
    Decidable (w.Round pre lens fin res) :=
  decidable_of_iff _ (Wire.round_iff w pre lens fin res).symm

instance Wire.Law.decidable {w : Wire} {pre : List Entry} : ∀ e, Decidable (w.Law pre e)
  | .call (.writevStream sid _ _) _ nvec =>
    inferInstanceAs (Decidable (0 ≤ nvec → sid = w.sid → .got w.handle w.sid ∈ pre))
  | .op (.use (.write lens fin res) h) =>
    inferInstanceAs (Decidable (h = w.handle → w.Round pre lens fin res))
  | .got _ _ | .processed _ _ | .op (.free _) => .isTrue trivial
  | .op (.use (.id _) _) | .op (.use (.isWriteBlocked _) _) | .op (.use (.isReadFinished _ _) _)
  | .op (.use (.read _) _) | .op (.use (.reset _) _) => .isTrue trivial
  | .call (.readStream _ _ _) _ _ | .call (.closeStream _) _ _ | .call (.addWriteOffset _ _) _ _
  | .call (.addAckOffset _ _) _ _ | .call (.blockStream _) _ _ | .call (.unblockStream _) _ _
  | .call (.submitResponse _) _ _ | .call (.resumeStream _) _ _ | .call .submitShutdownNotice _ _
  | .call .isDrained2 _ _ | .call .shutdown _ _ => .isTrue trivial

instance Wire.Careful.decidable {w : Wire} {pre : List Entry} {e : Entry} :
    Decidable (w.Careful pre e) :=
  inferInstanceAs (Decidable (_ → _))

instance Wire.Concluded.decidable {w : Wire} {pre : List Entry} {e : Entry} :
    Decidable (w.Concluded pre e) :=
  inferInstanceAs (Decidable (_ → _ ∧ _ ∧ _))

/-- Five bytes, of which OpenSSL accepts three before its buffer is full. -/
def blockedWire : Wire where
  handle := 3
  sid := 0
  out := [1, 2, 3, 4, 5]
  vecs pre := if (offsets 0 pre).1 = 0 then [[1, 2], [3, 4]] else [[4], [5]]
  ssl pre k := if (offsets 0 pre).1 = 0 ∧ k = 1 then .accepts 1 else .accepts 2

/-- The response is written in two flushes. -/
def twoFlushes : List (Sect × List Answer) :=
  dispatchedGet.append
  [(.flush,
    [.writev [] 2 0 false [2, 2], .written { accepted := 3, blocked := true, broken := false },
      .called [] 0, .called [] 0, .called [] 0, .writev [] 0 (-1) false []]),
    (.flush, [.order [0, 1, 2, 3], .writeBlocked false, .called [] 0, .writev [] 2 0 true [1, 1],
      .written { accepted := 2, blocked := false, broken := false }, .called [] 0, .called [] 0,
      .writev [] 0 (-1) false []])]

/-- The bytes that were accepted in two flushes are the whole output. -/
theorem wire_gap_free_twoFlushes :
    ∃ cs s, Run Step (.init 65536 1000) cs s ∧ blockedWire.Attached s ∧
    blockedWire.sent s.log = [1, 2, 3, 4, 5] ∧
      offsets 0 s.log = (5, 5) ∧ GapFree blockedWire s := by
  have eq : (execAll runSect (.init 65536 1000) twoFlushes).map (fun r =>
      decide (Each (IdLaw blockedWire.handle blockedWire.sid) r.1.log ∧
        Each blockedWire.Law r.1.log ∧ Each blockedWire.Careful r.1.log ∧
        (r.1.objs 3).qstream = some blockedWire.handle ∧
        blockedWire.sent r.1.log = [1, 2, 3, 4, 5] ∧ offsets 0 r.1.log = (5, 5))) =
        some true := by decide +kernel
  obtain ⟨⟨s, cs⟩, h, ends⟩ := Option.map_eq_some_iff.mp eq
  obtain ⟨ids, law, careful, hq, sent, moved⟩ := of_decide_eq_true ends
  have run : Run Step (.init 65536 1000) cs s := execAll_run runSect_step h
  exact ⟨cs, s, run, ⟨3, hq⟩, sent, moved, wire_gap_free run ids law careful ⟨3, hq⟩⟩

/-- Two bytes that break the stream. -/
def brokenWire : Wire where
  handle := 3
  sid := 0
  out := [1, 2]
  vecs pre := if (offsets 0 pre).1 = 0 then [[1, 2]] else []
  ssl _ _ := .fails

/-- The stream breaks, and in the next flush the output ends without another byte. -/
def endAfterBreak : List (Sect × List Answer) :=
  dispatchedGet.append
  [(.flush, [.writev [] 1 0 false [2], .written { accepted := 0, blocked := false, broken := true },
      .called [] 0, .called [] 0, .writev [] 0 (-1) false []]),
    (.flush, [.writev [] 0 0 true [], .written { accepted := 0, blocked := false, broken := false },
      .called [] 0, .called [] 0, .writev [] 0 (-1) false []])]

/-- nghttp3 stops the stream, which gives up its handle, and its output is swallowed in the next
flush. -/
def outputAfterStop : List (Sect × List Answer) :=
  requestOpen.append
  [(.drain, [.order [0, 1, 2, 3], .states .ok .ok, .read (.data [1, 2]),
    .called [.beginHeaders 0, .stopSending 0 270] 2]),
    (.flush, [.writev [] 1 0 false [2], .called [] 0, .called [] 0, .writev [] 0 (-1) false []])]

/-- A broken stream is concluded although none of its bytes was accepted; and the offsets of a
stream without a handle count bytes that were not. -/
theorem wire_not_gap_free :
    (∃ cs s pre e post, Run Step (.init 65536 1000) cs s ∧
      Each (IdLaw brokenWire.handle brokenWire.sid) s.log ∧ Each brokenWire.Law s.log ∧
      s.log = pre ++ e :: post ∧ brokenWire.broke pre = true ∧ brokenWire.concludes pre e = true ∧
      brokenWire.sent (pre ++ [e]) = [] ∧ brokenWire.Attached s ∧ ¬ GapFree brokenWire s) ∧
    ∃ cs s, Run Step (.init 65536 1000) cs s ∧ Each (IdLaw brokenWire.handle brokenWire.sid) s.log ∧
      Each brokenWire.Law s.log ∧ Each brokenWire.Careful s.log ∧ s.find brokenWire.sid = some 3 ∧
      (s.objs 3).qstream = none ∧ brokenWire.broke s.log = false ∧ brokenWire.sent s.log = [] ∧
      offsets 0 s.log = (2, 2) ∧ ¬ GapFree brokenWire s := by
  let last : Entry :=
    .op (.use (.write [] true { accepted := 0, blocked := false, broken := false }) 3)
  have first : (execAll runSect (.init 65536 1000) endAfterBreak).map (fun r =>
      decide (Each (IdLaw brokenWire.handle brokenWire.sid) r.1.log ∧ Each brokenWire.Law r.1.log ∧
        r.1.log = r.1.log.take 16 ++ last :: r.1.log.drop 17 ∧
        brokenWire.broke (r.1.log.take 16) = true ∧ brokenWire.concludes (r.1.log.take 16) last =
        true ∧ brokenWire.sent (r.1.log.take 16 ++ [last]) = [] ∧
        (r.1.objs 3).qstream = some brokenWire.handle ∧
        ¬ Each brokenWire.Concluded r.1.log)) = some true := by
    decide +kernel
  have second : (execAll runSect (.init 65536 1000) outputAfterStop).map (fun r =>
      decide (Each (IdLaw brokenWire.handle brokenWire.sid) r.1.log ∧ Each brokenWire.Law r.1.log ∧
        Each brokenWire.Careful r.1.log ∧ r.1.find brokenWire.sid = some 3 ∧
        (r.1.objs 3).qstream = none ∧ brokenWire.broke r.1.log = false ∧
        brokenWire.sent r.1.log = [] ∧ offsets 0 r.1.log = (2, 2))) =
      some true := by
    decide +kernel
  refine ⟨?_, ?_⟩
  · obtain ⟨⟨s, cs⟩, h, ends⟩ := Option.map_eq_some_iff.mp first
    obtain ⟨ids, law, log, broke, concludes, sent, hq, early⟩ := of_decide_eq_true ends
    exact ⟨cs, s, _, _, _, execAll_run runSect_step h, ids, law, log, broke, concludes, sent,
      ⟨3, hq⟩, fun free => early free.concluded⟩
  · obtain ⟨⟨s, cs⟩, h, ends⟩ := Option.map_eq_some_iff.mp second
    obtain ⟨ids, law, careful, tracked, lost, whole, sent, moved⟩ := of_decide_eq_true ends
    refine ⟨cs, s, execAll_run runSect_step h, ids, law, careful, tracked, lost, whole, sent, moved,
      ?_⟩
    intro free
    have counted : offsets 0 s.log =
        ((brokenWire.sent s.log).length, (brokenWire.sent s.log).length) :=
      free.offsets whole
    rw [moved, sent] at counted
    cases counted

end ModHttp3.H3

import ModHttp3.Lib.Cyclic
import ModHttp3.Lib.Run
import ModHttp3.Session.Drain
import ModHttp3.Session.Flush
import ModHttp3.Session.Reclaim

/-!
# Fairness of a drain

A drain that runs out of budget leaves the rest of the streams unread and puts `stream_drain_cursor`
behind the last one it read, where the next drain starts. The streams a drain has read are a cyclic
segment of the snapshot from the cursor on, and a segment that does not reach a stream brings the
cursor closer to it (`Passed.closer`). The distance is less than the number of streams, so it takes
no more drains than there are streams to come to each of them.
-/

namespace ModHttp3.H3
open ModHttp3.Lib ModHttp3.Lib.Script

/-- A stream that a drain reads: it is the client's, not done, and has a handle. -/
def H3Stream.live (x : H3Stream) : Bool := !(x.done || x.qstream.isNone || sidIsServer x.streamId)

namespace Drain

/-- The stream was given to `drain_one_stream`, with something left of both budgets. -/
def Gave (d : Drain) (r : Ref) : Prop := ∃ g ∈ d.given, g.stream = r ∧ 0 < g.reads ∧ 0 < g.bytes

/-- So were the streams that are still live. -/
def Served (visited : List (Ref × Nat)) (d : Drain) : Prop :=
  ∀ v ∈ visited, (d.session.objs v.1).live = true → d.Gave v.1

/-- In the loop of a drain: the cursor is where it was, and there is budget left. -/
structure Sweeping (cursor : Nat) (visited : List (Ref × Nat)) (d : Drain) : Prop where
  served : Served visited d
  cursor : d.session.streamDrainCursor = cursor
  held : ∃ budget, d.Holds budget ∧ 0 < budget.reads ∧ 0 < budget.bytes

/-- What a drain has done: nghttp3 failed, or all streams were visited, or those up to the one that
spent the budget. -/
inductive Passed (n : Nat) (todo : List (Ref × Nat)) (d : Drain) : Prop where
  | dead :
    d.session.ngh3Dead = true →
    Passed n todo d
  | whole :
    Served todo d →
    Passed n todo d
  | cut {visited v rest} :
    todo = visited ++ v :: rest →
    Served (visited ++ [v]) d →
    d.session.streamDrainCursor = (v.2 + 1) % n →
    Passed n todo d

section
variable {d e : Drain} {r : Ref} {n cursor p : Nat} {visited todo : List (Ref × Nat)}
  {v : Ref × Nat}

/-- A stream that is live after a visit was live before. -/
lemma live_of_frame {x y : H3Stream} (frame : x.Frame y) (live : y.live = true) :
    x.live = true := by
  rw [H3Stream.live, Bool.not_eq_true', Bool.or_eq_false_iff, Bool.or_eq_false_iff] at live ⊢
  obtain ⟨⟨undone, handle⟩, client⟩ := live
  refine ⟨⟨?_, ?_⟩, ?_⟩
  · cases done : x.done with
    | false => rfl
    | true =>
      rw [frame.done done] at undone
      cases undone
  · rcases frame.qstream with eq | eq
    · rw [← eq]
      exact handle
    · rw [eq] at handle
      cases handle
  · rw [← frame.streamId]
    exact client

/-- What was served stays served. -/
lemma Served.mono (h : Served visited d)
    (live : ∀ r, (e.session.objs r).live = true → (d.session.objs r).live = true)
    (given : d.given ⊆ e.given) : Served visited e := by
  intro v mem alive
  obtain ⟨g, mem', budget⟩ := h v mem (live v.1 alive)
  exact ⟨g, given mem', budget⟩

/-- One more stream was visited, and read if it is live. -/
lemma Served.snoc (h : Served visited d) (last : (d.session.objs v.1).live = true → d.Gave v.1) :
    Served (visited ++ [v]) d := by
  intro w mem
  rcases List.mem_append.mp mem with before | new
  · exact h w before
  · rw [List.mem_singleton.mp new]
    exact last

/-- One turn of the loop. -/
lemma visitStream_sweeping (n : Nat) (v : Ref × Nat) (h : Sweeping cursor visited d) :
    Wp (visitStream n v) d
      (fun go y => if go = true then Sweeping cursor (visited ++ [v]) y else y.session.ngh3Dead =
        true ∨ Served (visited ++ [v]) y ∧ y.session.streamDrainCursor =
          (v.2 + 1) % n) fun _ => True := by
  refine .bind (.get ?_)
  split
  · exact .pure (.inl ‹_›)
  rename_i alive
  split
  · rename_i skip
    refine .pure ⟨h.served.snoc fun live => ?_, h.cursor, h.held⟩
    rw [H3Stream.live, skip] at live
    cases live
  rename_i skip
  rw [Bool.not_eq_true] at alive
  obtain ⟨budget, held, pos⟩ := h.held
  have client : sidIsServer (d.session.objs v.1).streamId = false := by
    simp only [Bool.or_eq_true, not_or, Bool.not_eq_true] at skip
    exact skip.2
  have read := (drainOneStream_refines v.1 held).wp (H3.drainOneStream_wp alive client budget)
  refine .bind (read.mono ?_ fun _ _ => trivial)
  rintro ready y ⟨⟨_, left⟩, ⟨_, held', given⟩, visit, _⟩
  have later := visit.later (P := fun _ => True) (fun _ _ => trivial) fun _ _ => trivial
  have aside := visit.aside.trans (Session.collect_aside v.1 ready)
  have served : Served (visited ++ [v]) (y.on (·.collect v.1 ready)) := by
    refine Served.snoc (h.served.mono ?_ ?_) fun _ => ?_
    · intro r live
      rw [on, Session.collect_objs] at live
      exact live_of_frame (later.objs r) live
    · show d.given ⊆ y.given
      rw [given]
      exact List.subset_append_left _ _
    · refine ⟨{ stream := v.1, reads := budget.reads, bytes := budget.bytes }, ?_, rfl, pos⟩
      show _ ∈ y.given
      rw [given]
      exact List.mem_append_right _ List.mem_cons_self
  refine .bind (.modify (.bind (.get ?_)))
  split
  · exact .bind (.modify (.pure (.inr ⟨served, rfl⟩)))
  · rename_i more
    rw [not_or] at more
    refine .pure ⟨served, aside.streamDrainCursor.trans h.cursor, left, held'.same rfl rfl, ?_, ?_⟩
    · rw [← held'.reads]
      exact Nat.pos_of_ne_zero more.1
    · rw [← held'.bytes]
      exact Nat.pos_of_ne_zero more.2

/-- Reclaiming streams changes nothing about it. -/
lemma Passed.reclaim (h : Passed n todo d) (snapshot : List Ref) :
    Passed n todo (d.on fun s => snapshot.foldl Session.reclaim s) := by
  have dead : (snapshot.foldl Session.reclaim d.session).ngh3Dead = d.session.ngh3Dead :=
    foldl_keeps Session.ngh3Dead (reclaim_keeps Session.ngh3Dead fun _ _ _ _ => rfl) snapshot
      d.session
  have cursor : (snapshot.foldl Session.reclaim d.session).streamDrainCursor =
      d.session.streamDrainCursor :=
    foldl_keeps Session.streamDrainCursor
      (reclaim_keeps Session.streamDrainCursor fun _ _ _ _ => rfl) snapshot d.session
  have served : ∀ {visited}, Served visited d →
      Served visited (d.on fun s => snapshot.foldl Session.reclaim s) := by
    intro visited served
    refine served.mono ?_ fun _ => id
    intro r live
    have same := foldl_keeps (fun t : Session => (t.objs r).live)
      (fun s r' => reclaim_objs H3Stream.live (fun _ _ => rfl) s r r') snapshot d.session
    exact same.symm.trans live
  cases h with
  | dead eq => exact .dead (dead.trans eq)
  | whole all => exact .whole (served all)
  | cut eq part at' => exact .cut eq (served part) (cursor.trans at')

/-- A drain from the snapshot on. -/
lemma drainSnapshot_passed (snapshot : List Ref)
    (held : ∃ budget, d.Holds budget ∧ 0 < budget.reads ∧ 0 < budget.bytes) :
    Wp (drainSnapshot snapshot) d
      (fun _ y => Passed snapshot.length (visits snapshot d.session.streamDrainCursor) y)
        fun _ => True := by
  refine .bind (.modify (.bind (.get (.bind ?_))))
  refine Wp.mono (Wp.forEach_rest
    (J := fun todo y => ∃ visited, visits snapshot d.session.streamDrainCursor = visited ++ todo ∧
      Sweeping d.session.streamDrainCursor visited y)
    (K := Passed snapshot.length (visits snapshot d.session.streamDrainCursor)) ?_ ?_ ?_)
    (fun _ y passed => .modify (passed.reclaim snapshot)) fun _ => id
  · rintro v rest y ⟨visited, split, sweeping⟩
    refine (visitStream_sweeping snapshot.length v sweeping).mono ?_ fun _ => id
    intro go z turn
    cases go with
    | true => exact ⟨visited ++ [v], by rw [split, List.append_assoc, List.singleton_append], turn⟩
    | false =>
      rcases turn with dead | ⟨served, cursor⟩
      · exact .dead dead
      · exact .cut split served cursor
  · rintro y ⟨visited, all, sweeping⟩
    rw [List.append_nil] at all
    rw [all]
    exact .whole sweeping.served
  · refine ⟨[], rfl, nofun, rfl, ?_⟩
    obtain ⟨budget, held, pos⟩ := held
    exact ⟨budget, held.same rfl rfl, pos⟩

/-- A drain walks around the snapshot, from the cursor on. -/
lemma visits_getElem? {snapshot : List Ref} {j : Nat} (lt : j < snapshot.length) :
    (visits snapshot cursor)[j]? =
      snapshot.zipIdx[(j + cursor % snapshot.length) % snapshot.length]? := by
  have pos := Nat.zero_lt_of_lt lt
  have start := Nat.mod_lt cursor pos
  have whole : snapshot.zipIdx.length = snapshot.length := List.length_zipIdx
  rw [visits, if_neg (Nat.ne_of_gt pos), ← List.rotate_eq_drop_append_take (whole ▸ start.le),
    List.getElem?_rotate (whole ▸ lt), whole]

/-- A live stream was given budgets, or the cursor has come closer to it. -/
lemma Passed.closer {order : List Ref} (h : Passed order.length (visits order cursor) d)
    (here : order[p]? = some r) (alive : d.session.ngh3Dead = false)
    (live : (d.session.objs r).live = true) :
    d.Gave r ∨ ahead order.length d.session.streamDrainCursor p < ahead order.length cursor p := by
  have lt : p < order.length := (List.getElem?_eq_some_iff.mp here).1
  have found : (visits order cursor)[ahead order.length cursor p]? = some (r, p) := by
    rw [visits_getElem? (ahead_lt cursor lt), ahead_spec cursor lt, List.getElem?_zipIdx, here,
      Nat.zero_add]
    rfl
  cases h with
  | dead eq =>
    rw [alive] at eq
    cases eq
  | whole served => exact .inl (served (r, p) (List.mem_of_getElem? found) live)
  | @cut visited v rest split served last =>
    by_cases reached : ahead order.length cursor p < visited.length + 1
    · have mem : (r, p) ∈ visited ++ [v] := by
        rw [split, ← List.singleton_append, ← List.append_assoc, List.getElem?_append_left] at found
        · exact List.mem_of_getElem? found
        · rw [List.length_append, List.length_singleton]
          exact reached
      exact .inl (served (r, p) mem live)
    · have le : visited.length + 1 ≤ ahead order.length cursor p := Nat.le_of_not_lt reached
      have near := ahead_lt cursor lt
      have index : (visits order cursor)[visited.length]? = some v := by
        rw [split, List.getElem?_append_right (Nat.le_refl _), Nat.sub_self]
        rfl
      rw [visits_getElem? (Nat.lt_of_succ_lt (Nat.lt_of_le_of_lt le near)),
        List.getElem?_zipIdx] at index
      obtain ⟨x, _, rfl⟩ := Option.map_eq_some_iff.mp index
      -- the position behind the last one that was visited
      have next : d.session.streamDrainCursor = (cursor % order.length + (visited.length + 1)) %
          order.length := by
        rw [last, Nat.zero_add, Nat.mod_add_mod, Nat.add_comm visited.length, Nat.add_assoc]
      have closer := ahead_advance lt le
      rw [← next] at closer
      exact .inr (by omega)

/-- A drain whose snapshot is known. -/
lemma drainReadyStreams_passed {s : Session} {streamReadBuf : Option Nat} {order : List Ref}
    {as rest : List Answer}
    (eq : drainReadyStreams (start s streamReadBuf) (.order order :: as) = (d, some ((), rest))) :
    order.Perm s.streams ∧ Passed order.length (visits order s.streamDrainCursor) d := by
  have first : onSession iterate (start s streamReadBuf) (.order order :: as) =
      (start s streamReadBuf, if order.isPerm s.streams then some (order, as) else none) := by
    show (start s streamReadBuf, (if order.isPerm s.streams = true then some order else none).map
      (·, as)) = _
    split <;> rfl
  have held : (start s streamReadBuf).Holds drainBudget := ⟨rfl, rfl, by decide, by decide⟩
  split at first
  · rename_i perm
    rw [drainReadyStreams, bind_some first] at eq
    have passed := drainSnapshot_passed order ⟨drainBudget, held, by decide, by decide⟩ as
    rw [eq] at passed
    exact ⟨List.isPerm_iff.mp perm, passed⟩
  · rw [drainReadyStreams, bind_none first] at eq
    cases eq

end

end Drain

section
variable {s t : Session}

/-- Programs that leave the cursor alone. -/
abbrev Keeps {β : Type} (m : Prog β) : Prop := Goes Session.Aside m

/-- Several steps that leave the cursor alone. -/
lemma aside_of_reach (h : Relation.ReflTransGen Session.Aside s t) : s.Aside t := by
  induction h with
  | refl => exact .refl
  | tail _ step ih => exact ih.trans step

/-- A fold of steps that leave the cursor alone. -/
lemma foldl_aside {α : Type} {f : Session → α → Session} (h : ∀ (s : Session) a, s.Aside (f s a))
    (as : List α) (s : Session) :
    s.Aside (as.foldl f s) := by
  induction as generalizing s with
  | nil => exact .refl
  | cons a as ih => exact (h s a).trans (ih _)

/-- Opening a stream leaves the cursor alone. -/
lemma openUniStream_keeps : Keeps openUniStream := by
  refine Goes.ask.bind fun sid => ?_
  cases sid with
  | none => exact Goes.pure
  | some sid => exact Goes.get_bind fun s => .modify_bind (.single ⟨rfl, rfl⟩) (Goes.pure _)

/-- Binding the streams leaves the cursor alone. -/
lemma bindStreams_keeps : Keeps bindStreams := by
  refine Goes.ask.bind fun rv => ?_
  split
  · exact Goes.ask.bind fun _ => Goes.pure
  · exact Goes.pure

/-- Tracking a stream leaves the cursor alone. -/
lemma trackStream_keeps (sid : Int) (h : Handle) : Keeps (trackStream sid h) := by
  refine Goes.get_bind fun s => ?_
  split
  · exact .modify_bind (.single ⟨rfl, rfl⟩) (Goes.pure _)
  · refine .ask_bind fun _ ok _ => ?_
    split
    · exact .modify_bind (.single ⟨rfl, rfl⟩) (Goes.pure _)
    · exact Goes.pure _

/-- Giving up on the control streams leaves the cursor alone. -/
lemma failControlStreams_keeps (opened : List (Handle × Int)) :
    Keeps (failControlStreams opened) := by
  refine (Goes.modify fun s => .single (foldl_aside ?_ opened s)).bind fun _ => ?_
  · exact fun _ _ => ⟨rfl, rfl⟩
  · exact (Goes.modify fun s => .single ⟨rfl, rfl⟩).bind fun _ => Goes.pure

/-- Creating the control streams leaves the cursor alone. -/
lemma createControlStreams_keeps : Keeps createControlStreams := by
  refine Goes.get_bind fun s => ?_
  split
  · exact Goes.pure s
  refine (openUniStream_keeps.bind fun c0 => openUniStream_keeps.bind
    fun c1 => openUniStream_keeps.bind fun c2 => ?_) s
  split
  · refine bindStreams_keeps.bind fun bound => ?_
    split
    · refine (trackStream_keeps _ _).bind fun _ => (trackStream_keeps _ _).bind fun _ => ?_
      refine (trackStream_keeps _ _).bind fun _ => (Goes.modify fun s => .single ⟨rfl, rfl⟩).bind
        fun _ => Goes.pure
    · exact failControlStreams_keeps _
  · exact failControlStreams_keeps _

/-- A flush leaves the cursor alone. -/
lemma aside_flushClosed : FlushClosed Session.Aside where
  refl _ := .refl
  trans _ _ _ := .trans
  emit _ := Session.emit_aside
  callbacks _ := runCbs_aside
  mark _ _ _ _ := ⟨rfl, rfl⟩
  dead _ := ⟨rfl, rfl⟩
  pop _ _ := ⟨rfl, rfl⟩

/-- Only a drain moves the cursor. -/
lemma Step.aside {c : Sect} (st : Step s c t) (other : c ≠ .drain) : s.Aside t := by
  have keeps : Keeps (exec c) → s.Aside t := by
    intro keeps
    exact st.ends (keeps s |>.mono (fun _ _ => aside_of_reach) fun _ _ => trivial)
  cases c with
  | create =>
    exact keeps (createControlStreams_keeps.bind fun _ => Goes.modify fun _ => .single ⟨rfl, rfl⟩)
  | accept =>
    refine st.ends (Q := fun _ t => s.Aside t) (.bind (acceptStream_wp.mono ?_ fun _ => id))
    rintro more t (⟨_, rfl⟩ | ⟨_, sid, rfl | rfl | ⟨r, _, rfl⟩⟩)
    · exact .pure .refl
    · exact .pure ⟨rfl, rfl⟩
    · exact .pure ⟨rfl, rfl⟩
    · exact .pure ⟨rfl, rfl⟩
  | drain => exact absurd rfl other
  | flush => exact aside_flushClosed.flush st
  | destroy =>
    refine keeps (Goes.bind ?_ fun _ => Goes.modify fun _ => .single ⟨rfl, rfl⟩)
    refine (Goes.modify fun _ => .single ⟨rfl, rfl⟩).bind fun _ => ?_
    refine (Goes.modify fun s => .single (foldl_aside ?_ s.streams s)).bind fun _ => Goes.modify
      fun s => .single ?_
    · exact fun _ _ => ⟨rfl, rfl⟩
    · exact freePending_rule (K := s.Aside) (fun u h hu => hu.trans ⟨rfl, rfl⟩) _ .refl
  | dispatch r => exact keeps (Goes.modify fun _ => .single ⟨rfl, rfl⟩)
  | undispatch r => exact keeps (Goes.modify fun _ => .single ⟨rfl, rfl⟩)
  | process r => exact keeps (Goes.modify fun _ => .single ⟨rfl, rfl⟩)
  | workerDone r => exact keeps (Goes.modify fun _ => .single ⟨rfl, rfl⟩)

end

/-- A session whose streams are iterated in one order: a drain, with the state it ended in, or
another section. -/
inductive Turn (order : List Ref) : Session → Option Drain → Session → Prop where
  | drain {s streamReadBuf as d rest} :
    Drain.drainReadyStreams (.start s streamReadBuf) (.order order :: as) = (d, some ((), rest)) →
    Turn order s (some d) d.session
  | other {s c t} :
    c ≠ .drain →
    Step s c t →
    Turn order s none t

/-- A drain that was executed. -/
lemma Turn.of_exec {order : List Ref} {s : Session} {streamReadBuf : Option Nat} {as : List Answer}
    {d : Drain} (hd : d = (Drain.drainReadyStreams (.start s streamReadBuf) (.order order :: as)).1)
    (rest : List Answer)
    (eq : (Drain.drainReadyStreams (.start s streamReadBuf) (.order order :: as)).2 =
      some ((), rest)) :
    Turn order s (some d) d.session := by
  subst hd
  exact .drain (Prod.ext rfl eq)

/-- Every turn of a session in service is one of its sections: on the session, the drain is that of
`Session/Drive`. -/
lemma Turn.step {order : List Ref} {s t : Session} {e : Option Drain} (turn : Turn order s e t)
    (serving : s.phase = .serving) : ∃ c, Step s c t := by
  cases turn with
  | @drain buf as d rest eq =>
    have agree := Drain.drainReadyStreams_refines s buf (.order order :: as)
    rw [eq] at agree
    generalize small : H3.drainReadyStreams (Drain.start s buf).session (.order order :: as) =
      o at agree
    cases agree with
    | returned same =>
      subst same
      refine ⟨.drain, ?_, .order order :: as, rest, small⟩
      rw [Sect.enabled, serving]
      rfl
  | other ne st => exact ⟨_, st⟩

/-- The drains of a run. -/
def drains (es : List (Option Drain)) : List Drain := es.filterMap id

section
variable {order : List Ref} {s t : Session} {es : List (Option Drain)} {r : Ref} {p : Nat}

/-- Every drain comes closer to a live stream, until one has read it. -/
lemma drains_closer (run : Run (Turn order) s es t) (here : order[p]? = some r)
    (alive : ∀ d ∈ drains es, d.session.ngh3Dead = false)
    (live : ∀ d ∈ drains es, (d.session.objs r).live = true) :
    (∃ d ∈ drains es, d.Gave r) ∨
      ahead order.length t.streamDrainCursor p + (drains es).length ≤
        ahead order.length s.streamDrainCursor p := by
  induction run with
  | nil => exact .inr (Nat.le_refl _)
  | @snoc u v es e run turn ih =>
    have split : drains (es ++ [e]) = drains es ++ e.toList := by
      rw [drains, List.filterMap_append]
      cases e with
      | _ => rfl
    rw [split] at alive live ⊢
    have before := ih (fun d mem => alive d (List.mem_append_left _ mem)) fun d mem => live d
      (List.mem_append_left _ mem)
    rcases before with ⟨d, mem, gave⟩ | le
    · exact .inl ⟨d, List.mem_append_left _ mem, gave⟩
    cases turn with
    | @drain _ _ d _ eq =>
      have mem : d ∈ drains es ++ (some d).toList := List.mem_append_right _ List.mem_cons_self
      obtain ⟨_, passed⟩ := Drain.drainReadyStreams_passed eq
      rcases passed.closer here (alive d mem) (live d mem) with gave | closer
      · exact .inl ⟨d, mem, gave⟩
      · rw [List.length_append]
        exact .inr (by simp only [Option.toList_some, List.length_singleton]; omega)
    | other ne st =>
      rw [Option.toList_none, List.append_nil, (st.aside ne).streamDrainCursor]
      exact .inr le

/-- Draining is fair: in as many drains as there are tracked streams, whatever else happens in
between and wherever the cursor was, each client stream that stays open and keeps its handle is
given to `drain_one_stream` with something left of both budgets, unless nghttp3 fails. -/
theorem drain_fair (run : Run (Turn order) s es t) (all : (drains es).length = order.length)
    (tracked : r ∈ order) (alive : ∀ d ∈ drains es, d.session.ngh3Dead = false)
    (live : ∀ d ∈ drains es, (d.session.objs r).done = false ∧ (d.session.objs r).qstream ≠ none ∧
      sidIsServer (d.session.objs r).streamId = false) :
    ∃ d ∈ drains es, ∃ g ∈ d.given, g.stream = r ∧ 0 < g.reads ∧ 0 < g.bytes := by
  obtain ⟨p, lt, here⟩ := List.getElem_of_mem tracked
  have here : order[p]? = some r := List.getElem?_eq_some_iff.mpr ⟨lt, here⟩
  have live' : ∀ d ∈ drains es, (d.session.objs r).live = true := by
    intro d mem
    obtain ⟨done, handle, client⟩ := live d mem
    rw [H3Stream.live, done, client,
      Option.isNone_eq_false_iff.mpr (Option.isSome_iff_ne_none.mpr handle)]
    rfl
  rcases drains_closer run here alive live' with gave | le
  · exact gave
  -- the distance was less than the number of drains
  · have near := ahead_lt s.streamDrainCursor lt
    omega

/-- A session with two requests, and a buffer of one byte. -/
def twoRequests : Session :=
  { Session.init 1 65536 with
    objs := fun r => .init (4 * r) (some r), next := 2, streams := [0, 1], phase := .serving,
    handles := 2 }

/-- What the transport returns to a drain that spends all its reads on the first request. -/
def greedy : List Answer :=
  .states .ok .ok :: (List.replicate 256 [.read (.data [0]), .called [] 1]).flatten

/-- What it returns to a drain that finds nothing to read. -/
def nothingToRead : List Answer :=
  [.states .ok .ok, .read .nothing, .states .ok .ok, .read .nothing]

/-- The first drain spends all its reads on the first request. -/
def firstDrain : Drain :=
  (Drain.drainReadyStreams (.start twoRequests none) (.order [0, 1] :: greedy)).1

/-- The next one begins with the second request. -/
def secondDrain : Drain :=
  (Drain.drainReadyStreams (.start firstDrain.session (some 1)) (.order [0, 1] :: nothingToRead)).1

/-- A request that spends everything is not read again before the other one. -/
theorem drain_fair_greedy :
    firstDrain.given = [{ stream := 0, reads := 256, bytes := 1048576 }] ∧
      ∃ d ∈ [firstDrain, secondDrain], ∃ g ∈ d.given, g.stream = 1 ∧ 0 < g.reads ∧ 0 < g.bytes := by
  have first : Turn [0, 1] twoRequests (some firstDrain) firstDrain.session :=
    .of_exec firstDrain.eq_1 [] (by decide +kernel)
  have second : Turn [0, 1] firstDrain.session (some secondDrain) secondDrain.session :=
    .of_exec secondDrain.eq_1 [] (by decide +kernel)
  have fair := drain_fair ((Run.single first).append (.single second)) (r := 1)
  rw [List.singleton_append, show drains [some firstDrain, some secondDrain] =
    [firstDrain, secondDrain] from rfl] at fair
  have still : ∀ d ∈ [firstDrain, secondDrain], d.session.ngh3Dead = false ∧
    (d.session.objs 1).done = false ∧
      (d.session.objs 1).qstream ≠ none ∧ sidIsServer (d.session.objs 1).streamId = false := by
    decide +kernel
  refine ⟨by decide +kernel, fair (by decide) (by decide) ?_ ?_⟩
  · exact fun d mem => (still d mem).1
  · exact fun d mem => (still d mem).2

end

end ModHttp3.H3

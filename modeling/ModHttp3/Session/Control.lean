import ModHttp3.Session.Moves

/-!
# Creating the control streams

What `h3_session_create_control_streams` does to a new session: until it fails it only takes handles
and tracks them under server-initiated ids (`Opening`), and a failure releases exactly what was
opened. `exec_goes` combines this with the moves of the other sections, and `run_moves` with the
order of sections: whatever a session has gone through is a sequence of moves.
-/

namespace ModHttp3.H3
open ModHttp3.Lib ModHttp3.Lib.Script

/-- The changes a session makes while it opens its control streams. -/
inductive Opening : Session → Session → Prop where
  | acquire {s sid} :
    sidIsServer sid = true →
    Opening s (s.acquire sid)
  | track {s sid h} :
    h ∈ s.held →
    .got h sid ∈ s.log →
    sidIsServer sid = true →
    Opening s (s.track sid h)
  | retrack {s r h} :
    r ∈ s.streams →
    h ∈ s.held →
    .got h (s.objs r).streamId ∈ s.log →
    sidIsServer (s.objs r).streamId = true →
    Opening s (s.retrack r h)

/-- Any number of them. -/
abbrev Openings := Relation.ReflTransGen Opening

/-- The streams a new session has opened: distinct handles that are still held, with server ids. -/
structure Opened (s : Session) (cs : List (Handle × Int)) : Prop where
  nodup : (cs.map Prod.fst).Nodup
  held : ∀ c ∈ cs, c.1 ∈ s.held
  got : ∀ c ∈ cs, .got c.1 c.2 ∈ s.log
  server : ∀ c ∈ cs, sidIsServer c.2 = true
  lt : ∀ c ∈ cs, c.1 < s.handles

/-- All that happened to handles is that some were taken into local variables. -/
structure Session.Taken (s : Session) (hs : List Handle) (t : Session) : Prop where
  held : t.held = hs ++ s.held
  objs : t.objs = s.objs
  next : t.next = s.next
  pendingFree : t.pendingFree = s.pendingFree

/-- Nothing is taken. -/
lemma Session.Taken.refl {s : Session} : s.Taken [] s := ⟨rfl, rfl, rfl, rfl⟩

/-- What two steps take. -/
lemma Session.Taken.trans {s t u : Session} {hs hs' : List Handle} (h1 : s.Taken hs t)
    (h2 : t.Taken hs' u) : s.Taken (hs' ++ hs) u where
  held := by rw [h2.held, h1.held, List.append_assoc]
  objs := h2.objs.trans h1.objs
  next := h2.next.trans h1.next
  pendingFree := h2.pendingFree.trans h1.pendingFree

/-- How creating the control streams ends: three streams are tracked, or everything that was opened
is released again. -/
def ControlStreams (s : Session) (ok : Bool) (t : Session) : Prop :=
  (ok = true ∧ ∃ u, Openings s u ∧ 3 ≤ u.handles ∧ t = { u with controlStreamsCreated := true }) ∨
  (ok = false ∧ ∃ u cs, Openings s u ∧ Opened u cs ∧ s.Taken (cs.reverse.map Prod.fst) u ∧
    t = { cs.foldl (fun s c => s.freeHeld c.1) u with ngh3 := false })

section
variable {s t : Session} {r : Ref} {h : Handle} {sid : Int}

/-- Opening a stream is a move. -/
lemma Opening.move (o : Opening s t) : Move s t := by
  cases o with
  | acquire _ => exact .acquire _
  | track held got server => exact .track ⟨held, got, .inr server⟩
  | retrack mem held got server => exact .retrack mem ⟨held, got, .inr server⟩

/-- Opening streams is made of moves. -/
lemma openings_moves (os : Openings s t) : Moves s t :=
  Relation.ReflTransGen.mono (fun _ _ o => o.move) s t os

/-- Opening streams only adds handles. -/
lemma openings_handles (os : Openings s t) : s.handles ≤ t.handles := by
  induction os with
  | refl => exact Nat.le_refl _
  | tail _ o ih =>
    refine ih.trans ?_
    cases o with
    | acquire => exact Nat.le_succ _
    | track | retrack => exact Nat.le_refl _

/-- Nothing was opened yet. -/
lemma Opened.nil : Opened s [] where
  nodup := List.nodup_nil
  held _ mem := by cases mem
  got _ mem := by cases mem
  server _ mem := by cases mem
  lt _ mem := by cases mem

/-- `h3q_open_uni_stream` opens a stream or fails. -/
lemma openUniStream_wp {cs : List (Handle × Int)} (ho : Opened s cs) :
    Wp openUniStream s
      (fun o t => Openings s t ∧ Opened t (cs ++ o.toList) ∧
        t.handles = s.handles + o.toList.length ∧ s.Taken (o.toList.map Prod.fst) t)
      (Openings s) := by
  refine .bind (.ask .refl ?_)
  intro a sid eq
  cases sid with
  | none =>
    refine .pure ⟨.refl, ?_, rfl, .refl⟩
    simpa using ho
  | some sid =>
    have server : sidIsServer sid = true := by
      split at eq
      · cases eq
      · split at eq
        · cases eq
          assumption
        · cases eq
      · cases eq
    refine .bind (.get (.bind (.modify (.pure
      ⟨.single (.acquire server), ⟨?_, ?_, ?_, ?_, ?_⟩, rfl, ⟨rfl, rfl, rfl, rfl⟩⟩))))
    · rw [List.map_append]
      refine List.nodup_append.mpr ⟨ho.nodup, by simp, ?_⟩
      intro h mem h' mem'
      obtain ⟨c, hc, rfl⟩ := List.mem_map.mp mem
      obtain rfl : h' = s.handles := by simpa using mem'
      exact (ho.lt c hc).ne
    · intro c mem
      rcases List.mem_append.mp mem with mem | mem
      · exact List.mem_cons_of_mem _ (ho.held c mem)
      · obtain rfl : c = (s.handles, sid) := by simpa using mem
        exact List.mem_cons_self
    · intro c mem
      show _ ∈ s.log ++ [Entry.got s.handles sid]
      rcases List.mem_append.mp mem with mem | mem
      · exact List.mem_append_left _ (ho.got c mem)
      · obtain rfl : c = (s.handles, sid) := by simpa using mem
        exact List.mem_append_right _ List.mem_cons_self
    · intro c mem
      rcases List.mem_append.mp mem with mem | mem
      · exact ho.server c mem
      · obtain rfl : c = (s.handles, sid) := by simpa using mem
        exact server
    · intro c mem
      rcases List.mem_append.mp mem with mem | mem
      · exact Nat.lt_succ_of_lt (ho.lt c mem)
      · obtain rfl : c = (s.handles, sid) := by simpa using mem
        exact Nat.lt_succ_self _

/-- Tracking the first of the opened streams. -/
lemma Opened.track_wp {c : Handle × Int} {cs : List (Handle × Int)} (ho : Opened s (c :: cs)) :
    Wp (trackStream c.2 c.1) s (fun _ t => Openings s t ∧ Opened t cs) (Openings s) := by
  have mine := ho.held c List.mem_cons_self
  have got := ho.got c List.mem_cons_self
  have server := ho.server c List.mem_cons_self
  have nodup := List.nodup_cons.mp ho.nodup
  have other : ∀ d ∈ cs, d.1 ≠ c.1 := by
    intro d mem eq
    exact nodup.1 (eq ▸ List.mem_map_of_mem mem)
  have rest : ∀ t : Session, (∀ h ∈ s.held, h ≠ c.1 → h ∈ t.held) → t.log = s.log →
      t.handles = s.handles → Opened t cs := by
    intro t held log handles
    refine ⟨nodup.2, ?_, ?_, ?_, ?_⟩
    · intro d mem
      exact held _ (ho.held d (List.mem_cons_of_mem _ mem)) (other d mem)
    · intro d mem
      rw [log]
      exact ho.got d (List.mem_cons_of_mem _ mem)
    · intro d mem
      exact ho.server d (List.mem_cons_of_mem _ mem)
    · intro d mem
      rw [handles]
      exact ho.lt d (List.mem_cons_of_mem _ mem)
  refine trackStream_wp.mono ?_ ?_
  · rintro o t (⟨_, rfl⟩ | ⟨_, rfl | ⟨r, mem, hr, rfl⟩⟩)
    · exact ⟨.refl, rest t (fun _ mem _ => mem) rfl rfl⟩
    · refine ⟨.single (.track mine got server), rest _ ?_ rfl rfl⟩
      intro h mem ne
      exact (List.mem_erase_of_ne ne).mpr mem
    · refine ⟨.single (.retrack mem mine (hr.symm ▸ got) (by rwa [hr])), rest _ ?_ rfl rfl⟩
      intro h mem ne
      exact List.mem_append_right _ ((List.mem_erase_of_ne ne).mpr mem)
  · rintro t rfl
    exact .refl

/-- `create_control_streams` opens and binds three streams, or frees those it opened. -/
lemma createControlStreams_wp (new : s.controlStreamsCreated = false) :
    Wp createControlStreams s (ControlStreams s) (Openings s) := by
  have fail : ∀ {u : Session} {cs : List (Handle × Int)}, Openings s u → Opened u cs →
      s.Taken (cs.reverse.map Prod.fst) u →
      Wp (failControlStreams cs) u (ControlStreams s) (Openings s) := by
    intro u cs hu ho taken
    exact .bind (.modify (.bind (.modify (.pure (.inr ⟨rfl, u, cs, hu, ho, taken, rfl⟩)))))
  refine .bind (.get ?_)
  rw [new]
  refine .bind ((openUniStream_wp .nil).mono ?_ fun _ => id)
  rintro c0 u0 ⟨m0, o0, n0, h0⟩
  refine .bind ((openUniStream_wp o0).mono ?_ fun _ => m0.trans)
  rintro c1 u1 ⟨m1, o1, n1, h1⟩
  have m1 := m0.trans m1
  refine .bind ((openUniStream_wp o1).mono ?_ fun _ => m1.trans)
  rintro c2 u2 ⟨m2, o2, n2, h2⟩
  have m2 := m1.trans m2
  have held : s.Taken ((c0.toList ++ c1.toList ++ c2.toList).reverse.map Prod.fst) u2 := by
    have := (h0.trans h1).trans h2
    cases c0 <;> cases c1 <;> cases c2 <;> exact this
  -- all three are asked for before the first failure is looked at
  match c0, c1, c2 with
  | none, _, _ => exact fail m2 o2 held
  | some _, none, _ => exact fail m2 o2 held
  | some _, some _, none => exact fail m2 o2 held
  | some a, some b, some c =>
    have bind : Wp bindStreams u2 (fun _ t => t = u2) (Openings s) := by
      refine .bind (.ask m2 fun _ rv _ => ?_)
      split
      · exact .bind (.ask m2 fun _ _ _ => .pure rfl)
      · exact .pure rfl
    refine .bind (bind.mono ?_ fun _ => id)
    rintro ok u rfl
    split
    · refine .bind (o2.track_wp.mono ?_ fun _ => m2.trans)
      rintro _ u3 ⟨k3, o3⟩
      have m3 := m2.trans k3
      refine .bind (o3.track_wp.mono ?_ fun _ => m3.trans)
      rintro _ u4 ⟨k4, o4⟩
      have m4 := m3.trans k4
      refine .bind (o4.track_wp.mono ?_ fun _ => m4.trans)
      rintro _ u5 ⟨k5, _⟩
      refine .bind (.modify (.pure (.inl ⟨rfl, u5, m4.trans k5, ?_, rfl⟩)))
      have le := openings_handles ((k3.trans k4).trans k5)
      simp only [Option.toList_some, List.length_singleton] at n0 n1 n2
      omega
    · exact fail m2 o2 held

/-- The rule for opening the control streams: each opening and each release keeps `K`; the log, the
objects and the mark of a dead connection are otherwise left alone. -/
lemma create_wp {K : Session → Prop} (new : s.controlStreamsCreated = false)
    (opening : ∀ u v, K u → Opening u v → K v) (free : ∀ u h, K u → K (u.freeHeld h))
    (other : ∀ u v : Session, K u → v.log = u.log → v.objs = u.objs → v.next = u.next →
      v.ngh3Dead = u.ngh3Dead → K v)
    (hs : K s) : Wp (exec .create) s (fun _ t => K t) (fun _ => True) := by
  have opened : ∀ u, Openings s u → K u := by
    intro u os
    induction os with
    | refl => exact hs
    | tail _ o ih => exact opening _ _ ih o
  have freed : ∀ (cs : List (Handle × Int)) (u : Session), K u →
      K (cs.foldl (fun s c => s.freeHeld c.1) u) := by
    intro cs
    induction cs with
    | nil => exact fun _ hu => hu
    | cons c cs ih => exact fun u hu => ih _ (free u c.1 hu)
  refine .bind ((createControlStreams_wp new).mono ?_ fun _ _ => trivial)
  rintro ok v (⟨rfl, u, hu, _, rfl⟩ | ⟨rfl, u, cs, hu, _, _, rfl⟩)
  · exact .modify (other u _ (opened u hu) rfl rfl rfl rfl)
  · exact .modify (other _ _ (freed cs u (opened u hu)) rfl rfl rfl rfl)

/-- The failure exit releases what was opened. -/
lemma freeOpened_moves {cs : List (Handle × Int)} (phase : s.phase = .created) (ho : Opened s cs) :
    Moves s (cs.foldl (fun s c => s.freeHeld c.1) s) := by
  induction cs generalizing s with
  | nil => exact .refl
  | cons c cs ih =>
    have nodup := List.nodup_cons.mp ho.nodup
    have mine := ho.held c List.mem_cons_self
    refine .head (.freeHeld mine (.inr phase)) (ih phase ⟨nodup.2, ?_, ?_, ?_, ?_⟩)
    · intro d mem
      refine (List.mem_erase_of_ne ?_).mpr (ho.held d (List.mem_cons_of_mem _ mem))
      intro eq
      exact nodup.1 (eq ▸ List.mem_map_of_mem mem)
    · intro d mem
      exact List.mem_append_left _ (ho.got d (List.mem_cons_of_mem _ mem))
    · intro d mem
      exact ho.server d (List.mem_cons_of_mem _ mem)
    · intro d mem
      exact ho.lt d (List.mem_cons_of_mem _ mem)

/-- The failure exit keeps all that releasing a handle keeps. -/
lemma freeOpened_keeps {α : Type} (f : Session → α) (keep : ∀ s h, f (s.freeHeld h) = f s)
    (cs : List (Handle × Int)) (s : Session) : f (cs.foldl (fun s c => s.freeHeld c.1) s) = f s :=
  foldl_keeps f (fun s c => keep s c.1) cs s

/-- Opening streams leaves the phase. -/
lemma openings_phase (os : Openings s t) : t.phase = s.phase := by
  induction os with
  | refl => rfl
  | tail _ o ih => cases o <;> exact ih

/-- Creating the control streams is a sequence of moves. -/
lemma ControlStreams.moves {ok : Bool} (h : ControlStreams s ok t) (phase : s.phase = .created) :
    Moves s t ∧ t.phase = .created := by
  rcases h with ⟨_, u, hu, _, rfl⟩ | ⟨_, u, cs, hu, ho, _, rfl⟩
  · have hp := (openings_phase hu).trans phase
    exact ⟨(openings_moves hu).tail (.created hp), hp⟩
  · have hp := (openings_phase hu).trans phase
    refine ⟨((openings_moves hu).trans (freeOpened_moves hp ho)).tail .ngh3Gone, ?_⟩
    exact (freeOpened_keeps Session.phase (fun _ _ => rfl) cs u).trans hp

/-- Every section is a sequence of moves, wherever it is stopped. -/
theorem exec_goes (c : Sect) (enabled : c.enabled s = true)
    (new : s.phase = .created → s.controlStreamsCreated = false) : GoesFrom Move (exec c) s := by
  cases c with
  | create =>
    have phase : s.phase = .created := by simpa [Sect.enabled] using enabled
    refine Wp.bind ((createControlStreams_wp (new phase)).mono ?_ fun _ => openings_moves)
    intro ok t h
    obtain ⟨moves, phase⟩ := h.moves phase
    exact Wp.modify (moves.tail (.phase (.inl phase)))
  | accept =>
    have serving : s.phase = .serving := by simpa [Sect.enabled] using enabled
    exact GoesFrom.bind (acceptStream_goes serving) fun _ => Goes.pure
  | drain => exact drainReadyStreams_goes s
  | flush => exact flushNghttp3_goes s
  | destroy =>
    refine (destroySession_goes.bind fun _ => ?_) s
    exact Goes.modify fun _ => (Move.phase (.inr rfl)).moves
  | dispatch r =>
    simp only [Sect.enabled, Bool.and_eq_true, List.contains_iff_mem, Bool.not_eq_true'] at enabled
    exact .modify (Move.dispatch enabled.1.2 enabled.2).moves
  | undispatch r =>
    refine .modify (Move.undispatch ?_).moves
    simp only [Sect.enabled, Bool.and_eq_true, Bool.not_eq_true'] at enabled
    exact enabled.2
  | process r =>
    refine .modify (Move.process ?_).moves
    simp only [Sect.enabled, Bool.and_eq_true] at enabled
    exact enabled.1.2
  | workerDone r =>
    refine .modify (Move.workerDone ?_).moves
    simp only [Sect.enabled, Bool.and_eq_true] at enabled
    exact enabled.1.2

/-- Only the first section leaves the first phase. -/
lemma Move.phase_ne (m : Move s t) (h : s.phase ≠ .created) : t.phase ≠ .created := by
  cases m with
  | call cbs rv =>
    rw [(runCbs_frame cbs).phase]
    exact h
  | feed cbs rv =>
    show (runCbs _ cbs).phase ≠ .created
    rw [(runCbs_frame cbs).phase]
    exact h
  | feedFin cbs rv =>
    show (runCbs _ cbs).phase ≠ .created
    rw [(runCbs_frame cbs).phase]
    exact h
  | phase next =>
    rcases next with hp | rfl
    · exact absurd hp h
    · nofun
  | _ => exact h

/-- A session that was initialised does not become new again. -/
lemma moves_phase_ne (ms : Moves s t) (h : s.phase ≠ .created) : t.phase ≠ .created := by
  induction ms with
  | refl => exact h
  | tail _ m ih => exact m.phase_ne ih

/-- A section that came to its end. -/
lemma Step.moves {c : Sect} (st : Step s c t)
    (new : s.phase = .created → s.controlStreamsCreated = false) :
    Moves s t ∧ t.phase ≠ .created := by
  have enabled := st.1
  have moves := st.ends (exec_goes c enabled new)
  refine ⟨moves, ?_⟩
  by_cases hp : s.phase = .created
  · cases c with
    | create =>
      have ends : Wp (exec .create) s (fun _ t => t.phase ≠ .created) (fun _ => True) := by
        refine .bind ((createControlStreams_wp (new hp)).mono ?_ fun _ _ => trivial)
        intro ok u _
        cases ok <;> exact .modify nofun
      exact st.ends ends
    | _ => simp [Sect.enabled, hp] at enabled
  · exact moves_phase_ne moves hp

/-- Whatever a session has gone through is a sequence of moves, and the first phase is its
beginning. -/
theorem run_moves {b m : Nat} {cs : List Sect} (run : Run Step (.init b m) cs s) :
    Moves (.init b m) s ∧ (s.phase = .created → s = .init b m) := by
  induction run with
  | nil => exact ⟨.refl, fun _ => rfl⟩
  | snoc _ st ih =>
    obtain ⟨moves, ne⟩ := st.moves fun hp => by rw [ih.2 hp]; rfl
    exact ⟨ih.1.trans moves, fun hp => absurd hp ne⟩

/-- What a session goes through after some point is one, too. -/
lemma run_moves_from {b m : Nat} {cs cs' : List Sect} (run : Run Step (.init b m) cs s)
    (later : Run Step s cs' t) : Moves s t := by
  induction later with
  | nil => exact .refl
  | snoc later st ih =>
    obtain ⟨_, first⟩ := run_moves (run.append later)
    exact ih.trans (st.moves fun hp => by rw [first hp]; rfl).1

/-- And what it has gone through in the middle of a section. -/
lemma exec_moves {b m : Nat} {cs : List Sect} (run : Run Step (.init b m) cs s) {c : Sect}
    (enabled : c.enabled s = true) (as : List Answer) : Moves s (exec c s as).1 := by
  obtain ⟨_, first⟩ := run_moves run
  refine (exec_goes c enabled ?_).reach as
  intro hp
  rw [first hp]
  rfl

/-- A section that is run on a reachable session makes moves. -/
lemma run_exec_moves {b m : Nat} {cs : List Sect} (run : Run Step (.init b m) cs s) {c : Sect}
    (enabled : c.enabled s = true) (as : List Answer) : Moves (.init b m) (exec c s as).1 :=
  (run_moves run).1.trans (exec_moves run enabled as)

end

end ModHttp3.H3

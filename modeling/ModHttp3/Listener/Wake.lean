import ModHttp3.Listener.Sweep

/-!
# Work left for the next turn

The main loop of `h3_event_thread` waits for an event (`wait_for_event`) only if the turn before
left no work: `work_pending` is set by a service pass that read data, and reset by the next pump. A
session whose pass read data therefore keeps its slot, and the thread comes to the next pump without
waiting.
-/

namespace ModHttp3.Listener
open ModHttp3.Lib
variable {i : Nat} {io : Io} {session : Session} {s t : State} {a : PassAnswer} {ops : List ConnOp}

/-- The thread is about to wait for an event: the condition at the beginning of the loop body. -/
def State.waits (s : State) : Bool := s.pc == .body && !s.workPending

/-- The part of a turn of the main loop that comes after the service pass over a slot. -/
inductive Behind (i : Nat) : Pc → Prop where
  | serviced {j} :
    i ≤ j →
    Behind i (.serviced j)
  | sessions {j} :
    i < j →
    Behind i (.sessions j)
  | loop : Behind i .loop
  | body : Behind i .body

/-- The thread has left work for a session, and has not come to the next pump. -/
structure WorkLeft (i : Nat) (session : Session) (s : State) : Prop where
  behind : Behind i s.pc
  slot : s.io.activeSessions[i]? = some session
  workPending : s.workPending = true

/-- A thread in its round has not left the loop. -/
lemma Behind.ne_exit {pc : Pc} (h : Behind i pc) : pc ≠ .exit ∧ pc ≠ .done := by
  cases h with
  | _ => exact ⟨nofun, nofun⟩

/-- A thread that has work left does not wait. -/
lemma WorkLeft.not_waits (h : WorkLeft i session s) : s.waits = false := by
  rw [State.waits, h.workPending]
  exact Bool.and_false _

/-- A pass that went as far as the streams and read data says so, unless it gave the session up. -/
lemma serviceStreams_dataRead (io : Io) (session : Session) (scratch : a.scratch = true)
    (read : a.dataRead = true) :
    (serviceStreams io session a).2.1.aborted = true ∨
    (serviceStreams io session a).2.2.2 = true := by
  simp only [serviceStreams, scratch, Bool.not_true, Bool.false_eq_true, if_false]
  split
  · exact .inl rfl
  split
  · exact .inl rfl
  · exact .inr read

/-- A session that is given up is marked for it. -/
lemma goaway_aborted (session : Session) (a : PassAnswer) :
    (goaway session a).1.aborted = true ∨ (goaway session a).2 = false := by
  simp only [goaway]
  generalize (if (session.markNgh3Dead a.noticeDied).goawayDeadline = 0 then _ else _) = left
  split
  · exact .inl rfl
  · exact .inr rfl

/-- A pass that read data aborts the session or reports progress. -/
lemma serviceSessionPass_dataRead (io : Io) (session : Session) (scratch : a.scratch = true)
    (read : a.dataRead = true) :
    (serviceSessionPass io session a).2.1.aborted = true ∨
    (serviceSessionPass io session a).2.2.2 = true := by
  rw [serviceSessionPass]
  split
  · rename_i aborted
    exact .inl aborted
  split
  · exact serviceStreams_dataRead io session scratch read
  · have given_up := goaway_aborted session a
    cases hg : goaway session a with
    | mk left up =>
      rw [hg] at given_up
      cases up with
      | true =>
        rcases given_up with aborted | no
        · exact .inl aborted
        · cases no
      | false => exact serviceStreams_dataRead io left scratch read

/-- After such a pass there is work left, unless the session is given up. -/
lemma pass_workLeft (pc : s.pc = .sessions i) (scratch : a.scratch = true)
    (read : a.dataRead = true) (eq : step s (.pass a) = some (t, ops)) :
    ∃ session, t.io.activeSessions[i]? = some session ∧
    (session.aborted = true ∨ WorkLeft i session t) := by
  obtain ⟨session, hs, pc', left, pending⟩ := step_pass pc eq
  have here : t.io.activeSessions[i]? = some (serviceSessionPass s.io session a).2.1 := by
    rw [left]
    exact List.getElem?_set_self (List.getElem?_eq_some_iff.mp hs).1
  refine ⟨_, here, ?_⟩
  refine (serviceSessionPass_dataRead s.io session scratch read).imp_right ?_
  intro dataRead
  refine ⟨?_, here, ?_⟩
  · rw [pc']
    exact .serviced (Nat.le_refl i)
  · rw [pending, dataRead, Bool.or_true]

/-- Only the pump takes the work away: a live session keeps its slot, and the thread does not leave
its loop. -/
lemma WorkLeft.step (h : WorkLeft i session s) (live : session.aborted = false) {a : Answer}
    (unpumped : ∀ rv, a ≠ .pumped rv) (eq : Listener.step s a = some (t, ops)) :
    WorkLeft i session t := by
  obtain ⟨io, pc, workPending, listenerFailed⟩ := s
  obtain ⟨behind, slot, pending⟩ := h
  have stop : a = .stop → WorkLeft i session t := by
    rintro rfl
    obtain ⟨rfl, -⟩ := step_stop eq
    exact ⟨behind, slot, pending⟩
  cases behind with
  | @serviced j le =>
    cases a with
    | stop => exact stop rfl
    | retire shutdownDone activeTasks =>
      obtain ⟨here, hs, same, effect⟩ := step_retire rfl eq
      split at effect
      · rename_i destroyed
        -- the slot that goes is another one, since its session was given up
        have lt : i < j := by
          refine Nat.lt_of_le_of_ne le ?_
          rintro rfl
          rw [hs] at slot
          cases slot
          rw [live] at destroyed
          cases destroyed
        refine ⟨?_, ?_, same.trans pending⟩
        · rw [effect.2]
          exact .sessions lt
        · have before := congrArg (·[i]?) (swapRemove_take hs)
          simp only [List.getElem?_take, if_pos lt] at before
          rw [effect.1, before]
          exact slot
      · refine ⟨?_, ?_, same.trans pending⟩
        · rw [effect.2]
          exact .sessions (Nat.lt_succ_of_le le)
        · rw [effect.1]
          exact slot
    | _ => cases eq
  | @sessions j lt =>
    cases a with
    | stop => exact stop rfl
    | pass a =>
      obtain ⟨other, hs, pc', left, work⟩ := step_pass rfl eq
      refine ⟨?_, ?_, ?_⟩
      · rw [pc']
        exact .serviced (Nat.le_of_lt lt)
      · rw [left]
        exact (List.getElem?_set_ne (Nat.ne_of_gt lt)).trans slot
      · dsimp only at pending work
        rw [work, pending, Bool.true_or]
    | tick =>
      simp only [Listener.step] at eq
      split at eq
      · cases eq
      · cases eq
        exact ⟨.loop, slot, pending⟩
    | _ => cases eq
  | loop =>
    cases a with
    | stop => exact stop rfl
    | tick =>
      simp only [Listener.step] at eq
      split at eq
      · cases eq
        exact ⟨.body, slot, pending⟩
      -- the loop does not end while there is a session
      · rename_i ended
        rw [Bool.or_eq_true, not_or, Bool.not_eq_true', Bool.not_eq_false,
          List.isEmpty_iff] at ended
        rw [ended.2] at slot
        cases slot
    | _ => cases eq
  | body =>
    cases a with
    | stop => exact stop rfl
    | pumped rv => exact absurd rfl (unpumped rv)
    | _ => cases eq

/-- The work is left until the next pump, whatever happens. -/
lemma WorkLeft.run (h : WorkLeft i session s) (live : session.aborted = false)
    {answers : List Answer} (unpumped : ∀ rv, .pumped rv ∉ answers) {trace : List (List ConnOp)}
    (eq : execAll Listener.step s answers = some (t, trace)) : WorkLeft i session t := by
  induction answers generalizing s trace with
  | nil =>
    cases eq
    exact h
  | cons a answers ih =>
    rw [execAll] at eq
    split at eq
    · cases eq
    · rename_i u ops first
      split at eq
      · cases eq
      · rename_i v rest others
        cases eq
        have next : ∀ rv, a ≠ .pumped rv := by
          rintro rv rfl
          exact unpumped rv List.mem_cons_self
        refine ih (h.step live next first) ?_ others
        exact fun rv mem => unpumped rv (List.mem_cons_of_mem a mem)

end ModHttp3.Listener

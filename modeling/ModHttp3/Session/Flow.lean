import ModHttp3.Session.Undriven

/-!
# The control flow of a service pass

`Flow x a y` is where an action leads the event thread and what it does to the flags that decide its
way, whatever it does to the session: `act_flow` says so of every action that comes to its end. The
control flow of `service_session_pass` is read off from it once; the invariants over whole runs are
proved by cases on it.
-/

namespace ModHttp3.H3
open ModHttp3.Lib ModHttp3.Lib.Script

/-- An action of a worker. -/
def Act.byWorker : Act → Bool
  | .submit _ _ | .append _ _ _ _ | .complete _ _ | .undispatch _ | .process _ | .workerDone _ =>
    true
  | _ => false

/-- Where an action leads. -/
inductive Flow (x : Service) : Act → Service → Prop where
  | create {ok t pc} :
    x.pc = .creating →
    pc = .idle ∨ pc = .destroyed →
    Flow x (.create ok) { x with session := t, pc := pc }
  | start :
    x.pc = .idle →
    x.aborted = false →
    Flow x .start { x with pc := if x.threadRunning then .checking else .notice }
  | notice {late drained t} :
    x.pc = .notice →
    Flow x (.notice late)
    { x with session := t, goaway := true, pc := if drained || late then .leaving else .checking }
  | leave {t} :
    x.pc = .leaving →
    Flow x .leave { x with session := t, aborted := true, pc := .idle }
  | closed :
    x.pc = .checking →
    Flow x .closed { x with aborted := true, pc := .idle }
  | noPool :
    x.pc = .checking →
    Flow x .noPool { x with pc := .idle }
  | proceed :
    x.pc = .checking →
    Flow x .proceed { x with pc := .accepting }
  | accept {more : Bool} {t} :
    x.pc = .accepting →
    Flow x .accept { x with session := t, pc := if more then .accepting else .draining }
  | died {t} :
    x.pc = .draining →
    t.ngh3Dead = true →
    Flow x .drain { x with session := t, aborted := true, pc := .idle }
  | drain {t} :
    x.pc = .draining →
    t.ngh3Dead = false →
    Flow x .drain { x with session := t, pc := .dispatching t.completed }
  | dispatch {ok r todo} :
    x.pc = .dispatching (r :: todo) →
    Flow x (.dispatch ok)
      { x with session := x.session.modifyObj r fun o => { o with dispatched := o.dispatched || ok }
               pc := .dispatching todo }
  | dispatched :
    x.pc = .dispatching [] →
    Flow x .dispatched { x with pc := .flushing }
  | flush {t} :
    x.pc = .flushing →
    Flow x .flush { x with session := t, pc := .idle }
  | destroy {t} :
    x.pc = .idle →
    x.aborted = true →
    Flow x .destroy { x with session := t, pc := .destroyed }
  | stop : Flow x .stop { x with threadRunning := false }
  | worker {a r t} :
    a.byWorker = true →
    (Sect.process r).enabled x.session = true →
    Flow x a { x with session := t }

section
variable {x y : Service} {a : Act}

/-- An action on the session leaves everything else alone. -/
lemma onSession_any {β : Type} (p : Prog β) :
    Wp (onSession p) x (fun _ y => ∃ t, y = { x with session := t }) (fun _ => True) := by
  have any : Wp p x.session (fun _ _ => True) (fun _ => True) := by
    intro as
    rcases p x.session as with ⟨t, _ | ⟨b, rest⟩⟩
    · trivial
    · trivial
  refine (onSession_wp any).mono ?_ fun _ => id
  rintro _ _ ⟨t, -, rfl⟩
  exact ⟨t, rfl⟩

/-- What the worker's action is does not matter for the event thread. -/
lemma worker_flow {p : Prog Unit} {r : Ref} (st : Acts x a y) (is : act a = onSession p)
    (worker : a.byWorker = true) (on : (Sect.process r).enabled x.session = true) : Flow x a y := by
  have ends : Wp (act a) x (fun _ y => Flow x a y) (fun _ => True) := by
    rw [is]
    refine (onSession_any p).mono ?_ fun _ => id
    rintro _ _ ⟨t, rfl⟩
    exact .worker worker on
  exact st.ends ends

/-- The way of every action. -/
theorem act_flow (st : Acts x a y) : Flow x a y := by
  have enabled := st.1
  cases a with
  | create ok =>
    have pc : x.pc = .creating := by simpa [Act.enabled] using enabled
    have ends : Wp (act (.create ok)) x (fun _ y => Flow x (.create ok) y) (fun _ => True) := by
      refine .bind ((onSession_any _).mono ?_ fun _ => id)
      rintro _ _ ⟨t, rfl⟩
      refine .bind (.get ?_)
      split
      · exact .modify (.create pc (.inl rfl))
      · refine .bind ((onSession_any _).mono ?_ fun _ => id)
        rintro _ _ ⟨u, rfl⟩
        exact .modify (.create pc (.inr rfl))
    exact st.ends ends
  | start =>
    have both : x.pc = .idle ∧ x.aborted = false := by simpa [Act.enabled] using enabled
    exact st.ends (S := fun _ => True) (Q := fun _ y => Flow x .start y)
      (.modify (.start both.1 both.2))
  | notice late =>
    have pc : x.pc = .notice := by simpa [Act.enabled] using enabled
    have ends : Wp (act (.notice late)) x (fun _ y => Flow x (.notice late) y) (fun _ => True) := by
      refine .bind (.get (.bind ((onSession_any _).mono ?_ fun _ => id)))
      rintro drained _ ⟨t, rfl⟩
      exact .modify (.notice pc)
    exact st.ends ends
  | leave =>
    have pc : x.pc = .leaving := by simpa [Act.enabled] using enabled
    have ends : Wp (act .leave) x (fun _ y => Flow x .leave y) (fun _ => True) := by
      refine .bind ((onSession_any _).mono ?_ fun _ => id)
      rintro _ _ ⟨t, rfl⟩
      exact .modify (.leave pc)
    exact st.ends ends
  | closed =>
    have pc : x.pc = .checking := by simpa [Act.enabled] using enabled
    exact st.ends (S := fun _ => True) (Q := fun _ y => Flow x .closed y) (.modify (.closed pc))
  | noPool =>
    have pc : x.pc = .checking := by simpa [Act.enabled] using enabled
    exact st.ends (S := fun _ => True) (Q := fun _ y => Flow x .noPool y) (.modify (.noPool pc))
  | proceed =>
    have pc : x.pc = .checking := by simpa [Act.enabled] using enabled
    exact st.ends (S := fun _ => True) (Q := fun _ y => Flow x .proceed y) (.modify (.proceed pc))
  | accept =>
    have pc : x.pc = .accepting := by simpa [Act.enabled] using enabled
    have ends : Wp (act .accept) x (fun _ y => Flow x .accept y) (fun _ => True) := by
      refine .bind ((onSession_any _).mono ?_ fun _ => id)
      rintro more _ ⟨t, rfl⟩
      exact .modify (.accept pc)
    exact st.ends ends
  | drain =>
    have pc : x.pc = .draining := by simpa [Act.enabled] using enabled
    have ends : Wp (act .drain) x (fun _ y => Flow x .drain y) (fun _ => True) := by
      refine .bind ((onSession_any _).mono ?_ fun _ => id)
      rintro _ _ ⟨t, rfl⟩
      refine .bind (.get ?_)
      split
      · rename_i dead
        exact .modify (.died pc dead)
      · rename_i alive
        exact .modify (.drain pc (Bool.not_eq_true _ ▸ alive))
    exact st.ends ends
  | dispatch ok =>
    cases pc : x.pc with
    | dispatching todo =>
      cases todo with
      | nil => simp [Act.enabled, pc] at enabled
      | cons r todo =>
        have ends : Wp (act (.dispatch ok)) x (fun _ y => Flow x (.dispatch ok) y)
            (fun _ => True) := by
          refine .modify ?_
          rw [pc]
          exact .dispatch pc
        exact st.ends ends
    | _ => simp [Act.enabled, pc] at enabled
  | dispatched =>
    have pc : x.pc = .dispatching [] := by simpa [Act.enabled] using enabled
    exact st.ends (S := fun _ => True) (Q := fun _ y => Flow x .dispatched y)
      (.modify (.dispatched pc))
  | flush =>
    have pc : x.pc = .flushing := by simpa [Act.enabled] using enabled
    have ends : Wp (act .flush) x (fun _ y => Flow x .flush y) (fun _ => True) := by
      refine .bind ((onSession_any _).mono ?_ fun _ => id)
      rintro _ _ ⟨t, rfl⟩
      exact .modify (.flush pc)
    exact st.ends ends
  | destroy =>
    have both : (x.pc = .idle ∧ x.aborted = true) ∧ x.session.noTasks = true := by
      simpa [Act.enabled] using enabled
    have ends : Wp (act .destroy) x (fun _ y => Flow x .destroy y) (fun _ => True) := by
      refine .bind ((onSession_any _).mono ?_ fun _ => id)
      rintro _ _ ⟨t, rfl⟩
      exact .modify (.destroy both.1.1 both.1.2)
    exact st.ends ends
  | stop => exact st.ends (S := fun _ => True) (Q := fun _ y => Flow x .stop y) (.modify .stop)
  | submit r w => exact worker_flow st rfl rfl (Bool.and_eq_true _ _ ▸ enabled : _ ∧ _).1
  | append r w data malloc =>
    exact worker_flow st rfl rfl (Bool.and_eq_true _ _ ▸ enabled : _ ∧ _).1
  | complete r w => exact worker_flow st rfl rfl (Bool.and_eq_true _ _ ▸ enabled : _ ∧ _).1
  | undispatch r => exact worker_flow st rfl rfl enabled
  | process r => exact worker_flow st rfl rfl enabled
  | workerDone r => exact worker_flow st rfl rfl enabled

end

end ModHttp3.H3

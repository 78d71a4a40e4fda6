import Mathlib.Tactic.Linarith
import ModHttp3.Lib.SwapRemove
import ModHttp3.Worker.Dispatch

/-!
# Lifetimes of sessions, streams and tasks

Whoever still has steps ahead that touch a stream on behalf of a request has a claim on the stream:
the event thread between setting `dispatched` and reserving the task, then the task until it clears
`dispatched` again or sets `worker_done`. `Sound` says that a stream has at most one claim, that a
claimed stream is tracked, dispatched and not done, and that `active_tasks` counts the tasks before
their final decrement. The reclaim loop only takes streams whose worker is done, and a session is
destroyed only when `active_tasks` is zero; so neither can take away what a task still touches.
-/

namespace ModHttp3.Dispatch
open ModHttp3.Lib ModHttp3.Worker

/-- The stream a task claims. -/
def Task.claim (t : Task) : Option Ref := if t.pc.needsStream then some t.stream else none

/-- The stream the event thread claims. -/
def EvPc.claim : EvPc → Option Ref
  | .reserving r _ | .unreserving r _ => some r
  | _ => none

/-- The streams the event thread has still to dispatch. -/
def EvPc.todo : EvPc → List Ref
  | .dispatching todo | .reserving _ todo | .unreserving _ todo => todo
  | .pushing _ todo | .pushFailed _ todo | .pushCleared _ todo => todo
  | .idle | .destroyed => []

/-- The task the event thread holds, and where that task is. -/
def EvPc.task : EvPc → Option (Nat × TaskPc)
  | .pushing i _ | .pushFailed i _ => some (i, .reserved)
  | .pushCleared i _ => some (i, .dropped)
  | _ => none

/-- The task belongs to the thread pool. -/
def TaskPc.pushed : TaskPc → Bool
  | .reserved | .dropped => false
  | _ => true

/-- All claims on streams. -/
def State.claims (s : State) : List Ref := s.pc.claim.toList ++ s.tasks.filterMap Task.claim

/-- A stream that is dispatched and whose worker is not done. -/
def Claimed (streams : Ref → Option H3Stream) (r : Ref) : Prop :=
  ∃ x, streams r = some x ∧ x.dispatched = true ∧ x.workerDone = false

/-- Claims are exclusive and keep their streams, and `active_tasks` counts the outstanding tasks. -/
structure Sound (s : State) : Prop where
  counted : s.activeTasks = s.tasks.countP fun t => t.pc.outstanding
  nodup : s.claims.Nodup
  claimed : ∀ r ∈ s.claims, Claimed s.streams r
  worked : ∀ r x, s.streams r = some x → x.workerDone = true → x.dispatched = true
  tracked : ∀ r ∈ s.pc.todo, (s.streams r).isSome = true
  held : ∀ i p, s.pc.task = some (i, p) → ∃ r, s.tasks[i]? = some ⟨r, p⟩
  fresh : ∀ r, s.next ≤ r → s.streams r = none
  destroyed : s.pc = .destroyed → s.activeTasks = 0

/-- A session without streams is sound. -/
lemma Sound.init : Sound .init where
  counted := rfl
  nodup := List.nodup_nil
  claimed r mem := by cases mem
  worked r x get := by cases get
  tracked r mem := by cases mem
  held i p eq := by cases eq
  fresh r _ := rfl
  destroyed _ := rfl

section
variable {s t : State} {e : Event} {i : Nat} {r : Ref} {p q : TaskPc} {x x' : H3Stream}

/-- A task that needs its stream is outstanding. -/
lemma TaskPc.outstanding_of_needsStream (h : p.needsStream = true) : p.outstanding = true := by
  cases p with
  | unwinding | returned => cases h
  | _ => rfl

/-- The task the event thread holds does not belong to the thread pool. -/
lemma EvPc.task_pushed {pc : EvPc} (h : pc.task = some (i, p)) : p.pushed = false := by
  cases pc with
  | pushing | pushFailed | pushCleared =>
    cases h
    rfl
  | _ => cases h

/-- A task that needs its stream has a claim on it. -/
lemma Sound.task_claimed (hs : Sound s) (get : s.tasks[i]? = some ⟨r, p⟩)
    (needs : p.needsStream = true) : Claimed s.streams r := by
  apply hs.claimed
  apply List.mem_append_right
  rw [List.mem_filterMap]
  exact ⟨⟨r, p⟩, List.mem_of_getElem? get, if_pos needs⟩

/-- An outstanding task keeps the session alive. -/
lemma Sound.alive (hs : Sound s) {t : Task} (mem : t ∈ s.tasks) (out : t.pc.outstanding = true) :
    s.pc ≠ .destroyed := by
  intro hd
  have h0 := hs.counted
  rw [hs.destroyed hd] at h0
  have : 0 < s.tasks.countP fun t => t.pc.outstanding := List.countP_pos_iff.mpr ⟨t, mem, out⟩
  omega

/-- The claim of one task among all claims. -/
lemma claims_perm {tasks rest : List Task} {t : Task} (h : tasks.Perm (t :: rest)) (c : List Ref) :
    (c ++ tasks.filterMap Task.claim).Perm
      (t.claim.toList ++ (c ++ rest.filterMap Task.claim)) := by
  refine ((h.filterMap Task.claim).append_left c).trans ?_
  cases eq : t.claim with
  | none => simp [eq]
  | some r => simp [eq, List.perm_middle]

/-- The claim of a task, as a list. -/
lemma Task.claim_toList : (Task.claim ⟨r, p⟩).toList = if p.needsStream then [r] else [] := by
  rw [Task.claim]
  split <;> rfl

/-- Moving a task on. The new place needs the stream only if the old one did, and no stream changes
except the one that the task claims. -/
lemma Sound.moveTask (hs : Sound s) (get : s.tasks[i]? = some ⟨r, p⟩) {pc : EvPc}
    {streams : Ref → Option H3Stream} {active : Int}
    (count : active + p.outstanding.toNat = s.activeTasks + q.outstanding.toNat)
    (needs : q.needsStream = true → p.needsStream = true)
    (others : ∀ r', (r' = r → p.needsStream = false) → streams r' = s.streams r')
    (own : q.needsStream = true → Claimed streams r)
    (worked : ∀ x, streams r = some x → x.workerDone = true → x.dispatched = true)
    (kept : (s.streams r).isSome = true → (streams r).isSome = true)
    (claim : pc.claim = s.pc.claim) (todo : pc.todo ⊆ s.pc.todo)
    (held : ∀ j p', pc.task = some (j, p') → (j = i ∧ p' = q) ∨ (j ≠ i ∧ s.pc.task = some (j, p')))
    (live : pc = .destroyed → s.pc = .destroyed ∧ (q.outstanding = true → p.outstanding = true)) :
    Sound { s with streams := streams, tasks := s.tasks.set i ⟨r, q⟩, activeTasks := active,
                   pc := pc } := by
  obtain ⟨rest, before, after⟩ := exists_rest get
  have claims := claims_perm before s.pc.claim.toList
  have claims' := claims_perm (after ⟨r, q⟩) pc.claim.toList
  rw [Task.claim_toList] at claims claims'
  rw [claim] at claims'
  have nodup := claims.nodup_iff.mp hs.nodup
  -- the claims of everyone else are on streams that did not change
  have rest_claimed : ∀ r' ∈ s.pc.claim.toList ++ rest.filterMap Task.claim,
      Claimed streams r' := by
    intro r' mem
    have c := hs.claimed r' (claims.mem_iff.mpr (List.mem_append_right _ mem))
    rw [Claimed, others r']
    · exact c
    · rintro rfl
      by_contra hp
      rw [if_pos (by simpa using hp)] at nodup
      exact (List.nodup_cons.mp nodup).1 mem
  refine ⟨?_, ?_, ?_, ?_, ?_, ?_, ?_, ?_⟩
  · have h := hs.counted
    have e1 := before.countP_eq fun t => t.pc.outstanding
    have e2 := (after ⟨r, q⟩).countP_eq fun t => t.pc.outstanding
    rw [List.countP_cons] at e1 e2
    dsimp only at *
    rw [e1] at h
    rw [e2]
    cases hp : p.outstanding <;> cases hq : q.outstanding <;> simp [hp, hq] at * <;> omega
  · rw [State.claims, claim]
    apply claims'.nodup_iff.mpr
    by_cases hq : q.needsStream = true
    · rw [if_pos hq]
      rwa [if_pos (needs hq)] at nodup
    · rw [if_neg hq]
      exact (List.nodup_append.mp nodup).2.1
  · intro r' mem
    rw [State.claims, claim] at mem
    have mem := claims'.mem_iff.mp mem
    rcases List.mem_append.mp mem with mem | mem
    · by_cases hq : q.needsStream = true
      · rw [if_pos hq, List.mem_singleton] at mem
        rw [mem]
        exact own hq
      · rw [if_neg hq] at mem
        cases mem
    · exact rest_claimed r' mem
  · intro r' y get'
    by_cases hr : r' = r
    · subst hr
      exact worked y get'
    · have get' : streams r' = some y := get'
      rw [others r' fun h => absurd h hr] at get'
      exact hs.worked r' y get'
  · intro r' mem
    have h := hs.tracked r' (todo mem)
    by_cases hr : r' = r
    · subst hr
      exact kept h
    · dsimp only
      rw [others r' fun h => absurd h hr]
      exact h
  · intro j p' eq
    rcases held j p' eq with ⟨rfl, rfl⟩ | ⟨ne, eq⟩
    · exact ⟨r, by simp [(List.getElem?_eq_some_iff.mp get).1]⟩
    · obtain ⟨r', get'⟩ := hs.held j p' eq
      exact ⟨r', by rw [List.getElem?_set_ne (Ne.symm ne), get']⟩
  · intro r' le
    have h := hs.fresh r' le
    dsimp only
    rw [others r', h]
    rintro rfl
    by_contra hp
    obtain ⟨x, eq, _⟩ := hs.task_claimed get (by simpa using hp)
    rw [h] at eq
    cases eq
  · intro hd
    obtain ⟨hd, out⟩ := live hd
    have hp : p.outstanding = false := by
      by_contra hp
      exact hs.alive (List.mem_of_getElem? get) (by simpa using hp) hd
    have hq : q.outstanding = false := by
      by_contra hq
      rw [out (by simpa using hq)] at hp
      cases hp
    rw [hp, hq, hs.destroyed hd] at count
    simpa using count

/-- A step of a worker on its own task. -/
lemma Sound.workerStep (hs : Sound s) (get : s.tasks[i]? = some ⟨r, p⟩) (pushed : p.pushed = true)
    {streams : Ref → Option H3Stream} {active : Int}
    (count : active + p.outstanding.toNat = s.activeTasks + q.outstanding.toNat)
    (out : q.outstanding = true → p.outstanding = true)
    (needs : q.needsStream = true → p.needsStream = true)
    (others : ∀ r', (r' = r → p.needsStream = false) → streams r' = s.streams r')
    (own : q.needsStream = true → Claimed streams r)
    (worked : ∀ x, streams r = some x → x.workerDone = true → x.dispatched = true)
    (kept : (s.streams r).isSome = true → (streams r).isSome = true) :
    Sound { s with streams := streams, tasks := s.tasks.set i ⟨r, q⟩, activeTasks := active } := by
  refine hs.moveTask get count needs others own worked kept rfl (fun _ h => h) ?_ fun h => ⟨h, out⟩
  intro j p' eq
  refine .inr ⟨?_, eq⟩
  rintro rfl
  obtain ⟨r', get'⟩ := hs.held j p' eq
  rw [get] at get'
  cases get'
  rw [EvPc.task_pushed eq] at pushed
  cases pushed

/-- A step of a worker that leaves the streams alone and stays as outstanding as it was. -/
lemma Sound.workerMove (hs : Sound s) (get : s.tasks[i]? = some ⟨r, p⟩) (pushed : p.pushed = true)
    (out : q.outstanding = p.outstanding) (needs : q.needsStream = p.needsStream) :
    Sound (s.setTask i ⟨r, q⟩) := by
  refine hs.workerStep get pushed (by rw [out]) (by rw [out]; exact id) (by rw [needs]; exact id)
    (fun _ _ => rfl) ?_ (hs.worked r) id
  rw [needs]
  exact hs.task_claimed get

/-- A step of a worker on its claimed stream. -/
lemma Sound.workerStream (hs : Sound s) (get : s.tasks[i]? = some ⟨r, p⟩) (pushed : p.pushed = true)
    (claim : p.needsStream = true) (out : q.outstanding = true)
    (own : q.needsStream = true → x'.dispatched = true ∧ x'.workerDone = false)
    (worked : x'.workerDone = true → x'.dispatched = true) :
    Sound ((s.setStream r x').setTask i ⟨r, q⟩) := by
  have pout := TaskPc.outstanding_of_needsStream claim
  refine hs.workerStep get pushed (by simp [out, pout]) (fun _ => pout) (fun _ => claim) ?_ ?_ ?_ ?_
  · intro r' h
    apply Function.update_of_ne
    intro eq
    rw [h eq] at claim
    cases claim
  · intro hq
    exact ⟨x', Function.update_self .., own hq⟩
  · intro y get'
    rw [State.setStream_streams, Function.update_self] at get'
    cases get'
    exact worked
  · intro _
    simp

/-- The final decrement of a worker. -/
lemma Sound.workerDecrement (hs : Sound s) (get : s.tasks[i]? = some ⟨r, p⟩)
    (pushed : p.pushed = true) (pout : p.outstanding = true) (qout : q.outstanding = false)
    (needs : q.needsStream = false) :
    Sound { s.setTask i ⟨r, q⟩ with activeTasks := s.activeTasks - 1 } := by
  refine hs.workerStep get pushed (by simp [pout, qout]) (fun _ => pout) ?_ (fun _ _ => rfl) ?_
    (hs.worked r) id
  · rw [needs]
    intro h
    cases h
  · rw [needs]
    intro h
    cases h

/-- A step of the event thread that leaves the tasks alone, makes no new claim, and keeps what
claimed streams are claimed by. -/
lemma Sound.eventMove (hs : Sound s) {pc : EvPc} {streams : Ref → Option H3Stream}
    (claims : pc.claim.toList.Sublist s.pc.claim.toList)
    (kept : ∀ r ∈ pc.claim.toList ++ s.tasks.filterMap Task.claim, Claimed streams r)
    (worked : ∀ r x, streams r = some x → x.workerDone = true → x.dispatched = true)
    (tracked : ∀ r ∈ pc.todo, (streams r).isSome = true)
    (held : ∀ j p, pc.task = some (j, p) → s.pc.task = some (j, p))
    (fresh : ∀ r, s.next ≤ r → streams r = none) (live : pc = .destroyed → s.activeTasks = 0) :
    Sound { s with streams := streams, pc := pc } where
  counted := hs.counted
  nodup := hs.nodup.sublist (claims.append_right _)
  claimed := kept
  worked := worked
  tracked := tracked
  held j p eq := hs.held j p (held j p eq)
  fresh := fresh
  destroyed := live

/-- A move of the event thread that touches neither streams nor tasks. -/
lemma Sound.eventGo (hs : Sound s) {pc : EvPc} (claim : pc.claim = s.pc.claim)
    (todo : pc.todo ⊆ s.pc.todo) (held : pc.task = none ∨ pc.task = s.pc.task)
    (live : pc ≠ .destroyed) :
    Sound { s with pc := pc } := by
  refine hs.eventMove (by rw [claim]) ?_ hs.worked ?_ ?_ hs.fresh fun h => absurd h live
  · rw [claim]
    exact hs.claimed
  · intro r mem
    exact hs.tracked r (todo mem)
  · intro j p eq
    rcases held with h | h
    · rw [h] at eq
      cases eq
    · rwa [← h]

/-- A callback changes neither `dispatched` nor `worker_done`. -/
lemma Update.flags_eq (h : Update x x') :
    x'.dispatched = x.dispatched ∧ x'.workerDone = x.workerDone := by
  cases h <;> exact ⟨rfl, rfl⟩

/-- A claim survives a change of a stream that keeps it dispatched. -/
lemma Claimed.setStream (h : Claimed s.streams r) {r' : Ref}
    (own : r = r' → x'.dispatched = true ∧ x'.workerDone = false) :
    Claimed (s.setStream r' x').streams r := by
  by_cases eq : r = r'
  · subst eq
    exact ⟨x', Function.update_self .., own rfl⟩
  · obtain ⟨y, get, hy⟩ := h
    exact ⟨y, by rw [State.setStream_streams, Function.update_of_ne eq, get], hy⟩

/-- A change of a stream removes none. -/
lemma setStream_isSome {r' : Ref} (h : (s.streams r).isSome = true) :
    ((s.setStream r' x').streams r).isSome = true := by
  by_cases eq : r = r'
  · subst eq
    simp
  · rwa [State.setStream_streams, Function.update_of_ne eq]

/-- A change of a stream creates none. -/
lemma setStream_fresh (hs : Sound s) {y : H3Stream} {r' : Ref} (get : s.streams r' = some y)
    (le : s.next ≤ r) : (s.setStream r' x').streams r = none := by
  have h := hs.fresh r le
  rw [State.setStream_streams, Function.update_of_ne]
  · exact h
  · rintro rfl
    rw [h] at get
    cases get

/-- A change of a stream keeps that only dispatched requests are done. -/
lemma setStream_worked (hs : Sound s) (worked : x'.workerDone = true → x'.dispatched = true)
    {r' : Ref} {y : H3Stream} (get : (s.setStream r x').streams r' = some y) :
    y.workerDone = true → y.dispatched = true := by
  by_cases eq : r' = r
  · subst eq
    rw [State.setStream_streams, Function.update_self] at get
    cases get
    exact worked
  · rw [State.setStream_streams, Function.update_of_ne eq] at get
    exact hs.worked r' y get

/-- Claimed streams are not reclaimed. -/
lemma Claimed.reclaim (h : Claimed s.streams r) :
    Claimed (fun r => (s.streams r).filter fun x => !x.reclaimable) r := by
  obtain ⟨x, get, hd, hw⟩ := h
  exact ⟨x, by simp [get, H3Stream.reclaimable, hw], hd, hw⟩

/-- The stream that a task claims was dispatched, and no worker is done with it. -/
lemma Sound.task_stream (hs : Sound s) (get : s.tasks[i]? = some ⟨r, p⟩)
    (needs : p.needsStream = true) (stream : s.streams r = some x) :
    x.dispatched = true ∧ x.workerDone = false := by
  obtain ⟨y, get', hy⟩ := hs.task_claimed get needs
  rw [stream] at get'
  cases get'
  exact hy

/-- The task that the event thread is about to push, or failed to push. -/
lemma Sound.task_held {t : Task} (hs : Sound s) (held : s.pc.task = some (i, p))
    (get : s.tasks[i]? = some t) :
    t = ⟨t.stream, p⟩ := by
  obtain ⟨r, get'⟩ := hs.held i p held
  rw [get] at get'
  cases get'
  rfl

/-- A new stream. -/
lemma Sound.track (hs : Sound s) (isBidi isServer : Bool) (limit : UInt64) :
    Sound { s.setStream s.next (.init isBidi isServer limit) with next := s.next + 1 } := by
  have unused := hs.fresh s.next (Nat.le_refl _)
  refine ⟨hs.counted, hs.nodup, ?_, ?_, ?_, hs.held, ?_, hs.destroyed⟩
  · intro r mem
    have c := hs.claimed r mem
    refine c.setStream ?_
    rintro rfl
    obtain ⟨y, get, _⟩ := c
    rw [unused] at get
    cases get
  · intro r x get
    exact setStream_worked hs (fun h => by cases h) get
  · intro r mem
    exact setStream_isSome (hs.tracked r mem)
  · intro r le
    have lt : s.next < r := le
    dsimp only
    rw [State.setStream_streams, Function.update_of_ne lt.ne']
    exact hs.fresh r lt.le

/-- A callback. -/
lemma Sound.update (hs : Sound s) (live : s.pc ≠ .destroyed) (get : s.streams r = some x)
    (upd : Update x x') :
    Sound (s.setStream r x') := by
  obtain ⟨e1, e2⟩ := upd.flags_eq
  refine hs.eventMove (.refl _) ?_ ?_ ?_ (fun _ _ h => h) ?_ (fun h => absurd h live)
  · intro r mem
    refine (hs.claimed r mem).setStream ?_
    rintro rfl
    obtain ⟨y, get', hy⟩ := hs.claimed r mem
    rw [get] at get'
    cases get'
    rwa [e1, e2]
  · intro r x
    refine setStream_worked hs ?_
    rw [e1, e2]
    exact hs.worked _ _ get
  · intro r mem
    exact setStream_isSome (hs.tracked r mem)
  · intro r le
    exact setStream_fresh hs get le

/-- A drain pass, which reclaims finished streams. -/
lemma Sound.drain (hs : Sound s) {completed : List Ref} (pc : s.pc = .idle)
    (ready : ∀ r ∈ completed, ∃ x, s.streams r = some x ∧ x.ready = true) :
    Sound { s with
      streams := fun r => (s.streams r).filter fun x => !x.reclaimable
      pc := .dispatching completed } := by
  refine hs.eventMove (List.nil_sublist _) ?_ ?_ ?_ ?_ ?_ ?_
  · intro r mem
    exact (hs.claimed r (by rw [State.claims, pc]; exact mem)).reclaim
  · intro r x get
    exact hs.worked r x (Option.filter_eq_some_iff.mp get).1
  · -- a stream to dispatch is not dispatched, hence not reclaimed
    intro r mem
    obtain ⟨x, get, hr⟩ := ready r mem
    have : x.dispatched = false := by
      simp only [H3Stream.ready, Bool.and_eq_true, Bool.not_eq_true'] at hr
      exact hr.2
    simp [get, H3Stream.reclaimable, this]
  · intro j p eq
    cases eq
  · intro r le
    simp [hs.fresh r le]
  · intro h
    cases h

/-- A stream is dispatched: there is no claim on it, so the event thread's is the first. -/
lemma Sound.process (hs : Sound s) {todo : List Ref} (pc : s.pc = .dispatching (r :: todo))
    (get : s.streams r = some x) (disp : x.dispatched = false) :
    Sound { s.setStream r { x with dispatched := true } with pc := .reserving r todo } := by
  have notIn : r ∉ s.tasks.filterMap Task.claim := by
    intro mem
    obtain ⟨y, get', hd, _⟩ := hs.claimed r (List.mem_append_right _ mem)
    rw [get] at get'
    cases get'
    rw [disp] at hd
    cases hd
  have notDone : x.workerDone = false := by
    by_contra h
    rw [hs.worked r x get (by simpa using h)] at disp
    cases disp
  have claims : s.claims = s.tasks.filterMap Task.claim := by
    rw [State.claims, pc]
    rfl
  have nodup := hs.nodup
  rw [claims] at nodup
  refine ⟨hs.counted, List.nodup_cons.mpr ⟨notIn, nodup⟩, ?_, ?_, ?_, ?_, ?_, ?_⟩
  · intro r' mem
    rcases List.mem_cons.mp mem with rfl | mem
    · exact ⟨_, Function.update_self .., rfl, notDone⟩
    · exact (hs.claimed r' (by rwa [claims])).setStream fun _ => ⟨rfl, notDone⟩
  · intro r' y
    exact setStream_worked hs fun _ => rfl
  · intro r' mem
    refine setStream_isSome (hs.tracked r' ?_)
    rw [pc]
    exact List.mem_cons_of_mem _ mem
  · intro j p eq
    cases eq
  · intro r' le
    exact setStream_fresh hs get le
  · intro h
    cases h

/-- The claim of the event thread on a stream comes before those of the tasks. -/
lemma claims_reserving {todo : List Ref}
    (pc : s.pc = .reserving r todo ∨ s.pc = .unreserving r todo) :
    s.claims = r :: s.tasks.filterMap Task.claim := by
  rw [State.claims]
  rcases pc with pc | pc
  all_goals
    rw [pc]
    rfl

/-- The claim of the event thread goes to a new task. -/
lemma Sound.reserve (hs : Sound s) {todo : List Ref} (pc : s.pc = .reserving r todo) :
    Sound { s with
      tasks := s.tasks ++ [{ stream := r, pc := .reserved }]
      activeTasks := s.activeTasks + 1
      pc := .pushing s.tasks.length todo } := by
  have perm : ((s.tasks ++ [Task.mk r .reserved]).filterMap Task.claim).Perm s.claims := by
    rw [claims_reserving (.inl pc), List.filterMap_append]
    exact List.perm_append_singleton _ _
  refine ⟨?_, perm.nodup_iff.mpr hs.nodup, ?_, hs.worked, ?_, ?_, hs.fresh, ?_⟩
  · simp [hs.counted, TaskPc.outstanding]
  · intro r' mem
    exact hs.claimed r' (perm.mem_iff.mp mem)
  · have := hs.tracked
    rwa [pc] at this
  · intro j p eq
    cases eq
    exact ⟨r, List.getElem?_concat_length⟩
  · intro h
    cases h

/-- Without a task the event thread gives its claim up. -/
lemma Sound.unreserve (hs : Sound s) {todo : List Ref} (pc : s.pc = .unreserving r todo)
    (get : s.streams r = some x) :
    Sound { s.setStream r { x with dispatched := false } with pc := .dispatching todo } := by
  have claims := claims_reserving (.inr pc)
  obtain ⟨y, get', _, hw⟩ := hs.claimed r (by rw [claims]; exact List.mem_cons_self)
  rw [get] at get'
  cases get'
  have nodup := hs.nodup
  rw [claims] at nodup
  refine hs.eventMove (List.nil_sublist _) ?_ ?_ ?_ ?_ ?_ ?_
  · intro r' mem
    refine (hs.claimed r' (by rw [claims]; exact List.mem_cons_of_mem _ mem)).setStream ?_
    rintro rfl
    exact absurd mem (List.nodup_cons.mp nodup).1
  · intro r' y
    refine setStream_worked hs ?_
    rw [hw]
    intro h
    cases h
  · intro r' mem
    refine setStream_isSome (hs.tracked r' ?_)
    rw [pc]
    exact mem
  · intro j p eq
    cases eq
  · intro r' le
    exact setStream_fresh hs get le
  · intro h
    cases h

/-- A task that was not pushed gives its claim up. -/
lemma Sound.pushClear (hs : Sound s) {todo : List Ref} {t : Task} (pc : s.pc = .pushFailed i todo)
    (get : s.tasks[i]? = some t) (stream : s.streams t.stream = some x) :
    Sound
      { (s.setStream t.stream
        { x with dispatched := false }).setTask i { t with pc := .dropped } with
      pc := .pushCleared i todo } := by
  have held := hs.task_held (p := .reserved) (by rw [pc]; rfl) get
  rw [held] at get
  have hw := (hs.task_stream get rfl stream).2
  refine hs.moveTask get rfl (fun _ => rfl) ?_ ?_ ?_ setStream_isSome (by rw [pc]; rfl)
    (by rw [pc]; exact fun _ h => h) ?_ ?_
  · intro r' h
    apply Function.update_of_ne
    intro eq
    cases h eq
  · intro h
    cases h
  · intro y
    refine setStream_worked hs ?_
    rw [hw]
    intro h
    cases h
  · intro j p eq
    cases eq
    exact .inl ⟨rfl, rfl⟩
  · intro h
    cases h

/-- The session is destroyed: nothing is outstanding, so there are no claims. -/
lemma Sound.destroy (hs : Sound s) (zero : s.activeTasks = 0) :
    Sound { s with streams := fun _ => none, pc := .destroyed } := by
  have unclaimed : s.tasks.filterMap Task.claim = [] := by
    rw [List.filterMap_eq_nil_iff]
    intro t mem
    have h := hs.counted
    rw [zero] at h
    have out := List.countP_eq_zero.mp (Int.ofNat_eq_zero.mp h.symm) t mem
    rw [Task.claim, if_neg]
    exact fun hn => out (TaskPc.outstanding_of_needsStream hn)
  refine hs.eventMove (List.nil_sublist _) ?_ ?_ ?_ ?_ (fun _ _ => rfl) (fun _ => zero)
  · intro r mem
    rw [unclaimed] at mem
    cases mem
  · intro r x get
    cases get
  · intro r mem
    cases mem
  · intro j p eq
    cases eq

/-- Every step of either thread keeps the claims. -/
theorem Sound.step (hs : Sound s) (st : Step s e t) : Sound t := by
  cases st with
  | track isBidi isServer limit pc => exact hs.track isBidi isServer limit
  | update live get upd => exact hs.update live get upd
  | drain completed pc ready => exact hs.drain pc ready
  | skip pc =>
    refine hs.eventGo (by rw [pc]; rfl) (List.nil_subset _) (.inl rfl) ?_
    intro h
    cases h
  | again pc get disp =>
    refine hs.eventGo (by rw [pc]; rfl) ?_ (.inl rfl) ?_
    · rw [pc]
      exact List.subset_cons_self _ _
    · intro h
      cases h
  | process pc get disp => exact hs.process pc get disp
  | reserve pc => exact hs.reserve pc
  | reserveFailed pc =>
    refine hs.eventGo (by rw [pc]; rfl) (by rw [pc]; exact fun _ h => h) (.inl rfl) ?_
    intro h
    cases h
  | unreserve pc get => exact hs.unreserve pc get
  | @push i todo t pc get =>
    have held := hs.task_held (p := .reserved) (by rw [pc]; rfl) get
    rw [held] at get
    refine hs.moveTask get rfl (fun _ => rfl) (fun _ _ => rfl) (fun _ => hs.task_claimed get rfl)
      (hs.worked t.stream) id (by rw [pc]; rfl) (by rw [pc]; exact fun _ h => h) ?_ ?_
    · intro j p eq
      cases eq
    · intro h
      cases h
  | pushFailed pc get =>
    refine hs.eventGo (by rw [pc]; rfl) (by rw [pc]; exact fun _ h => h) (.inr (by rw [pc]; rfl)) ?_
    intro h
    cases h
  | pushClear pc get stream => exact hs.pushClear pc get stream
  | @pushDrop i todo t pc get =>
    have held := hs.task_held (p := .dropped) (by rw [pc]; rfl) get
    rw [held] at get
    refine hs.moveTask get (by simp [TaskPc.outstanding]) ?_ (fun _ _ => rfl) ?_
      (hs.worked t.stream) id
      (by rw [pc]; rfl) (by rw [pc]; exact fun _ h => h) ?_ ?_
    · intro h
      cases h
    · intro h
      cases h
    · intro j p eq
      cases eq
    · intro h
      cases h
  | destroy pc zero => exact hs.destroy zero
  | createRequest ok get =>
    cases ok with
    | true => exact hs.workerMove get rfl rfl rfl
    | false => exact hs.workerMove get rfl rfl rfl
  | createContext ok get stream =>
    cases ok with
    | true => exact hs.workerMove get rfl rfl rfl
    | false => exact hs.workerMove get rfl rfl rfl
  | clear get stream =>
    refine hs.workerStream get rfl rfl rfl ?_ ?_
    · intro h
      cases h
    · rw [(hs.task_stream get rfl stream).2]
      intro h
      cases h
  | decrement get => exact hs.workerDecrement get rfl rfl rfl rfl
  | destroyPool get => exact hs.workerMove get rfl rfl rfl
  | run refused maxResponseBodySize get stream => exact hs.workerMove get rfl rfl rfl
  | respond get stream eq =>
    have claimed := hs.task_stream get rfl stream
    exact hs.workerStream get rfl rfl rfl (fun _ => claimed) fun _ => claimed.1
  | finish get phase stream => exact hs.workerMove get rfl rfl rfl
  | markDone get stream =>
    refine hs.workerStream get rfl rfl rfl ?_ fun _ => (hs.task_stream get rfl stream).1
    intro h
    cases h
  | decrementDone get => exact hs.workerDecrement get rfl rfl rfl rfl

/-- Streams disappear only by reclaiming, which spares claimed ones, and with an idle session. -/
lemma Sound.kept (hs : Sound s) (st : Step s e t) (claim : r ∈ s.tasks.filterMap Task.claim) :
    (t.streams r).isSome = true := by
  obtain ⟨x, get, h⟩ := hs.claimed r (List.mem_append_right _ claim)
  have present : (s.streams r).isSome = true := by rw [get]; rfl
  cases st with
  | track | update | process | unreserve | pushClear | clear | respond | markDone =>
    exact setStream_isSome present
  | drain completed pc ready =>
    obtain ⟨y, get', _⟩ := Claimed.reclaim ⟨x, get, h⟩
    simp only [get', Option.isSome_some]
  | destroy pc zero =>
    obtain ⟨u, mem, hu⟩ := List.mem_filterMap.mp claim
    rw [Task.claim] at hu
    split at hu
    · rename_i needs
      have pos : 0 < s.tasks.countP fun t => t.pc.outstanding :=
        List.countP_pos_iff.mpr ⟨u, mem, TaskPc.outstanding_of_needsStream needs⟩
      have := hs.counted
      omega
    · cases hu
  | _ => exact present

end

/-- What a task still needs is there: the counter is exact, the session is destroyed and streams are
reclaimed only without anyone left to touch them. -/
structure LifetimeSafe (s : State) : Prop where
  counted : s.activeTasks = s.tasks.countP fun t => t.pc.outstanding
  nonneg : 0 ≤ s.activeTasks
  destroy : ∀ t, Step s .destroy t → s.activeTasks = 0
  reclaim : ∀ e t r, Step s e t → (s.streams r).isSome = true → t.streams r = none →
    ∀ u ∈ s.tasks, u.stream = r → u.pc.needsStream = false
  stream : ∀ u ∈ s.tasks, u.pc.needsStream = true → (s.streams u.stream).isSome = true
  session : ∀ u ∈ s.tasks, u.pc.outstanding = true → s.pc ≠ .destroyed
  touchesStream : ∀ r act t, Step s (.task r act) t → act.touchesStream = true →
    ∃ u ∈ s.tasks, u.stream = r ∧ u.pc.needsStream = true
  touchesSession : ∀ r act t, Step s (.task r act) t → act.touchesSession = true →
    ∃ u ∈ s.tasks, u.stream = r ∧ u.pc.outstanding = true

/-- A worker step that touches the stream is one of a task that needs it, and one that touches the
session is one of a task before its final decrement. -/
lemma Step.toucher {s t : State} {r : Ref} {act : TaskAct} (st : Step s (.task r act) t) :
    ∃ u ∈ s.tasks, u.stream = r ∧ (act.touchesStream = true → u.pc.needsStream = true) ∧
      (act.touchesSession = true → u.pc.outstanding = true) := by
  cases st with
  | createRequest ok get => exact ⟨_, List.mem_of_getElem? get, rfl, nofun, fun _ => rfl⟩
  | createContext ok get => exact ⟨_, List.mem_of_getElem? get, rfl, fun _ => rfl, fun _ => rfl⟩
  | clear get => exact ⟨_, List.mem_of_getElem? get, rfl, fun _ => rfl, fun _ => rfl⟩
  | decrement get => exact ⟨_, List.mem_of_getElem? get, rfl, nofun, fun _ => rfl⟩
  | destroyPool get => exact ⟨_, List.mem_of_getElem? get, rfl, nofun, nofun⟩
  | run refused max get => exact ⟨_, List.mem_of_getElem? get, rfl, fun _ => rfl, fun _ => rfl⟩
  | respond get => exact ⟨_, List.mem_of_getElem? get, rfl, fun _ => rfl, fun _ => rfl⟩
  | finish get => exact ⟨_, List.mem_of_getElem? get, rfl, fun _ => rfl, fun _ => rfl⟩
  | markDone get => exact ⟨_, List.mem_of_getElem? get, rfl, fun _ => rfl, fun _ => rfl⟩
  | decrementDone get => exact ⟨_, List.mem_of_getElem? get, rfl, nofun, fun _ => rfl⟩

/-- Whatever the interleaving of the event thread with the workers, and whatever fails. -/
theorem worker_lifetime_safety {s : State} {es : List Event} (run : Run Step .init es s) :
    LifetimeSafe s := by
  have hs : Sound s := run.invariant (fun _ _ _ h st => h.step st) .init
  have claim : ∀ u ∈ s.tasks, u.pc.needsStream = true →
      u.stream ∈ s.tasks.filterMap Task.claim := by
    intro u mem needs
    rw [List.mem_filterMap]
    exact ⟨u, mem, if_pos needs⟩
  refine ⟨hs.counted, ?_, ?_, ?_, ?_, fun u => hs.alive, ?_, ?_⟩
  · rw [hs.counted]
    exact Int.natCast_nonneg _
  · intro t st
    cases st with
    | destroy pc zero => exact zero
  · intro e t r st _ absent u mem eq
    by_contra needs
    have := hs.kept st (claim u mem (by simpa using needs))
    rw [eq, absent] at this
    cases this
  · intro u mem needs
    obtain ⟨x, get, _⟩ := hs.claimed u.stream (List.mem_append_right _ (claim u mem needs))
    rw [get]
    rfl
  · intro r act t st touches
    obtain ⟨u, mem, eq, h, _⟩ := st.toucher
    exact ⟨u, mem, eq, h touches⟩
  · intro r act t st touches
    obtain ⟨u, mem, eq, _, h⟩ := st.toucher
    exact ⟨u, mem, eq, h touches⟩

/-- The first task of a stream fails early and the stream is dispatched again while that task is
still unwinding; the second one answers, the stream is closed and reclaimed before its final
decrement. -/
def retried : List Op :=
  [.track true false 65536, .flags 0 false true true true false, .drain [0], .process,
    .reserve true, .push true, .skip, .task 0 (.createRequest false), .task 0 .clear, .drain [0],
    .process,
    .reserve true, .push true, .skip, .task 0 .decrement, .task 1 (.createRequest true),
    .task 1 (.createContext true), .task 1 (.run false 0), .task 1 (.respond .finished),
    .task 1 (.respond (.submit 0)), .task 1 (.respond .go), .task 1 .finish, .task 1 .markDone,
    .flags 0 true false true true false, .drain [], .skip]

/-- After `retried` the stream is gone while one task is still counted. -/
theorem worker_lifetime_safety_retried :
    ∃ es s, Run Step .init es s ∧ s.tasks.length = 2 ∧ s.activeTasks = 1 ∧ s.streams 0 = none ∧
      LifetimeSafe s := by
  have eq : (execAll exec .init retried).map (fun r => (r.1.tasks.length, r.1.activeTasks,
      (r.1.streams 0).isNone)) = some (2, 1, true) := by decide +kernel
  obtain ⟨⟨s, es⟩, h, obs⟩ := Option.map_eq_some_iff.mp eq
  have run : Run Step .init es s := execAll_run exec_step h
  simp only [Prod.mk.injEq, Option.isNone_iff_eq_none] at obs
  exact ⟨es, s, run, obs.1, obs.2.1, obs.2.2, worker_lifetime_safety run⟩

end ModHttp3.Dispatch

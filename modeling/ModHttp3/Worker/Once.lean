import ModHttp3.Response.Invariant
import ModHttp3.Worker.Lifetime

/-!
# A request runs once and is answered once

`runs` and `submits` count, in the history of a session, the runs of a stream's request and the
calls of `nghttp3_conn_submit_response` for the stream. Only a claim on a stream from before the
request ran can clear its `dispatched` flag, so a stream whose request ran stays dispatched and no
further task is made for it. A call of `nghttp3_conn_submit_response` leaves the response submitted
or cancelled, whatever it returns, and neither flag is ever cleared.
-/

namespace ModHttp3.Dispatch
open ModHttp3.Lib ModHttp3.Worker ModHttp3.Response

/-- The event is the run of the request of stream `r`. -/
def Event.ran (r : Ref) : Event → Bool
  | .task r' (.run _) => r' == r
  | _ => false

/-- The event calls `nghttp3_conn_submit_response` for stream `r`. -/
def Event.submitted (r : Ref) : Event → Bool
  | .task r' (.respond (.submit _ called _)) => r' == r && called
  | _ => false

/-- How often a worker reached `ap_process_request` or `ap_die` for stream `r`. -/
def runs (r : Ref) (es : List Event) : Nat := es.countP (Event.ran r)

/-- How often `nghttp3_conn_submit_response` was called for stream `r`. -/
def submits (r : Ref) (es : List Event) : Nat := es.countP (Event.submitted r)

/-- The task has not run its request. -/
def TaskPc.early : TaskPc → Bool
  | .reserved | .queued | .started | .failed | .ready => true
  | _ => false

/-- Someone claims the stream for a request that did not run yet. -/
def EarlyClaim (s : State) (r : Ref) : Prop :=
  s.pc.claim = some r ∨ ∃ u ∈ s.tasks, u.stream = r ∧ u.pc.early = true

/-- No header block can be submitted any more. -/
def Settled (s : Stream) : Prop := s.responseSubmitted = true ∨ s.responseCancelled = true

section
variable {s t : State} {e : Event} {es : List Event} {i : Nat} {r : Ref} {p q : TaskPc}
  {x x' y : H3Stream}

/-- The runs after one more event. -/
lemma runs_snoc : runs r (es ++ [e]) = runs r es + (e.ran r).toNat := by
  rw [runs, List.countP_append]
  cases h : e.ran r <;> simp [runs, h]

/-- The submissions after one more event. -/
lemma submits_snoc : submits r (es ++ [e]) = submits r es + (e.submitted r).toNat := by
  rw [submits, List.countP_append]
  cases h : e.submitted r <;> simp [submits, h]

/-- A task before its request needs its stream. -/
lemma TaskPc.needsStream_of_early (h : p.early = true) : p.needsStream = true := by
  cases p with
  | reserved | queued | started | failed | ready => rfl
  | _ => cases h

/-- A stream after one was replaced. -/
lemma setStream_back {r' : Ref} (get : (s.setStream r' y).streams r = some x') :
    (r = r' ∧ x' = y) ∨ s.streams r = some x' := by
  by_cases eq : r = r'
  · subst eq
    rw [State.setStream_streams, Function.update_self] at get
    cases get
    exact .inl ⟨rfl, rfl⟩
  · rw [State.setStream_streams, Function.update_of_ne eq] at get
    exact .inr get

/-- A task after one was moved on. -/
lemma setTask_back {u v : Task} (mem : u ∈ s.tasks.set i v) : u = v ∨ u ∈ s.tasks :=
  (List.mem_or_eq_of_mem_set mem).symm

/-- The callbacks never reopen a response. -/
lemma Update.settled (h : Update x x') (hx : Settled x.response) : Settled x'.response := by
  cases h with
  | flags => exact hx
  | read eq =>
    rw [(sessionReadData_frame eq).1]
    exact hx
  | ack eq =>
    rw [ackLoop_frame eq]
    exact hx
  | cancel => exact .inr rfl
  | session => exact hx

/-- Neither does the worker. A call of `nghttp3_conn_submit_response` finds the response open and
settles it. -/
lemma step_settled {w w' : Responder} {c d : Stream} {a : Answer} {act : Act}
    (eq : step w c a = some (w', d, act)) :
    (Settled c → Settled d) ∧
      ∀ head status, act = .submit head true status → ¬ Settled c ∧ Settled d := by
  have moves := step_moves eq
  clear eq
  cases moves with
  | submit site eq =>
    rcases submitResponseNva_cases eq with
      ⟨_, rfl, _, rfl⟩ | ⟨_, rfl, _, rfl⟩ | ⟨_, rfl, open_, new, _⟩ | ⟨_, rfl, open_, new, _⟩
    · exact ⟨id, fun _ _ h => by cases h⟩
    · exact ⟨id, fun _ _ h => by cases h⟩
    · refine ⟨fun _ => .inl rfl, fun _ _ _ => ⟨?_, .inl rfl⟩⟩
      rintro (h | h)
      · rw [new] at h
        cases h
      · simp [Stream.gone, h] at open_
    · refine ⟨fun _ => .inr rfl, fun _ _ _ => ⟨?_, .inr rfl⟩⟩
      rintro (h | h)
      · rw [new] at h
        cases h
      · simp [Stream.gone, h] at open_
  | append site eq =>
    obtain ⟨e1, e2⟩ := appendStep_frame eq
    refine ⟨?_, fun _ _ h => by cases h⟩
    rintro (h | h)
    · exact .inl (by rw [e1, h])
    · exact .inr (e2 h)
  | _ => exact ⟨id, fun _ _ h => by cases h⟩

/-- Where a stream comes from: it is new, or it was there. Then its response was not reopened, and
if `dispatched` was cleared then by someone with an early claim. -/
lemma Step.stream_back (hs : Sound s) (st : Step s e t) (get : t.streams r = some x') :
    e = .track r ∧ s.next = r ∨
    ∃ x, s.streams r = some x ∧ (Settled x.response → Settled x'.response) ∧
      (x.dispatched = true → x'.dispatched = true ∨ EarlyClaim s r) := by
  have same : s.streams r = some x' → ∃ x, s.streams r = some x ∧
      (Settled x.response → Settled x'.response) ∧
      (x.dispatched = true → x'.dispatched = true ∨ EarlyClaim s r) :=
    fun h => ⟨x', h, id, .inl⟩
  cases st with
  | track isBidi isServer limit pc =>
    rcases setStream_back get with ⟨rfl, rfl⟩ | get
    · exact .inl ⟨rfl, rfl⟩
    · exact .inr (same get)
  | update live get' upd =>
    rcases setStream_back get with ⟨rfl, rfl⟩ | get
    · exact .inr ⟨_, get', upd.settled, fun h => .inl (by rw [upd.flags_eq.1, h])⟩
    · exact .inr (same get)
  | drain completed pc ready => exact .inr (same (Option.filter_eq_some_iff.mp get).1)
  | process pc get' disp =>
    rcases setStream_back get with ⟨rfl, rfl⟩ | get
    · exact .inr ⟨_, get', id, fun _ => .inl rfl⟩
    · exact .inr (same get)
  | unreserve pc get' =>
    rcases setStream_back get with ⟨rfl, rfl⟩ | get
    · exact .inr ⟨_, get', id, fun _ => .inr (.inl (by rw [pc]; rfl))⟩
    · exact .inr (same get)
  | @pushClear i todo u y pc getu get' =>
    rcases setStream_back get with ⟨rfl, rfl⟩ | get
    · obtain ⟨r, held⟩ := hs.held i .reserved (by rw [pc]; rfl)
      rw [getu] at held
      cases held
      exact .inr ⟨_, get', id, fun _ => .inr (.inr ⟨_, List.mem_of_getElem? getu, rfl, rfl⟩)⟩
    · exact .inr (same get)
  | clear getu get' =>
    rcases setStream_back get with ⟨rfl, rfl⟩ | get
    · exact .inr ⟨_, get', id, fun _ => .inr (.inr ⟨_, List.mem_of_getElem? getu, rfl, rfl⟩)⟩
    · exact .inr (same get)
  | respond getu get' eq =>
    rcases setStream_back get with ⟨rfl, rfl⟩ | get
    · exact .inr ⟨_, get', (step_settled eq).1, .inl⟩
    · exact .inr (same get)
  | markDone getu get' =>
    rcases setStream_back get with ⟨rfl, rfl⟩ | get
    · exact .inr ⟨_, get', id, .inl⟩
    · exact .inr (same get)
  | destroy pc zero => cases get
  | _ => exact .inr (same get)

/-- Where an early claim comes from: it was there, or the stream was not dispatched. -/
lemma Step.early_back (hs : Sound s) (st : Step s e t) (claim : EarlyClaim t r) :
    EarlyClaim s r ∨ ∃ x, s.streams r = some x ∧ x.dispatched = false := by
  rcases claim with hpc | ⟨u, mem, eq, early⟩
  · -- the event thread's own claim
    cases st with
    | process pc get disp =>
      cases hpc
      exact .inr ⟨_, get, disp⟩
    | reserveFailed pc => exact .inl (.inl (by rw [pc]; exact hpc))
    | drain | skip | again | reserve | unreserve | push | pushFailed | pushClear | pushDrop
    | destroy =>
      cases hpc
    | _ => exact .inl (.inl hpc)
  · left
    have same : u ∈ s.tasks → EarlyClaim s r := fun mem => .inr ⟨u, mem, eq, early⟩
    -- a moved task is early only if it was before
    have moved : ∀ {i p q} {r' : Ref}, u ∈ s.tasks.set i ⟨r', q⟩ → s.tasks[i]? = some ⟨r', p⟩ →
        (q.early = true → p.early = true) → EarlyClaim s r := by
      intro i p q r' mem get back
      rcases setTask_back mem with rfl | mem
      · exact .inr ⟨_, List.mem_of_getElem? get, eq, back early⟩
      · exact same mem
    cases st with
    | @reserve r' todo pc =>
      rcases List.mem_append.mp mem with mem | mem
      · exact same mem
      · rw [List.mem_singleton] at mem
        subst mem
        exact .inl (by rw [pc, ← eq]; rfl)
    | @push i todo t pc get =>
      obtain ⟨r', held⟩ := hs.held i .reserved (by rw [pc]; rfl)
      rw [get] at held
      cases held
      exact moved mem get fun _ => rfl
    | pushClear pc get => exact moved mem get nofun
    | pushDrop pc get => exact moved mem get nofun
    | createRequest ok get => exact moved mem get fun _ => rfl
    | createContext ok get => exact moved mem get fun _ => rfl
    | clear get => exact moved mem get nofun
    | decrement get => exact moved mem get nofun
    | destroyPool get => exact moved mem get nofun
    | run refused max get => exact moved mem get nofun
    | respond get => exact moved mem get nofun
    | finish get => exact moved mem get nofun
    | markDone get => exact moved mem get nofun
    | decrementDone get => exact moved mem get nofun
    | _ => exact same mem

/-- A request runs by an early claim, which is gone afterwards while the stream stays claimed. -/
lemma Step.run_claim (ht : Sound t) (st : Step s e t) (ran : e.ran r = true) :
    EarlyClaim s r ∧ ¬ EarlyClaim t r ∧ Claimed t.streams r := by
  cases st with
  | @run i r' x refused max get stream =>
    obtain rfl : r' = r := beq_iff_eq.mp ran
    obtain ⟨rest, before, after⟩ := exists_rest get
    have after := after ⟨r', .responding { ctx := .init max, phase := .handler }⟩
    have claims := claims_perm after s.pc.claim.toList
    have mine : r' ∉ s.pc.claim.toList ++ rest.filterMap Task.claim :=
      (List.nodup_cons.mp (claims.nodup_iff.mp ht.nodup)).1
    refine ⟨.inr ⟨_, List.mem_of_getElem? get, rfl, rfl⟩, ?_, ?_⟩
    · rintro (hpc | ⟨u, mem, eq, early⟩)
      · have hpc : s.pc.claim = some r' := hpc
        rw [hpc] at mine
        exact mine List.mem_cons_self
      · rcases List.mem_cons.mp (after.mem_iff.mp mem) with rfl | mem
        · cases early
        · apply mine
          apply List.mem_append_right
          rw [List.mem_filterMap]
          refine ⟨u, mem, ?_⟩
          rw [Task.claim, if_pos (TaskPc.needsStream_of_early early), eq]
    · exact ht.claimed r' (claims.mem_iff.mpr List.mem_cons_self)
  | _ => cases ran

/-- A header block is submitted while the response is open, and settles it. -/
lemma Step.submit_settles (st : Step s e t) (sub : e.submitted r = true) :
    (∃ x, s.streams r = some x ∧ ¬ Settled x.response) ∧
      ∀ x, t.streams r = some x → Settled x.response := by
  cases st with
  | @respond i r' x w a w' y act get stream eq =>
    cases act with
    | submit head called status =>
      simp only [Event.submitted, Bool.and_eq_true, beq_iff_eq] at sub
      obtain ⟨rfl, rfl⟩ := sub
      obtain ⟨before, after⟩ := (step_settled eq).2 head status rfl
      refine ⟨⟨x, stream, before⟩, ?_⟩
      intro x' get'
      rw [State.setTask_streams, State.setStream_streams, Function.update_self] at get'
      cases get'
      exact after
    | _ => cases sub
  | _ => cases sub

/-- Streams are only created. -/
lemma Step.next_le (st : Step s e t) : s.next ≤ t.next := by
  cases st with
  | track => exact Nat.le_succ _
  | _ => exact Nat.le_refl _

end

/-- No request ran twice, none with an early claim ran at all, and a stream whose request ran stays
dispatched; no response was submitted twice, and one that was submitted is settled. -/
structure Once (es : List Event) (s : State) : Prop where
  early : ∀ r, EarlyClaim s r → runs r es = 0
  once : ∀ r, runs r es ≤ 1
  ran : ∀ r x, s.streams r = some x → runs r es ≠ 0 → x.dispatched = true
  answered : ∀ r, submits r es ≤ 1
  settled : ∀ r x, s.streams r = some x → submits r es ≠ 0 → Settled x.response
  fresh : ∀ r, s.next ≤ r → runs r es = 0 ∧ submits r es = 0

/-- At the start nothing has run. -/
lemma Once.init : Once [] .init where
  early _ _ := rfl
  once _ := Nat.zero_le _
  ran _ _ get := by cases get
  answered _ := Nat.zero_le _
  settled _ _ get := by cases get
  fresh _ _ := ⟨rfl, rfl⟩

section
variable {s t : State} {e : Event} {es : List Event} {r : Ref}

/-- A step keeps the counts of a stream it neither runs nor answers. -/
lemma runs_quiet (h : e.ran r = false) : runs r (es ++ [e]) = runs r es := by
  rw [runs_snoc, h]
  rfl

/-- An event that submits nothing for the stream. -/
lemma submits_quiet (h : e.submitted r = false) : submits r (es ++ [e]) = submits r es := by
  rw [submits_snoc, h]
  rfl

/-- Every step keeps the counts at one. -/
theorem Once.step (h : Once es s) (hs : Sound s) (ht : Sound t) (st : Step s e t) :
    Once (es ++ [e]) t where
  early r claim := by
    cases hr : e.ran r with
    | true => exact absurd claim (st.run_claim ht hr).2.1
    | false =>
      rw [runs_quiet hr]
      rcases st.early_back hs claim with claim | ⟨x, get, disp⟩
      · exact h.early r claim
      -- a stream that was run stays dispatched, so it is not claimed again
      · by_contra ran
        rw [h.ran r x get ran] at disp
        cases disp
  once r := by
    cases hr : e.ran r with
    | true =>
      rw [runs_snoc, hr, h.early r (st.run_claim ht hr).1]
      exact Nat.le_refl _
    | false =>
      rw [runs_quiet hr]
      exact h.once r
  ran r x' get ran := by
    cases hr : e.ran r with
    | true =>
      obtain ⟨y, get', hd, _⟩ := (st.run_claim ht hr).2.2
      rw [get] at get'
      cases get'
      exact hd
    | false =>
      rw [runs_quiet hr] at ran
      rcases st.stream_back hs get with ⟨_, next⟩ | ⟨x, getx, _, back⟩
      · exact absurd (h.fresh r next.le).1 ran
      -- only an early failure clears the flag, and then the request was not run
      · rcases back (h.ran r x getx ran) with hd | claim
        · exact hd
        · exact absurd (h.early r claim) ran
  answered r := by
    cases hr : e.submitted r with
    | true =>
      obtain ⟨⟨x, get, unsettled⟩, _⟩ := st.submit_settles hr
      have zero : submits r es = 0 := by
        by_contra sub
        exact unsettled (h.settled r x get sub)
      rw [submits_snoc, hr, zero]
      exact Nat.le_refl _
    | false =>
      rw [submits_quiet hr]
      exact h.answered r
  settled r x' get sub := by
    cases hr : e.submitted r with
    | true => exact (st.submit_settles hr).2 x' get
    | false =>
      rw [submits_quiet hr] at sub
      rcases st.stream_back hs get with ⟨_, next⟩ | ⟨x, getx, back, _⟩
      · exact absurd (h.fresh r next.le).2 sub
      · exact back (h.settled r x getx sub)
  fresh r le := by
    have absent := hs.fresh r (st.next_le.trans le)
    obtain ⟨h1, h2⟩ := h.fresh r (st.next_le.trans le)
    constructor
    · cases hr : e.ran r with
      | true =>
        obtain ⟨y, get, _⟩ := (st.run_claim ht hr).2.2
        rw [ht.fresh r le] at get
        cases get
      | false => rw [runs_quiet hr, h1]
    · cases hr : e.submitted r with
      | true =>
        obtain ⟨⟨x, get, _⟩, _⟩ := st.submit_settles hr
        rw [absent] at get
        cases get
      | false => rw [submits_quiet hr, h2]

end

/-- Over every run of a session, each request is executed at most once and answered by at most one
header block. -/
theorem request_runs_and_answers_once {s : State} {es : List Event} (run : Run Step .init es s)
    (r : Ref) :
    runs r es ≤ 1 ∧ submits r es ≤ 1 := by
  have h : Sound s ∧ Once es s := by
    refine run.invariant_hist (P := fun es s => Sound s ∧ Once es s) ?_ ⟨.init, .init⟩
    rintro es s e t ⟨hs, h⟩ st
    exact ⟨hs.step st, h.step hs (hs.step st) st⟩
  exact ⟨h.2.once r, h.2.answered r⟩

/-- In `retried` the request runs once and is answered once, although its first task failed. -/
theorem request_runs_and_answers_once_retried :
    ∃ es s, Run Step .init es s ∧ runs 0 es = 1 ∧ submits 0 es = 1 ∧ runs 0 es ≤ 1 ∧
    submits 0 es ≤ 1 := by
  have eq : (execAll exec .init retried).map (fun r => (runs 0 r.2, submits 0 r.2)) =
      some (1, 1) := by
    decide +kernel
  obtain ⟨⟨s, es⟩, h, obs⟩ := Option.map_eq_some_iff.mp eq
  have run : Run Step .init es s := execAll_run exec_step h
  simp only [Prod.mk.injEq] at obs
  exact ⟨es, s, run, obs.1, obs.2, request_runs_and_answers_once run 0⟩

end ModHttp3.Dispatch

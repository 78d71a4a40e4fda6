import ModHttp3.Lib.History
import ModHttp3.Worker.Progress

/-!
# A response body from the handler to nghttp3

The body of a response goes through the output filter, which passes it on at once or collects it, to
the response queue, and from there to nghttp3, which takes it in pieces of its own and acknowledges
it. `Exchange` has all of it in one system. A run of this system is a run of the worker against any
reader (`run_marked`), so that what was said there about the bytes that are queued holds here as
well (`Tracked`); `Conveyed` adds that what nghttp3 was handed and what is left from the cursor on
make up what was queued.

`client_gets_response` puts both together: in any interleaving nghttp3 gets the body the handler
produced from its beginning, and all of it when it is told that this is the end.
-/

namespace ModHttp3.Worker.Exchange
open ModHttp3.Lib ModHttp3.Response

/-- The response was cancelled, and its QUIC stream reset. -/
def Event.cancels : Event → Bool
  | .cancel => true
  | .worker _ _ | .read _ | .ack _ | .session => false

/-- The step as one of the worker's system, where a read records whether the QUIC stream was reset
before. -/
def Event.marked (reset : Bool) : Event → Worker.Event
  | .worker a act => .worker a act
  | .read r => .read r reset
  | .ack n => .ack n
  | .cancel => .cancel
  | .session => .session

/-- The QUIC stream was reset in these steps. -/
def wasReset (es : List Event) : Bool := es.any Event.cancels

/-- The steps as those of the worker's system. -/
def marked (es : List Event) : List Worker.Event :=
  gather (fun pre e => [e.marked (wasReset pre)]) es

/-- The state as one of the worker's system. -/
def State.marked (x : State) (es : List Event) : Worker.State where
  worker := x.worker
  stream := x.stream
  reset := wasReset es

/-- The bytes a step hands to nghttp3. -/
def Event.handed : Event → List UInt8
  | .read r => r.vecs.flatten
  | _ => []

/-- The body bytes nghttp3 was handed. -/
def handed (es : List Event) : List UInt8 := es.flatMap Event.handed

/-- What nghttp3 was handed and what it was not handed yet are the bytes that were queued, and it
was handed all of them if the response ended cleanly. -/
structure Conveyed (es : List Event) (x : State) : Prop where
  fit : Fit x.worker x.stream
  queue : ∃ sent rest, Linked x sent rest ∧ handed es ++ (Cells.data rest).flatten =
    queued (marked es)
  ended : endedCleanly (marked es) → handed es = queued (marked es)

/-- The phases behind the last submission. -/
def pastTail : Phase → Bool
  | .tailAppending _ | .tailCompleting | .returned => true
  | _ => false

/-- nghttp3 is not left waiting: it has not read a response that is not submitted, and does not wait
for more of a complete one; a worker that returns has submitted and completed its response. -/
structure Awake (x : State) : Prop where
  fresh : x.stream.responseSubmitted = false → x.reader = .active
  wakes : x.stream.responseComplete = true → x.reader ≠ .suspended
  tail : pastTail x.worker.phase = true → x.stream.responseSubmitted = true
  returned : x.worker.phase = .returned → x.stream.responseComplete = true

section
variable {es : List Event} {e : Event} {x y : State} {w : Responder}

/-- The marked events with one more. -/
lemma marked_snoc : marked (es ++ [e]) = marked es ++ [e.marked (wasReset es)] := gather_snoc

/-- Whether the stream was reset after one more event. -/
lemma wasReset_snoc : wasReset (es ++ [e]) = (wasReset es || e.cancels) := by
  rw [wasReset, List.any_append, List.any_cons, List.any_nil, Bool.or_false]
  rfl

/-- What was handed to nghttp3 after one more event. -/
lemma handed_snoc : handed (es ++ [e]) = handed es ++ e.handed := by
  rw [handed, List.flatMap_append, List.flatMap_singleton]
  rfl

/-- A step is one of the worker's system. -/
lemma Step.marked (st : Step x e y) :
    Worker.Step (x.marked es) (e.marked (wasReset es)) (y.marked (es ++ [e])) := by
  rw [State.marked, State.marked, wasReset_snoc]
  cases st with
  | worker fresh _ _ eq =>
    rw [Event.cancels, Bool.or_false]
    exact .worker fresh eq
  | read pos _ submitted aborted dead ngh3 eq =>
    rw [Event.cancels, Bool.or_false]
    exact .read pos submitted aborted dead ngh3 eq
  | ack _ _ eq =>
    rw [Event.cancels, Bool.or_false]
    exact .ack eq
  | cancel =>
    rw [Event.cancels, Bool.or_true]
    exact .cancel
  | session aborted dead gone =>
    rw [Event.cancels, Bool.or_false]
    exact .session aborted dead gone

/-- A worker with nothing left to queue does not append. -/
lemma not_appends_of_spent {data : List UInt8} {more : List UInt8 → Phase} {done failed : Phase}
    (spent : w.remaining = []) (site : Appends w data more done failed) : data = [] := by
  obtain ⟨ctx, phase⟩ := w
  cases site with
  | filter at_phase =>
    obtain rfl : phase = _ := at_phase
    rw [Responder.remaining_early rfl] at spent
    split at spent
    · exact absurd spent (by decide +kernel)
    · exact (List.append_eq_nil_iff.mp (List.append_eq_nil_iff.mp spent).2).1
  | tail at_phase =>
    obtain rfl : phase = _ := at_phase
    exact spent

/-- A worker with nothing left queues nothing. -/
lemma queued_of_spent {a : Answer} {act : Act} {s s' : Stream} {w' : Responder}
    (m : Moves w s a w' s' act) (spent : w.remaining = []) :
    (Worker.Event.worker a act).queued = [] := by
  cases m with
  | @append data _ _ _ _ _ ret site =>
    rw [not_appends_of_spent spent site]
    cases ret with
    | chunk => exact List.take_nil
    | _ => rfl
  | _ => rfl

/-- At the start nothing was conveyed. -/
lemma Conveyed.init (limit : UInt64) (max : Nat) : Conveyed [] (.init limit max) where
  fit := (Sound.init limit max).fit
  queue := ⟨[], [], ⟨.init limit, rfl, .active⟩, rfl⟩
  ended _ := rfl

/-- nghttp3 reads: what it is handed comes from the front of what is left. -/
lemma Conveyed.read {r : ReadResult} {s : Stream} {veccnt : Nat} (h : Conveyed es x)
    (tracked : Tracked (Exchange.marked es) (x.marked es)) (pos : 1 ≤ veccnt)
    (active : x.reader = .active) (submitted : x.stream.responseSubmitted = true)
    (aborted : x.stream.aborted = false) (dead : x.stream.ngh3Dead = false)
    (ngh3 : x.stream.ngh3 = true) (eq : sessionReadData x.stream veccnt = some (s, r)) :
    Conveyed (es ++ [.read r])
      { x with stream := s, reader := .after r,
               outstanding := x.outstanding + r.vecs.flatten.length } := by
  have frame := (sessionReadData_frame eq).1
  obtain ⟨sent, rest, linked, conveyed⟩ := h.queue
  obtain ⟨sent', rest', linked', content, _⟩ := linked.read active (linked.split.read pos eq)
  have queued_eq : queued (Exchange.marked (es ++ [.read r])) = queued (Exchange.marked es) := by
    rw [marked_snoc, queued_snoc]
    exact List.append_nil _
  have conveyed' : handed (es ++ [.read r]) ++ (Cells.data rest').flatten =
      queued (Exchange.marked (es ++ [.read r])) := by
    rw [handed_snoc, queued_eq, ← conveyed, ← content, List.append_assoc]
    rfl
  refine ⟨?_, ⟨sent', rest', linked', conveyed'⟩, ?_⟩
  · exact h.fit.keep (by rw [frame]) (by rw [frame]) (by rw [frame])
  · intro ended
    rw [marked_snoc, endedCleanly_snoc] at ended
    suffices none : (Cells.data rest').flatten = [] by
      rw [none, List.append_nil] at conveyed'
      exact conveyed'
    rcases ended with before | ⟨r', eof, is⟩
    · -- all was handed out before
      have left : (Cells.data rest).flatten = [] := by
        rw [← h.ended before] at conveyed
        exact List.append_right_eq_self.mp conveyed
      rw [left] at content
      exact (List.append_eq_nil_iff.mp content).2
    · simp only [Event.marked, Worker.Event.read.injEq] at is
      obtain ⟨rfl, reset⟩ := is
      have reader : BodyReader.after r = .ended := by rw [BodyReader.after, if_pos eof]
      -- the response can still reach the client, so that this is its real end
      have live : x.stream.responseCancelled = false := by
        rcases tracked.account with lost | ⟨live, _⟩
        · simp [Lost, State.marked, aborted, dead, ngh3, reset, submitted] at lost
        · exact live
      have attends := linked'.attends
      rw [reader] at attends
      cases attends with
      | ended or =>
        rcases or with gone | ⟨drained, _⟩
        · rw [frame] at gone
          simp [refused, Stream.gone, live, aborted, dead, ngh3] at gone
        · rw [drained]
          rfl

/-- A step that is not a read adds what it queues at the end. -/
lemma Conveyed.extend {sent' rest rest' : Cells} (h : Conveyed es x) (fit : Fit y.worker y.stream)
    (conveyed : handed es ++ (Cells.data rest).flatten = queued (Exchange.marked es))
    (linked : Linked y sent' rest')
    (more : (Cells.data rest').flatten = (Cells.data rest).flatten ++
      (e.marked (wasReset es)).queued)
    (other : ∀ r, e ≠ .read r)
    (spent : endedCleanly (Exchange.marked es) → (e.marked (wasReset es)).queued = []) :
    Conveyed (es ++ [e]) y := by
  have handed_eq : handed (es ++ [e]) = handed es := by
    rw [handed_snoc]
    cases e with
    | read r => exact absurd rfl (other r)
    | _ => exact List.append_nil _
  refine ⟨fit, ⟨sent', rest', linked, ?_⟩, ?_⟩
  · rw [handed_eq, marked_snoc, queued_snoc, ← conveyed, more, List.append_assoc]
  · intro ended
    rw [marked_snoc, endedCleanly_snoc] at ended
    rcases ended with before | ⟨r, _, is⟩
    · rw [handed_eq, marked_snoc, queued_snoc, spent before, List.append_nil]
      exact h.ended before
    · cases e with
      | read r => exact absurd rfl (other r)
      | _ => cases is

/-- Every step keeps it. -/
lemma Conveyed.step (h : Conveyed es x) (tracked : Tracked (Exchange.marked es) (x.marked es))
    (st : Step x e y) :
    Conveyed (es ++ [e]) y := by
  obtain ⟨sent, rest, linked, conveyed⟩ := h.queue
  have nothing : (Cells.data rest).flatten = (Cells.data rest).flatten ++ [] :=
    (List.append_nil _).symm
  cases st with
  | worker fresh brigades bytes eq =>
    have m := step_moves eq
    obtain ⟨⟨rest', linked', _, more⟩, _⟩ := linked.move h.fit m fresh
    refine h.extend (h.fit.move m linked.split.holds fresh brigades) conveyed linked' more (by simp)
      ?_
    intro ended
    exact queued_of_spent m (tracked.ended ended).2.remaining
  | read pos active submitted aborted dead ngh3 eq =>
    exact h.read tracked pos active submitted aborted dead ngh3 eq
  | ack _ le eq =>
    obtain ⟨sent', linked', _, _, frame⟩ := linked.ack le eq
    refine h.extend ?_ conveyed linked' nothing (by simp) fun _ => rfl
    exact h.fit.keep (by rw [frame]) (by rw [frame]) (by rw [frame])
  | cancel =>
    have linked' := linked.frame linked.split.cancel (fun _ => rfl) (fun _ => rfl) x.worker false
    exact h.extend h.fit.cancel conveyed linked' nothing (by simp) fun _ => rfl
  | session aborted dead gone =>
    have linked' := linked.session aborted dead gone
    exact h.extend (h.fit.keep rfl rfl rfl) conveyed linked' nothing (by simp) fun _ => rfl

/-- A reader that was resumed is not suspended. -/
lemma BodyReader.resume_ne (reader : BodyReader) : reader.resume ≠ .suspended := by
  cases reader with
  | active | suspended | ended => exact BodyReader.noConfusion

/-- An active reader stays active. -/
lemma BodyReader.resume_active {reader : BodyReader} (active : reader = .active) (resumed : Bool) :
    (if resumed then reader.resume else reader) = .active := by
  subst active
  exact ite_self _

/-- The worker goes on before its tail. -/
lemma Awake.early (h : Awake x) (early : pastTail w.phase = false) :
    Awake { x with worker := w } where
  fresh := h.fresh
  wakes := h.wakes
  tail past := by
    rw [early] at past
    cases past
  returned is := by
    rw [is] at early
    cases early

/-- The worker goes on, in its tail if it was there before. -/
lemma Awake.onward (h : Awake x) (phase : Phase)
    (past : pastTail phase = true → pastTail x.worker.phase = true) (busy : phase ≠ .returned)
    (resumed : Bool) :
    Awake { x with
      worker := { x.worker with phase },
      reader := if resumed then x.reader.resume else x.reader } where
  fresh is := BodyReader.resume_active (h.fresh is) resumed
  wakes is := by
    cases resumed with
    | true => exact x.reader.resume_ne
    | false => exact h.wakes is
  tail on := h.tail (past on)
  returned is := absurd is busy

/-- Where an append goes on. -/
lemma appends_tail {data : List UInt8} {more : List UInt8 → Phase} {done failed : Phase}
    (site : Appends w data more done failed) :
    (pastTail done = true → pastTail w.phase = true) ∧
    (pastTail failed = true → pastTail w.phase = true) ∧
      (∀ d, pastTail (more d) = true → pastTail w.phase = true) ∧
      done ≠ .returned ∧ failed ≠ .returned ∧ ∀ d, more d ≠ .returned := by
  cases site with
  | filter => exact ⟨nofun, nofun, fun _ => nofun, nofun, nofun, fun _ => nofun⟩
  | tail at_phase =>
    rw [at_phase]
    exact ⟨id, id, fun _ => id, nofun, nofun, fun _ => nofun⟩

/-- The response is completed: a reader that waits is resumed. -/
lemma Awake.complete (h : Awake x) (live : refused x.stream = false) (phase : Phase)
    (past : pastTail phase = true → x.stream.responseSubmitted = true) :
    Awake { x with
      worker := { x.worker with phase }
      stream := (streamResponseComplete x.stream).1
      reader := if resumes (.complete (streamResponseComplete x.stream).2) then x.reader.resume else
        x.reader } where
  fresh is := BodyReader.resume_active (h.fresh is) _
  wakes _ := by
    simp only [refused, Stream.gone, Bool.or_eq_false_iff, Bool.not_eq_false'] at live
    obtain ⟨⟨_, dead⟩, ngh3⟩ := live
    rw [streamResponseComplete, dead, ngh3]
    cases submitted : x.stream.responseSubmitted with
    | true => exact x.reader.resume_ne
    | false =>
      rw [h.fresh submitted]
      exact BodyReader.noConfusion
  tail := past
  returned _ := rfl

/-- A submission that fails finds or leaves a session that refuses. -/
lemma Awake.submit {rv : Int} {status : Status} {called : Bool} {s : Stream} (h : Awake x)
    (live : refused x.stream = false) (eq : submitResponseNva x.stream rv = (s, status, called)) :
    refused s = true ∨
    (status = .success ∧ s.responseSubmitted = true ∧ Awake { x with stream := s }) := by
  rcases submitResponseNva_cases eq with ⟨rfl, rfl, submitted, _⟩ | ⟨_, _, gone, _⟩ |
    ⟨rfl, rfl, _⟩ | ⟨_, rfl, _⟩
  · exact .inr ⟨rfl, submitted, h⟩
  · exact absurd (live.symm.trans gone) Bool.false_ne_true
  · refine .inr ⟨rfl, rfl, ⟨nofun, h.wakes, fun _ => rfl, h.returned⟩⟩
  · exact .inl rfl

/-- An operation of the worker. -/
lemma Awake.move {a : Answer} {act : Act} {s : Stream} {xs : Cells} (h : Awake x)
    (live : refused x.stream = false) (fit : Fit x.worker x.stream) (holds : Holds x.stream xs)
    (m : Moves x.worker x.stream a w s act)
    (fresh : ∀ p, a = .append (some p) → x.stream.responseQueue.mem p = none) :
    refused s = true ∨
      Awake { x with worker := w, stream := s,
                     reader := if resumes act then x.reader.resume else x.reader } := by
  cases m with
  | brigade | finished | brigadeEnd | error | response | skipData | captureFailed | capture | skip
  | readFailed =>
    exact .inr (h.early rfl)
  | @read data bb n _ =>
    refine .inr (h.early ?_)
    dsimp only
    split <;> rfl
  | submit site eq =>
    rcases h.submit live eq with gone | ⟨rfl, submitted, h'⟩
    · exact .inl gone
    · refine .inr ⟨h'.fresh, h'.wakes, fun _ => submitted, ?_⟩
      intro is
      cases site with
      | response | data | flush | eos => cases is
      | tail =>
        simp only [if_true] at is
        split at is <;> cases is
  | @append data more done failed malloc _ ret site eq =>
    obtain ⟨onward, failing, again, busy, busy', busy''⟩ := appends_tail site
    obtain ⟨s', ret', eq', app⟩ :=
      holds.append (fit.append _ _ _ _ site) fun p hp => fresh p (congrArg Answer.append hp)
    rw [eq] at eq'
    cases eq'
    cases app with
    | wait => exact .inr (h.onward (more data) (again data) (busy'' data) false)
    | refuse => exact .inr (h.onward failed failing busy' false)
    | tooLong | noMemory => exact .inl rfl
    | chunk _ _ _ _ frame =>
      refine .inr ?_
      have h' : Awake { x with stream := s } := by
        rw [frame]
        exact ⟨h.fresh, h.wakes, h.tail, h.returned⟩
      rw [afterTurn]
      split
      · exact h'.onward done onward busy _
      · exact h'.onward (more _) (again _) (busy'' _) _
  | waitFailed site =>
    obtain ⟨_, failing, _, _, busy, _⟩ := appends_tail site
    exact .inr (h.onward _ failing busy false)
  | @complete bb _ =>
    exact .inr (h.complete live (.filtering bb) fun past => absurd past Bool.false_ne_true)
  | tailComplete at_phase =>
    have past : pastTail x.worker.phase = true := by
      rw [at_phase]
      rfl
    exact .inr (h.complete live .returned fun _ => h.tail past)

/-- nghttp3 reads. It waits for more only if the response is not complete. -/
lemma Awake.read {r : ReadResult} {s : Stream} {sent rest : Cells} (h : Awake x)
    (submitted : x.stream.responseSubmitted = true) (reads : ReadOutcome x.stream sent rest r s) :
    refused s = true ∨ Awake { x with
      stream := s, reader := .after r, outstanding := x.outstanding + r.vecs.flatten.length } := by
  have onward : (∀ t : Stream, t.responseSubmitted = x.stream.responseSubmitted →
      t.responseComplete = x.stream.responseComplete →
      (t.responseComplete = true → BodyReader.after r ≠ .suspended) →
      Awake { x with stream := t, reader := .after r,
                     outstanding := x.outstanding + r.vecs.flatten.length }) := by
    intro t same same' wakes
    refine ⟨?_, wakes, fun _ => same.trans submitted, fun is => same'.trans (h.returned is)⟩
    intro is
    rw [same, submitted] at is
    cases is
  cases reads with
  | cancelled is =>
    refine .inl ?_
    rw [refused, Stream.gone, is]
    rfl
  | chunks _ _ _ _ _ _ _ _ _ more _ frame =>
    refine .inr (onward s (by rw [frame]) (by rw [frame]) fun _ => ?_)
    rw [BodyReader.after, if_neg more]
    split <;> exact BodyReader.noConfusion
  | finished _ _ eq =>
    subst eq
    exact .inr (onward _ rfl rfl fun _ => BodyReader.noConfusion)
  | wouldBlock _ unfinished eq =>
    subst eq
    refine .inr (onward _ rfl rfl fun complete => ?_)
    rw [unfinished] at complete
    cases complete

/-- A session that refuses does not come back for the worker. -/
lemma refused_move {a : Answer} {act : Act} {s s' : Stream} {w' : Responder} {xs : Cells}
    (m : Moves w s a w' s' act) (fit : Fit w s) (holds : Holds s xs)
    (fresh : ∀ p, a = .append (some p) → s.responseQueue.mem p = none) (is : refused s = true) :
    refused s' = true := by
  cases m with
  | submit _ eq =>
    rcases submitResponseNva_cases eq with ⟨_, rfl, _⟩ | ⟨_, rfl, _⟩ | ⟨_, rfl, _⟩ | ⟨_, rfl, _⟩
    · exact is
    · exact is
    · exact is
    · rfl
  | append site eq =>
    obtain ⟨_, _, eq', app⟩ :=
      holds.append (fit.append _ _ _ _ site) fun p hp => fresh p (congrArg Answer.append hp)
    rw [eq] at eq'
    cases eq'
    cases app with
    | wait | refuse => exact is
    | tooLong | noMemory => rfl
    | chunk live => exact absurd (live.symm.trans is) Bool.false_ne_true
  | _ => exact is

/-- A response that is refused stays refused. -/
lemma Step.refused (st : Step x e y) (conveyed : Conveyed es x) (is : refused x.stream = true) :
    refused y.stream = true := by
  cases st with
  | worker fresh _ _ eq =>
    obtain ⟨sent, rest, linked, _⟩ := conveyed.queue
    exact refused_move (step_moves eq) conveyed.fit linked.split.holds fresh is
  | read _ _ _ _ _ _ eq =>
    dsimp only
    rw [(sessionReadData_frame eq).1]
    exact is
  | ack _ _ eq =>
    dsimp only
    rw [ackLoop_frame eq]
    exact is
  | cancel => rfl
  | session aborted dead gone => exact refused_session aborted dead gone is

/-- Every step keeps nghttp3 awake, unless the session refuses. -/
lemma Awake.step (h : refused x.stream = true ∨ Awake x) (conveyed : Conveyed es x)
    (st : Step x e y) :
    refused y.stream = true ∨ Awake y := by
  obtain ⟨sent, rest, linked, _⟩ := conveyed.queue
  cases live : refused x.stream with
  | true => exact .inl (st.refused conveyed live)
  | false =>
    have awake := h.resolve_left (by rw [live]; decide)
    cases st with
    | worker fresh _ _ eq =>
      exact awake.move live conveyed.fit linked.split.holds (step_moves eq) fresh
    | read pos _ submitted _ _ _ eq => exact awake.read submitted (linked.split.read pos eq)
    | ack _ _ eq =>
      refine .inr ?_
      rw [ackLoop_frame eq]
      exact ⟨awake.fresh, awake.wakes, awake.tail, awake.returned⟩
    | cancel => exact .inl rfl
    | session => exact .inr ⟨awake.fresh, awake.wakes, awake.tail, awake.returned⟩

end

/-- A response of three bytes, which nghttp3 reads before it is complete. -/
def threeBytes : List Event :=
  [.worker (.brigade [.data [1, 2, 3], .eos]) (.brigade [.data [1, 2, 3], .eos]),
    .worker (.submit 0) (.submit (.response none) true .success),
    .worker (.read (.ok 3)) (.read [1, 2, 3] (.ok 3)),
    .worker (.append (some 7)) (.append [1, 2, 3] (.chunk 3 true)),
    .read { vecs := [[1, 2, 3]], ret := .count 1, eof := false },
    .worker (.submit 0) (.submit (.response none) false .success),
    .worker .go (.complete true),
    .worker .go .skip,
    .worker .finished .finished,
    .worker (.submit 0) (.submit (.response none) false .success),
    .worker .go (.complete true),
    .read { vecs := [], ret := .count 0, eof := true }]

end ModHttp3.Worker.Exchange

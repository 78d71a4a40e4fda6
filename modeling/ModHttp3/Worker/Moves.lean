import Mathlib.Data.Option.Basic
import ModHttp3.Worker.Filter

/-!
# What a step of the worker can do

`Moves` lists the moves of `step`, one constructor for each way the worker can go on. The places
where a response is submitted and those where body bytes are appended share one constructor each,
over the sites `Submits` and `Appends`.
-/

namespace ModHttp3.Worker
open ModHttp3.Lib ModHttp3.Response

/-- Where the worker submits the response: with which context and headers it goes on, and with which
phase after success and after failure. -/
inductive Submits (w : Responder) : Ctx → Head → Phase → Phase → Prop where
  | response {resp bb} :
    w.ctx.streaming = true →
    w.phase = .filtering (.response resp :: bb) →
    Submits w { w.ctx with resp := some resp } (.response (some resp)) (.filtering bb) .handler
  | data {content bb} :
    w.ctx.streaming = true →
    w.phase = .filtering (.data content :: bb) →
    Submits w w.ctx (.response w.ctx.resp) (.reading content bb) .handler
  | flush {bb} :
    w.ctx.streaming = true →
    w.phase = .filtering (.flush :: bb) →
    Submits w w.ctx (.response w.ctx.resp) (.filtering bb) .handler
  | eos {bb} :
    w.ctx.streaming = true →
    w.phase = .filtering (.eos :: bb) →
    Submits w w.ctx (.response w.ctx.resp) (.completing bb) .handler
  | tail :
    w.phase = .tail →
    Submits w w.ctx (tailResponse w.ctx).1
      (if (tailResponse w.ctx).2 = [] then .tailCompleting else .tailAppending
        (tailResponse w.ctx).2)
      .tailCompleting

/-- Where the worker appends body bytes: the bytes, and the phases with bytes left, after the last
one and after an error. -/
inductive Appends (w : Responder) : List UInt8 → (List UInt8 → Phase) → Phase → Phase → Prop where
  | filter {data bb} :
    w.phase = .appending data bb →
    Appends w data (.appending · bb) (.filtering bb) .handler
  | tail {data} :
    w.phase = .tailAppending data →
    Appends w data .tailAppending .tailCompleting .tailCompleting

/-- The moves of the worker. -/
inductive Moves (w : Responder) (s : Stream) : Answer → Responder → Stream → Act → Prop where
  | brigade {bb} :
    w.phase = .handler →
    Moves w s (.brigade bb) { w with phase := .filtering bb } s (.brigade bb)
  | finished :
    w.phase = .handler →
    Moves w s .finished { w with phase := .tail } s .finished
  | brigadeEnd :
    w.phase = .filtering [] →
    Moves w s .go { w with phase := .handler } s .skip
  | error {bb} :
    w.phase = .filtering (.error :: bb) →
    Moves w s .go { w with phase := .handler } s .skip
  | response {resp bb} :
    w.ctx.streaming = false →
    w.phase = .filtering (.response resp :: bb) →
    Moves w s .go ⟨{ w.ctx with resp := some resp }, .filtering bb⟩ s .skip
  | skipData {content bb} :
    w.ctx.streaming = false →
    w.ctx.responseTooLarge = true →
    w.phase = .filtering (.data content :: bb) →
    Moves w s .go { w with phase := .filtering bb } s .skip
  | captureFailed {content bb} :
    w.ctx.streaming = false →
    w.phase = .filtering (.data content :: bb) →
    Moves w s (.read .failed) { w with phase := .filtering bb } s (.read content .failed)
  | capture {content bb n} :
    w.ctx.streaming = false →
    w.ctx.responseTooLarge = false →
    w.phase = .filtering (.data content :: bb) →
    Moves w s (.read (.ok n))
      ⟨captureBodyBucket w.ctx (content.take n), .filtering (splitOff content n bb)⟩ s
      (.read content (.ok n))
  | skip {b bb} :
    b = .metadata ∨ (w.ctx.streaming = false ∧ (b = .flush ∨ b = .eos)) →
    w.phase = .filtering (b :: bb) →
    Moves w s .go { w with phase := .filtering bb } s .skip
  | submit {ctx head ok failed rv s' status called} :
    Submits w ctx head ok failed →
    submitResponseNva s rv = (s', status, called) →
    Moves w s (.submit rv) ⟨ctx, if status = .success then ok else failed⟩ s'
    (.submit head called status)
  | readFailed {content bb} :
    w.phase = .reading content bb →
    Moves w s (.read .failed) { w with phase := .handler } s (.read content .failed)
  | read {content bb n} :
    w.phase = .reading content bb →
    Moves w s (.read (.ok n))
      { w with
        phase :=
          if content.take n = [] then .filtering (splitOff content n bb)
          else .appending (content.take n) (splitOff content n bb) } s
      (.read content (.ok n))
  | append {data more done failed malloc s' ret} :
    Appends w data more done failed →
    streamResponseAppendStep s data malloc = some (s', ret) →
    Moves w s (.append malloc) { w with phase := afterTurn data more done failed ret } s'
      (.append data ret)
  | waitFailed {data more done failed} :
    Appends w data more done failed →
    Moves w s .waitFailed { w with phase := failed } s .waitFailed
  | complete {bb} :
    w.phase = .completing bb →
    Moves w s .go { w with phase := .filtering bb } (streamResponseComplete s).1
      (.complete (streamResponseComplete s).2)
  | tailComplete :
    w.phase = .tailCompleting →
    Moves w s .go { w with phase := .returned } (streamResponseComplete s).1
      (.complete (streamResponseComplete s).2)

section
variable {w w' : Responder} {s s' : Stream} {a : Answer} {act : Act}

/-- A submission moves on by its status. -/
lemma submitStep_moves {ctx : Ctx} {head : Head} {ok failed phase : Phase}
    (site : Submits w ctx head ok failed)
    (eq : submitStep s head ok failed a = some (phase, s', act)) :
    Moves w s a ⟨ctx, phase⟩ s' act := by
  cases a with
  | submit rv =>
    simp only [submitStep, Option.some.injEq, Prod.mk.injEq] at eq
    obtain ⟨rfl, rfl, rfl⟩ := eq
    exact .submit site rfl
  | _ => cases eq

/-- An append moves on by what its turn ended with. -/
lemma appendStep_moves {data : List UInt8} {more : List UInt8 → Phase} {done failed phase : Phase}
    (site : Appends w data more done failed)
    (eq : appendStep s data more done failed a = some (phase, s', act)) :
    Moves w s a { w with phase := phase } s' act := by
  cases a with
  | append malloc =>
    simp only [appendStep, Option.bind_eq_bind, Option.bind_eq_some_iff] at eq
    obtain ⟨⟨t, ret⟩, eq1, eq⟩ := eq
    cases eq
    exact .append site eq1
  | waitFailed =>
    simp only [appendStep] at eq
    split at eq
    · cases eq
      exact .waitFailed site
    · cases eq
  | _ => cases eq

/-- A submission in the loop of the filter. -/
lemma bind_submitStep_moves {ctx : Ctx} {head : Head} {ok failed : Phase}
    (site : Submits w ctx head ok failed)
    (eq : ((submitStep s head ok failed a).bind fun r => some (⟨ctx, r.1⟩, r.2.1, r.2.2)) =
      some (w', s', act)) : Moves w s a w' s' act := by
  obtain ⟨⟨phase, t, act'⟩, eq1, eq⟩ := Option.bind_eq_some_iff.mp eq
  cases eq
  exact submitStep_moves site eq1

/-- The filter at a bucket, in streaming mode. -/
lemma filterStreaming_moves {ctx : Ctx} {b : Bucket} {bb : List Bucket} (hs : ctx.streaming = true)
    (eq : filterStreaming ctx s b bb a = some (w', s', act)) :
    Moves ⟨ctx, .filtering (b :: bb)⟩ s a w' s' act := by
  cases b with
  | error =>
    simp only [filterStreaming] at eq
    split at eq
    · rename_i ha
      cases eq
      rw [ha]
      exact .error rfl
    · cases eq
  | response resp => exact bind_submitStep_moves (.response hs rfl) eq
  | data content => exact bind_submitStep_moves (.data hs rfl) eq
  | flush => exact bind_submitStep_moves (.flush hs rfl) eq
  | eos => exact bind_submitStep_moves (.eos hs rfl) eq
  | metadata =>
    simp only [filterStreaming] at eq
    split at eq
    · rename_i ha
      cases eq
      rw [ha]
      exact .skip (.inl rfl) rfl
    · cases eq

/-- The filter at a data bucket, in buffered mode. -/
lemma filterBuffered_data_moves {ctx : Ctx} {content : List UInt8} {bb : List Bucket}
    (hs : ctx.streaming = false)
    (eq : filterBuffered ctx s (.data content) bb a = some (w', s', act)) :
    Moves ⟨ctx, .filtering (.data content :: bb)⟩ s a w' s' act := by
  cases a with
  | go =>
    simp only [filterBuffered] at eq
    split at eq
    · rename_i hl
      cases eq
      exact .skipData hs hl rfl
    · cases eq
  | read r =>
    simp only [filterBuffered] at eq
    split at eq
    · cases eq
    · rename_i hl
      rw [Bool.not_eq_true] at hl
      cases r with
      | failed =>
        cases eq
        exact .captureFailed hs rfl
      | ok n =>
        cases eq
        exact .capture hs hl rfl
  | _ => cases eq

/-- The filter at a bucket, in buffered mode. -/
lemma filterBuffered_moves {ctx : Ctx} {b : Bucket} {bb : List Bucket} (hs : ctx.streaming = false)
    (eq : filterBuffered ctx s b bb a = some (w', s', act)) :
    Moves ⟨ctx, .filtering (b :: bb)⟩ s a w' s' act := by
  cases b with
  | error =>
    cases a with
    | go =>
      cases eq
      exact .error rfl
    | _ => cases eq
  | response resp =>
    cases a with
    | go =>
      cases eq
      exact .response hs rfl
    | _ => cases eq
  | data content => exact filterBuffered_data_moves hs eq
  | flush =>
    cases a with
    | go =>
      cases eq
      exact .skip (.inr ⟨hs, .inl rfl⟩) rfl
    | _ => cases eq
  | eos =>
    cases a with
    | go =>
      cases eq
      exact .skip (.inr ⟨hs, .inr rfl⟩) rfl
    | _ => cases eq
  | metadata =>
    cases a with
    | go =>
      cases eq
      exact .skip (.inl rfl) rfl
    | _ => cases eq

/-- Every step is one of the moves. -/
theorem step_moves (eq : step w s a = some (w', s', act)) : Moves w s a w' s' act := by
  obtain ⟨ctx, phase⟩ := w
  cases phase with
  | handler =>
    cases a with
    | brigade bb =>
      cases eq
      exact .brigade rfl
    | finished =>
      cases eq
      exact .finished rfl
    | _ => cases eq
  | filtering bb =>
    cases bb with
    | nil =>
      simp only [step] at eq
      split at eq
      · rename_i ha
        cases eq
        rw [ha]
        exact .brigadeEnd rfl
      · cases eq
    | cons b bb =>
      simp only [step] at eq
      split at eq
      · exact filterStreaming_moves ‹_› eq
      · rename_i hs
        rw [Bool.not_eq_true] at hs
        exact filterBuffered_moves hs eq
  | reading content bb =>
    cases a with
    | read r =>
      cases r with
      | failed =>
        cases eq
        exact .readFailed rfl
      | ok n =>
        cases eq
        exact .read rfl
    | _ => cases eq
  | appending data bb =>
    obtain ⟨⟨phase, t, act'⟩, eq1, eq⟩ := Option.bind_eq_some_iff.mp eq
    cases eq
    exact appendStep_moves (.filter rfl) eq1
  | completing bb =>
    simp only [step] at eq
    split at eq
    · rename_i ha
      cases eq
      rw [ha]
      exact .complete rfl
    · cases eq
  | tail => exact bind_submitStep_moves (.tail rfl) eq
  | tailAppending data =>
    obtain ⟨⟨phase, t, act'⟩, eq1, eq⟩ := Option.bind_eq_some_iff.mp eq
    cases eq
    exact appendStep_moves (.tail rfl) eq1
  | tailCompleting =>
    simp only [step] at eq
    split at eq
    · rename_i ha
      cases eq
      rw [ha]
      exact .tailComplete rfl
    · cases eq
  | returned => cases eq

end

end ModHttp3.Worker

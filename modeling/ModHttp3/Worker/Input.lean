import ModHttp3.Lib.Run
import ModHttp3.Session.BodyBuffer

/-!
# The input filter

Model of `serve_request_body`, `input_filter_eos` and `h3_filter_in_proto` (`h3_filter.c`): a
handler reads the request body that the event thread stored, in the mode and the size of its choice,
and `request_body_offset` is where the next read begins.

`serveRequestBody` is the function down to the memory it refers to: it returns `none` when a bucket
or the search for a line end would leave what was written to the block. `Served` is what it does to
a cursor that `BodyReader.Holds` describes, one constructor for each way a read can go; everything
about sequences of reads is derived from that.

C → Lean naming: `ap_input_mode_t` → `InputMode`, the brigade `bb` is the list of its buckets, and
`ap_get_brigade` on the next filter is a parameter.
-/

namespace ModHttp3.Worker
open ModHttp3.Lib ModHttp3.H3

/-- How a handler reads (C `ap_input_mode_t`). -/
inductive InputMode where
  | readBytes
  | getLine
  | eatCrlf
  | speculative
  | exhaustive
  | init
deriving DecidableEq

/-- The buckets of an input brigade. -/
inductive InBucket where
  | data (content : List UInt8)
  | eos
deriving DecidableEq

/-- What a filter returns. -/
inductive ReadStatus where
  | success
  | eof
  | error
deriving DecidableEq

/-- The fields of a stream that a reader of the body uses. -/
structure BodyReader where
  requestBody : Block
  requestBodyLen : Nat
  requestBodyOffset : Nat
deriving DecidableEq

/-- The stored body, nothing of it read. -/
def BodyReader.opened (b : BodyBuffer) : BodyReader where
  requestBody := b.requestBody
  requestBodyLen := b.requestBodyLen
  requestBodyOffset := 0

/-- The byte that ends a line. -/
def lf : UInt8 := 10

/-- How many of the `avail` bytes of `unread` a read takes. -/
def wanted (mode : InputMode) (readbytes : Int) (unread : List UInt8) (avail : Nat) : Nat :=
  match mode with
  | .readBytes | .speculative =>
    if 0 < readbytes ∧ readbytes.toNat < avail then readbytes.toNat else avail
  | .getLine =>
    match unread.findIdx? (· == lf) with
    | some nl => nl + 1
    | none => avail
  | _ => avail

/-- A read of the stored body (C `serve_request_body`). -/
def serveRequestBody (h3s : BodyReader) (bb : List InBucket) (mode : InputMode) (readbytes : Int) :
    Option (BodyReader × List InBucket) :=
  if mode ≠ .readBytes ∧ mode ≠ .getLine ∧ mode ≠ .exhaustive ∧ mode ≠ .speculative then
    some (h3s, bb)
  else
    let avail := sizeSub h3s.requestBodyLen h3s.requestBodyOffset
    if avail = 0 then
      some (h3s, bb ++ [.eos])
    else do
      let block : Block := h3s.requestBody.drop h3s.requestBodyOffset
      let unread ← block.read avail
      let want := wanted mode readbytes unread avail
      let content ← block.read want
      let bb := bb ++ [.data content]
      if mode ≠ .speculative then
        let offset := sizeAdd h3s.requestBodyOffset want
        some ({ h3s with requestBodyOffset := offset },
          if offset ≥ h3s.requestBodyLen then bb ++ [.eos] else bb)
      else
        some (h3s, bb)

/-- A read where there is no body (C `input_filter_eos`); `next` is `ap_get_brigade` on the next
filter. -/
def inputFilterEos (next : Option (List InBucket → InputMode → Int → ReadStatus × List InBucket))
    (bb : List InBucket) (mode : InputMode) (readbytes : Int) : ReadStatus × List InBucket :=
  if mode ≠ .readBytes ∧ mode ≠ .getLine then
    match next with
    | none => (.eof, bb)
    | some getBrigade => getBrigade bb mode readbytes
  else if bb ≠ [] then
    (.success, bb)
  else
    (.success, bb ++ [.eos])

/-- The input filter of a request (C `h3_filter_in_proto`); `h3s` is the stream of the request's
context, if it has one. -/
def filterInProto (next : Option (List InBucket → InputMode → Int → ReadStatus × List InBucket))
    (h3s : Option BodyReader) (bb : List InBucket) (mode : InputMode) (readbytes : Int) :
    Option (Option BodyReader × ReadStatus × List InBucket) :=
  match h3s with
  | none => some (none, inputFilterEos next bb mode readbytes)
  | some h3s => do
    let (h3s, bb) ← serveRequestBody h3s bb mode readbytes
    some (some h3s, .success, bb)

/-- What a handler asks for: the brigade it passes, the mode and the size. -/
structure Request where
  bb : List InBucket
  mode : InputMode
  readbytes : Int
deriving DecidableEq

/-- A read, with the buckets that were added to the brigade. -/
structure Read where
  req : Request
  added : List InBucket
deriving DecidableEq

/-- One read through the filter. -/
def BodyReader.read (next : Option (List InBucket → InputMode → Int → ReadStatus × List InBucket))
    (h3s : BodyReader) (req : Request) : Option (BodyReader × Read) :=
  match filterInProto next (some h3s) req.bb req.mode req.readbytes with
  | some (some h3s, .success, bb) => some (h3s, ⟨req, bb.drop req.bb.length⟩)
  | _ => none

/-- The modes in which body bytes are returned. -/
def InputMode.serves (mode : InputMode) : Bool :=
  mode == .readBytes || mode == .getLine || mode == .exhaustive || mode == .speculative

/-- The modes that move the cursor. -/
def InputMode.consumes (mode : InputMode) : Bool :=
  mode == .readBytes || mode == .getLine || mode == .exhaustive

/-- The modes that consume are those that serve data and are not speculative. -/
lemma InputMode.consumes_iff {mode : InputMode} :
    mode.consumes = true ↔ mode.serves = true ∧ mode ≠ .speculative := by
  cases mode <;> decide

/-- The bytes in a list of buckets. -/
def contentOf : List InBucket → List UInt8
  | [] => []
  | .data content :: bs => content ++ contentOf bs
  | .eos :: bs => contentOf bs

/-- The bytes that the reads which move the cursor returned. -/
def delivered (es : List Read) : List UInt8 :=
  (es.filter (·.req.mode.consumes)).flatMap (contentOf ·.added)

/-- The cursor reads this body. -/
structure BodyReader.Holds (s : BodyReader) (body : List UInt8) : Prop where
  starts : s.requestBody.Starts body
  len : s.requestBodyLen = body.length
  small : body.length < 2 ^ 64
  offset : s.requestBodyOffset ≤ body.length

/-- A stored body can be read. -/
lemma BodyReader.Holds.opened {b : BodyBuffer} {x : H3Stream} (stored : b.Holds x)
    (small : x.requestBody.length < 2 ^ 64) : (BodyReader.opened b).Holds x.requestBody :=
  ⟨stored.body, stored.len, small, Nat.zero_le _⟩

/-- A read at `s` takes `want` of the bytes that are left. -/
structure Takes (body : List UInt8) (s : BodyReader) (mode : InputMode) (readbytes : Int)
    (want : Nat) :
    Prop where
  eq : want = wanted mode readbytes (body.drop s.requestBodyOffset)
    (body.length - s.requestBodyOffset)
  pos : 0 < want
  le : s.requestBodyOffset + want ≤ body.length

/-- What a read does to a cursor over `body`: the cursor after it, and the buckets it adds. -/
inductive Served (body : List UInt8) (s : BodyReader) (mode : InputMode) (readbytes : Int) :
    BodyReader → List InBucket → Prop where
  | idle :
    mode.serves = false →
    Served body s mode readbytes s []
  | ended :
    mode.serves = true →
    s.requestBodyOffset = body.length →
    Served body s mode readbytes s [.eos]
  | peek {want} :
    mode = .speculative →
    Takes body s mode readbytes want →
    Served body s mode readbytes s [.data ((body.drop s.requestBodyOffset).take want)]
  | part {want} :
    mode.consumes = true →
    Takes body s mode readbytes want →
    s.requestBodyOffset + want < body.length →
    Served body s mode readbytes { s with requestBodyOffset := s.requestBodyOffset + want }
      [.data ((body.drop s.requestBodyOffset).take want)]
  | rest {want} :
    mode.consumes = true →
    Takes body s mode readbytes want →
    s.requestBodyOffset + want = body.length →
    Served body s mode readbytes { s with requestBodyOffset := body.length }
      [.data (body.drop s.requestBodyOffset), .eos]

section
variable {next : Option (List InBucket → InputMode → Int → ReadStatus × List InBucket)}
  {body : List UInt8} {s t : BodyReader} {bb added : List InBucket} {mode : InputMode}
    {readbytes : Int}
  {req : Request}

/-- A read takes at least one byte, and no more than there are. -/
lemma wanted_bounds (mode : InputMode) (readbytes : Int) {unread : List UInt8}
    (left : 0 < unread.length) :
    0 < wanted mode readbytes unread unread.length ∧
    wanted mode readbytes unread unread.length ≤ unread.length := by
  have sized :
    0 <
      (if 0 < readbytes ∧ readbytes.toNat < unread.length then readbytes.toNat else unread.length) ∧
      (if 0 < readbytes ∧ readbytes.toNat < unread.length then readbytes.toNat else unread.length) ≤
        unread.length := by
    split <;> omega
  cases mode with
  | readBytes => exact sized
  | speculative => exact sized
  | getLine =>
    rw [wanted]
    split
    · rename_i nl found
      obtain ⟨lt, _⟩ := List.findIdx?_eq_some_iff_getElem.mp found
      omega
    · omega
  | eatCrlf => exact ⟨left, Nat.le_refl _⟩
  | exhaustive => exact ⟨left, Nat.le_refl _⟩
  | init => exact ⟨left, Nat.le_refl _⟩

/-- What is left of the body lies behind the cursor. -/
lemma BodyReader.Holds.read (h : s.Holds body) {n : Nat}
    (le : s.requestBodyOffset + n ≤ body.length) :
    Block.read (s.requestBody.drop s.requestBodyOffset) n =
      some ((body.drop s.requestBodyOffset).take n) := by
  have starts := (h.starts.drop s.requestBodyOffset).mono (List.take_prefix n _)
  have length : ((body.drop s.requestBodyOffset).take n).length = n := by
    rw [List.length_take, List.length_drop]
    omega
  have read := starts.read
  rwa [length] at read

/-- Every read returns, and goes in one of the ways of `Served`. -/
lemma BodyReader.Holds.serve (h : s.Holds body) (bb : List InBucket) (mode : InputMode)
    (readbytes : Int) :
    ∃ t added, serveRequestBody s bb mode readbytes = some (t, bb ++ added) ∧
      Served body s mode readbytes t added := by
  by_cases serves : mode.serves = true
  swap
  · refine ⟨s, [], ?_, .idle (by simpa using serves)⟩
    rw [List.append_nil, serveRequestBody, if_pos (by cases mode <;> simp_all [InputMode.serves])]
  have offset := h.offset
  have small := h.small
  have len := h.len
  have avail : sizeSub s.requestBodyLen s.requestBodyOffset =
      body.length - s.requestBodyOffset := by
    rw [h.len, sizeSub_of_le offset h.small]
  rw [serveRequestBody, if_neg (by cases mode <;> simp_all [InputMode.serves]), avail]
  by_cases ended : body.length - s.requestBodyOffset = 0
  · exact ⟨s, [.eos], if_pos ended, .ended serves (by omega)⟩
  have left : (body.drop s.requestBodyOffset).length = body.length - s.requestBodyOffset :=
    List.length_drop
  have unread :=
    h.read (show s.requestBodyOffset + (body.length - s.requestBodyOffset) ≤ _ by omega)
  rw [List.take_of_length_le (by omega)] at unread
  obtain ⟨want, takes⟩ : ∃ want, Takes body s mode readbytes want := by
    have bounds : 0 < _ ∧ _ :=
      wanted_bounds mode readbytes (show 0 < (body.drop s.requestBodyOffset).length by omega)
    rw [left] at bounds
    exact ⟨_, rfl, bounds.1, by omega⟩
  have bound := takes.le
  simp only [if_neg ended, unread, Option.bind_eq_bind, Option.bind_some, ← takes.eq,
    h.read takes.le]
  by_cases speculative : mode = .speculative
  · exact ⟨s, _, if_neg (by simp [speculative]), .peek speculative takes⟩
  rw [if_pos speculative, sizeAdd_of_lt (by omega)]
  have consumes := InputMode.consumes_iff.mpr ⟨serves, speculative⟩
  by_cases last : s.requestBodyOffset + want = body.length
  · refine ⟨_, _, ?_, .rest consumes takes last⟩
    rw [if_pos (by omega), last, List.take_of_length_le (by omega), List.append_assoc]
    rfl
  · refine ⟨_, _, ?_, .part consumes takes (by omega)⟩
    rw [if_neg (by omega)]

/-- The cursor stays in the body. -/
lemma Served.holds (sv : Served body s mode readbytes t added) (h : s.Holds body) :
    t.Holds body := by
  cases sv with
  | idle => exact h
  | ended => exact h
  | peek => exact h
  | part _ _ lt => exact ⟨h.starts, h.len, h.small, Nat.le_of_lt lt⟩
  | rest => exact ⟨h.starts, h.len, h.small, Nat.le_refl _⟩

/-- A read that moves the cursor returns the bytes between where it was and where it is. -/
lemma Served.content (sv : Served body s mode readbytes t added) (consumes : mode.consumes = true) :
    body.take t.requestBodyOffset = body.take s.requestBodyOffset ++ contentOf added := by
  cases sv with
  | idle idle => simp [InputMode.consumes_iff, idle] at consumes
  | ended => exact (List.append_nil _).symm
  | peek speculative => simp [InputMode.consumes_iff, speculative] at consumes
  | part => simp only [contentOf, List.append_nil, List.take_add]
  | rest => simp only [contentOf, List.append_nil, List.take_length, List.take_append_drop]

/-- What was left before a read is what it returned and what is left after it. -/
lemma Served.left (sv : Served body s mode readbytes t added) (consumes : mode.consumes = true) :
    body.drop s.requestBodyOffset = contentOf added ++ body.drop t.requestBodyOffset := by
  have whole : body.take s.requestBodyOffset ++ body.drop s.requestBodyOffset =
      body.take s.requestBodyOffset ++ (contentOf added ++ body.drop t.requestBodyOffset) := by
    rw [← List.append_assoc, ← sv.content consumes, List.take_append_drop, List.take_append_drop]
  exact List.append_cancel_left whole

/-- The other reads do not move it. -/
lemma Served.unmoved (sv : Served body s mode readbytes t added) (keeps : mode.consumes = false) :
    t = s := by
  cases sv with
  | idle => rfl
  | ended => rfl
  | peek => rfl
  | part consumes => simp [keeps] at consumes
  | rest consumes => simp [keeps] at consumes

/-- A read reports the end only where the cursor is at the end after it. -/
lemma Served.at_end (sv : Served body s mode readbytes t added) (eos : .eos ∈ added) :
    t.requestBodyOffset = body.length := by
  cases sv with
  | idle => simp at eos
  | ended _ at_end => exact at_end
  | peek => simp at eos
  | part => simp at eos
  | rest => rfl

/-- A read that moves the cursor to the end reports it. -/
lemma Served.eos (sv : Served body s mode readbytes t added) (consumes : mode.consumes = true)
    (at_end : t.requestBodyOffset = body.length) : .eos ∈ added := by
  cases sv with
  | idle idle => simp [InputMode.consumes_iff, idle] at consumes
  | ended => simp
  | peek speculative => simp [InputMode.consumes_iff, speculative] at consumes
  | part _ _ lt =>
    dsimp only at at_end
    omega
  | rest => simp

/-- A read that does not report the end takes at least one byte. -/
lemma Served.forward (sv : Served body s mode readbytes t added) (consumes : mode.consumes = true)
    (more : .eos ∉ added) : s.requestBodyOffset < t.requestBodyOffset := by
  cases sv with
  | idle idle => simp [InputMode.consumes_iff, idle] at consumes
  | ended => simp at more
  | peek speculative => simp [InputMode.consumes_iff, speculative] at consumes
  | part _ takes => exact Nat.lt_add_of_pos_right takes.pos
  | rest => simp at more

/-- At the end every read of data reports it and does nothing else. -/
lemma Served.ended_eq (sv : Served body s mode readbytes t added) (serves : mode.serves = true)
    (at_end : s.requestBodyOffset = body.length) : t = s ∧ added = [.eos] := by
  cases sv with
  | idle idle => simp [serves] at idle
  | ended => exact ⟨rfl, rfl⟩
  | peek _ takes => have := takes.pos; have := takes.le; omega
  | part _ takes => have := takes.pos; have := takes.le; omega
  | rest _ takes => have := takes.pos; have := takes.le; omega

/-- Before the end a read of data returns as much as its mode takes. -/
lemma Served.taken (sv : Served body s mode readbytes t added) (serves : mode.serves = true)
    (before : s.requestBodyOffset ≠ body.length) :
    contentOf added = (body.drop s.requestBodyOffset).take
      (wanted mode readbytes (body.drop s.requestBodyOffset)
        (body.length - s.requestBodyOffset)) := by
  cases sv with
  | idle idle => simp [serves] at idle
  | ended _ at_end => exact absurd at_end before
  | peek _ takes => rw [← takes.eq, contentOf, contentOf, List.append_nil]
  | part _ takes => rw [← takes.eq, contentOf, contentOf, List.append_nil]
  | rest _ takes last =>
    rw [← takes.eq, List.take_of_length_le (by rw [List.length_drop]; omega)]
    simp only [contentOf, List.append_nil]

/-- A line ends with the first line feed that is left. -/
lemma Served.line (sv : Served body s .getLine readbytes t added)
    (left : lf ∈ body.drop s.requestBodyOffset) :
    ∃ line, lf ∉ line ∧ contentOf added = line ++ [lf] ∧
    contentOf added <+: body.drop s.requestBodyOffset := by
  obtain ⟨nl, found⟩ : ∃ nl, (body.drop s.requestBodyOffset).findIdx? (· == lf) = some nl := by
    rw [← Option.isSome_iff_exists, List.findIdx?_isSome]
    exact List.any_eq_true.mpr ⟨lf, left, beq_self_eq_true _⟩
  obtain ⟨lt, is_lf, before⟩ := List.findIdx?_eq_some_iff_getElem.mp found
  -- the bytes before the line feed, and the line feed
  have line : (body.drop s.requestBodyOffset).take (nl + 1) =
      (body.drop s.requestBodyOffset).take nl ++ [lf] := by
    rw [List.take_succ_eq_append_getElem lt, eq_of_beq is_lf]
  have noLf : lf ∉ (body.drop s.requestBodyOffset).take nl := by
    intro mem
    obtain ⟨i, hi, eq⟩ := List.getElem_of_mem mem
    rw [List.length_take] at hi
    rw [List.getElem_take] at eq
    exact before i (by omega) (by rw [eq]; exact beq_self_eq_true _)
  have whole : contentOf added = (body.drop s.requestBodyOffset).take (nl + 1) := by
    rw [sv.taken rfl (by intro at_end; simp [at_end] at left), wanted, found]
  exact ⟨_, noLf, whole.trans line, whole ▸ List.take_prefix _ _⟩

/-- Every request of a handler is answered. -/
lemma BodyReader.Holds.answer (h : s.Holds body)
    (next : Option (List InBucket → InputMode → Int → ReadStatus × List InBucket)) (req : Request) :
    ∃ t added, s.read next req = some (t, ⟨req, added⟩) ∧
    Served body s req.mode req.readbytes t added := by
  obtain ⟨t, added, eq, sv⟩ := h.serve req.bb req.mode req.readbytes
  refine ⟨t, added, ?_, sv⟩
  simp only [BodyReader.read, filterInProto, eq, Option.bind_eq_bind, Option.bind_some,
    List.drop_left]

/-- A read as a step of the cursor. -/
def Reads (next : Option (List InBucket → InputMode → Int → ReadStatus × List InBucket))
    (s : BodyReader) (e : Read) (t : BodyReader) : Prop :=
  s.read next e.req = some (t, e)

/-- A read is served from the body. -/
lemma Reads.served {e : Read} (rd : Reads next s e t) (h : s.Holds body) :
    Served body s e.req.mode e.req.readbytes t e.added := by
  obtain ⟨req, _⟩ := e
  obtain ⟨t', added, eq, sv⟩ := h.answer next req
  rw [Reads, eq] at rd
  cases rd
  exact sv

/-- `BodyReader.read` makes a read. -/
lemma BodyReader.read_reads {e : Read} (eq : s.read next req = some (t, e)) : Reads next s e t := by
  have same : e.req = req := by
    rw [BodyReader.read] at eq
    split at eq
    · cases eq
      rfl
    · cases eq
  rw [Reads, same]
  exact eq

/-- The cursor after the reads `es`. -/
structure Progress (body : List UInt8) (es : List Read) (s : BodyReader) : Prop where
  holds : s.Holds body
  delivered : delivered es = body.take s.requestBodyOffset
  ended : (∃ e ∈ es, .eos ∈ e.added) → s.requestBodyOffset = body.length

/-- What was delivered with one more read. -/
lemma delivered_snoc (es : List Read) (e : Read) : delivered (es ++ [e]) =
    delivered es ++ if e.req.mode.consumes then contentOf e.added else [] := by
  rw [delivered, List.filter_append, List.flatMap_append]
  congr 1
  cases consumes : e.req.mode.consumes <;> simp [consumes]

/-- One more read. -/
lemma Progress.step {es : List Read} {e : Read} (p : Progress body es s) (rd : Reads next s e t) :
    Progress body (es ++ [e]) t := by
  have sv := rd.served p.holds
  refine ⟨sv.holds p.holds, ?_, ?_⟩
  · rw [delivered_snoc, p.delivered]
    cases consumes : e.req.mode.consumes with
    | true => exact (sv.content consumes).symm
    | false => rw [sv.unmoved consumes]; simp
  · rintro ⟨d, mem, eos⟩
    rcases List.mem_append.mp mem with mem | mem
    · have at_end := p.ended ⟨d, mem, eos⟩
      by_cases serves : e.req.mode.serves = true
      · rw [(sv.ended_eq serves at_end).1]
        exact at_end
      · rw
          [sv.unmoved (Bool.eq_false_iff.mpr fun consumes => serves
            (InputMode.consumes_iff.mp consumes).1)]
        exact at_end
    · rw [List.mem_singleton] at mem
      subst mem
      exact sv.at_end eos

/-- All reads of a handler. -/
lemma Progress.run {es : List Read} (h : s.Holds body) (start : s.requestBodyOffset = 0)
    (r : Run (Reads next) s es t) : Progress body es t := by
  refine r.invariant_hist (fun es s e t p rd => p.step rd) ⟨h, ?_, ?_⟩
  · rw [start]
    rfl
  · rintro ⟨_, mem, _⟩
    cases mem

/-- A reader that goes on until the end is reported gets all that is left, in finitely many
reads. -/
lemma BodyReader.Holds.drained (h : s.Holds body) (f : Nat → Request)
    (consumes : ∀ n, (f n).mode.consumes = true) :
    ∃ n t es e, execAll (BodyReader.read next) s ((List.range (n + 1)).map f) =
      some (t, es ++ [e]) ∧ .eos ∈ e.added ∧ (∀ d ∈ es, .eos ∉ d.added) ∧
      (es ++ [e]).flatMap (contentOf ·.added) = body.drop s.requestBodyOffset := by
  generalize bound : body.length - s.requestBodyOffset = k
  induction k using Nat.strong_induction_on generalizing s f with
  | _ k ih =>
    obtain ⟨t, added, eq, sv⟩ := h.answer next (f 0)
    have left := sv.left (consumes 0)
    by_cases eos : .eos ∈ added
    · refine ⟨0, t, [], ⟨f 0, added⟩, ?_, eos, by simp, ?_⟩
      · simp [execAll, eq]
      · rw [left, sv.at_end eos, List.drop_length]
        simp
    have forward := sv.forward (consumes 0) eos
    have offset := (sv.holds h).offset
    obtain ⟨n, u, es, e, eq', eos', noEos, content⟩ :=
      ih (body.length - t.requestBodyOffset) (by omega) (sv.holds h) (fun n => f (n + 1))
        (fun n => consumes (n + 1)) rfl
    refine ⟨n + 1, u, ⟨f 0, added⟩ :: es, e, ?_, eos', ?_, ?_⟩
    · rw [List.range_succ_eq_map, List.map_cons, List.map_map, execAll, eq]
      dsimp only
      rw [show f ∘ Nat.succ = fun n => f (n + 1) from rfl, eq']
      rfl
    · intro d mem
      rcases List.mem_cons.mp mem with rfl | mem
      · exact eos
      · exact noEos d mem
    · rw [List.cons_append, List.flatMap_cons, content, left]

/-- What one read promises: a speculative one changes nothing and returns what a read of that size
would, a line ends at the first line feed, the end is reported exactly when it is reached, and the
modes that are not about data do nothing. -/
structure Promised (next : Option (List InBucket → InputMode → Int → ReadStatus × List InBucket))
    (body : List UInt8) (s : BodyReader) (req : Request) (t : BodyReader) (added : List InBucket) :
    Prop where
  speculative : req.mode = .speculative →
    t = s ∧ ∃ u e, s.read next { req with mode := .readBytes } = some (u, e) ∧
      contentOf added = contentOf e.added
  line : req.mode = .getLine → lf ∈ body.drop s.requestBodyOffset →
    ∃ line, lf ∉ line ∧ contentOf added = line ++ [lf] ∧
    contentOf added <+: body.drop s.requestBodyOffset
  eos : req.mode.consumes = true → (.eos ∈ added ↔ t.requestBodyOffset = body.length)
  idle : req.mode.serves = false → t = s ∧ added = []

/-- Every way a read can go keeps the promises. -/
lemma Served.promised (sv : Served body s req.mode req.readbytes t added) (h : s.Holds body) :
    Promised next body s req t added := by
  refine ⟨?_, ?_, fun consumes => ⟨sv.at_end, sv.eos consumes⟩, ?_⟩
  · intro speculative
    have unmoved := sv.unmoved (by rw [speculative]; rfl)
    refine ⟨unmoved, ?_⟩
    obtain ⟨u, added', eq, sv'⟩ := h.answer next { req with mode := .readBytes }
    refine ⟨u, _, eq, ?_⟩
    rw [speculative] at sv
    by_cases at_end : s.requestBodyOffset = body.length
    · rw [(sv.ended_eq rfl at_end).2, (sv'.ended_eq rfl at_end).2]
    · rw [sv.taken rfl at_end, sv'.taken rfl at_end]
      rfl
  · intro getLine left
    rw [getLine] at sv
    exact sv.line left
  · intro idle
    cases sv with
    | idle => exact ⟨rfl, rfl⟩
    | ended serves => simp [idle] at serves
    | peek speculative => simp [speculative, InputMode.serves] at idle
    | part consumes => simp [InputMode.consumes_iff, idle] at consumes
    | rest consumes => simp [InputMode.consumes_iff, idle] at consumes

end

/-- For every stored body and every sequence of reads: the cursor stays in the body; the reads that
move it return the bytes before it, each once and in order; every request is answered as promised;
once the end was reported, every read of data reports it; and a reader that goes on until then gets
all that is left. -/
theorem request_body_delivered
    {next : Option (List InBucket → InputMode → Int → ReadStatus × List InBucket)}
    {b : BodyBuffer} {x : H3Stream} (stored : b.Holds x) (small : x.requestBody.length < 2 ^ 64)
    {es : List Read} {s : BodyReader} (r : Run (Reads next) (.opened b) es s) :
    s.requestBodyOffset ≤ s.requestBodyLen ∧
    delivered es = x.requestBody.take s.requestBodyOffset ∧
    (∀ req, ∃ t added, s.read next req = some (t, ⟨req, added⟩) ∧
      Promised next x.requestBody s req t added) ∧
    ((∃ e ∈ es, .eos ∈ e.added) →
      ∀ req, req.mode.serves = true → s.read next req = some (s, ⟨req, [.eos]⟩)) ∧
    (∀ f : Nat → Request, (∀ n, (f n).mode.consumes = true) →
      ∃ n t ds d, execAll (BodyReader.read next) s ((List.range (n + 1)).map f) =
        some (t, ds ++ [d]) ∧ .eos ∈ d.added ∧ (∀ d ∈ ds, .eos ∉ d.added) ∧
        (ds ++ [d]).flatMap (contentOf ·.added) = x.requestBody.drop s.requestBodyOffset) := by
  have p : Progress x.requestBody es s := .run (.opened stored small) rfl r
  refine ⟨?_, p.delivered, ?_, ?_, fun f consumes => p.holds.drained f consumes⟩
  · rw [p.holds.len]
    exact p.holds.offset
  · intro req
    obtain ⟨t, added, eq, sv⟩ := p.holds.answer next req
    exact ⟨t, added, eq, sv.promised p.holds⟩
  · intro ended req serves
    obtain ⟨t, added, eq, sv⟩ := p.holds.answer next req
    obtain ⟨rfl, rfl⟩ := sv.ended_eq serves (p.ended ended)
    exact eq

/-- A stored body of two lines. -/
def twoLines : BodyBuffer where
  requestBody := [some 97, some 10, some 98, some 99, none]
  requestBodyLen := 4
  requestBodyCapacity := 5
  requestBodyOverflow := false

/-- The stream object that has it. -/
def twoLinesStream : H3Stream :=
  { H3Stream.init 0 none with requestBody := [97, 10, 98, 99], requestBodyCapacity := 5 }

/-- Three bytes are looked at, then a line is read, and then the rest. -/
theorem request_body_delivered_twoLines :
    ∃ es s, Run (Reads none) (.opened twoLines) es s ∧
      es.map (·.added) = [[.data [97, 10, 98]], [.data [97, 10]], [.data [98, 99], .eos]] ∧
      delivered es = [97, 10, 98, 99] ∧
      s.read none ⟨[], .speculative, -1⟩ = some (s, ⟨⟨[], .speculative, -1⟩, [.eos]⟩) := by
  have stored : twoLines.Holds twoLinesStream := ⟨⟨[none], rfl⟩, rfl, rfl, rfl, rfl⟩
  obtain ⟨s, es, eq, added, offset⟩ : ∃ s es, execAll (BodyReader.read none) (.opened twoLines)
      [⟨[], .speculative, 3⟩, ⟨[], .getLine, 0⟩, ⟨[], .readBytes, 0⟩] = some (s, es) ∧
      es.map (·.added) = [[.data [97, 10, 98]], [.data [97, 10]], [.data [98, 99], .eos]] ∧
      s.requestBodyOffset = 4 := ⟨_, _, rfl, by decide⟩
  have r : Run (Reads none) (.opened twoLines) es s := by
    refine execAll_run ?_ eq
    intro s req t e eq
    exact BodyReader.read_reads eq
  obtain ⟨_, whole, _, ended, _⟩ := request_body_delivered stored (by decide) r
  refine ⟨es, s, r, added, by rw [whole, offset]; rfl, ended ?_ _ rfl⟩
  obtain ⟨e, mem, last⟩ : ∃ e ∈ es, e.added = [.data [98, 99], .eos] :=
    List.mem_map.mp (by simp [added])
  exact ⟨e, mem, by simp [last]⟩

end ModHttp3.Worker

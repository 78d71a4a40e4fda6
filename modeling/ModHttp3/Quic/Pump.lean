import ModHttp3.Quic.Isolation

/-!
# The datagram pump

Model of `h3q_engine_pump` (`quic/h3q.c`), which lets OpenSSL handle events until the queue of the
filter BIO is empty. OpenSSL answers a call of `SSL_handle_events` by calling the receive handler
once; what it passes to the handler, what the handler finds below it and what `SSL_handle_events`
returns is open.

The queue is refilled and emptied inside these calls. A call on a queue that is not empty takes
exactly one datagram off it, delivered or lost, and never asks the BIO below (`Queued.pop`); a call
on an empty queue leaves at most what it found below (`Queued.fill`). So the length of the queue
bounds the number of calls (`pump_cannot_spin`).
-/

namespace ModHttp3.Quic
open ModHttp3.Lib

/-- The allocator returns distinct unused addresses. -/
structure Call.Allocates (c : Call) (e : Engine) : Prop where
  fresh : ∀ a ∈ c.allocs.filterMap Alloc.item, (e.peerRx.mem a).isNone
  distinct : (c.allocs.filterMap Alloc.item).Nodup

instance (c : Call) (e : Engine) : Decidable (c.Allocates e) :=
  decidable_of_iff
    ((∀ a ∈ c.allocs.filterMap Alloc.item, (e.peerRx.mem a).isNone) ∧
      (c.allocs.filterMap Alloc.item).Nodup)
    ⟨fun ⟨h1, h2⟩ => ⟨h1, h2⟩, fun ⟨h1, h2⟩ => ⟨h1, h2⟩⟩

/-- The steps of the receive handler: any call whatsoever. -/
inductive Recv : Engine → Call → Engine → Prop where
  | call {e c e' ret} :
    c.Allocates e →
    peerAddrBioRecvmmsg e c = some (e', ret) →
    Recv e c e'

/-- A call of `SSL_handle_events`: the one call of the receive handler it makes, and whether it
returned 1. -/
structure HandleEvents where
  call : Call
  rv : Bool

/-- How a call of `h3q_engine_pump` goes. -/
inductive Pumped where
  /-- It returned `rv`, and these calls of `SSL_handle_events` are still to come. -/
  | returned (rv : Int) (engine : Option Engine) (rest : List HandleEvents)
  /-- It called `SSL_handle_events`, which has not come back. -/
  | waiting (engine : Engine)
  /-- The receive handler followed a null or dangling pointer. -/
  | fault

/-- The loop of `h3q_engine_pump`. -/
def pumpLoop (work : Int) : List HandleEvents → Engine → Pumped
  | [], e => if e.peerRx.head.isSome then .waiting e else .returned work e []
  | h :: hs, e =>
    if e.peerRx.head.isSome then
      match peerAddrBioRecvmmsg e h.call with
      | none => .fault
      | some (e, _) => if h.rv then pumpLoop 1 hs e else .returned (-1) e hs
    else
      .returned work e (h :: hs)

/-- Let OpenSSL handle events until no datagram is queued (C `h3q_engine_pump`); `sslListener` is
whether the engine has a listener. -/
def enginePump (engine : Option Engine) (sslListener : Bool) (hs : List HandleEvents) : Pumped :=
  match engine, sslListener with
  | some e, true =>
    match hs with
    | [] => .waiting e
    | h :: hs =>
      match peerAddrBioRecvmmsg e h.call with
      | none => .fault
      | some (e, _) => if h.rv then pumpLoop 0 hs e else .returned (-1) e hs
  | engine, _ => .returned 0 engine hs

/-- From `e` on, each call of `SSL_handle_events` makes a call of the receive handler that passes
the argument check and has a data buffer in slot 0. -/
def Handles : Engine → List HandleEvents → Prop
  | _, [] => True
  | e, h :: hs =>
    h.call.Allocates e ∧ h.call.capacity.isSome ∧
      ∀ e' ret, peerAddrBioRecvmmsg e h.call = some (e', ret) → Handles e' hs

/-- The datagrams that are waiting, and where the tail pointer is: at the last of them, and null
exactly when the head pointer is. -/
structure Queued (e : Engine) (items : List Item) : Prop where
  rep : ∃ xs, e.peerRx.Rep xs ∧ xs.map Prod.snd = items ∧ e.peerRx.tail = (xs.map Prod.fst).getLast?
  null : e.peerRx.tail = none ↔ e.peerRx.head = none

section
variable {e e' : Engine} {c : Call} {items : List Item} {item : Item}

/-- The items of a linked queue. -/
lemma Queued.of_rep {xs : List (Ptr × Item)} (rep : e.peerRx.Rep xs) :
    Queued e (xs.map Prod.snd) where
  rep := ⟨xs, rep, rfl, rep.tail⟩
  null := by
    rw [rep.tail, rep.head]
    cases xs with
    | nil => exact Iff.rfl
    | cons x xs => simp

/-- A new engine has an empty queue. -/
lemma Queued.new {index : Int} : Queued (.new index) [] := by
  have rep : (Engine.new index).peerRx.Rep [] := Queue.Rep.empty
  exact .of_rep rep

/-- The pump sees whether something is queued. -/
lemma Queued.head (q : Queued e items) : e.peerRx.head.isSome = !items.isEmpty := by
  obtain ⟨xs, rep, rfl, -⟩ := q.rep
  rw [rep.head]
  cases xs <;> rfl

/-- A call leaves what `serve` leaves. -/
lemma Queued.recv (q : Queued e items) (alloc : c.Allocates e) :
    ∃ e' ret, peerAddrBioRecvmmsg e c = some (e', ret) ∧
    Queued e' (serve e.currentPeerAddr items c).queue := by
  obtain ⟨xs, rep, rfl, -⟩ := q.rep
  obtain ⟨p, ys, eq, repq, left⟩ := recvmmsg_serve c rep alloc.fresh alloc.distinct
  refine ⟨_, _, eq, ?_⟩
  rw [← left]
  exact .of_rep repq

/-- Any call keeps the queue well formed. -/
lemma Queued.step (q : ∃ items, Queued e items) (st : Recv e c e') : ∃ items, Queued e' items := by
  obtain ⟨items, q⟩ := q
  cases st with
  | call alloc eq =>
    obtain ⟨e1, ret, eq', q'⟩ := q.recv alloc
    rw [eq] at eq'
    cases eq'
    exact ⟨_, q'⟩

/-- What the queue holds in an engine that is in use. -/
lemma run_queued {index : Int} {cs : List Call} (run : Run Recv (.new index) cs e) :
    ∃ items, Queued e items :=
  run.invariant (P := fun e => ∃ items, Queued e items) (fun _ _ _ => Queued.step) ⟨[], .new⟩

/-- A slot with a buffer takes the first datagram off the queue, whether it fits or not. -/
lemma servePop_queue {msg : BioMsg} (data : msg.data.isSome) (queue : List Item)
    (msgs : List BioMsg) :
    (servePop queue msg msgs).queue = queue.tail := by
  cases queue with
  | nil => rfl
  | cons item rest =>
    obtain ⟨buf, hd⟩ := Option.isSome_iff_exists.mp data
    rw [servePop, popItem, hd]
    by_cases hl : msg.dataLen < item.data.length
    · simp only [if_pos hl, List.tail_cons]
    · simp only [if_neg hl, List.tail_cons]

/-- A call with a data buffer in slot 0 passes the argument check. -/
lemma Call.capacity_isSome (h : c.capacity.isSome) :
    ∃ msg rest, c.msgs = msg :: rest ∧ msg.data.isSome ∧ (!c.next || !c.msgsProcessed) = false := by
  rw [Call.capacity] at h
  cases hm : c.msgs with
  | nil => simp [hm] at h
  | cons msg rest =>
    rw [hm] at h
    dsimp only at h
    split at h
    · rename_i passes
      rw [Bool.and_eq_true] at passes
      refine ⟨msg, rest, rfl, ?_, ?_⟩
      · rwa [Option.isSome_map] at h
      · rw [passes.1, passes.2]
        rfl
    · cases h

/-- Such a call on a queue that is not empty takes the first datagram off it. -/
lemma serve_pop (h : c.capacity.isSome) (addr : BioAddr) :
    (serve addr (item :: items) c).queue = items := by
  obtain ⟨msg, rest, hm, data, passes⟩ := Call.capacity_isSome h
  rw [serve, hm]
  simp only [passes, Bool.false_eq_true, if_false]
  exact servePop_queue data ..

/-- Receiving keeps the buffer of the first slot. -/
lemma receiveAll_headD (msg : BioMsg) (rest : List BioMsg) (ds : List Datagram)
    (data : msg.data.isSome) :
    ((receiveAll (msg :: rest) ds).headD msg).data.isSome := by
  cases ds with
  | nil => exact data
  | cons d ds =>
    rw [receiveAll, List.headD_cons, BioMsg.receive, Option.isSome_map]
    exact data

/-- On an empty queue it leaves fewer datagrams than it finds below, or none. -/
lemma serve_fill (h : c.capacity.isSome) (addr : BioAddr) :
    (serve addr [] c).queue.length ≤ c.batch.length - 1 := by
  obtain ⟨msg, rest, hm, data, passes⟩ := Call.capacity_isSome h
  rw [serve, hm]
  simp only [passes, Bool.false_eq_true, if_false]
  split
  · cases filled : fillItems c.allocs ((receiveAll (msg :: rest) c.batch).take c.batch.length) with
    | none => exact Nat.zero_le _
    | some zs =>
      obtain ⟨rfl, -⟩ := fillItems_some filled
      dsimp only
      rw [servePop_queue (receiveAll_headD msg rest c.batch data), List.length_tail,
        List.length_map, List.length_take]
      omega
  · exact Nat.zero_le _

/-- A call on a queue that is not empty makes it shorter by its first datagram. -/
lemma Queued.pop (q : Queued e (item :: items)) (alloc : c.Allocates e) (h : c.capacity.isSome) :
    ∃ e' ret, peerAddrBioRecvmmsg e c = some (e', ret) ∧ Queued e' items := by
  obtain ⟨e', ret, eq, q'⟩ := q.recv alloc
  rw [serve_pop h] at q'
  exact ⟨e', ret, eq, q'⟩

/-- A call on an empty queue leaves fewer datagrams than it finds below, or none. -/
lemma Queued.fill (q : Queued e []) (alloc : c.Allocates e) (h : c.capacity.isSome) :
    ∃ e' ret items, peerAddrBioRecvmmsg e c = some (e', ret) ∧ Queued e' items ∧
      items.length ≤ c.batch.length - 1 := by
  obtain ⟨e', ret, eq, q'⟩ := q.recv alloc
  exact ⟨e', ret, _, eq, q', serve_fill h e.currentPeerAddr⟩

/-- The pump came back after some of the calls of `SSL_handle_events`: with -1 if the last of them
failed, and otherwise with an empty queue. -/
def Returns (p : Pumped) (hs : List HandleEvents) : Prop :=
  ∃ rv e used rest, p = .returned rv (some e) rest ∧ hs = used ++ rest ∧
    if ∃ h ∈ used, h.rv = false then rv = -1 else 0 ≤ rv ∧ Queued e []

/-- A failed `SSL_handle_events` ends the pump. -/
lemma Returns.failed {h : HandleEvents} {hs : List HandleEvents} (failed : h.rv = false) :
    Returns (.returned (-1) (some e) hs) (h :: hs) := by
  refine ⟨-1, e, [h], hs, rfl, rfl, ?_⟩
  rw [if_pos ⟨h, List.mem_cons_self, failed⟩]

/-- A successful `SSL_handle_events` lets the pump go on. -/
lemma Returns.cons {p : Pumped} {h : HandleEvents} {hs : List HandleEvents} (ok : h.rv = true)
    (r : Returns p hs) : Returns p (h :: hs) := by
  obtain ⟨rv, e, used, rest, rfl, rfl, result⟩ := r
  refine ⟨rv, e, h :: used, rest, rfl, rfl, ?_⟩
  have same : (∃ g ∈ h :: used, g.rv = false) ↔ ∃ g ∈ used, g.rv = false := by simp [ok]
  simpa only [same] using result

/-- The loop comes back after as many calls as datagrams are queued. -/
lemma pumpLoop_returns {work : Int} {hs : List HandleEvents} (pos : 0 ≤ work) (q : Queued e items)
    (handles : Handles e hs) (enough : items.length ≤ hs.length) :
    Returns (pumpLoop work hs e) hs := by
  -- one call per datagram: the induction follows the queue, the answers are used up along with it
  induction items generalizing e hs work with
  | nil =>
    have head : e.peerRx.head.isSome = false := q.head
    refine ⟨work, e, [], hs, ?_, rfl, ?_⟩
    · cases hs with
      | nil => rw [pumpLoop, head, if_neg Bool.false_ne_true]
      | cons h hs => rw [pumpLoop, head, if_neg Bool.false_ne_true]
    · rw [if_neg (by simp)]
      exact ⟨pos, q⟩
  | cons item items ih =>
    have head : e.peerRx.head.isSome = true := q.head
    cases hs with
    | nil => cases enough
    | cons h hs =>
      obtain ⟨alloc, cap, rest⟩ := handles
      obtain ⟨e', ret, eq, q'⟩ := q.pop alloc cap
      rw [pumpLoop, if_pos head, eq]
      cases hr : h.rv with
      | false => exact .failed hr
      | true =>
        dsimp only
        rw [if_pos rfl]
        exact (ih (by decide) q' (rest e' ret eq) (Nat.le_of_succ_le_succ enough)).cons hr

/-- How many datagrams the first call of a pump can find: those queued, or else those below. -/
def inReach (items : List Item) : List HandleEvents → Nat
  | [] => items.length
  | h :: _ => if items.isEmpty then h.call.batch.length else items.length

/-- The pump comes back after as many calls as it can find datagrams, and at least one. -/
lemma enginePump_returns {hs : List HandleEvents} (q : Queued e items) (handles : Handles e hs)
    (enough : max 1 (inReach items hs) ≤ hs.length) : Returns (enginePump (some e) true hs) hs := by
  cases hs with
  | nil => exact absurd (Nat.le_trans (Nat.le_max_left ..) enough) (by decide)
  | cons h hs =>
    obtain ⟨alloc, cap, rest⟩ := handles
    have first : ∃ e' ret items', peerAddrBioRecvmmsg e h.call = some (e', ret) ∧ Queued e' items' ∧
        items'.length ≤ hs.length := by
      have few := Nat.le_trans (Nat.le_max_right ..) enough
      rw [List.length_cons] at few
      cases items with
      | nil =>
        obtain ⟨e', ret, items', eq, q', short⟩ := q.fill alloc cap
        refine ⟨e', ret, items', eq, q', Nat.le_trans short ?_⟩
        exact Nat.sub_le_of_le_add few
      | cons item items =>
        obtain ⟨e', ret, eq, q'⟩ := q.pop alloc cap
        exact ⟨e', ret, items, eq, q', Nat.le_of_succ_le_succ few⟩
    obtain ⟨e', ret, items', eq, q', short⟩ := first
    rw [enginePump, eq]
    cases hr : h.rv with
    | false => exact .failed hr
    | true =>
      dsimp only
      rw [if_pos rfl]
      exact (pumpLoop_returns (by decide) q' (rest e' ret eq) short).cons hr

end

/-- In every engine in use, a call of the receive handler that has a data buffer in slot 0 and finds
the queue not empty takes exactly one datagram off it; and the pump comes back after at most as many
calls of `SSL_handle_events` as it can find datagrams, with an empty queue unless one of these calls
failed. -/
theorem pump_cannot_spin {index : Int} {cs : List Call} {e : Engine}
    (run : Run Recv (.new index) cs e) :
    ∃ items, Queued e items ∧
      (∀ c, c.Allocates e → c.capacity.isSome → items ≠ [] →
        ∃ e' ret, peerAddrBioRecvmmsg e c = some (e', ret) ∧ Queued e' items.tail) ∧
      ∀ hs, Handles e hs → max 1 (inReach items hs) ≤ hs.length →
      Returns (enginePump (some e) true hs) hs := by
  obtain ⟨items, q⟩ := run_queued run
  refine ⟨items, q, ?_, fun hs => enginePump_returns q⟩
  intro c alloc cap ne
  cases items with
  | nil => exact absurd rfl ne
  | cons item items => exact q.pop alloc cap

/-- Four datagrams arrive in one call. The pump finds the three that are left: the first of them is
too long for the slot it is offered and lost, the others are delivered, and then the queue is
empty. -/
theorem pump_cannot_spin_oversized :
    ∃ e e' rv rest, Run Recv (.new 0) [callFor [8, 8, 8, 8] [[1], [2, 3, 4], [5], [6, 7]]] e ∧
      e.peerRx.allocated = 3 ∧
      enginePump (some e) true (List.replicate 3 { call := callFor [2] [], rv := true }) =
        .returned rv (some e') rest ∧
      0 ≤ rv ∧ e'.peerRx.head = none := by
  have eq : (peerAddrBioRecvmmsg (.new 0) (callFor [8, 8, 8, 8] [[1], [2, 3, 4], [5], [6, 7]])).map
      (fun x => x.1.peerRx.allocated) = some 3 := by
    decide +kernel
  obtain ⟨⟨e, ret⟩, called, three⟩ := Option.map_eq_some_iff.mp eq
  have run : Run Recv (.new 0) [callFor [8, 8, 8, 8] [[1], [2, 3, 4], [5], [6, 7]]] e :=
    .single (.call (by decide +kernel) called)
  obtain ⟨items, q, -, pump⟩ := pump_cannot_spin run
  have length : items.length = 3 := by
    obtain ⟨xs, rep, rfl, -⟩ := q.rep
    rw [List.length_map, ← rep.allocated]
    exact three
  have handles : Handles e (List.replicate 3 { call := callFor [2] [], rv := true }) := by
    have alloc : ∀ e, (callFor [2] []).Allocates e := fun e => ⟨nofun, List.nodup_nil⟩
    exact
      ⟨alloc _, rfl,
        fun e1 _ _ => ⟨alloc e1, rfl, fun e2 _ _ => ⟨alloc e2, rfl, fun _ _ _ => trivial⟩⟩⟩
  have reach : inReach items (List.replicate 3 { call := callFor [2] [], rv := true }) = 3 := by
    cases items with
    | nil => cases length
    | cons item items => exact length
  obtain ⟨rv, e', used, rest, returned, all, result⟩ := pump _ handles (by rw [reach]; decide)
  have ok : ¬∃ h ∈ used, h.rv = false := by
    rintro ⟨h, mem, failed⟩
    have mem' := List.mem_append_left rest mem
    rw [← all] at mem'
    rw [(List.mem_replicate.mp mem').2] at failed
    cases failed
  rw [if_neg ok] at result
  refine ⟨e, e', rv, rest, run, three, returned, result.1, ?_⟩
  exact Option.not_isSome_iff_eq_none.mp (by rw [result.2.head]; decide)

end ModHttp3.Quic

import ModHttp3.Lib.Run
import ModHttp3.Quic.Receive

/-!
# Isolation of datagrams

What becomes of the datagrams that the BIO below delivers in batches? `course` is what should: empty
ones are ignored, the others wait in the order of arrival until a call reaches them, one datagram
per call, and are delivered if they fit its first slot. `h3q_queue_fill` gives up the whole queue
when it meets an empty datagram, so this is what happens as long as no batch has empty and other
datagrams in it (`datagram_isolation`); an empty datagram takes the others of its batch with it
(`empty_datagram_drops_batch`).
-/

namespace ModHttp3.Quic
open ModHttp3.Lib

/-- What the BIO below and the allocator do during a call: at most one datagram per slot and none
when the call fails, each in a buffer with room for it, and every allocation succeeds. -/
structure Call.Sane (c : Call) (e : Engine) : Prop where
  length : c.batch.length ≤ c.msgs.length
  failed : c.rv = false → c.batch = []
  room : ∀ p ∈ c.batch.zip c.msgs, p.1.data ≠ [] → p.2.data.isSome ∧ p.1.data.length ≤ p.2.dataLen
  enough : c.batch.length ≤ c.allocs.length
  succeeds : ∀ a ∈ c.allocs, a.item.isSome ∧ a.data = true ∧ a.peer = true ∧ a.localAddr = true
  fresh : ∀ a ∈ c.allocs.filterMap Alloc.item, (e.peerRx.mem a).isNone
  distinct : (c.allocs.filterMap Alloc.item).Nodup

instance (c : Call) (e : Engine) : Decidable (c.Sane e) :=
  decidable_of_iff
    (c.batch.length ≤ c.msgs.length ∧ (c.rv = false → c.batch = []) ∧
      (∀ p ∈ c.batch.zip c.msgs, p.1.data ≠ [] → p.2.data.isSome ∧ p.1.data.length ≤ p.2.dataLen) ∧
      c.batch.length ≤ c.allocs.length ∧
      (∀ a ∈ c.allocs, a.item.isSome ∧ a.data = true ∧ a.peer = true ∧ a.localAddr = true) ∧
      (∀ a ∈ c.allocs.filterMap Alloc.item, (e.peerRx.mem a).isNone) ∧
      (c.allocs.filterMap Alloc.item).Nodup)
    ⟨fun ⟨h1, h2, h3, h4, h5, h6, h7⟩ => ⟨h1, h2, h3, h4, h5, h6, h7⟩,
      fun ⟨h1, h2, h3, h4, h5, h6, h7⟩ => ⟨h1, h2, h3, h4, h5, h6, h7⟩⟩

/-- The room in slot 0, if the call passes the argument check and the slot has a buffer. -/
def Call.capacity (c : Call) : Option Nat :=
  match c.msgs with
  | [] => none
  | msg :: _ => if c.next && c.msgsProcessed then msg.data.map fun _ => msg.dataLen else none

/-- The datagrams the BIO below delivers during a call: it is only asked when the queue is empty. -/
def Call.taken (c : Call) (empty : Bool) : List Datagram :=
  if c.next && c.msgsProcessed && !c.msgs.isEmpty && empty then c.batch else []

/-- A call of the receive handler as the history records it. -/
structure Round where
  capacity : Option Nat
  got : List Datagram
  ret : Ret
deriving DecidableEq

/-- The steps of the receive handler. -/
inductive Rounds : Engine → Round → Engine → Prop where
  | call {e c e' ret} :
    c.Sane e →
    peerAddrBioRecvmmsg e c = some (e', ret) →
    Rounds e { capacity := c.capacity, got := c.taken e.peerRx.head.isNone, ret := ret } e'

/-- A call to be run; `none` when it is not possible in this state. -/
def runCall (e : Engine) (c : Call) : Option (Engine × Round) :=
  if c.Sane e then
    (peerAddrBioRecvmmsg e c).map fun r =>
      (r.1, { capacity := c.capacity, got := c.taken e.peerRx.head.isNone, ret := r.2 })
  else
    none

/-- The contents of the datagram that a call delivered. -/
def Round.delivered (r : Round) : List (List UInt8) :=
  match r.ret.processed, r.ret.msgs with
  | some 1, m :: _ => [m.item.data]
  | _, _ => []

/-- Where the datagrams should be: still waiting, or reached by a call with some room in its first
slot. -/
structure Course where
  waiting : List (List UInt8)
  reached : List (List UInt8 × Nat)
deriving DecidableEq

/-- What a call should do: the datagrams it takes from the BIO below wait behind the others unless
they are empty, and it reaches the first one. -/
def Course.round (p : Course) (r : Round) : Course :=
  match p.waiting ++ (r.got.map Datagram.data).filter (· ≠ []), r.capacity with
  | d :: rest, some capacity => { waiting := rest, reached := p.reached ++ [(d, capacity)] }
  | waiting, _ => { p with waiting }

/-- Where the datagrams should be after some calls. -/
def course (rs : List Round) : Course := rs.foldl Course.round { waiting := [], reached := [] }

/-- Those of the reached datagrams that fitted. -/
def fitted (reached : List (List UInt8 × Nat)) : List (List UInt8) :=
  (reached.filter fun p => p.1.length ≤ p.2).map Prod.fst

/-- Every datagram that is not empty was reached, in the order of arrival, or is in the queue, and
exactly those that fitted were delivered. -/
structure Isolated (rs : List Round) (e : Engine) : Prop where
  arrived : ((rs.flatMap Round.got).map Datagram.data).filter (· ≠ []) =
    (course rs).reached.map Prod.fst ++ (course rs).waiting
  queued : ∃ xs, e.peerRx.Rep xs ∧ xs.map (·.2.data) = (course rs).waiting
  delivered : rs.flatMap Round.delivered = fitted (course rs).reached

/-- No batch has both empty and other datagrams in it. -/
def Unmixed (got : List Datagram) : Prop := (∀ d ∈ got, d.data ≠ []) ∨ ∀ d ∈ got, d.data = []

section
variable {e e' : Engine} {rs : List Round} {r : Round} {p : Course} {c : Call}

/-- `runCall` runs a round. -/
lemma runCall_rounds (e : Engine) (c : Call) (e' : Engine) (r : Round)
    (eq : runCall e c = some (e', r)) :
    Rounds e r e' := by
  rw [runCall] at eq
  split at eq
  · rename_i sane
    obtain ⟨⟨e1, ret⟩, called, h⟩ := Option.map_eq_some_iff.mp eq
    cases h
    exact .call sane called
  · cases eq

/-- The course of one more round. -/
lemma course_snoc : course (rs ++ [r]) = (course rs).round r := List.foldl_append ..

/-- What fits of two lists. -/
lemma fitted_append {xs ys : List (List UInt8 × Nat)} :
    fitted (xs ++ ys) = fitted xs ++ fitted ys := by
  simp [fitted]

/-- A call moves datagrams along and loses none that is not empty. -/
lemma Course.round_all (p : Course) (r : Round) :
    (p.round r).reached.map Prod.fst ++ (p.round r).waiting =
      p.reached.map Prod.fst ++ p.waiting ++ (r.got.map Datagram.data).filter (· ≠ []) := by
  rw [Course.round, List.append_assoc]
  split
  · rename_i d rest capacity eq _
    rw [eq]
    simp
  · rfl

/-- The slots of a batch. -/
lemma receiveAll_take {ms : List BioMsg} {ds : List Datagram} (length : ds.length ≤ ms.length) :
    (receiveAll ms ds).take ds.length = List.zipWith (fun d m => m.receive d) ds ms := by
  induction ds generalizing ms with
  | nil => rfl
  | cons d ds ih =>
    cases ms with
    | nil => cases length
    | cons m ms =>
      rw [receiveAll, List.length_cons, List.take_succ_cons, List.zipWith_cons_cons]
      rw [ih (Nat.le_of_succ_le_succ length)]

/-- A batch is queued if all allocations succeed and none of its datagrams is empty. -/
lemma fillItems_all {allocs : List Alloc} {ms : List BioMsg} (enough : ms.length ≤ allocs.length)
    (succeeds : ∀ a ∈ allocs, a.item.isSome ∧ a.data = true ∧ a.peer = true ∧ a.localAddr = true)
    (full : ∀ m ∈ ms, m.data.isSome ∧ m.dataLen ≠ 0) :
    fillItems allocs ms = some (ms.map BioMsg.item) := by
  induction ms generalizing allocs with
  | nil => rw [fillItems, List.map_nil]
  | cons source rest ih =>
    cases allocs with
    | nil => cases enough
    | cons alloc allocs =>
      obtain ⟨item, data, peer, localAddr⟩ := succeeds alloc List.mem_cons_self
      obtain ⟨hd, hz⟩ := full source List.mem_cons_self
      have copies : alloc.copies source = true := by simp [Alloc.copies, data, peer, localAddr]
      rw [fillItems, if_pos ⟨item, hd, hz, copies⟩,
        ih (Nat.le_of_succ_le_succ enough) (fun a mem => succeeds a (List.mem_cons_of_mem _ mem))
          (fun m mem => full m (List.mem_cons_of_mem _ mem))]
      rfl

/-- An empty datagram at the beginning of a batch. -/
lemma fillItems_empty {allocs : List Alloc} {source : BioMsg} {rest : List BioMsg}
    (empty : source.dataLen = 0) :
    fillItems allocs (source :: rest) = none := by
  cases allocs with
  | nil => rfl
  | cons alloc allocs => rw [fillItems, if_neg fun ok => ok.2.2.1 empty]

/-- The slots of a batch without empty datagrams hold the datagrams. -/
lemma received_slots {ds : List Datagram} {ms : List BioMsg} (length : ds.length ≤ ms.length)
    (room : ∀ p ∈ ds.zip ms, p.1.data ≠ [] → p.2.data.isSome ∧ p.1.data.length ≤ p.2.dataLen)
    (full : ∀ d ∈ ds, d.data ≠ []) :
    (List.zipWith (fun d m => m.receive d) ds ms).map (·.item.data) = ds.map Datagram.data ∧
      ∀ m ∈ List.zipWith (fun d m => BioMsg.receive m d) ds ms, m.data.isSome ∧ m.dataLen ≠ 0 := by
  induction ds generalizing ms with
  | nil => exact ⟨rfl, nofun⟩
  | cons d ds ih =>
    cases ms with
    | nil => cases length
    | cons m ms =>
      have hd := full d List.mem_cons_self
      obtain ⟨buffered, _⟩ := room (d, m) List.mem_cons_self hd
      obtain ⟨buf, hb⟩ : ∃ buf, m.data = Option.some buf := Option.isSome_iff_exists.mp buffered
      obtain ⟨items, slots⟩ := ih (Nat.le_of_succ_le_succ length)
        (fun p mem => room p (List.mem_cons_of_mem _ mem))
          (fun d mem => full d (List.mem_cons_of_mem _ mem))
      refine ⟨?_, ?_⟩
      · rw [List.zipWith_cons_cons, List.map_cons, List.map_cons, items]
        simp [BioMsg.item, BioMsg.receive, hb]
      · intro m' mem
        rcases List.mem_cons.mp mem with rfl | mem
        · refine ⟨by simp [BioMsg.receive, hb], ?_⟩
          exact fun zero => hd (List.length_eq_zero_iff.mp zero)
        · exact slots m' mem

/-- A call does what it should: it leaves the datagrams that should wait, and delivers the one it
reaches if that one fits. -/
structure Follows (p : Course) (r : Round) (queue : List Item) : Prop where
  waiting : queue.map Item.data = (p.round r).waiting
  delivered : ∃ es, (p.round r).reached = p.reached ++ es ∧ r.delivered = fitted es

/-- A call that takes and delivers nothing. -/
lemma Follows.idle {queue : List Item} (w : queue.map Item.data = p.waiting)
    (got : (r.got.map Datagram.data).filter (· ≠ []) = [])
    (stays : p.waiting = [] ∨ r.capacity = none) (undelivered : r.delivered = []) :
    Follows p r queue := by
  have same : p.round r = p := by
    rw [Course.round, got, List.append_nil]
    rcases stays with empty | closed
    · rw [empty]
      cases p
      cases empty
      rfl
    · rw [closed]
      obtain ⟨waiting, reached⟩ := p
      cases waiting <;> rfl
  refine ⟨by rw [same, w], [], ?_, undelivered⟩
  rw [same, List.append_nil]

/-- A call that reaches the first datagram of the queue. -/
lemma Follows.pop {item : Item} {rest : List Item} {msg : BioMsg} {msgs : List BioMsg} (n : Nat)
    (buf : List UInt8)
    (w : p.waiting ++ (r.got.map Datagram.data).filter (· ≠ []) = (item :: rest).map Item.data)
    (buffer : msg.data = some buf) (capacity : r.capacity = some n)
    (room : item.data.length ≤ msg.dataLen ↔ item.data.length ≤ n)
    (ret : r.ret = (servePop (item :: rest) msg msgs).ret) :
    Follows p r (servePop (item :: rest) msg msgs).queue := by
  have round :
      p.round r = { waiting := rest.map Item.data, reached := p.reached ++ [(item.data, n)] } := by
    rw [Course.round, w, capacity, List.map_cons]
  rw [servePop, popItem, buffer] at ret ⊢
  by_cases hl : msg.dataLen < item.data.length
  · simp only [if_pos hl] at ret ⊢
    refine ⟨by rw [round], [(item.data, n)], by rw [round], ?_⟩
    have out : ¬item.data.length ≤ n := by omega
    rw [Round.delivered, ret]
    simp [fitted, out]
  · simp only [if_neg hl] at ret ⊢
    refine ⟨by rw [round], [(item.data, n)], by rw [round], ?_⟩
    have fits : item.data.length ≤ n := by omega
    rw [Round.delivered, ret]
    simp [fitted, fits, BioMsg.item, BioMsg.copy]

/-- A batch without empty datagrams: its first datagram is in slot 0 and is delivered at once. -/
lemma Follows.fill {msg : BioMsg} {rest : List BioMsg} (sane : c.Sane e) (hm : c.msgs = msg :: rest)
    (passes : (c.next && c.msgsProcessed) = true) (empty : p.waiting = []) (ne : c.batch ≠ [])
    (got : r.got = c.batch) (capacity : r.capacity = c.capacity) (full : ∀ d ∈ c.batch, d.data ≠ [])
    (ret : r.ret = (servePop
      (((receiveAll c.msgs c.batch).take c.batch.length).map BioMsg.item)
      ((receiveAll c.msgs c.batch).headD msg) (receiveAll c.msgs c.batch)).ret) :
    Follows p r (servePop
      (((receiveAll c.msgs c.batch).take c.batch.length).map BioMsg.item)
      ((receiveAll c.msgs c.batch).headD msg) (receiveAll c.msgs c.batch)).queue := by
  obtain ⟨items, _⟩ := received_slots sane.length sane.room full
  obtain ⟨d, ds, hb⟩ := List.exists_cons_of_ne_nil ne
  have hd : d.data ≠ [] := full d (by rw [hb]; exact List.mem_cons_self)
  obtain ⟨buffered, fits⟩ := sane.room (d, msg) (by rw [hb, hm]; exact List.mem_cons_self) hd
  obtain ⟨buf, hbuf⟩ : ∃ buf, msg.data = Option.some buf := Option.isSome_iff_exists.mp buffered
  have all : (c.batch.map Datagram.data).filter (· ≠ []) = c.batch.map Datagram.data := by
    refine List.filter_eq_self.mpr fun x mem => ?_
    obtain ⟨d, isIn, rfl⟩ := List.mem_map.mp mem
    exact decide_eq_true (full d isIn)
  rw [receiveAll_take sane.length] at ret ⊢
  rw [hm, hb, receiveAll, List.headD_cons, List.zipWith_cons_cons, List.map_cons] at ret ⊢
  refine Follows.pop msg.dataLen (d.data ++ buf.drop d.data.length) ?_ ?_ ?_ ?_ ret
  · rw [empty, List.nil_append, got, all, ← items, hm, hb, List.zipWith_cons_cons, List.map_cons,
      List.map_cons, List.map_map]
    rfl
  · rw [BioMsg.receive, hbuf]
    rfl
  · rw [capacity, Call.capacity, hm]
    simp only [passes, if_true, hbuf, Option.map_some]
  · have len : (msg.receive d).item.data.length = d.data.length := by
      simp [BioMsg.item, BioMsg.receive, hbuf]
    rw [len]
    exact ⟨fun _ => fits, fun _ => Nat.le_refl _⟩

/-- Every call does what it should if its batch is unmixed. -/
lemma serve_follows (addr : BioAddr) {queue : List Item} (sane : c.Sane e)
    (unmixed : Unmixed (c.taken queue.isEmpty)) (w : queue.map Item.data = p.waiting) :
    Follows p { capacity := c.capacity, got := c.taken queue.isEmpty,
                ret := (serve addr queue c).ret }
      (serve addr queue c).queue := by
  unfold serve
  cases hm : c.msgs with
  | nil =>
    refine .idle w ?_ (.inr ?_) rfl
    · simp [Call.taken, hm]
    · simp [Call.capacity, hm]
  | cons msg rest =>
    dsimp only
    split
    -- no BIO below, or nowhere to count the messages: the call takes and delivers nothing
    · rename_i no
      have closed : (c.next && c.msgsProcessed) = false := by
        cases hn : c.next <;> cases hp : c.msgsProcessed <;> simp_all
      refine .idle w ?_ (.inr ?_) rfl
      · simp [Call.taken, closed]
      · simp [Call.capacity, hm, closed]
    rename_i yes
    have passes : (c.next && c.msgsProcessed) = true := by
      cases hn : c.next <;> cases hp : c.msgsProcessed <;> simp_all
    have capacity : c.capacity = msg.data.map fun _ => msg.dataLen := by
      rw [Call.capacity, hm]
      simp only [passes, if_true]
    cases queue with
    | cons item queue =>
      have got : c.taken (item :: queue).isEmpty = [] := by simp [Call.taken]
      -- datagrams wait: the call pops one and reads nothing from below
      cases hd : msg.data with
      | none =>
        have same : servePop (item :: queue) msg (msg :: rest) =
            { queue := item :: queue, addr := .unspec,
              ret := { rv := false, processed := some 0, msgs := msg :: rest } } := by
          rw [servePop, popItem, hd]
        dsimp only
        rw [same]
        refine .idle w (by rw [got]; rfl) (.inr ?_) rfl
        rw [capacity, hd]
        rfl
      | some buf =>
        refine Follows.pop msg.dataLen buf ?_ hd ?_ Iff.rfl rfl
        · rw [got, w]
          exact List.append_nil _
        · rw [capacity, hd]
          rfl
    | nil =>
      have got : c.taken ([] : List Item).isEmpty = c.batch := by
        rw [Call.taken, passes, hm]
        rfl
      have empty : p.waiting = [] := w.symm
      rw [got] at unmixed
      dsimp only
      by_cases ne : c.batch = []
      · rw [if_neg (by simp [ne])]
        refine .idle w (by rw [got, ne]; rfl) (.inl empty) ?_
        rw [Round.delivered, ne]
        rfl
      · have rv : c.rv = true := by
          by_contra no
          exact ne (sane.failed ((Bool.not_eq_true _).mp no))
        rw [if_pos (by simp [rv, List.length_pos_iff.mpr ne]), ← hm]
        -- a batch of non-empty datagrams is queued whole, one of empty datagrams is refused whole
        rcases unmixed with full | hollow
        · have filled : fillItems c.allocs ((receiveAll c.msgs c.batch).take c.batch.length) =
              some (((receiveAll c.msgs c.batch).take c.batch.length).map BioMsg.item) := by
            refine fillItems_all ?_ sane.succeeds ?_
            · exact Nat.le_trans (List.length_take_le _ _) sane.enough
            · rw [receiveAll_take sane.length]
              exact (received_slots sane.length sane.room full).2
          rw [filled]
          exact .fill sane hm passes empty ne got rfl full rfl
        · obtain ⟨d, ds, hb⟩ := List.exists_cons_of_ne_nil ne
          have zero : d.data = [] := hollow d (by rw [hb]; exact List.mem_cons_self)
          have given : fillItems c.allocs ((receiveAll c.msgs c.batch).take c.batch.length) =
              Option.none := by
            rw [receiveAll_take sane.length, hm, hb, List.zipWith_cons_cons]
            refine fillItems_empty ?_
            rw [BioMsg.receive, zero]
            rfl
          rw [given]
          refine .idle w ?_ (.inl empty) rfl
          rw [got, List.filter_eq_nil_iff]
          intro x mem
          obtain ⟨d, isIn, rfl⟩ := List.mem_map.mp mem
          simp [hollow d isIn]

/-- A call keeps the datagrams isolated. -/
lemma Isolated.step (h : Isolated rs e) (unmixed : Unmixed r.got) (st : Rounds e r e') :
    Isolated (rs ++ [r]) e' := by
  cases st with
  | @call c e1 ret sane eq =>
    obtain ⟨xs, rep, waiting⟩ := h.queued
    obtain ⟨q, ys, eq', repq, items⟩ := recvmmsg_serve c rep sane.fresh sane.distinct
    rw [eq] at eq'
    cases eq'
    have head : e.peerRx.head.isNone = (xs.map Prod.snd).isEmpty := by
      rw [rep.head]
      cases xs <;> rfl
    rw [head] at unmixed ⊢
    have follows := serve_follows e.currentPeerAddr (p := course rs) sane unmixed
      (by rw [List.map_map]; exact waiting)
    obtain ⟨es, reached, delivered⟩ := follows.delivered
    refine ⟨?_, ⟨ys, repq, ?_⟩, ?_⟩
    · rw [course_snoc, Course.round_all, ← h.arrived]
      simp
    · rw [course_snoc, ← follows.waiting, ← items, List.map_map]
      rfl
    · rw [course_snoc, reached, fitted_append, List.flatMap_append, h.delivered, ← delivered]
      simp

end

/-- In every run of calls whose batches are unmixed, every datagram that is not empty is reached by
one call, in the order of arrival, or is still queued, and exactly those that fit slot 0 of that
call are delivered. -/
theorem datagram_isolation {index : Int} {rs : List Round} {e : Engine}
    (run : Run Rounds (.new index) rs e)
    (unmixed : ∀ r ∈ rs, Unmixed r.got) : Isolated rs e := by
  refine run.invariant_hist (P := fun rs e => (∀ r ∈ rs, Unmixed r.got) → Isolated rs e) ?_ ?_
    unmixed
  · intro rs e r e' ih st unmixed
    refine (ih fun r mem => unmixed r (List.mem_append_left _ mem)).step ?_ st
    exact unmixed r (List.mem_append_right _ List.mem_cons_self)
  · intro _
    exact ⟨rfl, ⟨[], Queue.Rep.empty, rfl⟩, rfl⟩

/-- A slot with a buffer of `n` bytes. -/
def roomFor (n : Nat) : BioMsg :=
  { data := some (List.replicate n 0), dataLen := n, peer := some .unspec, localAddr := none }

/-- A call with slots of these sizes that would find datagrams with these contents in the socket. -/
def callFor (sizes : List Nat) (contents : List (List UInt8)) : Call where
  next := true
  msgsProcessed := true
  msgs := sizes.map roomFor
  rv := true
  batch := contents.map fun data => { data, peer := .inet 10 1000, localAddr := .inet 1 443 }
  allocs := (List.range contents.length).map fun i =>
    { item := some i, data := true, peer := true, localAddr := true }

/-- Three datagrams arrive together, the third of which is too long for the slot it is replayed
into, then an empty one and another. -/
theorem datagram_isolation_fiveCalls :
    ∃ rs e, Run Rounds (.new 0) rs e ∧
      rs.flatMap (·.got.map Datagram.data) = [[1, 2], [3], [4, 5, 6], [], [7]] ∧
      rs.flatMap Round.delivered = [[1, 2], [3], [7]] := by
  have eq : (execAll runCall (.new 0)
      [callFor [4, 4, 4] [[1, 2], [3], [4, 5, 6]], callFor [4] [], callFor [2] [],
        callFor [4, 4] [[]], callFor [4, 4] [[7]]]).map
        (fun x => (x.2.map (·.got.map Datagram.data), course x.2)) =
      some ([[[1, 2], [3], [4, 5, 6]], [], [], [[]], [[7]]],
        { waiting := [], reached := [([1, 2], 4), ([3], 4), ([4, 5, 6], 2), ([7], 4)] }) := by
    decide +kernel
  obtain ⟨⟨e, rs⟩, h, obs⟩ := Option.map_eq_some_iff.mp eq
  simp only [Prod.mk.injEq] at obs
  obtain ⟨got, reached⟩ := obs
  have run := execAll_run runCall_rounds h
  have unmixed : ∀ r ∈ rs, Unmixed r.got := by
    have all : ∀ ds ∈ rs.map (·.got.map Datagram.data), (∀ d ∈ ds, d ≠ []) ∨ ∀ d ∈ ds, d = [] := by
      rw [got]
      decide
    intro r mem
    simpa [Unmixed] using all _ (List.mem_map_of_mem mem)
  refine ⟨rs, e, run, ?_, ?_⟩
  · rw [List.flatMap_def, got]
    rfl
  · rw [(datagram_isolation run unmixed).delivered, reached]
    decide

/-- An empty datagram takes the others of its batch with it, whether they came before or after it:
nothing is delivered and nothing is queued. -/
theorem empty_datagram_drops_batch :
    ∃ rs e, Run Rounds (.new 0) rs e ∧
      rs.flatMap (·.got.map Datagram.data) = [[1, 2], [], [3]] ∧ rs.flatMap Round.delivered = [] ∧
      e.peerRx.head = none ∧ ¬Isolated rs e := by
  have eq : (execAll runCall (.new 0)
      [callFor [4, 4, 4] [[1, 2], [], [3]]]).map (fun x => (x.2.flatMap (·.got.map Datagram.data),
        x.2.flatMap Round.delivered, x.1.peerRx.head, course x.2)) =
      some ([[1, 2], [], [3]], [], none, { waiting := [[3]], reached := [([1, 2], 4)] }) := by
    decide +kernel
  obtain ⟨⟨e, rs⟩, h, obs⟩ := Option.map_eq_some_iff.mp eq
  simp only [Prod.mk.injEq] at obs
  obtain ⟨got, delivered, head, reached⟩ := obs
  refine ⟨rs, e, execAll_run runCall_rounds h, got, delivered, head, fun isolated => ?_⟩
  have lost := isolated.delivered
  rw [delivered, reached] at lost
  cases lost

end ModHttp3.Quic

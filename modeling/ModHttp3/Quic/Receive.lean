import ModHttp3.Quic.Addr

/-!
# The receive handler on lists

`serve` is what `h3q_peer_addr_bio_recvmmsg` does when the queue is a plain list of datagrams, with
`popItem` for `h3q_queue_pop` and `fillItems` for `h3q_queue_fill`. `recvmmsg_serve` says that the
handler, which works on linked cells, does just that: it follows no null or dangling pointer, and
the cells it leaves hold the list that `serve` leaves. What the handler does to datagrams is read
off `serve`.
-/

namespace ModHttp3.Quic
open ModHttp3.Lib

/-- The queue item made from a slot. -/
def BioMsg.item (m : BioMsg) : Item where
  data := (m.data.getD []).take m.dataLen
  peer := m.peer
  localAddr := m.localAddr

/-- The slot after a queued datagram was copied into its buffer. -/
def BioMsg.copy (m : BioMsg) (buf : List UInt8) (item : Item) : BioMsg where
  data := some (item.data ++ buf.drop item.data.length)
  dataLen := item.data.length
  peer := copyAddr m.peer item.peer
  localAddr := copyAddr m.localAddr item.localAddr

/-- Take the first datagram of the queue: it stays if the slot has no buffer, is lost if it does not
fit, and is delivered otherwise. -/
def popItem (msg : BioMsg) : List Item → List Item × Option BioMsg
  | [] => ([], none)
  | item :: rest =>
    match msg.data with
    | none => (item :: rest, none)
    | some buf =>
      if msg.dataLen < item.data.length then (rest, none) else (rest, some (msg.copy buf item))

/-- The copies of an item that the allocator has to make succeed. -/
def Alloc.copies (alloc : Alloc) (source : BioMsg) : Bool :=
  !(!alloc.data || (source.peer.isSome && !alloc.peer) ||
    (source.localAddr.isSome && !alloc.localAddr))

/-- The items a batch is queued as, or `none` if the whole queue is given up. -/
def fillItems : List Alloc → List BioMsg → Option (List Item)
  | _, [] => some []
  | [], _ :: _ => none
  | alloc :: allocs, source :: rest =>
    if alloc.item.isSome ∧ source.data.isSome ∧ source.dataLen ≠ 0 ∧ alloc.copies source = true then
      (fillItems allocs rest).map (source.item :: ·)
    else
      none

/-- What a call leaves: the queue, the current peer address, and what it returns. -/
structure Served where
  queue : List Item
  addr : BioAddr
  ret : Ret

/-- A call that takes the first datagram of the queue. -/
def servePop (queue : List Item) (msg : BioMsg) (msgs : List BioMsg) : Served :=
  match popItem msg queue with
  | (queue, none) => { queue, addr := .unspec, ret := { rv := false, processed := some 0, msgs } }
  | (queue, some m) =>
    { queue, addr := m.peer.getD .unspec,
      ret := { rv := true, processed := some 1, msgs := m :: msgs.tail } }

/-- A call of the receive handler when the queue is a list. -/
def serve (addr : BioAddr) (queue : List Item) (c : Call) : Served :=
  match c.msgs with
  | [] => { queue, addr, ret := { rv := false, processed := none, msgs := [] } }
  | msg :: _ =>
    if !c.next || !c.msgsProcessed then
      { queue, addr, ret := { rv := false, processed := none, msgs := c.msgs } }
    else
      match queue with
      | _ :: _ => servePop queue msg c.msgs
      | [] =>
        let msgs := receiveAll c.msgs c.batch
        if c.rv && decide (c.batch.length > 0) then
          match fillItems c.allocs (msgs.take c.batch.length) with
          | none =>
            { queue := [], addr := .unspec, ret := { rv := false, processed := some 0, msgs } }
          | some queue => servePop queue (msgs.headD msg) msgs
        else
          { queue := [], addr := .unspec,
            ret := { rv := c.rv, processed := some c.batch.length, msgs } }

section
variable {e : Engine} {xs : List (Ptr × Item)} {msg : BioMsg}

/-- Popping refines `popItem`. -/
lemma queuePop_rep (msg : BioMsg) (rep : e.peerRx.Rep xs) :
    ∃ q ys, queuePop e msg = some ({ e with peerRx := q }, (popItem msg (xs.map Prod.snd)).2) ∧
    q.Rep ys ∧
      ys.map Prod.snd = (popItem msg (xs.map Prod.snd)).1 := by
  cases xs with
  | nil =>
    have head : e.peerRx.head = none := rep.head
    exact ⟨e.peerRx, [], by rw [queuePop, head]; rfl, rep, rfl⟩
  | cons x ys =>
    obtain ⟨a, item⟩ := x
    have head : e.peerRx.head = some a := rep.head
    have cell : e.peerRx.mem a = some { val := item, next := front ys } := rep.cell (l := [])
    rw [List.map_cons, popItem, queuePop, head]
    cases hd : msg.data with
    | none => exact ⟨e.peerRx, (a, item) :: ys, rfl, rep, rfl⟩
    | some buf =>
      obtain ⟨q, eq, repq⟩ := rep.dropHead
      simp only [cell, eq, Option.bind_eq_bind, Option.bind_some]
      split
      · exact ⟨q, ys, rfl, repq, rfl⟩
      · exact ⟨q, ys, rfl, repq, rfl⟩

/-- Giving up on a batch empties the queue. -/
lemma dropAll_rep (rep : e.peerRx.Rep xs) :
    ∃ q, e.dropAll = some ({ e with peerRx := q }, false) ∧ q.Rep [] := by
  obtain ⟨q, eq, repq⟩ := rep.clear
  exact ⟨q, by rw [Engine.dropAll, eq]; rfl, repq⟩

/-- One item that cannot be queued makes `h3q_queue_fill` give up. -/
lemma queueFill_refused {alloc : Alloc} {allocs : List Alloc} {source : BioMsg} {rest : List BioMsg}
    (h : ¬(alloc.item.isSome ∧ source.data.isSome ∧ source.dataLen ≠ 0 ∧
      alloc.copies source = true)) :
    queueFill e (alloc :: allocs) (source :: rest) = e.dropAll := by
  rw [queueFill]
  cases ha : alloc.item with
  | none => rfl
  | some a =>
    cases hd : source.data with
    | none => rfl
    | some buf =>
      dsimp only
      split
      · rfl
      · rename_i hz
        refine if_pos ?_
        by_contra failed
        refine h ⟨by rw [ha]; rfl, by rw [hd]; rfl, hz, ?_⟩
        rw [Alloc.copies, (Bool.not_eq_true _).mp failed]
        rfl

/-- Filling refines `fillItems`. -/
lemma queueFill_rep {allocs : List Alloc} (ms : List BioMsg) (rep : e.peerRx.Rep xs)
    (fresh : ∀ a ∈ allocs.filterMap Alloc.item, (e.peerRx.mem a).isNone)
    (distinct : (allocs.filterMap Alloc.item).Nodup) :
    ∃ q ys, queueFill e allocs ms = some ({ e with peerRx := q }, (fillItems allocs ms).isSome) ∧
    q.Rep ys ∧
      ys.map Prod.snd = ((fillItems allocs ms).map (xs.map Prod.snd ++ ·)).getD [] := by
  induction ms generalizing e xs allocs with
  | nil => exact ⟨e.peerRx, xs, by rw [queueFill, fillItems]; rfl, rep, by simp [fillItems]⟩
  | cons source rest ih =>
    obtain ⟨q0, eq0, rep0⟩ := dropAll_rep rep
    cases allocs with
    | nil => exact ⟨q0, [], by rw [queueFill, eq0]; rfl, rep0, rfl⟩
    | cons alloc allocs =>
      rw [fillItems]
      split
      · rename_i ok
        obtain ⟨hi, hd, hz, copies⟩ := ok
        obtain ⟨a, ha⟩ := Option.isSome_iff_exists.mp hi
        obtain ⟨buf, hd⟩ := Option.isSome_iff_exists.mp hd
        rw [List.filterMap_cons_some ha] at fresh distinct
        rw [List.nodup_cons] at distinct
        have fresha : e.peerRx.mem a = none :=
          Option.isNone_iff_eq_none.mp (fresh a List.mem_cons_self)
        obtain ⟨q1, eq1, rep1⟩ := rep.push fresha (v := source.item)
        -- the addresses of the later items are still unused after this one was linked
        have fresh1 : ∀ b ∈ allocs.filterMap Alloc.item, (q1.mem b).isNone := by
          intro b hb
          have hne : b ≠ a := fun h => distinct.1 (h ▸ hb)
          have hbn := fresh b (List.mem_cons_of_mem _ hb)
          rw [Option.isNone_iff_eq_none] at hbn ⊢
          exact Queue.push_mem_none eq1 hne hbn
        obtain ⟨q2, ys, eq2, rep2, items⟩ :=
          ih (e := { e with peerRx := q1 }) rep1 fresh1 distinct.2
        refine ⟨q2, ys, ?_, rep2, ?_⟩
        · have item : source.item = ⟨buf.take source.dataLen, source.peer, source.localAddr⟩ := by
            rw [BioMsg.item, hd]
            rfl
          have hdup : ¬(!alloc.data || (source.peer.isSome && !alloc.peer) ||
              (source.localAddr.isSome && !alloc.localAddr)) = true := by
            rw [Alloc.copies, Bool.not_eq_true'] at copies
            rw [copies]
            exact Bool.false_ne_true
          rw [item] at eq1
          rw [queueFill, ha, hd]
          simp only [if_neg hz, if_neg hdup, eq1, Option.bind_eq_bind, Option.bind_some, eq2,
            Option.isSome_map]
        · rw [items, List.map_append, List.map_singleton]
          cases fillItems allocs rest with
          | none => rfl
          | some zs => simp
      · rename_i no
        exact ⟨q0, [], by rw [queueFill_refused no, eq0]; rfl, rep0, rfl⟩

/-- A batch that is queued is queued as it is, and none of its datagrams is empty. -/
lemma fillItems_some {allocs : List Alloc} {ms : List BioMsg} {zs : List Item}
    (h : fillItems allocs ms = some zs) :
    zs = ms.map BioMsg.item ∧ ∀ m ∈ ms, m.data.isSome ∧ m.dataLen ≠ 0 := by
  induction ms generalizing allocs zs with
  | nil =>
    rw [fillItems] at h
    cases h
    exact ⟨rfl, nofun⟩
  | cons source rest ih =>
    cases allocs with
    | nil => cases h
    | cons alloc allocs =>
      rw [fillItems] at h
      split at h
      · rename_i ok
        obtain ⟨ws, hw, rfl⟩ := Option.map_eq_some_iff.mp h
        obtain ⟨items, all⟩ := ih hw
        refine ⟨by rw [items, List.map_cons], ?_⟩
        intro m mem
        rcases List.mem_cons.mp mem with rfl | mem
        · exact ⟨ok.2.1, ok.2.2.1⟩
        · exact all m mem
      · cases h

/-- The peer address of the slot is noted over an unspecified one. -/
lemma note_eq {m : BioMsg} (unspec : e.currentPeerAddr = .unspec) :
    e.note m = { e with currentPeerAddr := m.peer.getD .unspec } := by
  rw [Engine.note]
  cases m.peer with
  | none => rw [Option.getD_none, ← unspec]
  | some a => rfl

/-- The end of a call that takes the first datagram of the queue. -/
lemma queuePop_serve (msg : BioMsg) (msgs : List BioMsg) (rep : e.peerRx.Rep xs)
    (unspec : e.currentPeerAddr = .unspec) :
    ∃ q ys, ((queuePop e msg).bind fun
        | (e, none) => some (e, { rv := false, processed := some 0, msgs })
        | (e, some m) => some (e.note m,
          { rv := true, processed := some 1, msgs := m :: msgs.tail })) =
        some ({ e with currentPeerAddr := (servePop (xs.map Prod.snd) msg msgs).addr, peerRx := q },
          (servePop (xs.map Prod.snd) msg msgs).ret) ∧
      q.Rep ys ∧ ys.map Prod.snd = (servePop (xs.map Prod.snd) msg msgs).queue := by
  obtain ⟨q, ys, eq, repq, items⟩ := queuePop_rep msg rep
  refine ⟨q, ys, ?_, repq, ?_⟩
  · rw [eq, Option.bind_some, servePop]
    rcases popItem msg (xs.map Prod.snd) with ⟨_, _ | m⟩
    · dsimp only
      rw [← unspec]
    · dsimp only
      rw [note_eq (e := { e with peerRx := q }) unspec]
  · rw [items, servePop]
    rcases popItem msg (xs.map Prod.snd) with ⟨_, _ | m⟩ <;> rfl

/-- The receive handler refines `serve`. -/
theorem recvmmsg_serve (c : Call) (rep : e.peerRx.Rep xs)
    (fresh : ∀ a ∈ c.allocs.filterMap Alloc.item, (e.peerRx.mem a).isNone)
    (distinct : (c.allocs.filterMap Alloc.item).Nodup) :
    ∃ q ys, peerAddrBioRecvmmsg e c =
        some ({ e with
            currentPeerAddr := (serve e.currentPeerAddr (xs.map Prod.snd) c).addr
            peerRx := q },
          (serve e.currentPeerAddr (xs.map Prod.snd) c).ret) ∧
      q.Rep ys ∧ ys.map Prod.snd = (serve e.currentPeerAddr (xs.map Prod.snd) c).queue := by
  rw [peerAddrBioRecvmmsg, serve]
  cases hm : c.msgs with
  | nil => exact ⟨e.peerRx, xs, rfl, rep, rfl⟩
  | cons msg rest =>
    dsimp only
    split
    · exact ⟨e.peerRx, xs, rfl, rep, rfl⟩
    cases xs with
    | cons x xs =>
      have head : e.peerRx.head = some x.1 := rep.head
      simp only [head, Option.isSome_some, if_true, List.map_cons]
      exact queuePop_serve (e := { e with currentPeerAddr := .unspec }) msg (msg :: rest) rep rfl
    | nil =>
      have head : e.peerRx.head = none := rep.head
      simp only [head, Option.isSome_none, Bool.false_eq_true, if_false, List.map_nil]
      split
      · rename_i asked
        rw [(Bool.and_eq_true_iff.mp asked).1]
        obtain ⟨q, ys, eq, repq, items⟩ :=
          queueFill_rep (e := { e with currentPeerAddr := .unspec })
          ((receiveAll (msg :: rest) c.batch).take c.batch.length) rep fresh distinct
        rw [eq]
        cases filled : fillItems c.allocs
          ((receiveAll (msg :: rest) c.batch).take c.batch.length) with
        | none =>
          rw [filled] at items
          exact ⟨q, ys, rfl, repq, items⟩
        | some zs =>
          rw [filled, Option.map_some, Option.getD_some, List.map_nil, List.nil_append] at items
          rw [← items]
          exact queuePop_serve (e := { e with currentPeerAddr := .unspec, peerRx := q }) _ _ repq
            rfl
      · exact ⟨e.peerRx, [], rfl, rep, rfl⟩

end

end ModHttp3.Quic

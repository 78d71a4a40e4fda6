import ModHttp3.Lib.Ownership
import ModHttp3.Quic.Attribution

/-!
# Who frees what in the QUIC engine

Model of `h3q_engine_create` and `h3q_engine_destroy` (`quic/h3q.c`), of `h3q_tls_ctx_create`
(`quic/detail/h3q_tls.c`) and of `quic/detail/h3q_addr.c`, as programs that allocate and free: the
engine, the TLS context, the BIO method, the address, the listener with its two BIOs, the queued
datagrams with their copies, and the addresses that are stored on connections. Every call that can
fail does so if its answer says so.

C → Lean naming: the `h3q_` prefix is dropped and the rest is in camel case. A pointer is the number
of an object, or `none` for null. The contents of the datagrams and of the address are kept as well,
and what a call of the receive handler does to them is what `Quic.serve` says
(`peerAddrBioRecvmmsg_serve`). OpenSSL frees the BIOs of the listener with it, and the address of a
connection with the connection; `h3q_engine_destroy` is called when no connection is left.
`engine_releases_all` is about every run of this.
-/

namespace ModHttp3.Quic.Lifecycle
open ModHttp3.Lib

/-- What is done with an object other than freeing it. -/
inductive Touch where
  | deref
deriving DecidableEq

/-- A queued copy of a datagram: the objects of `h3q_datagram`, and what is in them. -/
structure Queued where
  item : Nat
  data : Option Nat
  peer : Option Nat
  localAddr : Option Nat
  content : Item
deriving DecidableEq

/-- The listener and, once they are set, the filter BIO and the datagram BIO under it. -/
structure Listener where
  ssl : Nat
  bio : Option (Nat × Nat)
deriving DecidableEq

/-- The objects of `h3q_engine`, and what is in the current peer address. -/
structure Engine where
  memory : Nat
  sslCtx : Option Nat
  sslListener : Option Listener
  currentPeerAddr : Option Nat
  peerAddrBioMethod : Option Nat
  peerAddrExIndex : Int
  peerRx : List Queued
  addr : BioAddr
deriving DecidableEq

/-- What `calloc` leaves, and the index set to -1. -/
def Engine.blank (memory : Nat) : Engine where
  memory := memory
  sslCtx := none
  sslListener := none
  currentPeerAddr := none
  peerAddrBioMethod := none
  peerAddrExIndex := -1
  peerRx := []
  addr := .unspec

/-- C `h3q_datagram_free`. -/
def datagramFree (item : Queued) : Act Touch Unit := do
  Act.use .deref item.item
  Act.freeAny item.data
  Act.freeAny item.peer
  Act.freeAny item.localAddr
  Act.free item.item

/-- The loop of `h3q_peer_addr_queue_clear`. -/
def clearLoop : List Queued → Act Touch Unit
  | [] => pure ()
  | item :: next => do
    datagramFree item
    clearLoop next

/-- C `h3q_peer_addr_queue_clear`. -/
def peerAddrQueueClear (e : Engine) : Act Touch Engine := do
  Act.use .deref e.memory
  clearLoop e.peerRx
  pure { e with peerRx := [] }

/-- Freeing the BIOs, if there are any; freeing the filter BIO calls `h3q_peer_addr_bio_destroy`. -/
def bioFree (e : Engine) : Option (Nat × Nat) → Act Touch Engine
  | none => pure e
  | some (filter, dgram) => do
    Act.useAny .deref e.peerAddrBioMethod
    let e ← peerAddrQueueClear e
    Act.free filter
    Act.free dgram
    pure e

/-- `SSL_free` of the listener, if there is one, which frees its BIOs. -/
def sslFree (e : Engine) : Option Listener → Act Touch Engine
  | none => pure e
  | some listener => do
    let e ← bioFree e listener.bio
    Act.useAny .deref e.sslCtx
    Act.free listener.ssl
    pure e

/-- C `h3q_engine_destroy`. -/
def engineDestroy (e : Engine) : Act Touch Unit := do
  let e ← peerAddrQueueClear e
  let e ← sslFree e e.sslListener
  Act.freeAny e.currentPeerAddr
  Act.freeAny e.peerAddrBioMethod
  Act.freeAny e.sslCtx
  Act.free e.memory

/-- Which of the calls in `h3q_engine_create` and `h3q_tls_ctx_create` succeed, and the index
OpenSSL returns. -/
structure CreateAnswer where
  calloc : Bool
  sslCtxNew : Bool
  certificate : Bool
  bioMethNew : Bool
  bioMethSet : Bool
  bioAddrNew : Bool
  exIndex : Int
  sslNewListener : Bool
  bioNewDgram : Bool
  bioNew : Bool
  sslListen : Bool

/-- C `h3q_tls_ctx_create`. -/
def tlsCtxCreate (a : CreateAnswer) : Act Touch (Option Nat) := do
  match ← Act.alloc a.sslCtxNew with
  | none => pure none
  | some ctx =>
    Act.use .deref ctx
    if !a.certificate then
      Act.free ctx
      pure none
    else
      pure (some ctx)

/-- The end of `h3q_engine_create`: the BIOs, and `SSL_listen`. As in the parts before it, the
result is the engine as far as it was set up, and whether nothing failed. -/
def setBio (e : Engine) (ssl : Nat) (a : CreateAnswer) : Act Touch (Engine × Bool) := do
  match ← Act.alloc a.bioNewDgram with
  | none => pure (e, false)
  | some dgram =>
    Act.useAny .deref e.peerAddrBioMethod
    match ← Act.alloc a.bioNew with
    | none =>
      Act.free dgram
      pure (e, false)
    | some filter =>
      Act.use .deref ssl
      pure ({ e with sslListener := some { ssl, bio := some (filter, dgram) } }, a.sslListen)

/-- The listener. -/
def newListener (e : Engine) (a : CreateAnswer) : Act Touch (Engine × Bool) := do
  Act.useAny .deref e.sslCtx
  match ← Act.alloc a.sslNewListener with
  | none => pure (e, false)
  | some ssl => setBio { e with sslListener := some { ssl, bio := none } } ssl a

/-- The address and the index. -/
def initAddr (e : Engine) (a : CreateAnswer) : Act Touch (Engine × Bool) := do
  let addr ← Act.alloc a.bioAddrNew
  let e := { e with currentPeerAddr := addr, peerAddrExIndex := a.exIndex }
  if addr.isNone || decide (e.peerAddrExIndex < 0) then
    pure (e, false)
  else
    newListener e a

/-- The BIO method. -/
def newMethod (e : Engine) (a : CreateAnswer) : Act Touch (Engine × Bool) := do
  match ← Act.alloc a.bioMethNew with
  | none => pure (e, false)
  | some bm =>
    let e := { e with peerAddrBioMethod := some bm }
    Act.use .deref bm
    if !a.bioMethSet then
      pure (e, false)
    else
      initAddr e a

/-- The TLS context. -/
def newCtx (e : Engine) (a : CreateAnswer) : Act Touch (Engine × Bool) := do
  match ← tlsCtxCreate a with
  | none => pure (e, false)
  | some ctx => newMethod { e with sslCtx := some ctx } a

/-- C `h3q_engine_create`: after a failure `h3q_engine_destroy` frees what there is. -/
def engineCreate (a : CreateAnswer) : Act Touch (Option Engine) := do
  match ← Act.alloc a.calloc with
  | none => pure none
  | some memory =>
    let (e, ok) ← newCtx (.blank memory) a
    if ok then
      pure (some e)
    else
      engineDestroy e
      pure none

/-- Give up on a batch. -/
def dropAll (e : Engine) : Act Touch (Engine × Bool) := do
  let e ← peerAddrQueueClear e
  pure (e, false)

/-- `BIO_ADDR_dup` of an address, if there is one. -/
def dupAddr (source : Option BioAddr) (ok : Bool) : Act Touch (Option Nat) :=
  if source.isSome then Act.alloc ok else pure none

/-- The copy of a datagram in `h3q_queue_fill`; if it cannot be made, what there is of it is
freed. -/
def copyDatagram (alloc : Alloc) (source : BioMsg) : Act Touch (Option Queued) := do
  match ← Act.alloc alloc.item.isSome with
  | none => pure none
  | some item =>
    if source.data.isNone || source.dataLen == 0 then
      Act.free item
      pure none
    else
      let data ← Act.alloc alloc.data
      let peer ← dupAddr source.peer alloc.peer
      let localAddr ← dupAddr source.localAddr alloc.localAddr
      if data.isNone || (source.peer.isSome && peer.isNone) ||
        (source.localAddr.isSome && localAddr.isNone) then
        Act.freeAny data
        Act.freeAny peer
        Act.freeAny localAddr
        Act.free item
        pure none
      else
        pure (some { item, data, peer, localAddr, content := source.item })

/-- C `h3q_queue_fill`; there is no memory once `allocs` run out. -/
def queueFill (e : Engine) : List Alloc → List BioMsg → Act Touch (Engine × Bool)
  | _, [] => pure (e, true)
  | [], _ :: _ => dropAll e
  | alloc :: allocs, source :: rest => do
    match ← copyDatagram alloc source with
    | none => dropAll e
    | some item =>
      -- the tail of the queue is linked to the new item
      Act.useAny .deref (e.peerRx.getLast?.map Queued.item)
      queueFill { e with peerRx := e.peerRx ++ [item] } allocs rest

/-- C `h3q_queue_pop`, with `h3q_queue_drop_head`. -/
def queuePop (e : Engine) (msg : BioMsg) : Act Touch (Engine × Option BioMsg) :=
  match e.peerRx, msg.data with
  | item :: next, some buf => do
    Act.use .deref item.item
    datagramFree item
    let e := { e with peerRx := next }
    if msg.dataLen < item.content.data.length then
      pure (e, none)
    else
      pure (e, some (msg.copy buf item.content))
  | _, _ => pure (e, none)

/-- `BIO_ADDR_copy` to the current peer address of the source of the datagram. -/
def note (e : Engine) (msg : BioMsg) : Act Touch Engine :=
  match msg.peer with
  | some addr => do
    Act.useAny .deref e.currentPeerAddr
    pure { e with addr }
  | none => pure e

/-- The end of a call that takes a datagram off the queue. -/
def deliver (e : Engine) (msg : BioMsg) (msgs : List BioMsg) : Act Touch (Engine × Ret) := do
  match ← queuePop e msg with
  | (e, none) => pure (e, { rv := false, processed := some 0, msgs })
  | (e, some m) =>
    let e ← note e m
    pure (e, { rv := true, processed := some 1, msgs := m :: msgs.tail })

/-- C `h3q_peer_addr_bio_recvmmsg`. -/
def peerAddrBioRecvmmsg (e : Engine) (c : Call) : Act Touch (Engine × Ret) :=
  match c.msgs with
  | [] => pure (e, { rv := false, processed := none, msgs := [] })
  | msg :: _ =>
    if !c.next || !c.msgsProcessed then
      pure (e, { rv := false, processed := none, msgs := c.msgs })
    else do
      Act.use .deref e.memory
      Act.useAny .deref e.currentPeerAddr
      let e := { e with addr := .unspec }
      if !e.peerRx.isEmpty then
        deliver e msg c.msgs
      else
        let msgs := receiveAll c.msgs c.batch
        let received := c.batch.length
        if c.rv && decide (received > 0) then
          match ← queueFill e c.allocs (msgs.take received) with
          | (e, false) => pure (e, { rv := false, processed := some 0, msgs })
          | (e, true) => deliver e (msgs.headD msg) msgs
        else
          pure (e, { rv := c.rv, processed := some received, msgs })

/-- C `h3q_new_pending_conn_cb`: the address that is stored on the connection, if one is, and the
return value. -/
def newPendingConnCb (e : Engine) (dup set : Bool) : Act Touch (Option Nat × Bool) := do
  Act.use .deref e.memory
  Act.useAny .deref e.currentPeerAddr
  if e.peerAddrExIndex < 0 ∨ e.addr = .unspec then
    pure (none, true)
  else
    match ← Act.alloc dup with
    | none => pure (none, false)
    | some peer =>
      if !set then
        Act.free peer
        pure (none, false)
      else
        pure (some peer, true)

/-- The objects of a queued datagram, in the order they are freed. -/
def Queued.owned (item : Queued) : List Nat :=
  item.data.toList ++ (item.peer.toList ++ (item.localAddr.toList ++ [item.item]))

/-- The objects of the listener. -/
def Listener.owned (listener : Listener) : List Nat :=
  listener.bio.elim [] (fun b => [b.1, b.2]) ++ [listener.ssl]

/-- The objects that are freed after the queue and the listener. -/
def Engine.base (e : Engine) : List Nat :=
  e.currentPeerAddr.toList ++ (e.peerAddrBioMethod.toList ++ (e.sslCtx.toList ++ [e.memory]))

/-- The objects of the engine. -/
def Engine.owned (e : Engine) : List Nat :=
  e.peerRx.flatMap Queued.owned ++ (e.sslListener.elim [] Listener.owned ++ e.base)

section
variable {e : Engine} {own rest : List Nat} {a : CreateAnswer}

/-- The memory of the engine is one of its own objects. -/
lemma Engine.memory_base (e : Engine) : e.memory ∈ e.base := by simp [Engine.base]

/-- The objects of the engine itself are owned by it. -/
lemma Engine.base_owned (e : Engine) {r : Nat} (mem : r ∈ e.base) : r ∈ e.owned :=
  List.mem_append_right _ (List.mem_append_right _ mem)

/-- Freeing a queued datagram frees its data and its addresses. -/
lemma datagramFree_owns (item : Queued) :
    Owns (item.owned ++ rest) (datagramFree item) fun _ => rest := by
  have mem : item.item ∈ item.owned ++ rest := by simp [Queued.owned]
  refine .bind (.use mem) fun _ => ?_
  simp only [Queued.owned, List.append_assoc]
  refine .bind .freeAny fun _ => ?_
  refine .bind .freeAny fun _ => ?_
  refine .bind .freeAny fun _ => ?_
  exact .free

/-- The loop that clears the queue frees every datagram in it. -/
lemma clearLoop_owns (items : List Queued) :
    Owns (items.flatMap Queued.owned ++ rest) (clearLoop items) fun _ => rest := by
  induction items with
  | nil => exact .pure (.refl _)
  | cons item next ih =>
    rw [List.flatMap_cons, List.append_assoc]
    exact .bind (datagramFree_owns item) fun _ => ih

/-- Clearing the queue frees every datagram in it. -/
lemma peerAddrQueueClear_owns (mem : e.memory ∈ rest) :
    Owns (e.peerRx.flatMap Queued.owned ++ rest) (peerAddrQueueClear e) fun _ => rest := by
  refine .bind (.use (List.mem_append_right _ mem)) fun _ => ?_
  exact .bind (clearLoop_owns e.peerRx) fun _ => .pure (.refl _)

/-- Clearing the queue leaves it empty. -/
lemma peerAddrQueueClear_returns (e : Engine) :
    Returns (peerAddrQueueClear e) (· = { e with peerRx := [] }) := fun _ => rfl

/-- The queue is empty when the BIOs are freed. -/
lemma bioFree_owns (empty : e.peerRx = []) (memory : e.memory ∈ rest)
    (method : ∀ r, e.peerAddrBioMethod = some r → r ∈ rest) (bio : Option (Nat × Nat)) :
    Owns (bio.elim [] (fun b => [b.1, b.2]) ++ rest) (bioFree e bio) fun _ => rest := by
  cases bio with
  | none => exact .pure (.refl _)
  | some b =>
    have clear := peerAddrQueueClear_owns (List.mem_append_right [b.1, b.2] memory)
    rw [empty] at clear
    refine .bind (.useAny fun r is => List.mem_append_right _ (method r is)) fun _ => ?_
    refine .bind clear fun _ => ?_
    refine .bind .free fun _ => ?_
    exact .bind .free fun _ => .pure (.refl _)

/-- Freeing the BIOs of a listener changes nothing else when the queue is empty. -/
lemma bioFree_returns (empty : e.peerRx = []) (bio : Option (Nat × Nat)) :
    Returns (bioFree e bio) (· = e) := by
  cases bio with
  | none => exact .pure rfl
  | some b =>
    refine .skip fun _ => .bind (peerAddrQueueClear_returns e) ?_
    rintro _ rfl
    have same : { e with peerRx := [] } = e := by rw [← empty]
    exact .skip fun _ => .skip fun _ => .pure same

/-- Freeing the listener frees its BIOs. -/
lemma sslFree_owns (e : Engine) (empty : e.peerRx = []) (listener : Option Listener) :
    Owns (listener.elim [] Listener.owned ++ (e.base ++ rest)) (sslFree e listener)
      fun _ => e.base ++ rest := by
  cases listener with
  | none => exact .pure (.refl _)
  | some listener =>
    have ctx : ∀ r, e.sslCtx = some r → r ∈ [listener.ssl] ++ (e.base ++ rest) := by
      intro r is
      simp [Engine.base, is]
    have memory : e.memory ∈ [listener.ssl] ++ (e.base ++ rest) := by simp [Engine.base]
    have method : ∀ r, e.peerAddrBioMethod = some r → r ∈ [listener.ssl] ++ (e.base ++ rest) := by
      intro r is
      simp [Engine.base, is]
    rw [Option.elim_some, Listener.owned, List.append_assoc]
    refine .bind_returns (bioFree_owns empty memory method listener.bio)
      (bioFree_returns empty listener.bio) ?_
    rintro _ rfl
    refine .bind (.useAny ctx) fun _ => ?_
    exact .bind .free fun _ => .pure (.refl _)

/-- Freeing the listener changes nothing else when the queue is empty. -/
lemma sslFree_returns (empty : e.peerRx = []) (listener : Option Listener) :
    Returns (sslFree e listener) (· = e) := by
  cases listener with
  | none => exact .pure rfl
  | some listener =>
    refine .bind (bioFree_returns empty listener.bio) ?_
    rintro _ rfl
    exact .skip fun _ => .skip fun _ => .pure rfl

/-- Everything is freed with the engine. -/
lemma engineDestroy_owns (e : Engine) : Owns (e.owned ++ rest) (engineDestroy e) fun _ => rest := by
  have memory : e.memory ∈ e.sslListener.elim [] Listener.owned ++ (e.base ++ rest) := by
    simp [Engine.base]
  rw [Engine.owned, List.append_assoc, List.append_assoc]
  refine .bind_returns (peerAddrQueueClear_owns memory) (peerAddrQueueClear_returns e) ?_
  rintro _ rfl
  refine .bind_returns (sslFree_owns { e with peerRx := [] } rfl _) (sslFree_returns rfl _) ?_
  rintro _ rfl
  simp only [Engine.base, List.append_assoc]
  refine .bind .freeAny fun _ => ?_
  refine .bind .freeAny fun _ => ?_
  refine .bind .freeAny fun _ => ?_
  exact .free

/-- `h3q_tls_ctx_create` returns the context it holds, or frees it. -/
lemma tlsCtxCreate_owns : Owns own (tlsCtxCreate a) fun ctx => ctx.toList ++ own := by
  refine .bind (.alloc a.sslCtxNew) fun ctx => ?_
  cases ctx with
  | none => exact .pure (.refl _)
  | some ctx =>
    refine .bind (.use List.mem_cons_self) fun _ => ?_
    split
    · exact .bind .free fun _ => .pure (.refl _)
    · exact .pure (.refl _)

/-- The BIOs belong to the listener once they are set. -/
lemma setBio_owns {ssl : Nat} (listener : e.sslListener = some { ssl, bio := none })
    (queue : e.peerRx = []) :
    Owns (e.owned ++ rest) (setBio e ssl a) fun r => r.1.owned ++ rest := by
  refine .bind (.alloc a.bioNewDgram) fun dgram => ?_
  cases dgram with
  | none => exact .pure (.refl _)
  | some dgram =>
    have method : ∀ r, e.peerAddrBioMethod = some r → r ∈ dgram :: (e.owned ++ rest) := by
      intro r is
      simp [Engine.owned, Engine.base, is]
    refine .bind (.useAny method) fun _ => ?_
    refine .bind (.alloc a.bioNew) fun filter => ?_
    cases filter with
    | none => exact .bind .free fun _ => .pure (.refl _)
    | some filter =>
      have mem : ssl ∈ filter :: dgram :: (e.owned ++ rest) := by
        simp [Engine.owned, listener, Listener.owned]
      refine .bind (.use mem) fun _ => .pure ?_
      simp [Engine.owned, listener, queue, Listener.owned, Engine.base]

/-- The listener is held by the engine, or was freed. -/
lemma newListener_owns (listener : e.sslListener = none) (queue : e.peerRx = []) :
    Owns (e.owned ++ rest) (newListener e a) fun r => r.1.owned ++ rest := by
  have ctx : ∀ r, e.sslCtx = some r → r ∈ e.owned ++ rest := by
    intro r is
    simp [Engine.owned, Engine.base, is]
  refine .bind (.useAny ctx) fun _ => ?_
  refine .bind (.alloc a.sslNewListener) fun ssl => ?_
  cases ssl with
  | none => exact .pure (.refl _)
  | some ssl =>
    refine .perm ?_ (setBio_owns rfl queue) fun _ => .refl _
    simp [Engine.owned, listener, queue, Listener.owned, Engine.base]

/-- The current peer address is held by the engine, or was freed. -/
lemma initAddr_owns (addr : e.currentPeerAddr = none) (listener : e.sslListener = none)
    (queue : e.peerRx = []) :
    Owns (e.owned ++ rest) (initAddr e a) fun r => r.1.owned ++ rest := by
  refine .bind (.alloc a.bioAddrNew) fun new => ?_
  have moved : (new.toList ++ (e.owned ++ rest)).Perm
      ({ e with currentPeerAddr := new, peerAddrExIndex := a.exIndex }.owned ++ rest) := by
    simp [Engine.owned, addr, listener, queue, Engine.base]
  refine .perm moved ?_ fun _ => .refl _
  dsimp only
  split
  · exact .pure (.refl _)
  · exact newListener_owns listener queue

/-- The BIO method is held by the engine, or was freed. -/
lemma newMethod_owns (method : e.peerAddrBioMethod = none) (addr : e.currentPeerAddr = none)
    (listener : e.sslListener = none) (queue : e.peerRx = []) :
    Owns (e.owned ++ rest) (newMethod e a) fun r => r.1.owned ++ rest := by
  refine .bind (.alloc a.bioMethNew) fun new => ?_
  cases new with
  | none => exact .pure (.refl _)
  | some bm =>
    have moved : (bm :: (e.owned ++ rest)).Perm
        ({ e with peerAddrBioMethod := some bm }.owned ++ rest) := by
      simp [Engine.owned, method, addr, listener, queue, Engine.base]
    refine .bind (.use List.mem_cons_self) fun _ => ?_
    refine .perm moved ?_ fun _ => .refl _
    split
    · exact .pure (.refl _)
    · exact initAddr_owns addr listener queue

/-- The set-up owns what it leaves in the engine, wherever it fails. -/
lemma newCtx_owns (memory : Nat) :
    Owns (memory :: rest) (newCtx (.blank memory) a) fun r => r.1.owned ++ rest := by
  refine .bind tlsCtxCreate_owns fun new => ?_
  cases new with
  | none => exact .pure (.refl _)
  | some ctx =>
    exact newMethod_owns (e := { Engine.blank memory with sslCtx := some ctx }) rfl rfl rfl rfl

/-- A failed creation frees everything. -/
lemma engineCreate_owns (a : CreateAnswer) :
    Owns rest (engineCreate a) fun engine => engine.elim [] Engine.owned ++ rest := by
  refine .bind (.alloc a.calloc) fun memory => ?_
  cases memory with
  | none => exact .pure (.refl _)
  | some memory =>
    refine .bind (newCtx_owns memory) fun r => ?_
    obtain ⟨e, ok⟩ := r
    cases ok with
    | true => exact .pure (.refl _)
    | false => exact .bind (engineDestroy_owns e) fun _ => .pure (.refl _)

/-- Dropping the queue frees what was in it. -/
lemma dropAll_owns (e : Engine) :
    Owns (e.owned ++ rest) (dropAll e) fun r => r.1.owned ++ rest := by
  have memory : e.memory ∈ e.sslListener.elim [] Listener.owned ++ (e.base ++ rest) := by
    simp [Engine.base]
  rw [Engine.owned, List.append_assoc, List.append_assoc]
  refine .bind_returns (peerAddrQueueClear_owns memory) (peerAddrQueueClear_returns e) ?_
  rintro _ rfl
  refine .pure ?_
  rw [← List.append_assoc]
  exact .refl _

/-- A duplicated address is held. -/
lemma dupAddr_owns (source : Option BioAddr) (ok : Bool) :
    Owns own (dupAddr source ok) fun r => r.toList ++ own := by
  rw [dupAddr]
  split
  · exact .alloc ok
  · exact .pure (.refl _)

/-- The tail of the queue is one of its items. -/
lemma tail_owned (e : Engine) {r : Nat} (is : e.peerRx.getLast?.map Queued.item = some r) :
    r ∈ e.owned := by
  obtain ⟨item, last, rfl⟩ := Option.map_eq_some_iff.mp is
  refine List.mem_append_left _ (List.mem_flatMap.mpr ⟨item, List.mem_of_getLast? last, ?_⟩)
  simp [Queued.owned]

/-- The objects of an item in the order they are allocated. -/
lemma owned_allocated (item : Queued) :
    (item.localAddr.toList ++ (item.peer.toList ++ (item.data.toList ++ item.item :: rest))).Perm
      (item.owned ++ rest) := by
  refine List.perm_iff_count.mpr fun r => ?_
  simp only [Queued.owned, List.count_append, List.count_cons, List.count_nil]
  omega

/-- A datagram that could not be copied leaves nothing behind. -/
lemma copyDatagram_owns (alloc : Alloc) (source : BioMsg) :
    Owns rest (copyDatagram alloc source) fun item => item.elim [] Queued.owned ++ rest := by
  refine .bind (.alloc _) fun item => ?_
  cases item with
  | none => exact .pure (.refl _)
  | some item =>
    rw [Option.toList_some, List.singleton_append]
    dsimp only
    split
    · exact .bind .free fun _ => .pure (.refl _)
    · refine .bind (.alloc _) fun data => ?_
      refine .bind (dupAddr_owns _ _) fun peer => ?_
      refine .bind (dupAddr_owns _ _) fun localAddr => ?_
      refine .perm (owned_allocated { item, data, peer, localAddr, content := source.item }) ?_
        fun _ => .refl _
      split
      · simp only [Queued.owned, List.append_assoc]
        refine .bind .freeAny fun _ => ?_
        refine .bind .freeAny fun _ => ?_
        refine .bind .freeAny fun _ => ?_
        exact .bind .free fun _ => .pure (.refl _)
      · exact .pure (.refl _)

/-- A datagram that is queued belongs to the queue. -/
lemma queueFill_owns (allocs : List Alloc) (sources : List BioMsg) (e : Engine) :
    Owns (e.owned ++ rest) (queueFill e allocs sources) fun r => r.1.owned ++ rest := by
  induction sources generalizing allocs e with
  | nil =>
    rw [queueFill]
    exact .pure (.refl _)
  | cons source sources ih =>
    cases allocs with
    | nil =>
      rw [queueFill]
      exact dropAll_owns e
    | cons alloc allocs =>
      rw [queueFill]
      refine .bind (copyDatagram_owns alloc source) fun item => ?_
      cases item with
      | none => exact dropAll_owns e
      | some item =>
        refine .bind (.useAny fun r is => ?_) fun _ => .perm ?_ (ih allocs _) fun _ => .refl _
        · exact List.mem_append_right _ (List.mem_append_left _ (tail_owned e is))
        · refine List.perm_iff_count.mpr fun r => ?_
          simp only [Engine.owned, List.flatMap_append, List.flatMap_singleton, List.count_append,
            Engine.base, Option.elim_some]
          omega

/-- The datagram that is taken off the queue is freed. -/
lemma queuePop_owns (e : Engine) (msg : BioMsg) :
    Owns (e.owned ++ rest) (queuePop e msg) fun r => r.1.owned ++ rest := by
  rw [queuePop]
  split
  · rename_i item next buf queue _
    have front : e.owned ++ rest = item.owned ++ ({ e with peerRx := next }.owned ++ rest) := by
      simp [Engine.owned, queue, Engine.base]
    rw [front]
    have mem : item.item ∈ item.owned ++ ({ e with peerRx := next }.owned ++ rest) := by
      simp [Queued.owned]
    refine .bind (.use mem) fun _ => ?_
    refine .bind (datagramFree_owns item) fun _ => ?_
    dsimp only
    split
    · exact .pure (.refl _)
    · exact .pure (.refl _)
  · exact .pure (.refl _)

/-- The current peer address is owned by the engine. -/
lemma addr_owned (e : Engine) {r : Nat} (is : e.currentPeerAddr = some r) :
    r ∈ e.owned ++ rest := by
  simp [Engine.owned, Engine.base, is]

/-- Noting a peer address allocates nothing. -/
lemma note_owns (e : Engine) (msg : BioMsg) :
    Owns (e.owned ++ rest) (note e msg) fun e => e.owned ++ rest := by
  rw [note]
  split
  · exact .bind (.useAny fun r => addr_owned e) fun _ => .pure (.refl _)
  · exact .pure (.refl _)

/-- Delivering a datagram frees it. -/
lemma deliver_owns (e : Engine) (msg : BioMsg) (msgs : List BioMsg) :
    Owns (e.owned ++ rest) (deliver e msg msgs) fun r => r.1.owned ++ rest := by
  refine .bind (queuePop_owns e msg) fun r => ?_
  obtain ⟨e, popped⟩ := r
  cases popped with
  | none => exact .pure (.refl _)
  | some m => exact .bind (note_owns e m) fun _ => .pure (.refl _)

/-- A call of the receive handler owns what it leaves in the engine. -/
lemma peerAddrBioRecvmmsg_owns (e : Engine) (c : Call) :
    Owns (e.owned ++ rest) (peerAddrBioRecvmmsg e c) fun r => r.1.owned ++ rest := by
  have memory : e.memory ∈ e.owned ++ rest := List.mem_append_left _ (e.base_owned e.memory_base)
  rw [peerAddrBioRecvmmsg]
  split
  · exact .pure (.refl _)
  · split
    · exact .pure (.refl _)
    · refine .bind (.use memory) fun _ => ?_
      refine .bind (.useAny fun r => addr_owned e) fun _ => ?_
      dsimp only
      split
      · exact deliver_owns { e with addr := .unspec } _ _
      · split
        · refine .bind (queueFill_owns c.allocs _ { e with addr := .unspec }) fun r => ?_
          obtain ⟨e, ok⟩ := r
          cases ok with
          | false => exact .pure (.refl _)
          | true => exact deliver_owns e _ _
        · exact .pure (.refl _)

/-- An address that is not stored on the connection is freed. -/
lemma newPendingConnCb_owns (e : Engine) (dup set : Bool) :
    Owns (e.owned ++ rest) (newPendingConnCb e dup set) fun r => r.1.toList ++
      (e.owned ++ rest) := by
  have memory : e.memory ∈ e.owned ++ rest := List.mem_append_left _ (e.base_owned e.memory_base)
  refine .bind (.use memory) fun _ => ?_
  refine .bind (.useAny fun r => addr_owned e) fun _ => ?_
  split
  · exact .pure (.refl _)
  · refine .bind (.alloc dup) fun peer => ?_
    cases peer with
    | none => exact .pure (.refl _)
    | some peer =>
      dsimp only
      split
      · exact .bind .free fun _ => .pure (.refl _)
      · exact .pure (.refl _)

/-- Duplicating an address fails exactly if the allocation does. -/
lemma dupAddr_returns (source : Option BioAddr) (ok : Bool) :
    Returns (dupAddr source ok) fun r => (source.isSome && r.isNone) = (source.isSome && !ok) := by
  cases source with
  | none => exact .pure rfl
  | some addr =>
    intro h
    cases ok with
    | _ => rfl

/-- The copy has what the slot has, and is made under the condition of `fillItems`. -/
lemma copyDatagram_returns (alloc : Alloc) (source : BioMsg) :
    Returns (copyDatagram alloc source) fun item =>
      item.map Queued.content =
        if alloc.item.isSome ∧ source.data.isSome ∧ source.dataLen ≠ 0 ∧
        alloc.copies source = true then some source.item
        else none := by
  refine .bind (.alloc _) fun item is => ?_
  cases item with
  | none =>
    refine .pure ?_
    rw [if_neg]
    · rfl
    · rintro ⟨present, -⟩
      rw [← is] at present
      cases present
  | some item =>
    dsimp only
    split
    · rename_i empty
      refine .skip fun _ => .pure ?_
      rw [if_neg]
      · rfl
      · rintro ⟨-, data, ne, -⟩
        simp [ne, Option.isNone_iff_eq_none] at empty
        simp [empty] at data
    · rename_i full
      refine .bind (.alloc _) fun data hd => ?_
      refine .bind (dupAddr_returns _ _) fun peer hp => ?_
      refine .bind (dupAddr_returns _ _) fun localAddr hl => ?_
      have copies :
        (data.isNone || (source.peer.isSome && peer.isNone) ||
          (source.localAddr.isSome && localAddr.isNone)) =
          !alloc.copies source := by
        rw [hp, hl, Alloc.copies, Bool.not_not, ← hd, Option.not_isSome]
      rw [copies]
      have there : alloc.item.isSome = true ∧ source.data.isSome = true ∧ source.dataLen ≠ 0 := by
        rw [Bool.not_eq_true, Bool.or_eq_false_iff, Option.isNone_eq_false_iff,
          beq_eq_false_iff_ne] at full
        exact ⟨is.symm, full⟩
      cases copied : alloc.copies source with
      | true =>
        refine .pure ?_
        rw [if_pos ⟨there.1, there.2.1, there.2.2, rfl⟩]
        rfl
      | false =>
        refine .skip fun _ => .skip fun _ => .skip fun _ => .skip fun _ => .pure ?_
        rw [if_neg (by simp)]
        rfl

/-- The queue as `fillItems` has it: the items of the batch are added, or everything is given up. -/
def Filled (e : Engine) (items : Option (List Item)) (r : Engine × Bool) : Prop :=
  match items with
  | none => r = ({ e with peerRx := [] }, false)
  | some items =>
    r.2 = true ∧ r.1.addr = e.addr ∧ r.1.peerRx.map Queued.content =
      e.peerRx.map Queued.content ++ items

/-- Dropping the queue leaves it empty and reports failure. -/
lemma dropAll_returns (e : Engine) : Returns (dropAll e) (· = ({ e with peerRx := [] }, false)) :=
  fun _ => rfl

/-- Filling the queue is `fillItems`. -/
lemma queueFill_returns (allocs : List Alloc) (sources : List BioMsg) (e : Engine) :
    Returns (queueFill e allocs sources) (Filled e (fillItems allocs sources)) := by
  induction sources generalizing allocs e with
  | nil =>
    rw [queueFill, fillItems]
    exact .pure ⟨rfl, rfl, (List.append_nil _).symm⟩
  | cons source sources ih =>
    cases allocs with
    | nil =>
      rw [queueFill, fillItems]
      exact dropAll_returns e
    | cons alloc allocs =>
      rw [queueFill, fillItems]
      refine .bind (copyDatagram_returns alloc source) fun item copy => ?_
      split at copy
      · rename_i copied
        rw [if_pos copied]
        obtain ⟨item, rfl, content⟩ := Option.map_eq_some_iff.mp copy
        refine .skip fun _ h => ?_
        have filled := ih allocs { e with peerRx := e.peerRx ++ [item] } h
        cases items : fillItems allocs sources with
        | none =>
          rw [items] at filled
          exact filled
        | some items' =>
          rw [items] at filled
          obtain ⟨ok, addr, queue⟩ := filled
          refine ⟨ok, addr, queue.trans ?_⟩
          simp [content]
      · rename_i refused
        rw [if_neg refused, Option.map_eq_none_iff.mp copy]
        exact dropAll_returns e

/-- What a call left in the engine and returned, as `serve` has it. -/
def AsServed (served : Served) (r : Engine × Ret) : Prop :=
  r.1.peerRx.map Queued.content = served.queue ∧ r.1.addr = served.addr ∧ r.2 = served.ret

/-- Noting a peer address sets it if the slot has one. -/
lemma note_returns (e : Engine) (msg : BioMsg) :
    Returns (note e msg) (· = { e with addr := msg.peer.getD e.addr }) := by
  rw [note]
  split
  · rename_i addr peer
    refine .skip fun _ => .pure ?_
    rw [peer]
    rfl
  · rename_i absent
    refine .pure ?_
    rw [absent]
    rfl

/-- Popping the queue is `popItem`. -/
lemma queuePop_returns (e : Engine) (msg : BioMsg) :
    Returns (queuePop e msg) fun r =>
      r.1.peerRx.map Queued.content = (popItem msg (e.peerRx.map Queued.content)).1 ∧
      r.1.addr = e.addr ∧
        r.2 = (popItem msg (e.peerRx.map Queued.content)).2 := by
  rw [queuePop]
  split
  · rename_i item next buf queue data
    refine .skip fun _ => .skip fun _ => ?_
    rw [queue, List.map_cons, popItem, data]
    dsimp only
    split
    · exact .pure ⟨rfl, rfl, rfl⟩
    · exact .pure ⟨rfl, rfl, rfl⟩
  · rename_i other
    refine .pure ?_
    cases queue : e.peerRx with
    | nil => exact ⟨rfl, rfl, rfl⟩
    | cons item next =>
      cases data : msg.data with
      | none =>
        rw [List.map_cons, popItem, data]
        exact ⟨rfl, rfl, rfl⟩
      | some buf => exact absurd data (other item next buf queue)

/-- Delivering a datagram is `servePop`. -/
lemma deliver_returns (unspec : e.addr = .unspec) (msg : BioMsg) (msgs : List BioMsg) :
    Returns (deliver e msg msgs) (AsServed (servePop (e.peerRx.map Queued.content) msg msgs)) := by
  refine .bind (queuePop_returns e msg) fun r popped => ?_
  obtain ⟨left, popped'⟩ := r
  obtain ⟨queue, addr, popped⟩ := popped
  dsimp only at queue addr popped
  rw [servePop]
  generalize popItem msg (e.peerRx.map Queued.content) = p at queue popped
  obtain ⟨items, m⟩ := p
  cases popped
  cases m with
  | none => exact .pure ⟨queue, addr.trans unspec, rfl⟩
  | some m =>
    refine .bind (note_returns left m) ?_
    rintro _ rfl
    refine .pure ⟨queue, ?_, rfl⟩
    rw [addr, unspec]

/-- What a call does to the datagrams is what `serve` does. -/
lemma peerAddrBioRecvmmsg_serve (e : Engine) (c : Call) :
    Returns (peerAddrBioRecvmmsg e c)
      (AsServed (serve e.addr (e.peerRx.map Queued.content) c)) := by
  rw [peerAddrBioRecvmmsg, serve]
  cases c.msgs with
  | nil => exact .pure ⟨rfl, rfl, rfl⟩
  | cons msg rest =>
    dsimp only
    split
    · exact .pure ⟨rfl, rfl, rfl⟩
    · refine .skip fun _ => .skip fun _ => ?_
      cases queue : e.peerRx with
      | cons item next =>
        have delivered := deliver_returns (e := { e with addr := .unspec }) rfl msg (msg :: rest)
        rw [queue] at delivered
        exact delivered
      | nil =>
        simp only [List.isEmpty_nil, Bool.not_true, Bool.false_eq_true, if_false, List.map_nil]
        split
        · refine .bind (queueFill_returns c.allocs _ { e with addr := .unspec, peerRx := [] })
            fun r filled => ?_
          obtain ⟨left, ok⟩ := r
          cases items : fillItems c.allocs
            ((receiveAll (msg :: rest) c.batch).take c.batch.length) with
          | none =>
            rw [items] at filled
            cases filled
            exact .pure ⟨rfl, rfl, rfl⟩
          | some items' =>
            rw [items] at filled
            obtain ⟨done, unspec, queue⟩ := filled
            dsimp only at done
            subst done
            have delivered := deliver_returns unspec ((receiveAll (msg :: rest) c.batch).headD msg)
              (receiveAll (msg :: rest) c.batch)
            rw [queue, List.map_nil, List.nil_append] at delivered
            exact delivered
        · exact .pure ⟨rfl, rfl, rfl⟩

end

/-- The engine, if there is one, the addresses stored on the connections, and the heap. -/
structure State where
  engine : Option Engine
  exData : List (Nat × Option Nat)
  heap : Heap Touch
deriving DecidableEq

/-- Before the engine is created. -/
def State.init : State where
  engine := none
  exData := []
  heap := { next := 0, log := [] }

/-- The objects that are there. -/
def State.owned (s : State) : List Nat :=
  s.engine.elim [] Engine.owned ++ s.exData.flatMap fun c => c.2.toList

/-- What is done with the engine: `connFree` is OpenSSL freeing a connection, which calls
`h3q_peer_addr_ex_free`. -/
inductive Op where
  | create (a : CreateAnswer)
  | recv (c : Call)
  | newConn (conn : Nat) (dup set : Bool)
  | connFree (conn : Nat)
  | destroy

/-- One operation. -/
def exec (s : State) : Op → Option State
  | .create a =>
    match s.engine with
    | some _ => none
    | none =>
      let (engine, heap) := (engineCreate a).run s.heap
      some { s with engine, heap }
  | .recv c => do
    let e ← s.engine
    let ((e, _), heap) := (peerAddrBioRecvmmsg e c).run s.heap
    some { s with engine := some e, heap }
  | .newConn conn dup set => do
    let e ← s.engine
    if conn ∈ s.exData.map Prod.fst then
      none
    else
      let ((peer, _), heap) := (newPendingConnCb e dup set).run s.heap
      some { s with exData := (conn, peer) :: s.exData, heap }
  | .connFree conn => do
    let entry ← s.exData.find? fun c => c.1 == conn
    let (_, heap) := (Act.freeAny entry.2 : Act Touch Unit).run s.heap
    some { s with exData := s.exData.erase entry, heap }
  | .destroy => do
    let e ← s.engine
    if s.exData.isEmpty then
      let (_, heap) := (engineDestroy e).run s.heap
      some { s with engine := none, heap }
    else
      none

/-- The operations as a step relation. -/
def Step (s : State) (op : Op) (t : State) : Prop := exec s op = some t

/-- The objects that are there are accounted for. -/
def State.Accounted (s : State) : Prop := Ledger s.owned s.heap.log s.heap.next

/-- Every operation keeps the account. -/
lemma State.Accounted.step {s t : State} {op : Op} (h : s.Accounted) (st : Step s op t) :
    t.Accounted := by
  obtain ⟨engine, exData, heap⟩ := s
  cases op with
  | create a =>
    cases engine with
    | some e => cases st
    | none =>
      cases st
      exact engineCreate_owns a heap h
  | recv c =>
    obtain ⟨e, is, st⟩ := Option.bind_eq_some_iff.mp st
    cases is
    cases st
    exact peerAddrBioRecvmmsg_owns e c heap h
  | newConn conn dup set =>
    obtain ⟨e, is, st⟩ := Option.bind_eq_some_iff.mp st
    cases is
    split at st
    · cases st
    · cases st
      exact (newPendingConnCb_owns e dup set heap h).perm (List.perm_append_comm_assoc _ _ _)
  | connFree conn =>
    obtain ⟨entry, found, st⟩ := Option.bind_eq_some_iff.mp st
    cases st
    have entries := (List.perm_cons_erase (List.mem_of_find?_eq_some found)).flatMap_right
      fun c => c.2.toList
    have front := (entries.append_left (engine.elim [] Engine.owned)).trans
      (List.perm_append_comm_assoc _ _ _)
    exact Owns.freeAny heap (h.perm front)
  | destroy =>
    obtain ⟨e, is, st⟩ := Option.bind_eq_some_iff.mp st
    cases is
    split at st
    · cases st
      exact engineDestroy_owns e heap h
    · cases st

/-- Connections exist only while the engine does: `destroy` waits for the last of them. -/
def State.Attended (s : State) : Prop := s.engine = none → s.exData = []

/-- No operation leaves a connection without the engine. -/
lemma State.Attended.step {s t : State} {op : Op} (h : s.Attended) (st : Step s op t) :
    t.Attended := by
  obtain ⟨engine, exData, heap⟩ := s
  intro gone
  cases op with
  | create a =>
    cases engine with
    | some e => cases st
    | none =>
      cases st
      exact h rfl
  | recv c =>
    obtain ⟨e, is, st⟩ := Option.bind_eq_some_iff.mp st
    cases st
    cases gone
  | newConn conn dup set =>
    obtain ⟨e, is, st⟩ := Option.bind_eq_some_iff.mp st
    cases is
    split at st
    · cases st
    · cases st
      cases gone
  | connFree conn =>
    obtain ⟨entry, found, st⟩ := Option.bind_eq_some_iff.mp st
    cases st
    rw [h gone] at found
    cases found
  | destroy =>
    obtain ⟨e, is, st⟩ := Option.bind_eq_some_iff.mp st
    split at st
    · rename_i empty
      cases st
      exact List.isEmpty_iff.mp empty
    · cases st

/-- Nothing of the engine is lost, freed twice or touched after it was freed, whichever call fails:
every object is held in one place or was freed once, and when there is no engine, all of them were
freed. -/
theorem engine_releases_all {ops : List Op} {s : State} (run : Run Step State.init ops s) :
    (∀ r < s.heap.next, s.owned.count r + (freed s.heap.log).count r = 1) ∧ Safe s.heap.log ∧
      (s.engine = none → ∀ r < s.heap.next, (freed s.heap.log).count r = 1) := by
  have h : s.Accounted :=
    run.invariant (P := State.Accounted) (fun _ _ _ => State.Accounted.step) .init
  have attended : s.Attended :=
    run.invariant (P := State.Attended) (fun _ _ _ => State.Attended.step) fun _ => rfl
  refine ⟨?_, h.safe, ?_⟩
  · intro r lt
    have count := h.accounts.count_eq r
    rw [List.count_append, List.nodup_range.count, if_pos (List.mem_range.mpr lt)] at count
    exact count
  · intro gone r lt
    refine h.count_freed lt ?_
    rw [State.owned, gone, attended gone]
    exact List.not_mem_nil

/-- Nothing fails. -/
def createOk : CreateAnswer :=
  { calloc := true, sslCtxNew := true, certificate := true, bioMethNew := true, bioMethSet := true,
    bioAddrNew := true
    exIndex := 3, sslNewListener := true, bioNewDgram := true, bioNew := true, sslListen := true }

/-- The engine is created at the second attempt. Of the two datagrams of a batch the first is
delivered and announces a connection, and the second is still queued when the engine is
destroyed. -/
def secondAttempt : List Op :=
  [.create { createOk with bioNew := false }, .create createOk,
    .recv (callWith [emptySlot, emptySlot] twoClientsBatch), .newConn 7 true true, .connFree 7,
    .destroy]

/-- An operation to be run. -/
def runOp (s : State) (op : Op) : Option (State × Op) := (exec s op).map fun t => (t, op)

/-- Everything is freed after a second attempt at creating the engine. -/
theorem engine_releases_all_secondAttempt :
    ∃ ops s, Run Step State.init ops s ∧ s.heap.next = 22 ∧ ∀ r < 22,
    (freed s.heap.log).count r = 1 := by
  have run : ((execAll runOp State.init secondAttempt).map fun r => (r.1.engine, r.1.heap.next)) =
      some (none, 22) := by
    decide +kernel
  obtain ⟨⟨s, ops⟩, run, e⟩ := Option.map_eq_some_iff.mp run
  simp only [Prod.mk.injEq] at e
  obtain ⟨gone, all⟩ := e
  have run : Run Step State.init ops s := by
    refine execAll_run ?_ run
    intro s op t e eq
    obtain ⟨u, stepped, eq⟩ := Option.map_eq_some_iff.mp eq
    cases eq
    exact stepped
  have once := (engine_releases_all run).2.2 gone
  rw [all] at once
  exact ⟨ops, s, run, all, once⟩

end ModHttp3.Quic.Lifecycle

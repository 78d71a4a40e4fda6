import ModHttp3.Lib.LinkedQueue

/-!
# Peer addresses of QUIC connections

Model of `mod_http3/src/quic/detail/h3q_addr.c` and of `h3q_engine_peer_addr` (`quic/h3q.c`): the
filter BIO between OpenSSL and the UDP socket. A batch of datagrams from the socket is copied into a
queue and replayed one datagram per call, so that `current_peer_addr` is the source of the one
datagram OpenSSL is looking at when it announces a new connection.

C → Lean naming (drop the `h3q_` prefix): `h3q_queue_drop_head` and `h3q_peer_addr_queue_clear` are
the `dropHead` and `clear` of the linked queue, `h3q_queue_fill` → `queueFill`, `h3q_queue_pop` →
`queuePop`, `h3q_peer_addr_bio_recvmmsg` → `peerAddrBioRecvmmsg`, `h3q_new_pending_conn_cb` →
`newPendingConnCb`, `h3q_engine_peer_addr` → `enginePeerAddr`. `peer_rx_head` and `peer_rx_tail` are
the two pointers of `peerRx`. The underlying BIO and the allocator are inputs of a call. Functions
return `none` when they follow a null or dangling pointer.
-/

namespace ModHttp3.Quic
open ModHttp3.Lib

/-- The contents of a `BIO_ADDR`. -/
inductive BioAddr where
  | unspec
  | inet (addr : BitVec 32) (port : BitVec 16)
  | inet6 (addr : BitVec 128) (port : BitVec 16)
  | unix (path : List UInt8)
deriving DecidableEq

/-- A datagram as the socket received it. -/
structure Datagram where
  data : List UInt8
  peer : BioAddr
  localAddr : BioAddr
deriving DecidableEq

/-- A queued copy of a datagram (C `h3q_datagram`); an address is null when the slot it was copied
from had no buffer for it. -/
structure Item where
  data : List UInt8
  peer : Option BioAddr
  localAddr : Option BioAddr
deriving DecidableEq

/-- A slot of the caller's array (C `BIO_MSG`): buffers may be null, `dataLen` is the capacity of
the data buffer on entry and the length of the datagram on return. -/
structure BioMsg where
  data : Option (List UInt8)
  dataLen : Nat
  peer : Option BioAddr
  localAddr : Option BioAddr
deriving DecidableEq

/-- The part of `h3q_engine` that recovers peer addresses. -/
structure Engine where
  currentPeerAddr : BioAddr
  peerAddrExIndex : Int
  peerRx : Queue Item

/-- A new engine; `index` is the slot OpenSSL assigned for peer addresses. -/
def Engine.new (index : Int) : Engine where
  currentPeerAddr := .unspec
  peerAddrExIndex := index
  peerRx := .empty

/-- What the allocator answers for one queue item: the address of the item, and whether the copies
of the data and of the two addresses succeed. -/
structure Alloc where
  item : Option Ptr
  data : Bool
  peer : Bool
  localAddr : Bool

/-- The underlying BIO writes a datagram into a slot. -/
def BioMsg.receive (m : BioMsg) (d : Datagram) : BioMsg where
  data := m.data.map fun buf => d.data ++ buf.drop d.data.length
  dataLen := d.data.length
  peer := m.peer.map fun _ => d.peer
  localAddr := m.localAddr.map fun _ => d.localAddr

/-- `BIO_recvmmsg` on the underlying BIO: one datagram per slot, from the first slot on. -/
def receiveAll : List BioMsg → List Datagram → List BioMsg
  | m :: ms, d :: ds => m.receive d :: receiveAll ms ds
  | ms, _ => ms

/-- Give up on a batch: drop everything queued and report failure. -/
def Engine.dropAll (e : Engine) : Option (Engine × Bool) := do
  let q ← e.peerRx.clear
  some ({ e with peerRx := q }, false)

/-- Copy a batch into the queue (C `h3q_queue_fill`); `allocs` are the allocator's answers, item by
item, and there is no memory once they run out. -/
def queueFill (e : Engine) : List Alloc → List BioMsg → Option (Engine × Bool)
  | _, [] => some (e, true)
  | [], _ :: _ => e.dropAll
  | alloc :: allocs, source :: rest =>
    match alloc.item, source.data with
    | some a, some buf =>
      if source.dataLen = 0 then
        e.dropAll
      else if !alloc.data || (source.peer.isSome && !alloc.peer) ||
          (source.localAddr.isSome && !alloc.localAddr) then
        e.dropAll
      else do
        let q ← e.peerRx.push a
          { data := buf.take source.dataLen, peer := source.peer, localAddr := source.localAddr }
        queueFill { e with peerRx := q } allocs rest
    | _, _ => e.dropAll

/-- `BIO_ADDR_copy`, guarded against a null on either side. -/
def copyAddr : Option BioAddr → Option BioAddr → Option BioAddr
  | some _, some a => some a
  | dst, _ => dst

/-- Move the first queued datagram into the caller's slot (C `h3q_queue_pop`); the slot is `none`
when nothing was delivered. -/
def queuePop (e : Engine) (msg : BioMsg) : Option (Engine × Option BioMsg) :=
  match e.peerRx.head, msg.data with
  | some a, some buf => do
    let cell ← e.peerRx.mem a
    let item := cell.val
    let q ← e.peerRx.dropHead
    if msg.dataLen < item.data.length then
      some ({ e with peerRx := q }, none)
    else
      some ({ e with peerRx := q },
        some
          { data := some (item.data ++ buf.drop item.data.length)
            dataLen := item.data.length
            peer := copyAddr msg.peer item.peer
            localAddr := copyAddr msg.localAddr item.localAddr })
  | _, _ => some (e, none)

/-- A call of `h3q_peer_addr_bio_recvmmsg`. `msgs` is the caller's array, empty for a null array or
a zero `num_msg`; `rv` and `batch` are what the underlying BIO answers, should it be asked. -/
structure Call where
  next : Bool
  msgsProcessed : Bool
  msgs : List BioMsg
  rv : Bool
  batch : List Datagram
  allocs : List Alloc

/-- What a call returns: the return value, `*msgs_processed` if it was written, and the slots. -/
structure Ret where
  rv : Bool
  processed : Option Nat
  msgs : List BioMsg
deriving DecidableEq

/-- Remember the source of the datagram just delivered. -/
def Engine.note (e : Engine) (msg : BioMsg) : Engine :=
  match msg.peer with
  | some a => { e with currentPeerAddr := a }
  | none => e

/-- The receive handler of the filter BIO (C `h3q_peer_addr_bio_recvmmsg`). -/
def peerAddrBioRecvmmsg (e : Engine) (c : Call) : Option (Engine × Ret) :=
  match c.msgs with
  | [] => some (e, { rv := false, processed := none, msgs := [] })
  | msg :: rest =>
    if !c.next || !c.msgsProcessed then
      some (e, { rv := false, processed := none, msgs := c.msgs })
    else
      let e := { e with currentPeerAddr := .unspec }
      if e.peerRx.head.isSome then do
        match ← queuePop e msg with
        | (e, none) => some (e, { rv := false, processed := some 0, msgs := c.msgs })
        | (e, some m) => some (e.note m, { rv := true, processed := some 1, msgs := m :: rest })
      else
        let msgs := receiveAll c.msgs c.batch
        let received := c.batch.length
        if c.rv && decide (received > 0) then do
          match ← queueFill e c.allocs (msgs.take received) with
          | (e, false) => some (e, { rv := false, processed := some 0, msgs := msgs })
          | (e, true) =>
            match ← queuePop e (msgs.headD msg) with
            | (e, none) => some (e, { rv := false, processed := some 0, msgs := msgs })
            | (e, some m) =>
              some (e.note m, { rv := c.rv, processed := some 1, msgs := m :: msgs.tail })
        else
          some (e, { rv := c.rv, processed := some received, msgs := msgs })

/-- The addresses stored on connections, as `SSL` ex data. -/
abbrev ExData := Nat → Option BioAddr

/-- Attach the current peer address to a new connection (C `h3q_new_pending_conn_cb`); `dup` and
`set` say whether the copy and `SSL_set_ex_data` succeed. -/
def newPendingConnCb (e : Engine) (ex : ExData) (conn : Nat) (dup set : Bool) : ExData × Bool :=
  if e.peerAddrExIndex < 0 ∨ e.currentPeerAddr = .unspec then
    (ex, true)
  else if !dup || !set then
    (ex, false)
  else
    (Function.update ex conn (some e.currentPeerAddr), true)

/-- The socket addresses `h3q_engine_peer_addr` fills in. -/
inductive Sockaddr where
  | sin (addr : BitVec 32) (port : BitVec 16)
  | sin6 (addr : BitVec 128) (port : BitVec 16)
deriving DecidableEq

/-- The socket address of an internet peer. -/
def BioAddr.sockaddr : BioAddr → Option Sockaddr
  | .inet addr port => some (.sin addr port)
  | .inet6 addr port => some (.sin6 addr port)
  | _ => none

/-- The peer address recorded on a connection (C `h3q_engine_peer_addr`). -/
def enginePeerAddr (e : Engine) (ex : ExData) (conn : Nat) : Option Sockaddr :=
  if e.peerAddrExIndex < 0 then none else (ex conn).bind BioAddr.sockaddr

end ModHttp3.Quic

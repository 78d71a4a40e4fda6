import Mathlib.Data.List.Infix
import ModHttp3.Lib.Run
import ModHttp3.Quic.Receive

/-!
# Client address attribution

`Step` is one call of the receive handler or one announcement of a new connection, and a run of it
is what the listener sees over its life. `recvmmsg_spec` says what the handler does to datagrams
when every slot has a buffer for the peer address; `Attributed es s` ties the queue,
`current_peer_addr` and the addresses stored on connections to the datagrams that were received.
-/

namespace ModHttp3.Quic
open ModHttp3.Lib

/-- A received datagram, and whether the slot it arrived in had a buffer for the local address. -/
structure Received extends Datagram where
  slotLocal : Bool
deriving DecidableEq

/-- The queue item made from a received datagram. -/
def Received.item (r : Received) : Item where
  data := r.data
  peer := some r.peer
  localAddr := if r.slotLocal then some r.localAddr else none

/-- The slot holds the contents of a queue item: its data, its peer address, and its local address
where both have one. -/
structure BioMsg.Holds (m : BioMsg) (item : Item) : Prop where
  data : ∃ buf, m.data = some buf ∧ buf.take m.dataLen = item.data
  dataLen : m.dataLen = item.data.length
  peer : ∀ a, item.peer = some a → m.peer = some a
  localAddr : ∀ a, item.localAddr = some a → m.localAddr.isSome → m.localAddr = some a

/-- The call passes the argument check. -/
def Call.accepted (c : Call) : Bool := c.next && c.msgsProcessed && !c.msgs.isEmpty

/-- The datagrams the underlying BIO delivers during a call: it is only asked when the queue is
empty. -/
def Call.got (c : Call) (e : Engine) : List Received :=
  if c.accepted && e.peerRx.head.isNone then
    List.zipWith (fun d m => { d with slotLocal := m.localAddr.isSome }) c.batch c.msgs
  else
    []

/-- What holds of a call: every slot has a peer buffer, the underlying BIO delivers at most one
datagram per slot and none when it fails, and the allocator returns distinct unused addresses. -/
structure Call.Valid (c : Call) (e : Engine) : Prop where
  peer : ∀ m ∈ c.msgs, m.peer.isSome
  length : c.batch.length ≤ c.msgs.length
  failed : c.rv = false → c.batch = []
  fresh : ∀ a ∈ c.allocs.filterMap Alloc.item, (e.peerRx.mem a).isNone
  distinct : (c.allocs.filterMap Alloc.item).Nodup

instance (c : Call) (e : Engine) : Decidable (c.Valid e) :=
  decidable_of_iff
    ((∀ m ∈ c.msgs, m.peer.isSome) ∧ c.batch.length ≤ c.msgs.length ∧
      (c.rv = false → c.batch = []) ∧
      (∀ a ∈ c.allocs.filterMap Alloc.item, (e.peerRx.mem a).isNone) ∧
      (c.allocs.filterMap Alloc.item).Nodup)
    ⟨fun ⟨h1, h2, h3, h4, h5⟩ => ⟨h1, h2, h3, h4, h5⟩,
      fun ⟨h1, h2, h3, h4, h5⟩ => ⟨h1, h2, h3, h4, h5⟩⟩

section
variable {e e' : Engine} {xs : List (Ptr × Item)} {m msg : BioMsg}

/-- A copied address is that of the source. -/
lemma copyAddr_some {dst src : Option BioAddr} {a : BioAddr} (hs : src = some a) (hd : dst.isSome) :
    copyAddr dst src = some a := by
  subst hs
  cases dst with
  | none => cases hd
  | some b => rfl

/-- Copying an address keeps whether there is room for one. -/
lemma copyAddr_isSome {dst src : Option BioAddr} : (copyAddr dst src).isSome = dst.isSome := by
  cases dst with
  | none => rfl
  | some b => cases src <;> rfl

/-- The slots of a batch hold the datagrams the underlying BIO delivered into them. -/
lemma receiveAll_items {ms : List BioMsg} {ds : List Datagram} (length : ds.length ≤ ms.length)
    (peer : ∀ m ∈ ms, m.peer.isSome)
    (data : ∀ m ∈ (receiveAll ms ds).take ds.length, m.data.isSome) :
    ((receiveAll ms ds).take ds.length).map BioMsg.item =
      (List.zipWith (fun d m => ({ d with slotLocal := m.localAddr.isSome } : Received)) ds ms).map
        Received.item := by
  induction ds generalizing ms with
  | nil => simp
  | cons d ds ih =>
    cases ms with
    | nil => simp at length
    | cons m ms =>
      rw [receiveAll, List.length_cons, List.take_succ_cons] at data ⊢
      rw [List.map_cons, List.zipWith_cons_cons, List.map_cons,
        ih (by simpa using length) (fun x hx => peer x (List.mem_cons_of_mem _ hx))
          (fun x hx => data x (List.mem_cons_of_mem _ hx))]
      congr 1
      have hd := data _ List.mem_cons_self
      have hp := peer m List.mem_cons_self
      cases hmd : m.data with
      | none => simp [BioMsg.receive, hmd] at hd
      | some buf =>
        obtain ⟨p, hmp⟩ := Option.isSome_iff_exists.mp hp
        cases hl : m.localAddr <;> simp [BioMsg.item, BioMsg.receive, Received.item, hmd, hmp, hl]

/-- Receiving keeps the peer buffer of the first slot. -/
lemma receiveAll_peer (rest : List BioMsg) (ds : List Datagram) (peer : msg.peer.isSome) :
    ∃ m ms, receiveAll (msg :: rest) ds = m :: ms ∧ m.peer.isSome := by
  cases ds with
  | nil => exact ⟨msg, rest, rfl, peer⟩
  | cons d ds =>
    exact ⟨msg.receive d, receiveAll rest ds, rfl, by simpa [BioMsg.receive] using peer⟩

/-- What a call of the receive handler can do; `pending` is what was queued before the call,
followed by what it received, and `after` what is queued after it. -/
inductive Outcome (c : Call) (addr : BioAddr) (ret : Ret) (pending after : List Item) : Prop where
  | refused :
    c.accepted = false → ret.processed = none → after = pending →
    Outcome c addr ret pending after
  | nothing {n : Nat} :
    c.accepted = true → addr = .unspec → ret.processed = some n → n ≠ 1 →
    after <:+ pending →
    Outcome c addr ret pending after
  | delivered {item m ms} :
    c.accepted = true → pending = item :: after → ret.processed = some 1 →
    ret.msgs = m :: ms → m.Holds item → m.peer = some addr →
    Outcome c addr ret pending after

/-- The first datagram of the queue moves into a slot with a peer buffer, or is at most lost. -/
lemma servePop_outcome {c : Call} (acc : c.accepted = true) (peer : msg.peer.isSome)
    (queue : List Item) (msgs : List BioMsg) :
    Outcome c (servePop queue msg msgs).addr (servePop queue msg msgs).ret queue
      (servePop queue msg msgs).queue := by
  cases queue with
  | nil => exact .nothing acc rfl rfl (by decide) (List.suffix_refl _)
  | cons item rest =>
    rw [servePop, popItem]
    cases hd : msg.data with
    | none => exact .nothing acc rfl rfl (by decide) (List.suffix_refl _)
    | some buf =>
      by_cases hl : msg.dataLen < item.data.length
      · simp only [if_pos hl]
        exact .nothing acc rfl rfl (by decide) (List.suffix_cons _ _)
      · simp only [if_neg hl]
        have kept : (msg.copy buf item).peer.isSome := by
          rw [BioMsg.copy, copyAddr_isSome]
          exact peer
        refine .delivered acc rfl rfl rfl ⟨⟨_, rfl, List.take_left⟩, rfl, ?_, ?_⟩ ?_
        · exact fun b hb => copyAddr_some hb peer
        · exact fun b hb hs => copyAddr_some hb (by rwa [BioMsg.copy, copyAddr_isSome] at hs)
        · obtain ⟨a, ha⟩ := Option.isSome_iff_exists.mp kept
          rw [ha, Option.getD_some]

/-- What a call of the receive handler does to the queue, the slots and `current_peer_addr`. -/
theorem recvmmsg_spec {c : Call} (rep : e.peerRx.Rep xs) (v : c.Valid e) :
    ∃ e' ret ys, peerAddrBioRecvmmsg e c = some (e', ret) ∧ e'.peerRx.Rep ys ∧
      Outcome c e'.currentPeerAddr ret (xs.map Prod.snd ++ (c.got e).map Received.item)
        (ys.map Prod.snd) := by
  obtain ⟨q, ys, eq, repq, items⟩ := recvmmsg_serve c rep v.fresh v.distinct
  refine ⟨_, _, ys, eq, repq, ?_⟩
  rw [items]
  have head : e.peerRx.head = front xs := rep.head
  rw [Call.got]
  unfold serve
  cases hm : c.msgs with
  | nil =>
    have acc : c.accepted = false := by simp [Call.accepted, hm]
    rw [acc, Bool.false_and, if_neg Bool.false_ne_true, List.map_nil, List.append_nil]
    exact .refused acc rfl rfl
  | cons msg rest =>
    dsimp only
    split
    · rename_i no
      have acc : c.accepted = false := by
        rw [Call.accepted, hm]
        cases hn : c.next <;> cases hp : c.msgsProcessed <;> simp_all
      rw [acc, Bool.false_and, if_neg Bool.false_ne_true, List.map_nil, List.append_nil]
      exact .refused acc rfl rfl
    rename_i yes
    have acc : c.accepted = true := by
      rw [Call.accepted, hm]
      cases hn : c.next <;> cases hp : c.msgsProcessed <;> simp_all
    have peer : msg.peer.isSome := v.peer msg (by rw [hm]; exact List.mem_cons_self)
    rw [acc, head]
    cases xs with
    | cons x xs =>
      -- the queue is not empty: nothing is read from below
      rw [front_cons, Option.isNone_some, Bool.and_false, if_neg Bool.false_ne_true, List.map_nil,
        List.append_nil]
      exact servePop_outcome acc peer _ _
    | nil =>
      simp only [front_nil, Option.isNone_none, Bool.and_self, if_true, List.map_nil,
        List.nil_append]
      split
      · cases filled : fillItems c.allocs
          ((receiveAll (msg :: rest) c.batch).take c.batch.length) with
        -- the batch could not be queued and is dropped whole
        | none => exact .nothing acc rfl rfl (by decide) List.nil_suffix
        | some zs =>
          obtain ⟨rfl, all⟩ := fillItems_some filled
          have data := fun m mem => (all m mem).1
          rw [← hm] at data ⊢
          rw [receiveAll_items v.length v.peer data, hm]
          obtain ⟨m0, ms0, em0, peer0⟩ := receiveAll_peer rest c.batch peer
          rw [em0]
          exact servePop_outcome acc peer0 _ _
      · rename_i unread
        have batch : c.batch = [] := by
          cases hr : c.rv with
          | false => exact v.failed hr
          | true =>
            rw [hr, Bool.true_and, decide_eq_true_iff] at unread
            exact List.length_eq_zero_iff.mp (by omega)
        refine .nothing acc rfl (by rw [batch]) (by decide) ?_
        exact List.nil_suffix

end

/-- The engine, and the addresses stored on its connections. -/
structure State where
  engine : Engine
  exData : ExData

/-- A new engine, with no connection announced yet. -/
def State.init (index : Int) : State where
  engine := .new index
  exData := fun _ => none

/-- A call of the receive handler, with the datagrams it took from the underlying BIO, or the
announcement of a new connection. -/
inductive Event where
  | recv (accepted : Bool) (got : List Received) (ret : Ret)
  | newConn (conn : Nat) (ret : Bool)
deriving DecidableEq

/-- The steps of the listener. -/
inductive Step : State → Event → State → Prop where
  | recv {s c e ret} :
    c.Valid s.engine →
    peerAddrBioRecvmmsg s.engine c = some (e, ret) →
    Step s (.recv c.accepted (c.got s.engine) ret) { s with engine := e }
  | newConn {s conn ex ret} (dup set : Bool) :
    newPendingConnCb s.engine s.exData conn dup set = (ex, ret) →
    Step s (.newConn conn ret) { s with exData := ex }

/-- A step as a command to be run. -/
inductive Op where
  | recv (c : Call)
  | newConn (conn : Nat) (dup set : Bool)

/-- Run one command; `none` when it is not possible in this state. -/
def exec (s : State) : Op → Option (State × Event)
  | .recv c =>
    if c.Valid s.engine then
      (peerAddrBioRecvmmsg s.engine c).map fun r =>
        ({ s with engine := r.1 }, .recv c.accepted (c.got s.engine) r.2)
    else
      none
  | .newConn conn dup set =>
    let r := newPendingConnCb s.engine s.exData conn dup set
    some ({ s with exData := r.1 }, .newConn conn r.2)

/-- Commands are steps. -/
lemma exec_step (s : State) (op : Op) (t : State) (e : Event) (eq : exec s op = some (t, e)) :
    Step s e t := by
  cases op with
  | recv c =>
    by_cases v : c.Valid s.engine
    · rw [exec, if_pos v, Option.map_eq_some_iff] at eq
      obtain ⟨⟨e, ret⟩, eq, h⟩ := eq
      cases h
      exact .recv v eq
    · rw [exec, if_neg v] at eq
      cases eq
  | newConn conn dup set =>
    cases eq
    exact .newConn dup set rfl

/-- The datagrams an event took from the underlying BIO. -/
def Event.got : Event → List Received
  | .recv _ got _ => got
  | .newConn _ _ => []

/-- What a call of the receive handler returned. -/
def Event.ret : Event → Option Ret
  | .recv _ _ ret => some ret
  | .newConn _ _ => none

/-- The datagrams received so far. -/
def received (es : List Event) : List Received := es.flatMap Event.got

/-- What the most recent call of the receive handler returned. -/
def lastRecv (es : List Event) : Option Ret := (es.filterMap Event.ret).getLast?

/-- Slot 0 carries a received datagram. -/
def Ret.Carries (ret : Ret) (r : Received) : Prop :=
  ∃ m ms, ret.msgs = m :: ms ∧ m.Holds r.item

/-- How OpenSSL announces connections: each one once, and only while it processes the datagram that
the most recent call delivered. -/
structure Prompt (es : List Event) : Prop where
  delivered : ∀ fs conn ret gs, es = fs ++ .newConn conn ret :: gs →
    ∃ rt, lastRecv fs = some rt ∧ rt.processed = some 1
  once : ∀ fs conn ret gs, es = fs ++ .newConn conn ret :: gs → ∀ r, .newConn conn r ∉ fs

section
variable {es fs : List Event} {e : Event} {s t : State}

/-- What was received by one more event. -/
lemma received_snoc : received (es ++ [e]) = received es ++ e.got := by simp [received]

/-- The last call of the handler is the one just made. -/
lemma lastRecv_recv {a : Bool} {got : List Received} {ret : Ret} :
    lastRecv (es ++ [Event.recv a got ret]) = some ret := by
  simp [lastRecv, Event.ret]

/-- The announcement of a connection is no call of the handler. -/
lemma lastRecv_newConn {conn : Nat} {r : Bool} :
    lastRecv (es ++ [Event.newConn conn r]) = lastRecv es := by
  simp [lastRecv, Event.ret]

/-- Earlier histories are prompt too. -/
lemma Prompt.init (h : Prompt (es ++ [e])) : Prompt es where
  delivered fs conn ret gs eq := h.delivered fs conn ret (gs ++ [e]) (by rw [eq]; simp)
  once fs conn ret gs eq := h.once fs conn ret (gs ++ [e]) (by rw [eq]; simp)

/-- Connection `conn` was announced while slot 0 carried a datagram from `a`. -/
def Announced (es : List Event) (conn : Nat) (a : BioAddr) : Prop :=
  ∃ fs ret gs rt, es = fs ++ .newConn conn ret :: gs ∧ lastRecv fs = some rt ∧
    ∃ r ∈ received fs, rt.Carries r ∧ a = r.peer

/-- The state agrees with the history: queued items are received datagrams, a call that delivered
one left its source in `current_peer_addr`, and stored addresses are those of the announcing
datagrams. -/
structure Attributed (es : List Event) (s : State) : Prop where
  queue : ∃ xs, s.engine.peerRx.Rep xs ∧ ∀ x ∈ xs, ∃ r ∈ received es, x.2 = r.item
  current : ∀ ret, lastRecv es = some ret → ret.processed = some 1 →
    ∃ r ∈ received es, ret.Carries r ∧ s.engine.currentPeerAddr = r.peer
  stored : ∀ conn a, s.exData conn = some a → Announced es conn a

/-- Announcements stay in the history. -/
lemma Announced.snoc {conn : Nat} {a : BioAddr} (h : Announced es conn a) :
    Announced (es ++ [e]) conn a := by
  obtain ⟨fs, ret, gs, rt, rfl, h⟩ := h
  exact ⟨fs, ret, gs ++ [e], rt, by simp, h⟩

/-- A call of the receive handler keeps the state attributed. -/
lemma Attributed.recv {c : Call} {e : Engine} {ret : Ret} (h : Attributed es s)
    (v : c.Valid s.engine) (eq : peerAddrBioRecvmmsg s.engine c = some (e, ret)) :
    Attributed (es ++ [Event.recv c.accepted (c.got s.engine) ret]) { s with engine := e } := by
  obtain ⟨xs, rep, hxs⟩ := h.queue
  obtain ⟨e', ret', ys, eq', repy, out⟩ := recvmmsg_spec rep v
  rw [eq] at eq'
  cases eq'
  have pending : ∀ item ∈ xs.map Prod.snd ++ (c.got s.engine).map Received.item,
      ∃ r ∈ received (es ++ [Event.recv c.accepted (c.got s.engine) ret]), item = r.item := by
    intro item hi
    rw [received_snoc]
    rcases List.mem_append.mp hi with hi | hi
    · obtain ⟨x, hx, rfl⟩ := List.mem_map.mp hi
      obtain ⟨r, hr, e⟩ := hxs x hx
      exact ⟨r, List.mem_append_left _ hr, e⟩
    · obtain ⟨r, hr, rfl⟩ := List.mem_map.mp hi
      exact ⟨r, List.mem_append_right _ hr, rfl⟩
  have stored : ∀ conn a, s.exData conn = some a →
      Announced (es ++ [Event.recv c.accepted (c.got s.engine) ret]) conn a :=
    fun conn a ha => (h.stored conn a ha).snoc
  have queue : ys.map Prod.snd ⊆ xs.map Prod.snd ++ (c.got s.engine).map Received.item →
      ∃ zs, e.peerRx.Rep zs ∧
        ∀ x ∈ zs, ∃ r ∈ received (es ++ [Event.recv c.accepted (c.got s.engine) ret]),
        x.2 = r.item :=
    fun sub => ⟨ys, repy, fun x hx => pending _ (sub (List.mem_map_of_mem hx))⟩
  cases out with
  | refused _ hp after =>
    refine ⟨queue (by rw [after]; exact List.Subset.refl _), ?_, stored⟩
    rw [lastRecv_recv]
    rintro _ ⟨⟩ h1
    rw [hp] at h1
    cases h1
  | nothing _ _ hp ne suffix =>
    refine ⟨queue suffix.subset, ?_, stored⟩
    rw [lastRecv_recv]
    rintro _ ⟨⟩ h1
    rw [hp] at h1
    cases h1
    exact absurd rfl ne
  | @delivered item m ms _ hpend _ hmsgs holds mpeer =>
    refine ⟨queue (by rw [hpend]; exact List.subset_cons_self _ _), ?_, stored⟩
    rw [lastRecv_recv]
    rintro _ ⟨⟩ _
    obtain ⟨r, hr, rfl⟩ := pending item (by rw [hpend]; exact List.mem_cons_self)
    refine ⟨r, hr, ⟨m, ms, hmsgs, holds⟩, ?_⟩
    -- the slot and `current_peer_addr` have the address of the datagram that was popped
    have := holds.peer r.peer rfl
    rw [mpeer] at this
    exact Option.some.inj this

/-- An announcement keeps the state attributed. -/
lemma Attributed.newConn {conn : Nat} {ex : ExData} {ret dup set : Bool} (h : Attributed es s)
    (prompt : Prompt (es ++ [Event.newConn conn ret]))
    (eq : newPendingConnCb s.engine s.exData conn dup set = (ex, ret)) :
    Attributed (es ++ [Event.newConn conn ret]) { s with exData := ex } := by
  obtain ⟨rt, hrt, one⟩ := prompt.delivered es conn ret [] rfl
  obtain ⟨r, hr, carries, cur⟩ := h.current rt hrt one
  have received : received (es ++ [Event.newConn conn ret]) = received es := by
    rw [received_snoc, Event.got, List.append_nil]
  refine ⟨?_, ?_, ?_⟩
  · rw [received]
    exact h.queue
  · rw [received, lastRecv_newConn]
    exact h.current
  · rw [newPendingConnCb] at eq
    split at eq
    · cases eq
      exact fun conn a ha => (h.stored conn a ha).snoc
    · split at eq
      · cases eq
        exact fun conn a ha => (h.stored conn a ha).snoc
      · cases eq
        intro conn' a ha
        dsimp only at ha
        by_cases hc : conn' = conn
        · subst hc
          rw [Function.update_self] at ha
          cases ha
          exact ⟨es, _, [], rt, rfl, hrt, r, hr, carries, cur⟩
        · rw [Function.update_of_ne hc] at ha
          exact (h.stored conn' a ha).snoc

/-- Every reachable state is attributed. -/
lemma Attributed.run {index : Int} (run : Run Step (State.init index) es s) (prompt : Prompt es) :
    Attributed es s := by
  refine run.invariant_hist (P := fun es s => Prompt es → Attributed es s) ?_ ?_ prompt
  · intro es s e t h st prompt
    cases st with
    | recv v eq => exact (h prompt.init).recv v eq
    | newConn dup set eq => exact (h prompt.init).newConn prompt eq
  · intro _
    exact
      { queue := ⟨[], Queue.Rep.empty, by simp⟩
        current := by simp [lastRecv]
        stored := by simp [State.init] }

/-- A call that passes the argument check and delivers nothing leaves no current address. -/
lemma recv_nothing {index : Int} {got : List Received} {ret : Ret}
    (run : Run Step (State.init index) es s) (prompt : Prompt es)
    (st : Step s (.recv true got ret) t) (undelivered : ret.processed ≠ some 1) :
    t.engine.currentPeerAddr = .unspec := by
  obtain ⟨xs, rep, _⟩ := (Attributed.run run prompt).queue
  generalize ha : true = a at st
  cases st with
  | recv v eq =>
    obtain ⟨e', ret', ys, eq', _, out⟩ := recvmmsg_spec rep v
    rw [eq] at eq'
    cases eq'
    cases out with
    | refused acc _ _ =>
      rw [acc] at ha
      cases ha
    | nothing _ cur _ _ _ => exact cur
    | delivered _ _ one _ _ _ => exact absurd one undelivered

/-- An announcement that occurs once occurs at one place. -/
lemma Prompt.unique {conn : Nat} {r r' : Bool} {gs fs' gs' : List Event} (prompt : Prompt es)
    (eq : es = fs ++ Event.newConn conn r :: gs) (eq' : es = fs' ++ Event.newConn conn r' :: gs') :
    fs = fs' := by
  have h := prompt.once fs conn r gs eq r'
  have h' := prompt.once fs' conn r' gs' eq' r
  rw [eq] at eq'
  rcases List.append_eq_append_iff.mp eq' with ⟨l, e1, e2⟩ | ⟨l, e1, e2⟩
  · cases l with
    | nil => rw [e1, List.append_nil]
    | cons x l =>
      cases e2
      rw [e1] at h'
      simp at h'
  · cases l with
    | nil => rw [e1, List.append_nil]
    | cons x l =>
      cases e2
      rw [e1] at h
      simp at h

end

/-- Client address attribution: slot 0 and `current_peer_addr` belong to one received datagram after
a call that delivers, there is no current address after one that passes the argument check and
delivers nothing, and a connection carries the address of the datagram it was announced for. -/
theorem client_address_attribution {index : Int} {es : List Event} {s : State}
    (run : Run Step (State.init index) es s) (prompt : Prompt es) :
    (∀ fs a got ret, es = fs ++ [.recv a got ret] → ret.processed = some 1 →
      ∃ r ∈ received es, ret.Carries r ∧ s.engine.currentPeerAddr = r.peer) ∧
    (∀ fs got ret, es = fs ++ [.recv true got ret] → ret.processed ≠ some 1 →
      s.engine.currentPeerAddr = .unspec) ∧
    (∀ fs conn ret gs, es = fs ++ .newConn conn ret :: gs → ∀ a, s.exData conn = some a →
      ∃ rt, lastRecv fs = some rt ∧ ∃ r ∈ received fs, rt.Carries r ∧ a = r.peer ∧
        ∀ sa, enginePeerAddr s.engine s.exData conn = some sa → r.peer.sockaddr = some sa) ∧
    (∀ conn, (∀ ret, .newConn conn ret ∉ es) → s.exData conn = none) := by
  have h := Attributed.run run prompt
  refine ⟨?_, ?_, ?_, ?_⟩
  · rintro fs a got ret rfl one
    exact h.current ret lastRecv_recv one
  · rintro fs got ret rfl undelivered
    obtain ⟨t, run', st⟩ := run.last
    exact recv_nothing run' prompt.init st undelivered
  · intro fs conn ret gs eq a ha
    obtain ⟨fs', ret', gs', rt, eq', hrt, r, hr, carries, ea⟩ := h.stored conn a ha
    obtain rfl := prompt.unique eq eq'
    refine ⟨rt, hrt, r, hr, carries, ea, ?_⟩
    intro sa hsa
    rw [enginePeerAddr, ha] at hsa
    split at hsa
    · cases hsa
    · rw [← ea]
      exact hsa
  · intro conn unannounced
    cases hx : s.exData conn with
    | none => rfl
    | some a =>
      obtain ⟨fs, ret, gs, rt, eq, _⟩ := h.stored conn a hx
      refine absurd ?_ (unannounced ret)
      rw [eq]
      simp

/-- A slot with room for four bytes and both addresses. -/
def emptySlot : BioMsg :=
  { data := some [0, 0, 0, 0], dataLen := 4, peer := some .unspec, localAddr := some .unspec }

/-- Two clients in one batch. -/
def twoClientsBatch : List Datagram :=
  [{ data := [1, 2], peer := .inet 10 1000, localAddr := .inet 1 443 },
    { data := [3, 4, 5], peer := .inet 20 2000, localAddr := .inet 1 443 }]

/-- A call with the slots `msgs` that would find the datagrams `ds` in the socket. -/
def callWith (msgs : List BioMsg) (ds : List Datagram) : Call :=
  { next := true, msgsProcessed := true, msgs := msgs, rv := true, batch := ds
    allocs := (List.range ds.length).map fun i =>
      { item := some i, data := true, peer := true, localAddr := true } }

/-- The history of two clients that arrive in one batch: the second is replayed after the first was
announced. -/
def twoClients : List Event :=
  [.recv true
      (twoClientsBatch.map fun d => { d with slotLocal := true })
      { rv := true, processed := some 1,
        msgs :=
          [{ data := some [1, 2, 0, 0], dataLen := 2, peer := some (.inet 10 1000),
             localAddr := some (.inet 1 443) },
            { data := some [3, 4, 5, 0], dataLen := 3, peer := some (.inet 20 2000),
              localAddr := some (.inet 1 443) }] },
    .newConn 1 true,
    .recv true []
      { rv := true, processed := some 1,
        msgs :=
          [{ data := some [3, 4, 5, 0], dataLen := 3, peer := some (.inet 20 2000),
             localAddr := some (.inet 1 443) }] },
    .newConn 2 true]

/-- The two connections are announced right after their datagrams. -/
lemma twoClients_prompt : Prompt twoClients where
  delivered fs conn ret gs eq := by
    have len := congrArg List.length eq
    rw [List.length_append] at len
    match fs, eq with
    | [], eq => cases eq
    | [_], eq =>
      cases eq
      exact ⟨_, rfl, rfl⟩
    | [_, _], eq => cases eq
    | [_, _, _], eq =>
      cases eq
      exact ⟨_, rfl, rfl⟩
    | _ :: _ :: _ :: _ :: fs, eq => simp [twoClients] at eq
  once fs conn ret gs eq := by
    match fs, eq with
    | [], eq => simp
    | [_], eq =>
      cases eq
      simp
    | [_, _], eq => cases eq
    | [_, _, _], eq =>
      cases eq
      simp
    | _ :: _ :: _ :: _ :: fs, eq => simp [twoClients] at eq

/-- Two clients in one batch: each connection has the address its datagram came from. -/
theorem client_address_attribution_twoClients :
    ∃ s, Run Step (State.init 0) twoClients s ∧ s.exData 1 = some (.inet 10 1000) ∧
      s.exData 2 = some (.inet 20 2000) ∧
      ∃ rt, lastRecv (twoClients.take 3) = some rt ∧ ∃ r ∈ received (twoClients.take 3),
        rt.Carries r ∧ .inet 20 2000 = r.peer := by
  have run : ((execAll exec (State.init 0)
      [.recv (callWith [emptySlot, emptySlot] twoClientsBatch), .newConn 1 true true,
        .recv (callWith [emptySlot] []), .newConn 2 true true]).map
        fun r => (r.2, r.1.exData 1, r.1.exData 2)) =
      some (twoClients, some (.inet 10 1000), some (.inet 20 2000)) := by
    decide +kernel
  obtain ⟨⟨s, es⟩, run, e⟩ := Option.map_eq_some_iff.mp run
  simp only [Prod.mk.injEq] at e
  obtain ⟨rfl, first, second⟩ := e
  have run := execAll_run exec_step run
  refine ⟨s, run, first, second, ?_⟩
  obtain ⟨rt, hrt, r, hr, carries, peer, _⟩ :=
    (client_address_attribution run twoClients_prompt).2.2.1 (twoClients.take 3) 2 true [] rfl _
      second
  exact ⟨rt, hrt, r, hr, carries, peer⟩

/-- The two limits of the attribution. A call refused by the argument check (here a zero `num_msg`)
returns before `current_peer_addr` is cleared, and delivers nothing while the previous address
stays. And a datagram received in a slot without a local buffer leaves what stood in the local
buffer of the slot it is replayed into. -/
theorem stale_addresses :
    (∃ es ret s, Run Step (State.init 0) (es ++ [.recv false [] ret]) s ∧ ret.processed = none ∧
      s.engine.currentPeerAddr = .inet 10 1000) ∧
    (∃ es m s, Run Step (State.init 0)
        (es ++ [.recv true [] { rv := true, processed := some 1, msgs := [m] }]) s ∧
      m.localAddr = some (.inet 9 9) ∧ ∀ r ∈ received es, r.localAddr ≠ .inet 9 9) := by
  constructor
  · have run : ((execAll exec (State.init 0)
        [.recv (callWith [emptySlot, emptySlot] twoClientsBatch), .recv (callWith [] [])]).map
          fun r => (r.2, r.1.engine.currentPeerAddr)) =
        some (twoClients.take 1 ++ [.recv false [] { rv := false, processed := none, msgs := [] }],
          .inet 10 1000) := by
      decide +kernel
    obtain ⟨⟨s, es⟩, run, e⟩ := Option.map_eq_some_iff.mp run
    simp only [Prod.mk.injEq] at e
    obtain ⟨rfl, cur⟩ := e
    exact ⟨_, _, s, execAll_run exec_step run, rfl, cur⟩
  · let first : Event :=
      .recv true
        (List.zipWith (fun d b => { d with slotLocal := b }) twoClientsBatch [true, false])
        { rv := true, processed := some 1,
          msgs :=
            [{ data := some [1, 2, 0, 0], dataLen := 2, peer := some (.inet 10 1000),
               localAddr := some (.inet 1 443) },
              { data := some [3, 4, 5, 0], dataLen := 3, peer := some (.inet 20 2000),
                localAddr := none }] }
    let m : BioMsg :=
      { data := some [3, 4, 5, 0], dataLen := 3, peer := some (.inet 20 2000),
        localAddr := some (.inet 9 9) }
    have run : ((execAll exec (State.init 0)
        [.recv (callWith [emptySlot, { emptySlot with localAddr := none }] twoClientsBatch),
          .recv (callWith [{ emptySlot with localAddr := some (.inet 9 9) }] [])]).map
          fun r => r.2) =
        some [first, .recv true [] { rv := true, processed := some 1, msgs := [m] }] := by
      decide +kernel
    obtain ⟨⟨s, es⟩, run, rfl⟩ := Option.map_eq_some_iff.mp run
    exact ⟨[first], m, s, execAll_run exec_step run, rfl, by decide⟩

end ModHttp3.Quic

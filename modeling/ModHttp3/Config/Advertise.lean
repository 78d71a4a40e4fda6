import Mathlib.Data.List.Infix
import ModHttp3.Config.Directives
import ModHttp3.Lib.Table

/-!
# The advertised listener

How a configured chain of servers becomes a running listener, and what is advertised of it. httpd
merges the configuration of the main server into that of every virtual host
(`h3_merge_server_config`), `h3_post_config` fills in what is unset at the first server with a
certificate and a key, `find_h3_server` chooses the same one for the listener, and `h3_hook_fixups`
adds an `Alt-Svc` header to the responses of any server, from the configuration of that server.

So what is advertised is right for the server of the listener; for another server with certificate
and key, set or inherited, it is right exactly if it has the port of the listener and a maximum age,
set or inherited (`alt_svc_matches_listener_iff`).

C → Lean naming: `server_rec` → `Server`, `h3_hook_fixups` → `hookFixups`; header tables are as in
`ModHttp3.Lib.Table`. `ap_state_query` and whether a file can be opened are arguments.
-/

namespace ModHttp3.Config
open ModHttp3.Lib

/-- A server: its configuration, and the ports of its addresses (C `server_rec`). -/
structure Server where
  conf : ServerConf
  addrs : List Nat
deriving DecidableEq

/-- The first port of a server (C `get_server_port`). -/
def getServerPort (s : Server) : Nat := (s.addrs.find? (· ≠ 0)).getD 0

/-- A number, or the one it inherits. -/
def orBase (new base : Nat) : Nat := if new ≠ 0 then new else base

/-- A flag, or the one it inherits. -/
def TriFlag.orBase (new base : TriFlag) : TriFlag := if new ≠ .unset then new else base

/-- The configuration of a virtual host with what it inherits (C `h3_merge_server_config`). -/
def mergeServerConfig (base new : ServerConf) : ServerConf where
  hostPort := 0
  certPath := new.certPath.or base.certPath
  keyPath := new.keyPath.or base.keyPath
  port := orBase new.port base.port
  maxConcurrentStreams := orBase new.maxConcurrentStreams base.maxConcurrentStreams
  maxConnections := orBase new.maxConnections base.maxConnections
  streamBufferSize := orBase new.streamBufferSize base.streamBufferSize
  maxRequestBodySize := orBase new.maxRequestBodySize base.maxRequestBodySize
  maxResponseBodySize := orBase new.maxResponseBodySize base.maxResponseBodySize
  altSvc := new.altSvc.orBase base.altSvc
  addressValidation := new.addressValidation.orBase base.addressValidation
  altSvcMaxAge := orBase new.altSvcMaxAge base.altSvcMaxAge
  handshakeTimeout := orBase new.handshakeTimeout base.handshakeTimeout
  idleTimeout := orBase new.idleTimeout base.idleTimeout

/-- The chain of servers after the merge: the main server, then the virtual hosts. -/
def mergeChain (main : Server) (vhosts : List Server) : List Server :=
  main :: vhosts.map fun v => { v with conf := mergeServerConfig main.conf v.conf }

/-- A server has a certificate and a key. -/
def ServerConf.hasKeys (conf : ServerConf) : Bool := conf.certPath.isSome && conf.keyPath.isSome

/-- What `h3_post_config` makes of the server it chooses. -/
def withDefaults (vs : Server) : ServerConf :=
  let hostPort := getServerPort vs
  { vs.conf with
    hostPort := hostPort
    port := orBase vs.conf.port hostPort
    maxConcurrentStreams := orBase vs.conf.maxConcurrentStreams maxConcurrentStreamsDefault
    maxConnections := orBase vs.conf.maxConnections maxConnectionsDefault
    streamBufferSize := orBase vs.conf.streamBufferSize streamBufferSizeDefault
    maxRequestBodySize := orBase vs.conf.maxRequestBodySize maxRequestBodySizeDefault
    maxResponseBodySize := orBase vs.conf.maxResponseBodySize maxResponseBodySizeDefault
    altSvc := vs.conf.altSvc.orBase .on
    addressValidation := vs.conf.addressValidation.orBase .on
    altSvcMaxAge := orBase vs.conf.altSvcMaxAge altSvcMaxAgeDefault
    handshakeTimeout := orBase vs.conf.handshakeTimeout handshakeTimeoutDefault
    idleTimeout := orBase vs.conf.idleTimeout idleTimeoutDefault }

/-- The loop of `h3_post_config`: the chosen configuration, and the chain with it in place. -/
def fillDefaults : List Server → Option ServerConf × List Server
  | [] => (none, [])
  | vs :: next =>
    if vs.conf.hasKeys then
      (some (withDefaults vs), { vs with conf := withDefaults vs } :: next)
    else
      ((fillDefaults next).1, vs :: (fillDefaults next).2)

/-- What a hook returns. -/
inductive HookStatus where
  | ok
  | declined
  | internalServerError
deriving DecidableEq

/-- C `h3_post_config`; `preConfig` says that httpd is in its first pass over the configuration,
`readable` that `apr_file_open` succeeds. -/
def postConfig (preConfig : Bool) (readable : String → Bool) (s : List Server) :
    HookStatus × List Server :=
  if preConfig then
    (.ok, s)
  else
    match fillDefaults s with
    | (none, s) => (.internalServerError, s)
    | (some conf, s) =>
      if conf.certPath.any readable = false then
        (.internalServerError, s)
      else if conf.keyPath.any readable = false then
        (.internalServerError, s)
      else
        (.ok, s)

/-- The configuration of the listener (C `find_h3_server`). -/
def findH3Server : List Server → Option ServerConf
  | [] => none
  | current :: next =>
    if current.conf.hasKeys then
      some { current.conf with hostPort := getServerPort current }
    else
      findH3Server next

/-- The parts of a request that `h3_hook_fixups` uses. -/
structure FixupRequest where
  initial : Bool
  isH3 : Bool
  subprocessEnv : List (String × String)
  headersOut : List (String × String)

/-- The value of an `Alt-Svc` header. -/
def altSvcValue (port maxAge : Nat) : String :=
  "h3=\":" ++ toString port ++ "\"; ma=" ++ toString maxAge ++ "; persist=1"

/-- The environment of a request over HTTP/3: mod_ssl does not manage its connection. -/
def FixupRequest.markHttps (tables : TableOps String String.toLower) (r : FixupRequest) :
    FixupRequest :=
  if r.isH3 then { r with subprocessEnv := tables.setn r.subprocessEnv "HTTPS" "on" } else r

/-- C `h3_hook_fixups` for a request that `server` handles. -/
def hookFixups (tables : TableOps String String.toLower) (server : Server) (r : FixupRequest) :
    HookStatus × FixupRequest :=
  if r.initial = false then
    (.declined, r)
  else
    let r := r.markHttps tables
    let conf := server.conf
    if conf.hasKeys = false ∨ conf.port = 0 then
      (.declined, r)
    else if conf.altSvc = .off then
      (.declined, r)
    else if (firstOf String.toLower r.headersOut "Alt-Svc").isSome then
      (.declined, r)
    else
      (.ok, { r with
        headersOut := tables.setn r.headersOut "Alt-Svc" (altSvcValue conf.port conf.altSvcMaxAge)
        })

/-- The configuration lets the server advertise. -/
def ServerConf.advertises (conf : ServerConf) : Bool :=
  conf.hasKeys && conf.port != 0 && conf.altSvc != .off

/-- The maximum age that should be advertised: what is set or inherited, or the default. -/
def maxAgeOf (conf : ServerConf) : Nat := orBase conf.altSvcMaxAge altSvcMaxAgeDefault

/-- What the servers advertise is the port `port` and their own maximum age; a server is given as it
was configured and as it runs. -/
def Truthful (tables : TableOps String String.toLower) (port : Nat)
    (servers : List (Server × Server)) : Prop :=
  ∀ s ∈ servers, ∀ r, (hookFixups tables s.2 r).1 = .ok →
    firstOf String.toLower (hookFixups tables s.2 r).2.headersOut "Alt-Svc" =
      some (altSvcValue port (maxAgeOf s.1.conf))

/-- The servers behind the one of the listener. -/
def afterListener (s : List Server) : List Server := (s.dropWhile fun v => !v.conf.hasKeys).tail

section
variable {tables : TableOps String String.toLower} {server : Server} {r : FixupRequest}
  {s : List Server}

/-- Different numbers are written differently. -/
lemma toString_toList_inj {m n : Nat} (eq : (toString m).toList = (toString n).toList) : m = n := by
  rw [Nat.toString_eq_repr, Nat.toString_eq_repr, Nat.toList_repr, Nat.toList_repr] at eq
  have digits := congrArg (fun ds => Nat.ofDigitChars 10 ds 0) eq
  simpa using digits

/-- The advertised port and age can be read off the header. -/
lemma altSvcValue_inj {p q a b : Nat} : altSvcValue p a = altSvcValue q b ↔ p = q ∧ a = b := by
  refine ⟨fun eq => ?_, ?_⟩
  swap
  · rintro ⟨rfl, rfl⟩
    rfl
  have chars := congrArg String.toList eq
  simp only [altSvcValue, String.toList_append, List.append_assoc] at chars
  -- the port ends at the second quotation mark, which is not a digit
  rw [List.append_cancel_left_eq, show "\"; ma=".toList = '"' :: "; ma=".toList from rfl,
    List.cons_append, List.cons_append] at chars
  have quote : ∀ n : Nat, '"' ∉ (toString n).toList := by
    intro n mem
    rw [Nat.toString_eq_repr, Nat.toList_repr] at mem
    exact absurd (Nat.isDigit_of_mem_toDigits (by decide) (by decide) mem) (by decide)
  have rest : ∀ n : Nat, '"' ∉ "; ma=".toList ++ ((toString n).toList ++ "; persist=1".toList) := by
    intro n mem
    simp only [List.mem_append] at mem
    rcases mem with mem | mem | mem
    · exact absurd mem (by decide)
    · exact quote n mem
    · exact absurd mem (by decide)
  obtain ⟨port, _, age⟩ := (List.append_cons_inj_of_notMem (quote p) (rest a)).mp chars
  rw [List.append_cancel_left_eq, List.append_cancel_right_eq] at age
  exact ⟨toString_toList_inj port, toString_toList_inj age⟩

/-- Marking a request as https leaves the response headers alone. -/
@[simp] lemma markHttps_headersOut : (r.markHttps tables).headersOut = r.headersOut := by
  rw [FixupRequest.markHttps]
  split <;> rfl

/-- The hook adds a header exactly if the configuration says so and the response has none. -/
lemma hookFixups_ok : (hookFixups tables server r).1 = .ok ↔
    r.initial = true ∧ server.conf.advertises = true ∧
    firstOf String.toLower r.headersOut "Alt-Svc" = none := by
  simp only [hookFixups, ServerConf.advertises, markHttps_headersOut]
  by_cases initial : r.initial = false
  · simp [initial]
  by_cases unset : server.conf.hasKeys = false ∨ server.conf.port = 0
  · rw [if_neg initial, if_pos unset]
    rcases unset with keys | port
    · simp [keys]
    · simp [port]
  obtain ⟨keys, port⟩ := not_or.mp unset
  by_cases off : server.conf.altSvc = .off
  · rw [if_neg initial, if_neg unset, if_pos off]
    simp [off]
  cases header : firstOf String.toLower r.headersOut "Alt-Svc" <;> simp [initial, keys, port, off]

/-- The header it adds. -/
lemma hookFixups_header (ok : (hookFixups tables server r).1 = .ok) :
    firstOf String.toLower (hookFixups tables server r).2.headersOut "Alt-Svc" =
      some (altSvcValue server.conf.port server.conf.altSvcMaxAge) := by
  simp only [hookFixups] at ok ⊢
  split_ifs at ok ⊢
  rw [firstOf_eq_head, tables.values_setn, if_pos rfl]
  rfl

/-- The chain around the server that `h3_post_config` chooses. -/
structure Chosen (s chain pre : List Server) (v : Server) (post : List Server) : Prop where
  before : s = pre ++ v :: post
  first : ∀ u ∈ pre, u.conf.hasKeys = false
  keys : v.conf.hasKeys = true
  after : chain = pre ++ { v with conf := withDefaults v } :: post

/-- The configuration found by `h3_post_config` is that of a chosen server. -/
lemma fillDefaults_chosen {conf : ServerConf} {chain : List Server}
    (eq : fillDefaults s = (some conf, chain)) :
    ∃ pre v post, Chosen s chain pre v post := by
  induction s generalizing chain with
  | nil => cases eq
  | cons vs next ih =>
    rw [fillDefaults] at eq
    split at eq
    · rename_i keys
      cases eq
      exact ⟨[], vs, next, rfl, nofun, keys, rfl⟩
    · rename_i keyless
      obtain ⟨rest, rfl⟩ := Prod.mk.inj eq
      obtain ⟨pre, v, post, h⟩ := ih (Prod.ext rest rfl)
      refine ⟨vs :: pre, v, post, ?_, ?_, h.keys, ?_⟩
      · rw [h.before]
        rfl
      · exact List.forall_mem_cons.mpr ⟨Bool.eq_false_iff.mpr keyless, h.first⟩
      · exact congrArg (vs :: ·) h.after

/-- A successful `h3_post_config` chose a server. -/
lemma postConfig_chosen {readable : String → Bool} {chain : List Server}
    (ok : postConfig false readable s = (.ok, chain)) :
    ∃ pre v post, Chosen s chain pre v post := by
  rw [postConfig, if_neg nofun] at ok
  cases fill : fillDefaults s with
  | mk conf filled =>
    rw [fill] at ok
    cases conf with
    | none => cases ok
    | some conf =>
      dsimp only at ok
      split at ok
      · cases ok
      split at ok
      · cases ok
      · cases ok
        exact fillDefaults_chosen fill

section
variable {chain pre post : List Server} {v : Server}

/-- The listener is configured as `h3_post_config` left the chosen server. -/
lemma Chosen.listener (h : Chosen s chain pre v post) :
    findH3Server chain = some (withDefaults v) := by
  have skip : ∀ {l : List Server} (rest : List Server), (∀ u ∈ l, u.conf.hasKeys = false) →
      findH3Server (l ++ rest) = findH3Server rest := by
    intro l rest keyless
    induction l with
    | nil => rfl
    | cons u l ih =>
      obtain ⟨u_none, keyless⟩ := List.forall_mem_cons.mp keyless
      rw [List.cons_append, findH3Server, if_neg (by simp [u_none]), ih keyless]
  rw [h.after, skip _ h.first]
  exact if_pos h.keys

/-- The servers behind the listener's are those behind the chosen one. -/
lemma Chosen.afterListener (h : Chosen s chain pre v post) : afterListener s = post := by
  rw [Config.afterListener, h.before,
    List.dropWhile_append_of_pos fun u mem => by simp [h.first u mem],
    List.dropWhile_cons_of_neg (by simp [h.keys])]
  rfl

/-- The servers as they were configured and as they run. -/
lemma Chosen.mem_zip (h : Chosen s chain pre v post) {a b : Server} : (a, b) ∈ s.zip chain ↔
    (a = b ∧ a ∈ pre) ∨ (a, b) = (v, { v with conf := withDefaults v }) ∨ (a = b ∧ a ∈ post) := by
  have same : ∀ l : List Server, (a, b) ∈ l.zip l ↔ a = b ∧ a ∈ l := by
    intro l
    rw [List.zip, List.zipWith_self, List.mem_map]
    constructor
    · rintro ⟨_, mem, eq⟩
      cases eq
      exact ⟨rfl, mem⟩
    · rintro ⟨rfl, mem⟩
      exact ⟨_, mem, rfl⟩
  rw [h.before, h.after, List.zip_append rfl, List.zip_cons_cons, List.mem_append, List.mem_cons,
    same, same]

end

end

/-- After a successful configuration, what is advertised is the port of the listener and the maximum
age of the server that handles the request, exactly if every server behind the one of the listener
that would advertise has the same port and a maximum age, set or inherited. -/
theorem alt_svc_matches_listener_iff {tables : TableOps String String.toLower}
    {readable : String → Bool} {main : Server} {vhosts chain : List Server}
    (ok : postConfig false readable (mergeChain main vhosts) = (.ok, chain)) :
    ∃ listener, findH3Server chain = some listener ∧
      (Truthful tables listener.port ((mergeChain main vhosts).zip chain) ↔
        ∀ s ∈ afterListener (mergeChain main vhosts), s.conf.advertises = true →
          s.conf.port = listener.port ∧ s.conf.altSvcMaxAge ≠ 0) := by
  obtain ⟨pre, v, post, chosen⟩ := postConfig_chosen ok
  refine ⟨withDefaults v, chosen.listener, ?_⟩
  rw [chosen.afterListener]
  -- what an unchanged server advertises, against what it should
  have unchanged : ∀ s : Server, altSvcValue s.conf.port s.conf.altSvcMaxAge =
      altSvcValue (withDefaults v).port (maxAgeOf s.conf) ↔
        s.conf.port = (withDefaults v).port ∧ s.conf.altSvcMaxAge ≠ 0 := by
    intro s
    rw [altSvcValue_inj, maxAgeOf, orBase]
    refine and_congr Iff.rfl ?_
    split
    · rename_i set
      exact iff_of_true rfl set
    · rename_i unset
      rw [not_not.mp unset]
      decide
  constructor
  · intro truthful s mem advertises
    have fresh : (hookFixups tables s ⟨true, false, [], []⟩).1 = .ok :=
      hookFixups_ok.mpr ⟨rfl, advertises, rfl⟩
    have header := truthful (s, s) (chosen.mem_zip.mpr (.inr (.inr ⟨rfl, mem⟩))) _ fresh
    rw [hookFixups_header fresh] at header
    exact (unchanged s).mp (Option.some.inj header)
  · rintro right ⟨configured, running⟩ mem r added
    dsimp only at added ⊢
    rw [hookFixups_header added]
    obtain ⟨_, advertises, _⟩ := hookFixups_ok.mp added
    rcases chosen.mem_zip.mp mem with ⟨rfl, early⟩ | eq | ⟨rfl, late⟩
    · simp [ServerConf.advertises, chosen.first _ early] at advertises
    · cases eq
      rfl
    · exact congrArg some ((unchanged _).mpr (right _ late advertises))

/-- Certificate, key and port in the main server, and two virtual hosts that inherit them; they have
a directive, and so a configuration of their own. -/
def inherited (maxAge : Nat) : Server × List Server :=
  (⟨{ createServerConfig with certPath := some "c", keyPath := some "k", port := 4433,
                              altSvcMaxAge := maxAge },
      [443]⟩,
    [⟨{ createServerConfig with addressValidation := .on }, [443]⟩,
      ⟨{ createServerConfig with addressValidation := .on }, [8443]⟩])

/-- Two virtual hosts with certificates, keys and ports of their own. -/
def separate : List Server :=
  [⟨{ createServerConfig with certPath := some "c", keyPath := some "k" }, [443]⟩,
    ⟨{ createServerConfig with certPath := some "d", keyPath := some "l", port := 8443,
                               altSvcMaxAge := 60 }, [8443]⟩]

/-- With a maximum age in the main server every virtual host advertises the listener. -/
theorem alt_svc_matches_listener_iff_inherited :
    ∃ chain, postConfig false (fun _ => true) (mergeChain (inherited 60).1 (inherited 60).2) =
      (.ok, chain) ∧ Truthful (.plain _ _) 4433
        ((mergeChain (inherited 60).1 (inherited 60).2).zip chain) := by
  obtain ⟨chain, ok⟩ : ∃ chain, postConfig false (fun _ => true)
    (mergeChain (inherited 60).1 (inherited 60).2) =
      (.ok, chain) := ⟨_, rfl⟩
  obtain ⟨listener, found, iff⟩ : ∃ listener, findH3Server chain = some listener ∧
      (Truthful (.plain _ _) listener.port _ ↔ _) := alt_svc_matches_listener_iff ok
  have port : listener.port = 4433 := by
    cases ok
    cases found
    rfl
  rw [port] at iff
  refine ⟨chain, ok, iff.mpr ?_⟩
  decide +kernel

/-- Without one the virtual hosts that inherit the certificate advertise an age of 0, and a virtual
host with its own port advertises that port, on which nothing listens. -/
theorem stale_advertisements :
    (∃ chain s, postConfig false (fun _ => true) (mergeChain (inherited 0).1 (inherited 0).2) =
      (.ok, chain) ∧ chain[1]? = some s ∧ (findH3Server chain).map (·.port) = some 4433 ∧
      firstOf String.toLower (hookFixups (.plain _ _) s ⟨true, false, [], []⟩).2.headersOut
        "Alt-Svc" =
        some "h3=\":4433\"; ma=0; persist=1" ∧
      ¬ Truthful (.plain _ _) 4433 ((mergeChain (inherited 0).1 (inherited 0).2).zip chain)) ∧
    (∃ chain s, postConfig false (fun _ => true) (mergeChain ⟨createServerConfig, [80]⟩ separate) =
      (.ok, chain) ∧ chain[2]? = some s ∧ (findH3Server chain).map (·.port) = some 443 ∧
      firstOf String.toLower (hookFixups (.plain _ _) s ⟨true, false, [], []⟩).2.headersOut
        "Alt-Svc" =
        some "h3=\":8443\"; ma=60; persist=1" ∧
      ¬ Truthful (.plain _ _) 443 ((mergeChain ⟨createServerConfig, [80]⟩ separate).zip
        chain)) := by
  refine ⟨⟨_, _, rfl, rfl, rfl, by decide +kernel, ?_⟩,
    ⟨_, _, rfl, rfl, rfl, by decide +kernel, ?_⟩⟩
  · intro truthful
    have header :=
      truthful _ (List.mem_of_getElem? (i := 1) rfl) ⟨true, false, [], []⟩ (by decide +kernel)
    exact absurd header (by decide +kernel)
  · intro truthful
    have header :=
      truthful _ (List.mem_of_getElem? (i := 2) rfl) ⟨true, false, [], []⟩ (by decide +kernel)
    exact absurd header (by decide +kernel)

/-- A configuration that the listener can run with: every number is set, and in the range of its
directive. The port can also be the first one of the addresses of the server, which is 0 if they
have none, and the response limit can be the default, which is no limit. -/
structure Ready (conf : ServerConf) : Prop where
  keys : conf.hasKeys = true
  port : conf.port = conf.hostPort ∨ 0 < conf.port ∧ conf.port ≤ 65535
  maxConcurrentStreams : 0 < conf.maxConcurrentStreams ∧ conf.maxConcurrentStreams ≤ uint16Max
  maxConnections : 0 < conf.maxConnections ∧ conf.maxConnections ≤ maxConnectionsMax
  streamBufferSize : 0 < conf.streamBufferSize ∧ conf.streamBufferSize ≤ streamBufferSizeMax
  maxRequestBodySize : 0 < conf.maxRequestBodySize ∧ conf.maxRequestBodySize ≤ maxRequestBodySizeMax
  maxResponseBodySize : conf.maxResponseBodySize = sizeMax ∨
    0 < conf.maxResponseBodySize ∧ conf.maxResponseBodySize ≤ maxResponseBodySizeMax
  altSvcMaxAge : 0 < conf.altSvcMaxAge ∧ conf.altSvcMaxAge ≤ altSvcMaxAgeMax
  handshakeTimeout : 0 < conf.handshakeTimeout ∧ conf.handshakeTimeout ≤ handshakeTimeoutMax
  idleTimeout : 0 < conf.idleTimeout ∧ conf.idleTimeout ≤ idleTimeoutMax

/-- A merged number is bounded if both numbers are. -/
lemma orBase_le {new base max : Nat} (hn : new ≤ max) (hb : base ≤ max) :
    orBase new base ≤ max := by
  rw [orBase]
  split
  · exact hn
  · exact hb

/-- A merged number is positive if the inherited one is. -/
lemma orBase_pos {new base : Nat} (hb : 0 < base) : 0 < orBase new base := by
  rw [orBase]
  split
  · rename_i set
    exact Nat.pos_of_ne_zero set
  · exact hb

/-- A number that is not inherited is set, and in range. -/
lemma orBase_cases {new base max : Nat} (hn : new ≤ max) :
    orBase new base = base ∨ 0 < orBase new base ∧ orBase new base ≤ max := by
  rw [orBase]
  split
  · rename_i set
    exact .inr ⟨Nat.pos_of_ne_zero set, hn⟩
  · exact .inl rfl

/-- Every default passes the check of its directive, except that of the response limit. -/
lemma InRange.ready {v : Server} (h : InRange v.conf) (keys : v.conf.hasKeys = true) :
    Ready (withDefaults v) where
  keys := keys
  port := orBase_cases h.port
  maxConcurrentStreams := ⟨orBase_pos (by decide), orBase_le h.maxConcurrentStreams (by decide)⟩
  maxConnections := ⟨orBase_pos (by decide), orBase_le h.maxConnections (by decide)⟩
  streamBufferSize := ⟨orBase_pos (by decide), orBase_le h.streamBufferSize (by decide)⟩
  maxRequestBodySize := ⟨orBase_pos (by decide), orBase_le h.maxRequestBodySize (by decide)⟩
  maxResponseBodySize := orBase_cases h.maxResponseBodySize
  altSvcMaxAge := ⟨orBase_pos (by decide), orBase_le h.altSvcMaxAge (by decide)⟩
  handshakeTimeout := ⟨orBase_pos (by decide), orBase_le h.handshakeTimeout (by decide)⟩
  idleTimeout := ⟨orBase_pos (by decide), orBase_le h.idleTimeout (by decide)⟩

end ModHttp3.Config

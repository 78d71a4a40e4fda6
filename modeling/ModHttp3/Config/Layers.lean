import ModHttp3.Config.Advertise

/-!
# Configuration in layers

A server is configured by its own directives, by those of the main server, which
`h3_merge_server_config` hands down to a virtual host, and by the defaults of `h3_post_config`. The
first two layers are one list of directives: a virtual host that inherits is configured like one
that has the directives of the main server before its own (`configure_append`), since a directive
never stores a value that counts as unset. `listener_layered` says what the listener gets: the
directives of the main server, then those of the first server with a certificate and a key, then the
defaults.
-/

namespace ModHttp3.Config
open ModHttp3.Lib

section
variable {atoi : Atoi} {directive : String} {max : Nat} {store : Nat → ServerConf}
  {arg : Option String}
  {base conf conf' : ServerConf} {d : Directive}

/-- A number that is set is not inherited. -/
lemma orBase_of_pos {new base : Nat} (pos : 0 < new) : orBase new base = new := if_pos pos.ne'

/-- What a number directive stores does not depend on where it is stored. -/
lemma setNumber_store (eq : setNumber atoi directive max store arg = .ok conf') :
    ∃ val, 0 < val ∧ conf' = store val ∧ ∀ store',
    setNumber atoi directive max store' arg = .ok (store' val) := by
  unfold setNumber at eq
  split at eq
  · cases eq
  · cases eq
  split at eq
  · cases eq
  · cases eq
  split at eq
  · cases eq
  · rename_i _ arg ne _ val parsed good
    cases eq
    refine ⟨val, by omega, rfl, ?_⟩
    intro store'
    simp [setNumber, parsed, good]

/-- `H3Port` sets the port to the same number whatever the configuration was. -/
lemma setPort_store (eq : setPort atoi conf arg = .ok conf') :
    ∃ port, 0 < port ∧ conf' = { conf with port := port } ∧
      ∀ other, setPort atoi other arg = .ok { other with port := port } := by
  unfold setPort at eq
  split at eq
  · cases eq
  · cases eq
  split at eq
  · cases eq
  · cases eq
  split at eq
  · cases eq
  · rename_i _ arg ne _ port parsed good
    cases eq
    refine ⟨port.toNat, by omega, rfl, ?_⟩
    intro other
    simp [setPort, parsed, good]

/-- A directive does the same to a server and to the server with what it inherits. -/
lemma Directive.set_merge (base : ServerConf) (eq : d.set atoi conf = .ok conf') :
    d.set atoi (mergeServerConfig base conf) = .ok (mergeServerConfig base conf') := by
  cases d with
  | certificatePath arg | certificateKeyPath arg =>
    cases eq
    rfl
  | altSvc flag | addressValidation flag =>
    cases eq
    cases flag with
    | _ => rfl
  | port arg =>
    obtain ⟨val, pos, rfl, same⟩ := setPort_store eq
    refine (same _).trans ?_
    simp only [mergeServerConfig, orBase_of_pos pos]
  | maxConcurrentStreams arg | maxConnections arg | streamBufferSize arg | maxRequestBodySize arg
  | altSvcMaxAge arg | handshakeTimeout arg | idleTimeout arg | maxResponseBodySize arg =>
    obtain ⟨val, pos, rfl, same⟩ := setNumber_store eq
    refine (same _).trans ?_
    simp only [mergeServerConfig, orBase_of_pos pos]

/-- No directive sets the port of the host. -/
lemma set_hostPort (eq : d.set atoi conf = .ok conf') : conf'.hostPort = conf.hostPort := by
  cases d with
  | certificatePath arg | certificateKeyPath arg | altSvc flag | addressValidation flag =>
    cases eq
    rfl
  | port arg =>
    obtain ⟨val, _, rfl, _⟩ := setPort_store eq
    rfl
  | maxConcurrentStreams arg | maxConnections arg | streamBufferSize arg | maxRequestBodySize arg
  | altSvcMaxAge arg | handshakeTimeout arg | idleTimeout arg | maxResponseBodySize arg =>
    obtain ⟨val, _, rfl, _⟩ := setNumber_store eq
    rfl

/-- The directives, starting from any configuration. -/
lemma configure_cons {ds : List Directive} {start : ServerConf}
    (eq : (d :: ds).foldlM (fun conf d => d.set atoi conf) start = .ok conf) :
    ∃ next, d.set atoi start = .ok next ∧ ds.foldlM (fun conf d => d.set atoi conf) next =
      .ok conf := by
  rw [List.foldlM_cons] at eq
  cases first : d.set atoi start with
  | error => simp [first, bind, Except.bind] at eq
  | ok next =>
    rw [first] at eq
    exact ⟨next, rfl, eq⟩

/-- Nor does a sequence of them. -/
lemma foldlM_hostPort {ds : List Directive} {start : ServerConf}
    (eq : ds.foldlM (fun conf d => d.set atoi conf) start = .ok conf) :
    conf.hostPort = start.hostPort := by
  induction ds generalizing start with
  | nil =>
    cases eq
    rfl
  | cons d ds ih =>
    obtain ⟨next, first, rest⟩ := configure_cons eq
    exact (ih rest).trans (set_hostPort first)

/-- Running the directives and then merging is running them on the merged configuration. -/
lemma foldlM_merge (base : ServerConf) {ds : List Directive} {start : ServerConf}
    (eq : ds.foldlM (fun conf d => d.set atoi conf) start = .ok conf) :
    ds.foldlM (fun conf d => d.set atoi conf) (mergeServerConfig base start) =
      .ok (mergeServerConfig base conf) := by
  induction ds generalizing start with
  | nil =>
    cases eq
    rfl
  | cons d ds ih =>
    obtain ⟨next, first, rest⟩ := configure_cons eq
    rw [List.foldlM_cons, d.set_merge base first]
    exact ih rest

/-- A virtual host without directives has those of the main server. -/
lemma merge_createServerConfig (hostPort : base.hostPort = 0) :
    mergeServerConfig base createServerConfig = base := by
  obtain ⟨_⟩ := base
  cases hostPort
  rfl

/-- Inheritance is concatenation. -/
theorem configure_append {dm dv : List Directive} {new : ServerConf}
    (main : configure atoi dm = .ok base) (vhost : configure atoi dv = .ok new) :
    configure atoi (dm ++ dv) = .ok (mergeServerConfig base new) := by
  have hostPort : base.hostPort = 0 := foldlM_hostPort main
  have merged := foldlM_merge base vhost
  rw [merge_createServerConfig hostPort] at merged
  rw [configure] at main
  rw [configure, List.foldlM_append, main]
  exact merged

end

/-- A server and its directives. -/
structure Site where
  directives : List Directive
  server : Server

/-- The directives were accepted, and configured the server. -/
def Site.Configured (atoi : Atoi) (site : Site) : Prop :=
  configure atoi site.directives = .ok site.server.conf

/-- The directives of the sites after those of the main server, which are not repeated for
itself. -/
def inherit (main : Site) (vhosts : List Site) : List Site :=
  { main with directives := [] } :: vhosts

section
variable {atoi : Atoi} {main site : Site} {vhosts : List Site} {i : Nat}

/-- The merged chain, server by server. -/
lemma mergeChain_layered (hm : main.Configured atoi) (hv : ∀ v ∈ vhosts, v.Configured atoi)
    (here : (inherit main vhosts)[i]? = some site) :
    ∃ conf, configure atoi (main.directives ++ site.directives) = .ok conf ∧
      (mergeChain main.server (vhosts.map Site.server))[i]? = some { site.server with conf } := by
  cases i with
  | zero =>
    cases here
    rw [List.append_nil]
    exact ⟨main.server.conf, hm, rfl⟩
  | succ i =>
    rw [inherit, List.getElem?_cons_succ] at here
    refine ⟨_, configure_append hm (hv site (List.mem_of_getElem? here)), ?_⟩
    rw [mergeChain, List.getElem?_cons_succ, List.map_map, List.getElem?_map, here]
    rfl

end

/-- The listener is configured by the directives of the main server, then those of the first server
that has a certificate and a key in this way, then the defaults; all its numbers are in range. -/
theorem listener_layered {atoi : Atoi} {readable : String → Bool} {main : Site} {vhosts : List Site}
    {chain : List Server} (hm : main.Configured atoi) (hv : ∀ v ∈ vhosts, v.Configured atoi)
    (ok : postConfig false readable (mergeChain main.server (vhosts.map Site.server)) =
      (.ok, chain)) :
    ∃ (i : Nat) (site : Site) (conf : ServerConf), (inherit main vhosts)[i]? = some site ∧
      configure atoi (main.directives ++ site.directives) = .ok conf ∧ conf.hasKeys = true ∧
      (∀ j < i, ∀ earlier : Site, (inherit main vhosts)[j]? = some earlier →
        ∃ conf', configure atoi (main.directives ++ earlier.directives) = .ok conf' ∧
        conf'.hasKeys = false) ∧
      findH3Server chain = some (withDefaults { site.server with conf }) ∧
      Ready (withDefaults { site.server with conf }) := by
  obtain ⟨pre, v, post, chosen⟩ := postConfig_chosen ok
  have place : (mergeChain main.server (vhosts.map Site.server))[pre.length]? = some v := by
    rw [chosen.before, List.getElem?_append_right le_rfl, Nat.sub_self]
    rfl
  have length : (mergeChain main.server (vhosts.map Site.server)).length =
      (inherit main vhosts).length := by
    simp [mergeChain, inherit]
  obtain ⟨site, here⟩ : ∃ site, (inherit main vhosts)[pre.length]? = some site := by
    have lt := (List.getElem?_eq_some_iff.mp place).1
    exact ⟨_, List.getElem?_eq_getElem (length ▸ lt)⟩
  obtain ⟨conf, configured, same⟩ := mergeChain_layered hm hv here
  cases place.symm.trans same
  refine ⟨pre.length, site, conf, here, configured, chosen.keys, ?_, chosen.listener, ?_⟩
  · intro j lt earlier is
    obtain ⟨conf', configured', at'⟩ := mergeChain_layered hm hv is
    rw [chosen.before, List.getElem?_append_left lt] at at'
    exact ⟨conf', configured', chosen.first _ (List.mem_of_getElem? at')⟩
  · exact InRange.ready (configure_inRange configured) chosen.keys

/-- Every number is 60. -/
def sixty : Atoi where
  int64 _ := .number 60
  uint64 _ := .number 60

/-- The main server has a maximum age. -/
def mainSite : Site where
  directives := [.altSvcMaxAge (some "60")]
  server := { conf := { createServerConfig with altSvcMaxAge := 60 }, addrs := [80] }

/-- A virtual host has the certificate and the key. -/
def hostSite : Site where
  directives := [.certificatePath "c", .certificateKeyPath "k"]
  server :=
    { conf := { createServerConfig with certPath := some "c", keyPath := some "k" },
      addrs := [443] }

/-- The virtual host has the certificate and the key and inherits the maximum age; its port is that
of its address. -/
theorem listener_layered_oneHost :
    ∃ chain listener, postConfig false (fun _ => true)
      (mergeChain mainSite.server [hostSite.server]) = (.ok, chain) ∧
      findH3Server chain = some listener ∧ listener.altSvcMaxAge = 60 ∧ listener.port = 443 ∧
      Ready listener := by
  have hm : mainSite.Configured sixty := rfl
  have hv : ∀ v ∈ [hostSite], v.Configured sixty := by
    intro v mem
    cases List.mem_singleton.mp mem
    rfl
  obtain ⟨chain, ok⟩ : ∃ chain, postConfig false (fun _ => true)
    (mergeChain mainSite.server [hostSite.server]) =
      (.ok, chain) := ⟨_, rfl⟩
  obtain ⟨i, site, conf, -, -, -, -, found, ready⟩ := listener_layered hm hv ok
  have listener : (findH3Server chain).map (fun c => (c.altSvcMaxAge, c.port)) =
      some (60, 443) := by
    cases ok
    rfl
  rw [found] at listener
  obtain ⟨age, port⟩ := Prod.mk.inj (Option.some.inj listener)
  exact ⟨chain, _, ok, found, age, port, ready⟩

end ModHttp3.Config

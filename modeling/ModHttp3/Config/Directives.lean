import Mathlib.Data.Nat.Basic
import Mathlib.Tactic.Common
import ModHttp3.Lib.SizeT

/-!
# The directives

The configuration of a server (C `h3_server_conf`) and the functions that the directives of a
configuration file call (`h3_config.c`). A number that is 0 and a path that is null are not set.

The directives with a number are one family: `setNumber` checks the argument, and each of them is
`setNumber` with its name, its largest value and its field. `H3Port` reads a signed number and has
its own texts. `InRange` is what the checks guarantee of a whole configuration, `configure_inRange`
that every sequence of directives does.

C → Lean naming: `h3_port` → `port` and so on, `set_h3_port` → `setPort`; the constants keep their
names without `H3_`. `apr_cstr_atoi64` and `apr_cstr_atoui64` are arguments.
-/

namespace ModHttp3.Config
open ModHttp3.Lib

/-- A flag that can be left to the default (C `h3_tri_flag`). -/
inductive TriFlag where
  | unset
  | on
  | off
deriving DecidableEq

/-- The configuration of a server (C `h3_server_conf`). -/
structure ServerConf where
  hostPort : Nat
  certPath : Option String
  keyPath : Option String
  port : Nat
  maxConcurrentStreams : Nat
  maxConnections : Nat
  streamBufferSize : Nat
  maxRequestBodySize : Nat
  maxResponseBodySize : Nat
  altSvc : TriFlag
  addressValidation : TriFlag
  altSvcMaxAge : Nat
  handshakeTimeout : Nat
  idleTimeout : Nat
deriving DecidableEq

/-- Nothing is set (C `h3_create_server_config`). -/
def createServerConfig : ServerConf where
  hostPort := 0
  certPath := none
  keyPath := none
  port := 0
  maxConcurrentStreams := 0
  maxConnections := 0
  streamBufferSize := 0
  maxRequestBodySize := 0
  maxResponseBodySize := 0
  altSvc := .unset
  addressValidation := .unset
  altSvcMaxAge := 0
  handshakeTimeout := 0
  idleTimeout := 0

def maxConcurrentStreamsDefault : Nat := 100
def maxConnectionsDefault : Nat := 256
def maxConnectionsMax : Nat := 10000
def streamBufferSizeDefault : Nat := 64 * 1024
def streamBufferSizeMax : Nat := 1024 * 1024
def maxRequestBodySizeDefault : Nat := 10 * 1024 * 1024
def maxRequestBodySizeMax : Nat := 1024 * 1024 * 1024
def maxResponseBodySizeDefault : Nat := sizeMax
def maxResponseBodySizeMax : Nat := 2 * 1024 * 1024 * 1024
def altSvcMaxAgeDefault : Nat := 86400
def altSvcMaxAgeMax : Nat := 7 * 24 * 3600
def handshakeTimeoutDefault : Nat := 10
def handshakeTimeoutMax : Nat := 600
def idleTimeoutDefault : Nat := 300
def idleTimeoutMax : Nat := 86400
def uint16Max : Nat := 65535

/-- What `apr_cstr_atoi64` and `apr_cstr_atoui64` return. -/
inductive Parsed (α : Type) where
  | number (n : α)
  /-- `APR_EINVAL` -/
  | notNumber
  /-- `APR_ERANGE` -/
  | notRepresentable

/-- The conversions of APR. -/
structure Atoi where
  int64 : String → Parsed Int
  uint64 : String → Parsed Nat

section
variable (atoi : Atoi)

/-- A directive with a number between 1 and `max`; `store` puts it into the configuration. -/
def setNumber (directive : String) (max : Nat) (store : Nat → ServerConf) (arg : Option String) :
    Except String ServerConf :=
  match arg with
  | none | some "" => .error (directive ++ ": empty value")
  | some arg =>
    match atoi.uint64 arg with
    | .notNumber => .error (directive ++ ": '" ++ arg ++ "' is not a number")
    | .notRepresentable => .error (directive ++ ": '" ++ arg ++ "' is out of representable range")
    | .number val =>
      if val = 0 ∨ val > max then
        .error (directive ++ ": '" ++ arg ++ "' is out of allowed range (1-" ++ toString max ++ ")")
      else
        .ok (store val)

def setCertPath (conf : ServerConf) (arg : String) : Except String ServerConf :=
  .ok { conf with certPath := some arg }

def setKeyPath (conf : ServerConf) (arg : String) : Except String ServerConf :=
  .ok { conf with keyPath := some arg }

def setPort (conf : ServerConf) (arg : Option String) : Except String ServerConf :=
  match arg with
  | none | some "" => .error "H3Port: empty port number"
  | some arg =>
    match atoi.int64 arg with
    | .notNumber => .error ("H3Port: '" ++ arg ++ "' is not a number")
    | .notRepresentable => .error ("H3Port: '" ++ arg ++ "' is out of representable range")
    | .number port =>
      if port < 1 ∨ port > 65535 then
        .error ("H3Port: '" ++ arg ++ "' is out of allowed range (1-65535)")
      else
        .ok { conf with port := port.toNat }

-- the bound is `UINT16_MAX` here and not `H3_MAX_CONCURRENT_STREAMS_MAX`
def setMaxConcurrentStreams (conf : ServerConf) (arg : Option String) : Except String ServerConf :=
  setNumber atoi "H3MaxConcurrentStreams" uint16Max
    (fun n => { conf with maxConcurrentStreams := n }) arg

def setMaxConnections (conf : ServerConf) (arg : Option String) : Except String ServerConf :=
  setNumber atoi "H3MaxConnections" maxConnectionsMax (fun n => { conf with maxConnections := n })
    arg

def setStreamBufferSize (conf : ServerConf) (arg : Option String) : Except String ServerConf :=
  setNumber atoi "H3StreamBufferSize" streamBufferSizeMax
    (fun n => { conf with streamBufferSize := n }) arg

def setMaxRequestBodySize (conf : ServerConf) (arg : Option String) : Except String ServerConf :=
  setNumber atoi "H3MaxRequestBodySize" maxRequestBodySizeMax
    (fun n => { conf with maxRequestBodySize := n }) arg

def setMaxResponseBodySize (conf : ServerConf) (arg : Option String) : Except String ServerConf :=
  setNumber atoi "H3MaxResponseBodySize" maxResponseBodySizeMax
    (fun n => { conf with maxResponseBodySize := n }) arg

def setHandshakeTimeout (conf : ServerConf) (arg : Option String) : Except String ServerConf :=
  setNumber atoi "H3HandshakeTimeout" handshakeTimeoutMax
    (fun n => { conf with handshakeTimeout := n }) arg

def setIdleTimeout (conf : ServerConf) (arg : Option String) : Except String ServerConf :=
  setNumber atoi "H3IdleTimeout" idleTimeoutMax (fun n => { conf with idleTimeout := n }) arg

def setAltSvc (conf : ServerConf) (flag : Bool) : Except String ServerConf :=
  .ok { conf with altSvc := if flag then .on else .off }

def setAddressValidation (conf : ServerConf) (flag : Bool) : Except String ServerConf :=
  .ok { conf with addressValidation := if flag then .on else .off }

def setAltSvcMaxAge (conf : ServerConf) (arg : Option String) : Except String ServerConf :=
  setNumber atoi "H3AltSvcMaxAge" altSvcMaxAgeMax (fun n => { conf with altSvcMaxAge := n }) arg

/-- A directive with its argument (C `h3_cmds`). -/
inductive Directive where
  | certificatePath (arg : String)
  | certificateKeyPath (arg : String)
  | port (arg : Option String)
  | maxConcurrentStreams (arg : Option String)
  | maxConnections (arg : Option String)
  | streamBufferSize (arg : Option String)
  | maxRequestBodySize (arg : Option String)
  | altSvc (flag : Bool)
  | altSvcMaxAge (arg : Option String)
  | handshakeTimeout (arg : Option String)
  | idleTimeout (arg : Option String)
  | maxResponseBodySize (arg : Option String)
  | addressValidation (flag : Bool)

/-- The name of a directive. -/
def Directive.name : Directive → String
  | .certificatePath _ => "H3CertificatePath"
  | .certificateKeyPath _ => "H3CertificateKeyPath"
  | .port _ => "H3Port"
  | .maxConcurrentStreams _ => "H3MaxConcurrentStreams"
  | .maxConnections _ => "H3MaxConnections"
  | .streamBufferSize _ => "H3StreamBufferSize"
  | .maxRequestBodySize _ => "H3MaxRequestBodySize"
  | .altSvc _ => "H3AltSvc"
  | .altSvcMaxAge _ => "H3AltSvcMaxAge"
  | .handshakeTimeout _ => "H3HandshakeTimeout"
  | .idleTimeout _ => "H3IdleTimeout"
  | .maxResponseBodySize _ => "H3MaxResponseBodySize"
  | .addressValidation _ => "H3AddressValidation"

/-- The function that a directive calls. -/
def Directive.set (conf : ServerConf) : Directive → Except String ServerConf
  | .certificatePath arg => setCertPath conf arg
  | .certificateKeyPath arg => setKeyPath conf arg
  | .port arg => setPort atoi conf arg
  | .maxConcurrentStreams arg => setMaxConcurrentStreams atoi conf arg
  | .maxConnections arg => setMaxConnections atoi conf arg
  | .streamBufferSize arg => setStreamBufferSize atoi conf arg
  | .maxRequestBodySize arg => setMaxRequestBodySize atoi conf arg
  | .altSvc flag => setAltSvc conf flag
  | .altSvcMaxAge arg => setAltSvcMaxAge atoi conf arg
  | .handshakeTimeout arg => setHandshakeTimeout atoi conf arg
  | .idleTimeout arg => setIdleTimeout atoi conf arg
  | .maxResponseBodySize arg => setMaxResponseBodySize atoi conf arg
  | .addressValidation flag => setAddressValidation conf flag

/-- The directives of one server, up to the first error. -/
def configure (directives : List Directive) : Except String ServerConf :=
  directives.foldlM (fun conf d => d.set atoi conf) createServerConfig

end

/-- Every number is unset or one that its directive accepts. -/
structure InRange (conf : ServerConf) : Prop where
  port : conf.port ≤ 65535
  maxConcurrentStreams : conf.maxConcurrentStreams ≤ uint16Max
  maxConnections : conf.maxConnections ≤ maxConnectionsMax
  streamBufferSize : conf.streamBufferSize ≤ streamBufferSizeMax
  maxRequestBodySize : conf.maxRequestBodySize ≤ maxRequestBodySizeMax
  maxResponseBodySize : conf.maxResponseBodySize ≤ maxResponseBodySizeMax
  altSvcMaxAge : conf.altSvcMaxAge ≤ altSvcMaxAgeMax
  handshakeTimeout : conf.handshakeTimeout ≤ handshakeTimeoutMax
  idleTimeout : conf.idleTimeout ≤ idleTimeoutMax

section
variable {atoi : Atoi} {directive : String} {max : Nat} {store : Nat → ServerConf}
  {arg : Option String}
  {conf conf' : ServerConf} {d : Directive} {msg : String}

/-- A number is stored only if it is in range. -/
lemma setNumber_ok (eq : setNumber atoi directive max store arg = .ok conf') :
    ∃ val, 0 < val ∧ val ≤ max ∧ conf' = store val := by
  unfold setNumber at eq
  split at eq
  · cases eq
  · cases eq
  split at eq
  · cases eq
  · cases eq
  split at eq
  · cases eq
  · rename_i val _ good
    cases eq
    exact ⟨val, by omega, by omega, rfl⟩

/-- An error begins with the name of the directive. -/
lemma setNumber_error (eq : setNumber atoi directive max store arg = .error msg) :
    ∃ rest, msg = directive ++ rest := by
  unfold setNumber at eq
  split at eq
  · cases eq
    exact ⟨_, rfl⟩
  · cases eq
    exact ⟨_, rfl⟩
  split at eq
  · cases eq
    exact ⟨_, by rw [String.append_assoc, String.append_assoc]⟩
  · cases eq
    exact ⟨_, by rw [String.append_assoc, String.append_assoc]⟩
  split at eq
  · cases eq
    exact
      ⟨_, by rw [String.append_assoc, String.append_assoc, String.append_assoc,
        String.append_assoc]⟩
  · cases eq

/-- `H3Port` sets the port to a number in its range. -/
lemma setPort_ok (eq : setPort atoi conf arg = .ok conf') :
    ∃ port, 0 < port ∧ port ≤ 65535 ∧ conf' = { conf with port := port } := by
  unfold setPort at eq
  split at eq
  · cases eq
  · cases eq
  split at eq
  · cases eq
  · cases eq
  split at eq
  · cases eq
  · rename_i port _ good
    cases eq
    exact ⟨port.toNat, by omega, by omega, rfl⟩

/-- A directive keeps every number in range. -/
lemma InRange.set (h : InRange conf) (eq : d.set atoi conf = .ok conf') : InRange conf' := by
  cases d with
  | certificatePath | certificateKeyPath | altSvc | addressValidation =>
    cases eq
    exact ⟨h.1, h.2, h.3, h.4, h.5, h.6, h.7, h.8, h.9⟩
  | port =>
    obtain ⟨_, _, le, rfl⟩ := setPort_ok eq
    exact { h with port := le }
  | maxConcurrentStreams =>
    obtain ⟨_, _, le, rfl⟩ := setNumber_ok eq
    exact { h with maxConcurrentStreams := le }
  | maxConnections =>
    obtain ⟨_, _, le, rfl⟩ := setNumber_ok eq
    exact { h with maxConnections := le }
  | streamBufferSize =>
    obtain ⟨_, _, le, rfl⟩ := setNumber_ok eq
    exact { h with streamBufferSize := le }
  | maxRequestBodySize =>
    obtain ⟨_, _, le, rfl⟩ := setNumber_ok eq
    exact { h with maxRequestBodySize := le }
  | altSvcMaxAge =>
    obtain ⟨_, _, le, rfl⟩ := setNumber_ok eq
    exact { h with altSvcMaxAge := le }
  | handshakeTimeout =>
    obtain ⟨_, _, le, rfl⟩ := setNumber_ok eq
    exact { h with handshakeTimeout := le }
  | idleTimeout =>
    obtain ⟨_, _, le, rfl⟩ := setNumber_ok eq
    exact { h with idleTimeout := le }
  | maxResponseBodySize =>
    obtain ⟨_, _, le, rfl⟩ := setNumber_ok eq
    exact { h with maxResponseBodySize := le }

/-- Every error names the directive it is about. -/
lemma Directive.set_error (eq : d.set atoi conf = .error msg) : ∃ rest, msg = d.name ++ rest := by
  cases d with
  | certificatePath | certificateKeyPath | altSvc | addressValidation => cases eq
  | port arg =>
    simp only [Directive.set, setPort] at eq
    split at eq
    · cases eq
      exact ⟨": empty port number", rfl⟩
    · cases eq
      exact ⟨": empty port number", rfl⟩
    rename_i arg _
    split at eq
    · cases eq
      exact ⟨": '" ++ arg ++ "' is not a number", by simp only [← String.append_assoc]; rfl⟩
    · cases eq
      exact ⟨": '" ++ arg ++ "' is out of representable range",
        by simp only [← String.append_assoc]; rfl⟩
    split at eq
    · cases eq
      exact ⟨": '" ++ arg ++ "' is out of allowed range (1-65535)",
        by simp only [← String.append_assoc]; rfl⟩
    · cases eq
  | _ => exact setNumber_error eq

/-- Whatever the directives of a server are, its numbers are unset or in range. -/
theorem configure_inRange {directives : List Directive}
    (eq : configure atoi directives = .ok conf) :
    InRange conf := by
  have fold : ∀ {directives : List Directive} {start : ServerConf}, InRange start →
      directives.foldlM (fun conf d => d.set atoi conf) start = .ok conf → InRange conf := by
    intro directives
    induction directives with
    | nil =>
      intro start h eq
      cases eq
      exact h
    | cons d directives ih =>
      intro start h eq
      rw [List.foldlM_cons] at eq
      cases first : d.set atoi start with
      | error => simp [first, bind, Except.bind] at eq
      | ok next =>
        rw [first] at eq
        exact ih (h.set first) eq
  exact fold ⟨by decide, by decide, by decide, by decide, by decide, by decide, by decide,
    by decide, by decide⟩ eq

end

end ModHttp3.Config

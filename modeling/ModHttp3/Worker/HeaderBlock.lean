import ModHttp3.Lib.Table
import ModHttp3.Worker.Heads

/-!
# Which headers leave in a response

`build_response_nva` copies the header table of a response behind `:status`, without the headers
that are about the connection: six names, and those that the `Connection` header nominates. It
writes into an array of `nva_cap` entries and stops when that is full. `nvaLoop` is its loop;
`buildResponseNva_loop` says that it computes the header block of `ModHttp3.Worker.Heads`.

A table can have several `Connection` entries, and `apr_table_get` returns the first. So a header
that only a later one nominates is not recognised (`response_hop_by_hop_iff`), and with an array of
64 entries a header with 63 others before it is left out (`response_fields_iff`).

The argument `findToken` is `ap_find_token`, of which `FindsTokens` says that it looks for a token
in a comma-separated list, ignoring case.
-/

namespace ModHttp3.Worker
open ModHttp3.Lib

/-- The characters of a token. -/
def isTchar (c : Char) : Bool := c.isAlphanum || "!#$%&'*+-.^_`|~".toList.contains c

/-- Without the blanks at both ends. -/
def trimBlanks (cs : List Char) : List Char :=
  let blank := fun c => c == ' ' || c == '\t'
  ((cs.dropWhile blank).reverse.dropWhile blank).reverse

/-- The tokens of a comma-separated list. -/
def tokens (value : String) : List String :=
  (((value.toList.splitOn ',').map trimBlanks).filter fun t => t != [] && t.all isTchar).map
    String.ofList

/-- The value of a `Connection` header nominates a header. -/
def nominates (value name : String) : Bool := (tokens value).any (sameName · name)

/-- What `ap_find_token` does. -/
def FindsTokens (findToken : String → String → Bool) : Prop :=
  ∀ value name, findToken value name = nominates value name

/-- The values of the `Connection` entries of a table. -/
def connections (hdrs : List (String × String)) : List String :=
  (hdrs.filter fun e => sameName e.1 "Connection").map Prod.snd

/-- Some `Connection` entry of the table nominates a header. -/
def nominated (hdrs : List (String × String)) (name : String) : Bool :=
  (connections hdrs).any (nominates · name)

/-- A header that is for the client: not a pseudo header, and not about the connection. -/
def endToEnd (hdrs : List (String × String)) (e : String × String) : Bool :=
  !e.1.startsWith ":" && !isConnectionSpecific e.1 && !nominated hdrs e.1

/-- The header table that `build_response_nva` reads. -/
def headerTable (r : RequestRec) (resp : Option Resp) : List (String × String) :=
  ((resp.bind Resp.headers).or r.headersOut).getD []

/-- The loop of `build_response_nva` over the rest of the table, with the entries written so far. -/
def nvaLoop (findToken : String → String → Bool) (nvaCap : Nat) (connHdr : Option String) :
    List (String × String) → List (String × String) → List (String × String)
  | [], nva => nva
  | (k, v) :: telts, nva =>
    if nva.length < nvaCap then
      if k.startsWith ":" then
        nvaLoop findToken nvaCap connHdr telts nva
      else if isConnectionSpecific k || connHdr.any fun conn => findToken conn k then
        nvaLoop findToken nvaCap connHdr telts nva
      else
        nvaLoop findToken nvaCap connHdr telts (nva ++ [(k, v)])
    else
      nva

section
variable {findToken : String → String → Bool} {nvaCap : Nat} {r : RequestRec} {resp : Option Resp}
  {hdrs telts nva : List (String × String)} {e : String × String}

/-- The loop adds the entries that pass the filter, as far as there is room. -/
lemma nvaLoop_eq : nvaLoop findToken nvaCap (tableGet hdrs "Connection") telts nva =
    nva ++ (telts.filter (keepsHeader findToken hdrs)).take (nvaCap - nva.length) := by
  induction telts generalizing nva with
  | nil => simp [nvaLoop]
  | cons e telts ih =>
    obtain ⟨k, v⟩ := e
    rw [nvaLoop]
    by_cases room : nva.length < nvaCap
    · rw [if_pos room]
      by_cases pseudo : k.startsWith ":" = true
      · rw [if_pos pseudo, ih, List.filter_cons_of_neg (by simp [keepsHeader, pseudo])]
      rw [if_neg pseudo]
      by_cases hop : (isConnectionSpecific k ||
          (tableGet hdrs "Connection").any fun conn => findToken conn k) = true
      · rw [if_pos hop, ih, List.filter_cons_of_neg (by rw [keepsHeader, hop]; simp)]
      · have keeps : keepsHeader findToken hdrs (k, v) = true := by
          rw [keepsHeader, Bool.eq_false_iff.mpr hop, Bool.eq_false_iff.mpr pseudo]
          rfl
        obtain ⟨n, cap⟩ : ∃ n, nvaCap - nva.length = n + 1 := ⟨nvaCap - nva.length - 1, by omega⟩
        rw [if_neg hop, ih, List.filter_cons_of_pos keeps, cap, List.take_succ_cons,
          List.append_assoc, List.length_append, List.length_singleton,
          show nvaCap - (nva.length + 1) = n by omega]
        rfl
    · rw [if_neg room, show nvaCap - nva.length = 0 by omega, List.take_zero, List.append_nil]

/-- The header block is what the loop makes of `:status` and the header table. -/
lemma buildResponseNva_loop : buildResponseNva findToken nvaCap r resp =
    let status := ((resp.map Resp.status).filter (· ≠ 0)).getD r.status
    nvaLoop findToken nvaCap (tableGet (headerTable r resp) "Connection") (headerTable r resp)
      [(":status", toString status)] := by
  dsimp only
  rw [nvaLoop_eq]
  rfl

/-- Only a colon is lowered to a colon. -/
lemma toLower_eq_colon {c : Char} (h : c.toLower = ':') : c = ':' := by
  unfold Char.toLower at h
  split at h
  · rename_i upper
    have low : 65 ≤ c.val.toNat := UInt32.le_iff_toNat_le.mp upper.1
    have high : c.val.toNat ≤ 90 := UInt32.le_iff_toNat_le.mp upper.2
    have sum : (c.val + 32).toNat = 58 := congrArg (fun c => c.val.toNat) h
    rw [UInt32.toNat_add, show UInt32.toNat 32 = 32 from rfl] at sum
    omega
  · exact h

/-- A token has no colon. -/
lemma nominates_status (value : String) : nominates value ":status" = false := by
  rw [nominates, List.any_eq_false]
  intro t mem same
  obtain ⟨cs, inList, rfl⟩ := List.mem_map.mp mem
  have token := (List.mem_filter.mp inList).2
  have chars : cs.map Char.toLower = (":status".toLower).toList := by
    have lower : ((String.ofList cs).map Char.toLower).toList = (":status".toLower).toList :=
      congrArg String.toList (beq_iff_eq.mp same)
    rwa [String.toList_map, String.toList_ofList] at lower
  rw [show (":status".toLower).toList = ':' :: "status".toList by decide +kernel] at chars
  obtain ⟨c, cs, rfl, colon, _⟩ := List.map_eq_cons_iff.mp chars
  rw [toLower_eq_colon colon] at token
  simp [isTchar] at token

/-- `apr_table_get` returns the first of them. -/
lemma tableGet_connection : tableGet hdrs "Connection" = (connections hdrs).head? := by
  rw [tableGet, connections, List.head?_map, List.head?_filter]

/-- A header is nominated by the first `Connection` entry, which is the one the filter looks at, or
by a later one. -/
lemma nominated_eq (finds : FindsTokens findToken) (name : String) : nominated hdrs name =
    (((tableGet hdrs "Connection").any fun conn => findToken conn name) ||
      (connections hdrs).tail.any (nominates · name)) := by
  rw [tableGet_connection, nominated]
  cases connections hdrs with
  | nil => rfl
  | cons conn rest =>
    rw [List.head?_cons, Option.any_some, finds]
    rfl

/-- The filter lets every header for the client pass. -/
lemma keepsHeader_of_endToEnd (finds : FindsTokens findToken) (good : endToEnd hdrs e = true) :
    keepsHeader findToken hdrs e = true := by
  simp only [endToEnd, nominated_eq finds, Bool.and_eq_true, Bool.not_eq_true',
    Bool.or_eq_false_iff] at good
  obtain ⟨⟨pseudo, specific⟩, first, _⟩ := good
  rw [keepsHeader, pseudo, specific, first]
  rfl

end

/-- A header block without anything about the connection: `:status` comes first and is the only
pseudo header, and no name is one of the six or nominated by a `Connection` entry of the table. -/
structure HopFree (hdrs nva : List (String × String)) : Prop where
  status : ∃ value rest, nva = (":status", value) :: rest ∧ ∀ e ∈ rest, e.1.startsWith ":" = false
  specific : ∀ e ∈ nva, isConnectionSpecific e.1 = false
  nominated : ∀ e ∈ nva, nominated hdrs e.1 = false

/-- Every header block is free of hop-by-hop headers, unless an entry that passes the filter while
there is room for it is nominated by a `Connection` entry other than the first. -/
theorem response_hop_by_hop_iff {findToken : String → String → Bool} (finds : FindsTokens findToken)
    (nvaCap : Nat) (r : RequestRec) (resp : Option Resp) :
    HopFree (headerTable r resp) (buildResponseNva findToken nvaCap r resp) ↔
      ∀ i e, (headerTable r resp)[i]? = some e → keepsHeader findToken (headerTable r resp) e =
        true →
        ((headerTable r resp).take i).countP (keepsHeader findToken (headerTable r resp)) <
          nvaCap - 1 →
        ∀ conn ∈ (connections (headerTable r resp)).tail, nominates conn e.1 = false := by
  rw [show buildResponseNva findToken nvaCap r resp =
    (":status", _) ::
    ((headerTable r resp).filter (keepsHeader findToken (headerTable r resp))).take (nvaCap - 1)
    from rfl]
  generalize headerTable r resp = hdrs
  constructor
  · intro free i e at_i keeps room conn mem
    have unnominated :=
      free.nominated e (List.mem_cons_of_mem _ (mem_take_filter.mpr ⟨i, at_i, keeps, room⟩))
    exact Bool.eq_false_iff.mpr (List.any_eq_false.mp unnominated conn (List.mem_of_mem_tail mem))
  · intro clean
    have passed : ∀ e ∈ (hdrs.filter (keepsHeader findToken hdrs)).take (nvaCap - 1),
        e.1.startsWith ":" = false ∧ isConnectionSpecific e.1 = false ∧
        nominated hdrs e.1 = false := by
      intro e mem
      obtain ⟨i, at_i, keeps, room⟩ := mem_take_filter.mp mem
      have later : (connections hdrs).tail.any (nominates · e.1) = false :=
        List.any_eq_false.mpr fun conn mem => Bool.eq_false_iff.mp
          (clean i e at_i keeps room conn mem)
      simp only [keepsHeader, Bool.and_eq_true, Bool.not_eq_true', Bool.or_eq_false_iff] at keeps
      refine ⟨keeps.1, keeps.2.1, ?_⟩
      rw [nominated_eq finds, keeps.2.2, later]
      rfl
    refine ⟨⟨_, _, rfl, fun e mem => (passed e mem).1⟩, ?_, ?_⟩
    · intro e mem
      rcases List.mem_cons.mp mem with rfl | mem
      · exact show isConnectionSpecific ":status" = false by decide +kernel
      · exact (passed e mem).2.1
    · intro e mem
      rcases List.mem_cons.mp mem with rfl | mem
      · simp [nominated, nominates_status]
      · exact (passed e mem).2.2

/-- A response with two `Connection` entries. -/
def twoConnections : Resp where
  status := 200
  headers := some [("Connection", "close"), ("Connection", "X-Hop"), ("X-Hop", "1"), ("ETag", "2")]

/-- The same with one entry that has both values. -/
def mergedConnection : Resp where
  status := 200
  headers := some [("Connection", "close, x-hop"), ("X-Hop", "1"), ("ETag", "2")]

/-- With both values in one `Connection` header, no hop-by-hop header is sent. -/
theorem response_hop_by_hop_iff_mergedConnection :
    HopFree (headerTable ⟨200, none⟩ (some mergedConnection))
      (buildResponseNva nominates 64 ⟨200, none⟩ (some mergedConnection)) := by
  refine (response_hop_by_hop_iff (fun _ _ => rfl) 64 _ _).mpr ?_
  intro i e _ _ _ conn mem
  rw [show (connections (headerTable ⟨200, none⟩ (some mergedConnection))).tail =
    [] by decide +kernel] at mem
  cases mem

/-- The second `Connection` entry nominates `X-Hop`, which leaves in the response. -/
theorem nominated_header_leaves :
    FindsTokens nominates ∧ nominated (headerTable ⟨200, none⟩ (some twoConnections)) "X-Hop" =
      true ∧ ("X-Hop", "1") ∈ buildResponseNva nominates 64 ⟨200, none⟩ (some twoConnections) ∧
      ¬ HopFree (headerTable ⟨200, none⟩ (some twoConnections))
        (buildResponseNva nominates 64 ⟨200, none⟩ (some twoConnections)) := by
  have leaves : ("X-Hop", "1") ∈ buildResponseNva nominates 64 ⟨200, none⟩
      (some twoConnections) := by
    decide +kernel
  have nom : nominated (headerTable ⟨200, none⟩ (some twoConnections)) "X-Hop" = true := by
    decide +kernel
  refine ⟨fun _ _ => rfl, nom, leaves, fun free => ?_⟩
  have unnominated := free.nominated _ leaves
  rw [nom] at unnominated
  cases unnominated

/-- The headers for the client come in the order of the table behind `:status`, each of them
once. -/
def FieldsKept (hdrs nva : List (String × String)) : Prop :=
  ∃ value rest, nva = (":status", value) :: rest ∧
    rest.filter (endToEnd hdrs) = hdrs.filter (endToEnd hdrs)

/-- The headers for the client leave in the response, except those with 63 entries before them that
pass the filter. -/
theorem response_fields_iff {findToken : String → String → Bool} (finds : FindsTokens findToken)
    (r : RequestRec) (resp : Option Resp) :
    FieldsKept (headerTable r resp) (Head.nva findToken r (.response resp)) ↔
      ∀ i e, (headerTable r resp)[i]? = some e → endToEnd (headerTable r resp) e = true →
        ((headerTable r resp).take i).countP (keepsHeader findToken (headerTable r resp)) < 63 := by
  rw [show Head.nva findToken r (.response resp) =
    (":status", _) ::
    ((headerTable r resp).filter (keepsHeader findToken (headerTable r resp))).take 63 from rfl]
  generalize headerTable r resp = hdrs
  -- the headers for the client are among those that pass the filter
  have all : hdrs.filter (endToEnd hdrs) = (hdrs.filter (keepsHeader findToken hdrs)).filter
      (endToEnd hdrs) := by
    rw [List.filter_filter]
    apply List.filter_congr
    intro e _
    cases good : endToEnd hdrs e with
    | false => rfl
    | true => rw [keepsHeader_of_endToEnd finds good]; rfl
  have split : (hdrs.filter (keepsHeader findToken hdrs)).filter (endToEnd hdrs) =
      ((hdrs.filter (keepsHeader findToken hdrs)).take 63).filter (endToEnd hdrs) ++
        ((hdrs.filter (keepsHeader findToken hdrs)).drop 63).filter (endToEnd hdrs) := by
    rw [← List.filter_append, List.take_append_drop]
  constructor
  · rintro ⟨_, _, eq, kept⟩ i e at_i good
    cases eq
    rw [all, split, List.self_eq_append_right, List.filter_eq_nil_iff] at kept
    by_contra full
    refine kept e (mem_drop_filter.mpr ⟨i, at_i, keepsHeader_of_endToEnd finds good, by omega⟩) good
  · intro room
    refine ⟨_, _, rfl, ?_⟩
    rw [all, split, List.self_eq_append_right, List.filter_eq_nil_iff]
    intro e mem good
    obtain ⟨i, at_i, _, full⟩ := mem_drop_filter.mp mem
    have := room i e at_i good
    omega

/-- A response that sets `n` cookies before it asks for encryption. -/
def cookies (n : Nat) : Resp where
  status := 200
  headers :=
    some (List.replicate n ("Set-Cookie", "a=1") ++ [("Strict-Transport-Security", "max-age=1")])

/-- Three cookies are within the limit on header fields. -/
theorem response_fields_iff_threeCookies :
    FieldsKept (headerTable ⟨200, none⟩ (some (cookies 3)))
      (Head.nva nominates ⟨200, none⟩ (.response (some (cookies 3)))) := by
  refine (response_fields_iff (fun _ _ => rfl) _ _).mpr ?_
  intro i e _ _
  have short : ((headerTable ⟨200, none⟩ (some (cookies 3))).take i).length ≤ 4 := by
    rw [List.length_take]
    exact Nat.min_le_right _ _
  exact Nat.lt_of_le_of_lt List.countP_le_length (Nat.lt_of_le_of_lt short (by decide))

/-- Behind 63 cookies the header is lost. -/
theorem header_lost_behind_cookies :
    FindsTokens nominates ∧
      endToEnd (headerTable ⟨200, none⟩ (some (cookies 63)))
        ("Strict-Transport-Security", "max-age=1") = true ∧
      ("Strict-Transport-Security", "max-age=1") ∈ headerTable ⟨200, none⟩ (some (cookies 63)) ∧
      ("Strict-Transport-Security", "max-age=1") ∉ Head.nva nominates ⟨200, none⟩
        (.response (some (cookies 63))) ∧
      ¬ FieldsKept (headerTable ⟨200, none⟩ (some (cookies 63)))
        (Head.nva nominates ⟨200, none⟩ (.response (some (cookies 63)))) := by
  have good : endToEnd (headerTable ⟨200, none⟩ (some (cookies 63)))
      ("Strict-Transport-Security", "max-age=1") = true := by decide +kernel
  have inTable : ("Strict-Transport-Security", "max-age=1") ∈
      headerTable ⟨200, none⟩ (some (cookies 63)) := by
    decide +kernel
  have lost : ("Strict-Transport-Security", "max-age=1") ∉
      Head.nva nominates ⟨200, none⟩ (.response (some (cookies 63))) := by decide +kernel
  refine ⟨fun _ _ => rfl, good, inTable, lost, ?_⟩
  rintro ⟨value, rest, eq, kept⟩
  have mem := List.mem_filter.mpr ⟨inTable, good⟩
  rw [← kept] at mem
  rw [eq] at lost
  exact lost (List.mem_cons_of_mem _ (List.mem_filter.mp mem).1)

end ModHttp3.Worker

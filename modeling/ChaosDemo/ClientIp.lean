/-
ChaosDemo/ClientIp.lean

Whom a request is counted for (chaos_service/rate_limiter.py): the address of the
connection, or the hop of `X-Forwarded-For` that the outermost trusted proxy wrote.

A header is a row of items with commas between them, and items that are blank do not
count.  Counting from the right is safe because reading a header is a homomorphism,

    hops (l ++ "," ++ r) = hops l ++ hops r

so what the proxies append stays at the end of the row, whatever stood in front of it.
-/
import ChaosDemo.Builtins
import ChaosDemo.PyText

namespace ChaosDemo

/-! ### The source -/

/-- The environment variables; one that is not set is empty. -/
structure ProxyEnv where
  trustProxyHeaders : String := ""
  xffTrustedHops : String := ""

/-- What is read of a request. -/
structure ClientRequest where
  remoteAddr : Option String
  forwardedFor : Option String

/-- `trust_proxy_headers`. -/
def trustProxyHeaders (env : ProxyEnv) : Bool :=
  (pyStrip env.trustProxyHeaders).toLower ∈ ["1", "true", "yes", "on"]

/-- `trusted_hop_count`. -/
def trustedHopCount (env : ProxyEnv) : ℤ := max 1 ((Json.str (pyStrip env.xffTrustedHops)).toInt?.getD 1)

/-- `request.remote_addr or "unknown"`. -/
def remoteOrUnknown (request : ClientRequest) : String :=
  match request.remoteAddr with
  | some addr => if addr = "" then "unknown" else addr
  | none => "unknown"

/-- `[hop.strip() for hop in forwarded.split(",") if hop.strip()]`. -/
def hops (forwarded : String) : List String :=
  ((pySplit ',' forwarded.toList).map fun item => pyStrip (String.ofList item)).filter (· ≠ "")

/-- `client_ip_from_request`. -/
def clientIpFromRequest (env : ProxyEnv) (request : ClientRequest) : String :=
  let remote := remoteOrUnknown request
  if trustProxyHeaders env = false then remote
  else
    let hops := hops (request.forwardedFor.getD "")
    if hops = [] then remote
    else
      let index := hops.length - trustedHopCount env
      if index < 0 then remote
      else
        match hops[index.toNat]? with
        | some hop => if hop = "" then remote else hop
        | none => remote

/-- `resolve_subject_id`. -/
def resolveSubjectId (env : ProxyEnv) (request : ClientRequest) (dimension : String) : String :=
  if dimension = "client_ip" then clientIpFromRequest env request else remoteOrUnknown request

/-! ### Headers -/

theorem hops_comma (l r : List Char) :
    hops (String.ofList (l ++ ',' :: r)) = hops (String.ofList l) ++ hops (String.ofList r) := by
  unfold hops
  simp only [String.toList_ofList, pySplit_append, List.map_append, List.filter_append]

theorem not_mem_of_blank {b : List Char} (hb : Blank b) : ',' ∉ b := by
  intro hmem
  exact absurd (hb ',' hmem) (by decide)

theorem hops_append_blank {b : List Char} (hb : Blank b) (l : List Char) :
    hops (String.ofList (l ++ b)) = hops (String.ofList l) := by
  obtain ⟨items, last, hl, hlb⟩ := pySplit_append_last (not_mem_of_blank hb) l
  unfold hops
  simp only [String.toList_ofList, hl, hlb, List.map_append, List.map_cons, List.map_nil,
    pyStrip_append_right hb]

/-- What one proxy appends: blanks, a comma, blanks, and the address that it sees. -/
structure Hop where
  before : List Char
  after : List Char
  address : List Char
  before_blank : Blank before
  after_blank : Blank after
  address_comma : ',' ∉ address
  address_ne : pyStrip (String.ofList address) ≠ ""

/-- The header that a proxy passes on. -/
def Hop.append (header : Option String) (hop : Hop) : Option String :=
  match header with
  | none => some (String.ofList (hop.after ++ hop.address))
  | some text =>
      some (String.ofList (text.toList ++ hop.before ++ ',' :: (hop.after ++ hop.address)))

theorem hops_address (hop : Hop) :
    hops (String.ofList (hop.after ++ hop.address)) = [pyStrip (String.ofList hop.address)] := by
  have hcomma : ',' ∉ hop.after ++ hop.address := by
    intro hmem
    rcases List.mem_append.mp hmem with h | h
    · exact not_mem_of_blank hop.after_blank h
    · exact hop.address_comma h
  unfold hops
  rw [String.toList_ofList, pySplit_of_not_mem hcomma, List.map_cons, List.map_nil,
    pyStrip_append_left hop.after_blank]
  simp [hop.address_ne]

theorem hops_append (header : Option String) (hop : Hop) :
    hops ((hop.append header).getD "") =
      hops (header.getD "") ++ [pyStrip (String.ofList hop.address)] := by
  cases header with
  | none => exact hops_address hop
  | some text =>
      show hops (String.ofList (text.toList ++ hop.before ++ ',' :: (hop.after ++ hop.address))) = _
      rw [hops_comma, hops_append_blank hop.before_blank, hops_address, String.ofList_toList]
      rfl

/-- What the proxies append stays at the end of the row. -/
theorem hops_foldl (proxies : List Hop) (header : Option String) :
    hops ((proxies.foldl Hop.append header).getD "") =
      hops (header.getD "") ++ proxies.map fun hop => pyStrip (String.ofList hop.address) := by
  induction proxies generalizing header with
  | nil => simp
  | cons hop proxies ih =>
      rw [List.foldl_cons, ih, hops_append, List.append_assoc]
      rfl

theorem trustedHopCount_pos (env : ProxyEnv) : 1 ≤ trustedHopCount env := le_max_left _ _

/-- The hops of a header that has too few of them count for nothing. -/
theorem clientIp_of_short {env : ProxyEnv} {request : ClientRequest}
    (hshort : (hops (request.forwardedFor.getD "")).length < trustedHopCount env) :
    clientIpFromRequest env request = remoteOrUnknown request := by
  have hindex : ((hops (request.forwardedFor.getD "")).length : ℤ) - trustedHopCount env < 0 := by
    omega
  unfold clientIpFromRequest
  simp only [hindex, if_true, ite_self]

/-- The hop that the outermost trusted proxy wrote. -/
theorem clientIp_of_hops {env : ProxyEnv} {request : ClientRequest}
    (htrust : trustProxyHeaders env = true) {before rest : List String} {hop : String}
    (hhops : hops (request.forwardedFor.getD "") = before ++ hop :: rest) (hne : hop ≠ "")
    (hcount : trustedHopCount env = rest.length + 1) :
    clientIpFromRequest env request = hop := by
  have hindex : (((before ++ hop :: rest).length : ℤ) - trustedHopCount env) = before.length := by
    rw [hcount, List.length_append, List.length_cons]
    push_cast
    omega
  unfold clientIpFromRequest
  rw [hhops]
  simp only [htrust, hindex]
  simp [hne]

/-- **`X-Forwarded-For` cannot be spoofed.**  With trust on and as many trusted hops as
proxies, the request counts for the address that the first of them appended, whatever the
header was before.  With fewer items than trusted hops, without the header, or without
trust it counts for the connection. -/
theorem forwarded_unspoofable (env : ProxyEnv) (remoteAddr : Option String) :
    (trustProxyHeaders env = true → ∀ (header : Option String) (first : Hop) (rest : List Hop),
      trustedHopCount env = (first :: rest).length →
      clientIpFromRequest env ⟨remoteAddr, (first :: rest).foldl Hop.append header⟩ =
        pyStrip (String.ofList first.address)) ∧
    (∀ header : String, (hops header).length < trustedHopCount env →
      clientIpFromRequest env ⟨remoteAddr, some header⟩ = remoteOrUnknown ⟨remoteAddr, some header⟩) ∧
    clientIpFromRequest env ⟨remoteAddr, none⟩ = remoteOrUnknown ⟨remoteAddr, none⟩ ∧
    (trustProxyHeaders env = false → ∀ header : Option String,
      clientIpFromRequest env ⟨remoteAddr, header⟩ = remoteOrUnknown ⟨remoteAddr, header⟩) := by
  refine ⟨?_, ?_, ?_, ?_⟩
  · intro htrust header first rest hcount
    have hhops := hops_foldl (first :: rest) header
    rw [List.map_cons] at hhops
    refine clientIp_of_hops htrust hhops first.address_ne ?_
    rw [hcount, List.length_cons, List.length_map]
    push_cast
    rfl
  · intro header hshort
    exact clientIp_of_short hshort
  · apply clientIp_of_short
    have hpos := trustedHopCount_pos env
    show ((hops "").length : ℤ) < _
    have hnone : hops "" = [] := by decide
    rw [hnone]
    exact hpos
  · intro htrust header
    unfold clientIpFromRequest
    rw [if_pos htrust]

/-- A proxy that writes a comma and a blank before the address it sees. -/
def proxyHop (address : String) (hcomma : ',' ∉ address.toList)
    (hne : pyStrip (String.ofList address.toList) ≠ "") : Hop where
  before := []
  after := [' ']
  address := address.toList
  before_blank := nofun
  after_blank c hc := by
    rw [List.mem_singleton.mp hc]
    decide
  address_comma := hcomma
  address_ne := hne

/-- Two trusted proxies behind an attacker who fills the header with items of his own. -/
theorem forwarded_two_hops :
    clientIpFromRequest ⟨"on", " 2 "⟩
      ⟨some "10.0.0.9", some "9.9.9.9, ,, 6.6.6.6, 1.2.3.4, 203.0.113.7"⟩ = "1.2.3.4" := by
  have hproxies := (forwarded_unspoofable ⟨"on", " 2 "⟩ (some "10.0.0.9")).1 (by decide +kernel)
    (some "9.9.9.9, ,, 6.6.6.6") (proxyHop "1.2.3.4" (by decide) (by decide +kernel))
    [proxyHop "203.0.113.7" (by decide) (by decide +kernel)] (by decide +kernel)
  have hheader : [proxyHop "1.2.3.4" (by decide) (by decide +kernel),
      proxyHop "203.0.113.7" (by decide) (by decide +kernel)].foldl Hop.append
        (some "9.9.9.9, ,, 6.6.6.6") = some "9.9.9.9, ,, 6.6.6.6, 1.2.3.4, 203.0.113.7" := by
    decide +kernel
  rw [hheader] at hproxies
  rw [hproxies]
  decide +kernel

end ChaosDemo

import CrowdSecBouncer.Net.TrustedCidr

/-!
# The client address behind trusted proxies

If the TCP peer is a trusted proxy, the client address is derived from a forwarding header: a
list of addresses that each proxy extends on the right. The list is walked from the right end,
skipping addresses of trusted proxies, and the first other address is the client. Tokens that
are no addresses are left out before the walk starts.

What a header value contributes is its chain of addresses, and the chain of a comma-joined
value is the concatenation of the chains (`parseForwardedChain_intercalate`).
-/

namespace CrowdSecBouncer

open Text

/-- One line of the request headers; a name or value that is not UTF-8 is `none`. -/
structure HeaderLine where
  name : Option (List Char)
  value : Option (List Char)
  deriving DecidableEq, Repr

def peerInTrustedList (ip : IpAddr) (trusted : List TrustedCidr) : Bool :=
  trusted.any (·.contains ip)

/-- Parse one comma-separated token into an address (best effort). -/
def parseForwardedToken (tok : List Char) : Option IpAddr :=
  match trim tok with
  | [] => none
  | '[' :: rest => do
    -- bracketed IPv6, optionally with port
    let (inner, _) ← splitOnce ']' rest
    (parseIpAddr (inner.takeWhile (· ≠ '%'))).map canonicalizeIp
  | t =>
    -- zone id
    let noZone := t.takeWhile (· ≠ '%')
    match parseIpAddr noZone with
    | some ip => some (canonicalizeIp ip)
    | none => do
      -- IPv4 with port
      let (host, port) ← rsplitOnce ':' noZone
      if !host.contains ':' && port.all (·.isDigit) then
        (parseIpAddr host).map canonicalizeIp
      else none

/-- Split the header value into a left-to-right chain of addresses. -/
def parseForwardedChain (value : List Char) : List IpAddr :=
  (value.splitOn ',').filterMap parseForwardedToken

/-- The value of the first line with this name, if it is UTF-8. -/
def headerValueCi (name : List Char) : List HeaderLine → Option (List Char)
  | [] => none
  | line :: lines =>
    match line.name with
    | none => headerValueCi name lines
    | some key => if eqIgnoreAsciiCase key name then line.value else headerValueCi name lines

/-- Walk from right to left; skip trusted proxies; the first non-trusted is the client. -/
def firstUntrusted (trusted : List TrustedCidr) (chain : List IpAddr) : Option IpAddr :=
  chain.reverse.find? fun ip => !peerInTrustedList ip trusted

/-- Resolve the effective client address given socket peer, trusted networks, and optional
header. -/
def resolveClientIp (socketIp : IpAddr) (trusted : List TrustedCidr)
    (headerValue : Option (List Char)) : IpAddr :=
  if trusted.isEmpty || !peerInTrustedList socketIp trusted then socketIp
  else
    match headerValue with
    | none => socketIp
    | some raw =>
      match parseForwardedChain raw with
      | [] => socketIp
      -- the entire chain trusted (unusual): the leftmost is the best guess
      | leftmost :: rest => (firstUntrusted trusted (leftmost :: rest)).getD leftmost

def defaultRealIpHeader : List Char := "X-Forwarded-For".toList

/-- Read the client address from the connection's peer, then apply the trusted-proxy and header
rules. -/
def getEffectiveClientIp (socketPeerIp : Option IpAddr) (lines : List HeaderLine)
    (trusted : List TrustedCidr) (realIpHeader : Option (List Char)) : Option IpAddr := do
  let socketIp ← socketPeerIp
  let hname := realIpHeader.getD defaultRealIpHeader
  some (canonicalizeIp
    (resolveClientIp (canonicalizeIp socketIp) trusted (headerValueCi hname lines)))

example : parseForwardedChain
      "[2001:db8::1]:443, fe80::1%eth0 ,1.2.3.4:80,unknown,,1.2.3.4:x".toList =
    [.v6 #v[0x20, 0x01, 0x0d, 0xb8, 0, 0, 0, 0, 0, 0, 0, 0, 0, 0, 0, 1],
      .v6 #v[0xfe, 0x80, 0, 0, 0, 0, 0, 0, 0, 0, 0, 0, 0, 0, 0, 1], .v4 #v[1, 2, 3, 4]] := by
  decide +kernel

variable {socketIp ip : IpAddr} {trusted : List TrustedCidr} {chain later : List IpAddr}
  {tok value : List Char}

/-! ### Chains -/

@[simp]
theorem parseForwardedChain_nil : parseForwardedChain [] = [] := by decide

/-- Appending a line to a list value appends its chain. -/
theorem parseForwardedChain_append (value value' : List Char) :
    parseForwardedChain (value ++ ',' :: value') =
      parseForwardedChain value ++ parseForwardedChain value' := by
  rw [parseForwardedChain, List.splitOn_append_cons_self, List.filterMap_append]
  rfl

/-- **The chain of joined values** is the concatenation of their chains. -/
theorem parseForwardedChain_intercalate (values : List (List Char)) :
    parseForwardedChain ([','].intercalate values) = values.flatMap parseForwardedChain := by
  induction values with
  | nil => exact parseForwardedChain_nil
  | cons value values ih =>
    cases values with
    | nil => simp
    | cons value' values =>
      rw [List.intercalate_cons_cons, List.append_assoc, List.singleton_append,
        parseForwardedChain_append, ih]
      rfl

/-! ### The walk -/

theorem firstUntrusted_append (trusted : List TrustedCidr) (chain later : List IpAddr) :
    firstUntrusted trusted (chain ++ later) =
      (firstUntrusted trusted later).or (firstUntrusted trusted chain) := by
  rw [firstUntrusted, List.reverse_append, List.find?_append]
  rfl

theorem firstUntrusted_eq_none_iff :
    firstUntrusted trusted chain = none ↔
      ∀ ip ∈ chain, peerInTrustedList ip trusted = true := by
  rw [firstUntrusted, List.find?_eq_none]
  simp

theorem peerInTrustedList_of_firstUntrusted (h : firstUntrusted trusted chain = some ip) :
    peerInTrustedList ip trusted = false := by
  simpa using List.find?_some h

/-- The address that a chain resolves to. -/
def resolveChain (socketIp : IpAddr) (trusted : List TrustedCidr) (chain : List IpAddr) : IpAddr :=
  (firstUntrusted trusted chain).getD (chain.headD socketIp)

/-- A peer that is no trusted proxy is the client. -/
theorem resolveClientIp_of_untrusted (h : peerInTrustedList socketIp trusted = false)
    (headerValue : Option (List Char)) :
    resolveClientIp socketIp trusted headerValue = socketIp := by
  rw [resolveClientIp.eq_def, if_pos (by simp [h])]

/-- **Behind a trusted proxy** the chain of the header decides, empty if there is none. -/
theorem resolveClientIp_of_trusted (h : peerInTrustedList socketIp trusted = true)
    (headerValue : Option (List Char)) :
    resolveClientIp socketIp trusted headerValue =
      resolveChain socketIp trusted ((headerValue.map parseForwardedChain).getD []) := by
  have hne : trusted.isEmpty = false := by
    cases trusted with
    | nil => exact absurd h (by simp [peerInTrustedList])
    | cons c cs => rfl
  rw [resolveClientIp.eq_def, if_neg (by simp [h, hne])]
  cases headerValue with
  | none => rfl
  | some raw =>
    rw [Option.map_some, Option.getD_some, resolveChain]
    dsimp only
    cases parseForwardedChain raw with
    | nil => rfl
    | cons leftmost rest => rfl

/-! ### Canonical addresses -/

theorem canonicalizeIp_of_parseForwardedToken (h : parseForwardedToken tok = some ip) :
    canonicalizeIp ip = ip := by
  have hmap {o : Option IpAddr} (ho : o.map canonicalizeIp = some ip) : canonicalizeIp ip = ip := by
    obtain ⟨addr, -, rfl⟩ := Option.map_eq_some_iff.mp ho
    exact canonicalizeIp_idem addr
  rw [parseForwardedToken.eq_def] at h
  split at h
  · exact absurd h (by simp)
  · obtain ⟨⟨inner, rest⟩, -, h⟩ := Option.bind_eq_some_iff.mp h
    exact hmap h
  · dsimp only at h
    split at h
    · next addr haddr =>
      obtain rfl := Option.some_injective _ h
      exact canonicalizeIp_idem addr
    · obtain ⟨⟨host, port⟩, -, h⟩ := Option.bind_eq_some_iff.mp h
      rw [Option.ite_none_right_eq_some] at h
      exact hmap h.2

theorem canonicalizeIp_of_mem_parseForwardedChain (h : ip ∈ parseForwardedChain value) :
    canonicalizeIp ip = ip := by
  obtain ⟨tok, -, htok⟩ := List.mem_filterMap.mp h
  exact canonicalizeIp_of_parseForwardedToken htok

end CrowdSecBouncer

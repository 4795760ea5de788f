import CrowdSecBouncer.Net.RealIp

/-!
# Who decides the client address

Two questions about the forwarding header. First, whether what a client writes into it can
choose the address: everything left of the first token that the trusted proxies did not vouch
for is out of play exactly when that token is an address (`resolveClientIp_const_iff`). A token
that is none is left out, and the walk goes on into what the client wrote. Second, whether a
header that is split over several lines is read as one list: only the first line is read, and
`getEffectiveClientIp_eq_joined_iff` says when that makes no difference.
-/

namespace CrowdSecBouncer

open Text

variable {socketIp : IpAddr} {trusted : List TrustedCidr}

/-! ### Left of the first untrusted token -/

section Tokens

variable {raw t : List Char} {left right : List (List Char)}

/-- The token is the address of a trusted proxy. -/
def IsTrustedToken (trusted : List TrustedCidr) (tok : List Char) : Prop :=
  ∃ ip, parseForwardedToken tok = some ip ∧ peerInTrustedList ip trusted = true

instance (trusted : List TrustedCidr) (tok : List Char) : Decidable (IsTrustedToken trusted tok) :=
  decidable_of_iff ((parseForwardedToken tok).any (peerInTrustedList · trusted) = true)
    (Option.any_eq_true ..)

theorem parseForwardedChain_of_tokens (h : raw.splitOn ',' = left ++ t :: right) :
    parseForwardedChain raw = left.filterMap parseForwardedToken ++
      ((parseForwardedToken t).toList ++ right.filterMap parseForwardedToken) := by
  rw [parseForwardedChain, h, List.filterMap_append, List.filterMap_cons]
  cases parseForwardedToken t with
  | none => rfl
  | some ip => rfl

theorem firstUntrusted_of_isTrustedToken (h : ∀ tok ∈ right, IsTrustedToken trusted tok) :
    firstUntrusted trusted (right.filterMap parseForwardedToken) = none := by
  refine firstUntrusted_eq_none_iff.mpr fun ip hip => ?_
  obtain ⟨tok, htok, hparse⟩ := List.mem_filterMap.mp hip
  obtain ⟨ip', hparse', htrusted⟩ := h tok htok
  obtain rfl := Option.some_injective _ (hparse.symm.trans hparse')
  exact htrusted

/-- The walk stops at an untrusted address with trusted proxies to its right. -/
theorem firstUntrusted_of_tokens (h : raw.splitOn ',' = left ++ t :: right)
    (hright : ∀ tok ∈ right, IsTrustedToken trusted tok) {ip : IpAddr}
    (ht : parseForwardedToken t = some ip) (hip : peerInTrustedList ip trusted = false) :
    firstUntrusted trusted (parseForwardedChain raw) = some ip := by
  have hsingle : firstUntrusted trusted [ip] = some ip := by simp [firstUntrusted, hip]
  rw [parseForwardedChain_of_tokens h, ht, firstUntrusted_append, firstUntrusted_append,
    firstUntrusted_of_isTrustedToken hright, Option.none_or, Option.toList_some, hsingle,
    Option.some_or]

/-- With one address on the left and only trusted proxies to the right, that address is the
client, trusted or not. -/
theorem resolveChain_cons_of_trusted {ip : IpAddr} {chain : List IpAddr}
    (h : firstUntrusted trusted chain = none) :
    resolveChain socketIp trusted (ip :: chain) = ip := by
  have happend := firstUntrusted_append trusted [ip] chain
  rw [h, Option.none_or, List.singleton_append] at happend
  rw [resolveChain, happend, List.headD_cons]
  cases hip : firstUntrusted trusted [ip] with
  | none => rfl
  | some ip' =>
    have hmem := List.mem_of_find?_eq_some hip
    rw [List.mem_reverse, List.mem_singleton] at hmem
    exact hmem

/-- **What the client writes cannot choose its address** exactly when the first token that the
proxies did not vouch for is an address. -/
theorem resolveClientIp_const_iff (hpeer : peerInTrustedList socketIp trusted = true)
    (htokens : raw.splitOn ',' = left ++ t :: right)
    (hright : ∀ tok ∈ right, IsTrustedToken trusted tok) (ht : ¬ IsTrustedToken trusted t) :
    (∀ raw' left', raw'.splitOn ',' = left' ++ t :: right →
      resolveClientIp socketIp trusted (some raw') = resolveClientIp socketIp trusted (some raw)) ↔
      (parseForwardedToken t).isSome := by
  have hresolve (raw' : List Char) : resolveClientIp socketIp trusted (some raw') =
      resolveChain socketIp trusted (parseForwardedChain raw') :=
    resolveClientIp_of_trusted hpeer (some raw')
  simp only [hresolve]
  constructor
  · intro hconst
    by_contra hnone
    rw [Option.not_isSome_iff_eq_none] at hnone
    -- an address of the client's choice, in front of the same tokens
    have hchosen (tok : List Char) (ip : IpAddr) (hcomma : ',' ∉ tok)
        (hparse : parseForwardedToken tok = some ip) :
        resolveChain socketIp trusted (parseForwardedChain raw) = ip := by
      have hsplit : ([','].intercalate (tok :: t :: right)).splitOn ',' = [tok] ++ t :: right := by
        refine List.splitOn_intercalate ',' (fun part hpart => ?_) (by simp)
        rcases List.mem_cons.mp hpart with rfl | hpart
        · exact hcomma
        · exact not_mem_of_mem_splitOn (htokens ▸ List.mem_append_right left hpart)
      rw [← hconst _ [tok] hsplit, parseForwardedChain_of_tokens hsplit, hnone]
      simp only [List.filterMap_cons, hparse, List.filterMap_nil, Option.toList_none,
        List.nil_append, List.singleton_append]
      exact resolveChain_cons_of_trusted (firstUntrusted_of_isTrustedToken hright)
    have hone := hchosen "1.1.1.1".toList (.v4 (u32ToBeBytes 0x01010101)) (by decide)
      (by decide +kernel)
    have htwo := hchosen "2.2.2.2".toList (.v4 (u32ToBeBytes 0x02020202)) (by decide)
      (by decide +kernel)
    exact absurd (hone.symm.trans htwo) (by decide)
  · intro hsome raw' left' htokens'
    obtain ⟨ip, hip⟩ := Option.isSome_iff_exists.mp hsome
    have huntrusted : peerInTrustedList ip trusted = false := by
      rw [← Bool.not_eq_true]
      exact fun htrusted => ht ⟨ip, hip, htrusted⟩
    rw [resolveChain, resolveChain, firstUntrusted_of_tokens htokens hright hip huntrusted,
      firstUntrusted_of_tokens htokens' hright hip huntrusted]
    rfl

/-- The proxies of `10.0.0.0/8`. -/
def exampleProxies : List TrustedCidr := ["10.0.0.0/8".toList].filterMap TrustedCidr.parse

/-- **The client chooses its address**: left of `unknown`, which a trusted proxy wrote for a peer
that it could not name, the client's own entry becomes the client address. -/
theorem client_chooses_address :
    let right := ["10.0.0.9".toList]
    let resolve := fun raw : String =>
      resolveClientIp (.v4 (u32ToBeBytes 0x0A000001)) exampleProxies (some raw.toList)
    peerInTrustedList (.v4 (u32ToBeBytes 0x0A000001)) exampleProxies = true ∧
      "6.6.6.6,unknown,10.0.0.9".toList.splitOn ',' =
        ["6.6.6.6".toList] ++ "unknown".toList :: right ∧
      "7.7.7.7,unknown,10.0.0.9".toList.splitOn ',' =
        ["7.7.7.7".toList] ++ "unknown".toList :: right ∧
      (∀ tok ∈ right, IsTrustedToken exampleProxies tok) ∧
      parseForwardedToken "unknown".toList = none ∧
      resolve "6.6.6.6,unknown,10.0.0.9" = .v4 (u32ToBeBytes 0x06060606) ∧
      resolve "7.7.7.7,unknown,10.0.0.9" = .v4 (u32ToBeBytes 0x07070707) := by
  decide +kernel

theorem resolveClientIp_const_iff_exampleProxies :
    (∀ raw' left', raw'.splitOn ',' = left' ++ " 198.51.100.2:443".toList :: [" 10.0.0.9".toList] →
      resolveClientIp (.v4 (u32ToBeBytes 0x0A000001)) exampleProxies (some raw') =
        resolveClientIp (.v4 (u32ToBeBytes 0x0A000001)) exampleProxies
          (some "6.6.6.6, 198.51.100.2:443, 10.0.0.9".toList)) ↔
      (parseForwardedToken " 198.51.100.2:443".toList).isSome := by
  have htokens : "6.6.6.6, 198.51.100.2:443, 10.0.0.9".toList.splitOn ',' =
      ["6.6.6.6".toList] ++ " 198.51.100.2:443".toList :: [" 10.0.0.9".toList] := by
    decide +kernel
  exact resolveClientIp_const_iff (by decide +kernel) htokens (by decide +kernel)
    (by decide +kernel)

end Tokens

/-! ### A header of several lines -/

section Lines

variable {peer : Option IpAddr} {name : List Char} {lines : List HeaderLine}
  {first later : List IpAddr} {header : Option (List Char)}

/-- The values of all lines with this name. -/
def matchingValues (name : List Char) (lines : List HeaderLine) : List (Option (List Char)) :=
  (lines.filter fun line => line.name.any (eqIgnoreAsciiCase · name)).map (·.value)

/-- The values as one comma-joined list; it is UTF-8 when each of them is. -/
def joinedValue (values : List (Option (List Char))) : Option (List Char) :=
  (values.mapM id).map ([','].intercalate ·)

/-- The address behind trusted proxies when the lines of the header are one list. -/
def effectiveIpOfJoined (peer : Option IpAddr) (lines : List HeaderLine)
    (trusted : List TrustedCidr) (header : Option (List Char)) : Option IpAddr :=
  peer.map fun socketIp => canonicalizeIp (resolveClientIp (canonicalizeIp socketIp) trusted
    (joinedValue (matchingValues (header.getD defaultRealIpHeader) lines)))

/-- The later lines change nothing. Their last untrusted address, if any, is that of the first
line too; and if the first line has no address, they have none to offer but the peer's own. When
a later value is not UTF-8, the list is unparsable and the peer must be what the first line
resolves to. -/
def FirstLineDecides (socketIp : IpAddr) (trusted : List TrustedCidr) :
    List (Option (List Char)) → Prop
  | [] | none :: _ => True
  | some value :: rest =>
    let first := parseForwardedChain value
    match rest.mapM id with
    | some values =>
      let later := values.flatMap parseForwardedChain
      (∀ ip ∈ firstUntrusted trusted later, firstUntrusted trusted first = some ip) ∧
        (first = [] → ∀ ip ∈ later.head?, ip = socketIp)
    | none => firstUntrusted trusted first = none ∧ ∀ ip ∈ first.head?, ip = socketIp

/-- The source reads the first line only. -/
theorem headerValueCi_eq_head? :
    headerValueCi name lines = (matchingValues name lines).head?.join := by
  induction lines with
  | nil => rfl
  | cons line lines ih =>
    rw [headerValueCi, matchingValues, List.filter_cons]
    cases line.name with
    | none => exact ih
    | some key =>
      rw [Option.any_some]
      dsimp only
      split
      · rfl
      · exact ih

/-- What a chain of trusted proxies resolves to is trusted. -/
theorem peerInTrustedList_resolveChain (hpeer : peerInTrustedList socketIp trusted = true)
    (h : firstUntrusted trusted first = none) :
    peerInTrustedList (resolveChain socketIp trusted first) trusted = true := by
  rw [resolveChain, h, Option.getD_none]
  cases first with
  | nil => exact hpeer
  | cons ip first => exact firstUntrusted_eq_none_iff.mp h ip List.mem_cons_self

/-- **When later addresses change nothing.** -/
theorem resolveChain_eq_append_iff (hpeer : peerInTrustedList socketIp trusted = true) :
    resolveChain socketIp trusted first = resolveChain socketIp trusted (first ++ later) ↔
      (∀ ip ∈ firstUntrusted trusted later, firstUntrusted trusted first = some ip) ∧
        (first = [] → ∀ ip ∈ later.head?, ip = socketIp) := by
  have happend := firstUntrusted_append trusted first later
  cases hlater : firstUntrusted trusted later with
  | some ip =>
    rw [hlater, Option.some_or] at happend
    have hip := peerInTrustedList_of_firstUntrusted hlater
    simp only [Option.mem_some_iff, forall_eq']
    rw [resolveChain.eq_def socketIp trusted (first ++ later), happend, Option.getD_some]
    cases hfirst : firstUntrusted trusted first with
    | some ip' =>
      have hne : first ≠ [] := by
        rintro rfl
        exact absurd hfirst (by simp [firstUntrusted])
      rw [resolveChain, hfirst, Option.getD_some, Option.some.injEq]
      exact (and_iff_left fun hnil => absurd hnil hne).symm
    | none =>
      -- the first part ends at a trusted address, the whole list at an untrusted one
      refine iff_of_false (fun heq => ?_) (by simp)
      have htrusted := peerInTrustedList_resolveChain hpeer hfirst
      rw [heq, hip] at htrusted
      exact absurd htrusted (by simp)
  | none =>
    rw [hlater, Option.none_or] at happend
    rw [resolveChain, resolveChain, happend]
    cases first with
    | nil =>
      cases later with
      | nil => simp
      | cons ip later =>
        simp [firstUntrusted, eq_comm]
    | cons ip first => simp

theorem resolveChain_eq_socketIp_iff (hpeer : peerInTrustedList socketIp trusted = true) :
    resolveChain socketIp trusted first = socketIp ↔
      firstUntrusted trusted first = none ∧ ∀ ip ∈ first.head?, ip = socketIp := by
  rw [resolveChain]
  cases hfirst : firstUntrusted trusted first with
  | some ip =>
    refine iff_of_false (fun heq => ?_) (by simp)
    have hip := peerInTrustedList_of_firstUntrusted hfirst
    rw [Option.getD_some] at heq
    rw [heq, hpeer] at hip
    exact absurd hip (by simp)
  | none =>
    cases first with
    | nil => simp
    | cons ip first => simp

/-- The chain of the joined value. -/
theorem chain_joinedValue_cons (value : List Char) (rest : List (Option (List Char))) :
    ((joinedValue (some value :: rest)).map parseForwardedChain).getD [] =
      match rest.mapM id with
      | some values => parseForwardedChain value ++ values.flatMap parseForwardedChain
      | none => [] := by
  rw [joinedValue, List.mapM_cons]
  cases rest.mapM id with
  | none => rfl
  | some values => exact parseForwardedChain_intercalate (value :: values)

/-- Behind a trusted proxy, one line and the joined list resolve to the same address when the
first line decides. -/
theorem resolveClientIp_head_eq_joined_iff (hpeer : peerInTrustedList socketIp trusted = true)
    (values : List (Option (List Char))) :
    resolveClientIp socketIp trusted values.head?.join =
        resolveClientIp socketIp trusted (joinedValue values) ↔
      FirstLineDecides socketIp trusted values := by
  rw [resolveClientIp_of_trusted hpeer, resolveClientIp_of_trusted hpeer, FirstLineDecides.eq_def]
  split
  · exact iff_of_true (by simp [joinedValue]) trivial
  · next rest =>
    refine iff_of_true ?_ trivial
    rw [joinedValue, List.mapM_cons]
    rfl
  · next value rest =>
    rw [chain_joinedValue_cons]
    dsimp only [List.head?_cons, Option.join_some, Option.map_some, Option.getD_some]
    cases rest.mapM id with
    | some values => exact resolveChain_eq_append_iff hpeer
    | none => exact resolveChain_eq_socketIp_iff hpeer

/-- Behind a trusted proxy the result is canonical. -/
theorem canonicalizeIp_resolveClientIp (socketIp : IpAddr) (value : Option (List Char)) :
    canonicalizeIp (resolveClientIp (canonicalizeIp socketIp) trusted value) =
      resolveClientIp (canonicalizeIp socketIp) trusted value := by
  cases hpeer : peerInTrustedList (canonicalizeIp socketIp) trusted with
  | false =>
    rw [resolveClientIp_of_untrusted hpeer]
    exact canonicalizeIp_idem socketIp
  | true =>
    rw [resolveClientIp_of_trusted hpeer, resolveChain]
    have hchain : ∀ ip ∈ (value.map parseForwardedChain).getD [], canonicalizeIp ip = ip := by
      cases value with
      | none => simp
      | some raw => exact fun ip => canonicalizeIp_of_mem_parseForwardedChain
    generalize (value.map parseForwardedChain).getD [] = chain at hchain
    cases hfirst : firstUntrusted trusted chain with
    | some ip => exact hchain ip (List.mem_reverse.mp (List.mem_of_find?_eq_some hfirst))
    | none =>
      cases chain with
      | nil => exact canonicalizeIp_idem socketIp
      | cons ip chain => exact hchain ip List.mem_cons_self

/-- **A header of several lines** is read as one list exactly when the peer is no trusted proxy
or the first line decides. -/
theorem getEffectiveClientIp_eq_joined_iff :
    getEffectiveClientIp peer lines trusted header =
        effectiveIpOfJoined peer lines trusted header ↔
      ∀ socketIp ∈ peer, peerInTrustedList (canonicalizeIp socketIp) trusted = true →
        FirstLineDecides (canonicalizeIp socketIp) trusted
          (matchingValues (header.getD defaultRealIpHeader) lines) := by
  cases peer with
  | none => exact iff_of_true rfl (by simp)
  | some socketIp =>
    simp only [Option.mem_some_iff, forall_eq']
    rw [effectiveIpOfJoined, Option.map_some, getEffectiveClientIp, Option.bind_eq_bind,
      Option.bind_some, Option.some.injEq, headerValueCi_eq_head?, canonicalizeIp_resolveClientIp,
      canonicalizeIp_resolveClientIp]
    cases hpeer : peerInTrustedList (canonicalizeIp socketIp) trusted with
    | false =>
      rw [resolveClientIp_of_untrusted hpeer, resolveClientIp_of_untrusted hpeer]
      exact iff_of_true rfl (by simp)
    | true =>
      rw [resolveClientIp_head_eq_joined_iff hpeer]
      exact ⟨fun h _ => h, fun h => h rfl⟩

/-- **The client chooses its address** when a trusted proxy appends a line of its own. -/
theorem client_line_decides :
    let own : HeaderLine := ⟨some "x-forwarded-for".toList, some "6.6.6.6".toList⟩
    let proxy : HeaderLine := ⟨some "X-Forwarded-For".toList, some "198.51.100.2".toList⟩
    getEffectiveClientIp (some (.v4 (u32ToBeBytes 0x0A000001))) [own, proxy] exampleProxies none =
        some (.v4 (u32ToBeBytes 0x06060606)) ∧
      effectiveIpOfJoined (some (.v4 (u32ToBeBytes 0x0A000001))) [own, proxy] exampleProxies none =
        some (.v4 (u32ToBeBytes 0xC6336402)) ∧
      getEffectiveClientIp (some (.v4 (u32ToBeBytes 0x0A000001))) [own, proxy] exampleProxies none ≠
        effectiveIpOfJoined (some (.v4 (u32ToBeBytes 0x0A000001))) [own, proxy] exampleProxies
          none := by
  decide +kernel

end Lines

end CrowdSecBouncer

import CrowdSecBouncer.Net.RealIp

/-!
# Addresses in forwarded lists

The forms in which proxies write an address into a list: alone, in brackets, with a zone, with a
port. `parseForwardedToken` tries the brackets first, then an address up to a zone, then an IPv4
address up to a port; every form is recognised by its own branch
(`parseForwardedToken_of_isForwardedToken`), so that a list of written addresses is read as the
list of the addresses (`parseForwardedChain_of_forall₂`).
-/

namespace CrowdSecBouncer

open Text

/-- The text of a zone: no separator of lists, brackets or zones. -/
structure IsZoneText (zone : List Char) : Prop where
  noComma : ',' ∉ zone
  noBracket : ']' ∉ zone
  noPercent : '%' ∉ zone

/-- The forms of an address in a list, without white space around them. The address itself is
any text that the address parser reads as it. -/
inductive AddressForm : IpAddr → List Char → Prop
  | bare {a : IpAddr} {text : List Char} (h : parseIpAddr text = some a) : AddressForm a text
  | zoned {a : IpAddr} {text zone : List Char} (h : parseIpAddr text = some a)
      (hzone : IsZoneText zone) : AddressForm a (text ++ '%' :: zone)
  | bracketed {a : IpAddr} {text : List Char} (h : parseIpAddr text = some a) :
      AddressForm a ('[' :: (text ++ [']']))
  | bracketedZoned {a : IpAddr} {text zone : List Char} (h : parseIpAddr text = some a)
      (hzone : IsZoneText zone) : AddressForm a ('[' :: (text ++ '%' :: (zone ++ [']'])))
  | ipv6Port {o : Vector UInt8 16} {text port : List Char} (h : parseIpAddr text = some (.v6 o))
      (hport : ∀ c ∈ port, c.isDigit = true) :
      AddressForm (.v6 o) ('[' :: (text ++ ']' :: ':' :: port))
  | ipv4Port {o : Vector UInt8 4} {text port : List Char} (h : parseIpAddr text = some (.v4 o))
      (hport : ∀ c ∈ port, c.isDigit = true) : AddressForm (.v4 o) (text ++ ':' :: port)

/-- One of the forms, with any white space around it. -/
def IsForwardedToken (a : IpAddr) (tok : List Char) : Prop :=
  ∃ before form after, tok = before ++ (form ++ after) ∧ AddressForm a form ∧
    (∀ c ∈ before, isWhitespace c = true) ∧ ∀ c ∈ after, isWhitespace c = true

variable {a : IpAddr} {text form tok zone : List Char}

/-! ### The characters of an address -/

theorem ne_nil_of_parseIpAddr (h : parseIpAddr text = some a) : text ≠ [] := by
  have hnil : parseIpAddr [] = none := by decide +kernel
  rintro rfl
  exact absurd (hnil.symm.trans h) (by simp)

/-- A character that no address has. -/
theorem notMem_of_parseIpAddr (h : parseIpAddr text = some a) {sep : Char}
    (hdigit : Reader.toDigit 16 sep = none) (hcolon : sep ≠ ':') (hdot : sep ≠ '.') :
    sep ∉ text := by
  intro hmem
  rcases isAddrChar_of_parseIpAddr h sep hmem with hsep | hsep | hsep
  · exact absurd hsep (by simp [hdigit])
  · exact hcolon hsep
  · exact hdot hsep

theorem percent_notMem_of_parseIpAddr (h : parseIpAddr text = some a) : '%' ∉ text :=
  notMem_of_parseIpAddr h (by decide) (by decide) (by decide)

theorem bracket_notMem_of_parseIpAddr (h : parseIpAddr text = some a) : ']' ∉ text :=
  notMem_of_parseIpAddr h (by decide) (by decide) (by decide)

/-- A text with visible characters at its ends. -/
theorem isTrimmed_of_forall_isGraphic {cs : List Char} (hhead : ∀ c ∈ cs.head?, IsGraphic c)
    (hlast : ∀ c ∈ cs.getLast?, IsGraphic c) : IsTrimmed cs :=
  ⟨fun c hc => (hhead c hc).isWhitespace, fun c hc => (hlast c hc).isWhitespace⟩

theorem getLast?_isGraphic_append {rest : List Char} (hne : rest ≠ [])
    (h : ∀ c ∈ rest, IsGraphic c) (front : List Char) :
    ∀ c ∈ (front ++ rest).getLast?, IsGraphic c := by
  intro c hc
  rw [List.getLast?_append_of_ne_nil _ hne] at hc
  exact h c (List.mem_of_mem_getLast? hc)

theorem head?_isGraphic_of_parseIpAddr (h : parseIpAddr text = some a) (rest : List Char) :
    ∀ c ∈ (text ++ rest).head?, IsGraphic c := by
  intro c hc
  rw [List.head?_append_of_ne_nil _ (ne_nil_of_parseIpAddr h)] at hc
  exact isGraphic_of_parseIpAddr h c (List.mem_of_mem_head? hc)

theorem takeWhile_percent_of_notMem {cs : List Char} (h : '%' ∉ cs) :
    cs.takeWhile (· ≠ '%') = cs := by
  refine List.takeWhile_eq_self_iff.mpr fun c hc => ?_
  exact decide_eq_true fun heq => h (heq ▸ hc)

theorem takeWhile_percent (h : parseIpAddr text = some a) : text.takeWhile (· ≠ '%') = text :=
  takeWhile_percent_of_notMem (percent_notMem_of_parseIpAddr h)

theorem takeWhile_percent_append (h : parseIpAddr text = some a) (rest : List Char) :
    (text ++ '%' :: rest).takeWhile (· ≠ '%') = text := by
  rw [List.takeWhile_append, if_pos (by rw [takeWhile_percent h]),
    List.takeWhile_cons_of_neg (by simp), List.append_nil]

theorem isGraphic_of_mem_port {port : List Char} (hport : ∀ c ∈ port, c.isDigit = true) :
    ∀ c ∈ ':' :: port, IsGraphic c :=
  List.forall_mem_cons.mpr
    ⟨⟨by decide, by decide⟩, fun c hc => isGraphic_of_isDigit (hport c hc)⟩

/-! ### One branch for every form -/

/-- A bracket at the front decides for the text up to the closing bracket. -/
theorem parseForwardedToken_of_bracket {inner rest : List Char}
    (htrim : trim tok = '[' :: (inner ++ ']' :: rest)) (hinner : ']' ∉ inner) :
    parseForwardedToken tok = (parseIpAddr (inner.takeWhile (· ≠ '%'))).map canonicalizeIp := by
  rw [parseForwardedToken, htrim]
  simp only [splitOnce_append hinner, bind, Option.bind_some]

/-- An address up to a zone or the end is the address. -/
theorem parseForwardedToken_of_address {rest : List Char} (htrim : trim tok = text ++ rest)
    (htake : (text ++ rest).takeWhile (· ≠ '%') = text) (h : parseIpAddr text = some a) :
    parseForwardedToken tok = some (canonicalizeIp a) := by
  have hbracket : '[' ∉ text := notMem_of_parseIpAddr h (by decide) (by decide) (by decide)
  obtain ⟨c, cs, rfl⟩ := List.exists_cons_of_ne_nil (ne_nil_of_parseIpAddr h)
  rw [parseForwardedToken, htrim]
  split
  · next heq => exact absurd heq (by simp)
  · next heq => exact absurd (List.mem_cons.mpr (.inl (List.cons.inj heq).1.symm)) hbracket
  · simp only [htake, h]

/-- An IPv4 address before a port is found when the whole is no address. -/
theorem parseForwardedToken_of_ipv4Port {o : Vector UInt8 4} {port : List Char}
    (htrim : trim tok = text ++ ':' :: port) (h : parseIpAddr text = some (.v4 o))
    (hport : ∀ c ∈ port, c.isDigit = true) :
    parseForwardedToken tok = some (canonicalizeIp (.v4 o)) := by
  have hbracket : '[' ∉ text := notMem_of_parseIpAddr h (by decide) (by decide) (by decide)
  have hpercent : '%' ∉ text ++ ':' :: port := by
    intro hmem
    rcases List.mem_append.mp hmem with hmem | hmem
    · exact percent_notMem_of_parseIpAddr h hmem
    · rcases List.mem_cons.mp hmem with hmem | hmem
      · exact absurd hmem (by decide)
      · exact absurd (hport '%' hmem) (by decide)
  have htake := takeWhile_percent_of_notMem hpercent
  have hnone := parseIpAddr_append_colon h port
  have hsplit : rsplitOnce ':' (text ++ ':' :: port) = some (text, port) := by
    refine rsplitOnce_append fun hmem => ?_
    exact absurd (hport ':' hmem) (by decide)
  obtain ⟨c, cs, rfl⟩ := List.exists_cons_of_ne_nil (ne_nil_of_parseIpAddr h)
  rw [parseForwardedToken, htrim]
  split
  · next heq => exact absurd heq (by simp)
  · next heq => exact absurd (List.mem_cons.mpr (.inl (List.cons.inj heq).1.symm)) hbracket
  · simp only [htake, hnone, hsplit, bind, Option.bind_some]
    rw [if_pos, h]
    · rfl
    · have hcolon := colon_notMem_of_parseIpAddr h
      simp only [List.mem_cons, not_or] at hcolon
      simpa using ⟨hcolon, hport⟩

/-- **Every form of an address is read as the address**, whatever white space is around it. -/
theorem parseForwardedToken_of_isForwardedToken (h : IsForwardedToken a tok) :
    parseForwardedToken tok = some (canonicalizeIp a) := by
  obtain ⟨before, form, after, rfl, hform, hbefore, hafter⟩ := h
  have htrim (cs : List Char) (hhead : ∀ c ∈ cs.head?, IsGraphic c)
      (hlast : ∀ c ∈ cs.getLast?, IsGraphic c) : trim (before ++ (cs ++ after)) = cs :=
    trim_append_append hbefore hafter (isTrimmed_of_forall_isGraphic hhead hlast)
  have hopen (cs : List Char) : ∀ c ∈ ('[' :: cs).head?, IsGraphic c := by
    intro c hc
    obtain rfl : '[' = c := by simpa using hc
    exact ⟨by decide, by decide⟩
  have hclose : ∀ c ∈ [']'], IsGraphic c := by
    intro c hc
    obtain rfl := List.mem_singleton.mp hc
    exact ⟨by decide, by decide⟩
  cases hform with
  | bare h =>
    have htext : trim (before ++ (form ++ after)) = form ++ [] := by
      rw [List.append_nil]
      refine htrim form ?_ fun c hc => isGraphic_of_parseIpAddr h c (List.mem_of_mem_getLast? hc)
      exact fun c hc => isGraphic_of_parseIpAddr h c (List.mem_of_mem_head? hc)
    refine parseForwardedToken_of_address htext ?_ h
    rw [List.append_nil, takeWhile_percent h]
  | @zoned a text zone h hzone =>
    -- white space at the end of the zone is trimmed with the white space after it
    have hfront : IsTrimmed (text ++ ['%']) := by
      refine isTrimmed_of_forall_isGraphic (head?_isGraphic_of_parseIpAddr h ['%'])
        (getLast?_isGraphic_append (by simp) (fun c hc => ?_) text)
      obtain rfl := List.mem_singleton.mp hc
      exact ⟨by decide, by decide⟩
    obtain ⟨tail, htail⟩ := trim_append_front hbefore hfront (by simp) (zone ++ after)
    have htext : trim (before ++ ((text ++ '%' :: zone) ++ after)) = text ++ '%' :: tail := by
      simpa using htail
    exact parseForwardedToken_of_address htext (takeWhile_percent_append h tail) h
  | @bracketed a text h =>
    have htext := htrim ('[' :: (text ++ [']'])) (hopen _)
      (getLast?_isGraphic_append (by simp) hclose ('[' :: text))
    rw [parseForwardedToken_of_bracket htext (bracket_notMem_of_parseIpAddr h),
      takeWhile_percent h, h, Option.map_some]
  | @bracketedZoned a text zone h hzone =>
    have hcons : '[' :: (text ++ '%' :: (zone ++ [']'])) =
        '[' :: ((text ++ '%' :: zone) ++ [']']) := by simp
    have hinner : ']' ∉ text ++ '%' :: zone := by
      intro hmem
      rcases List.mem_append.mp hmem with hmem | hmem
      · exact bracket_notMem_of_parseIpAddr h hmem
      · rcases List.mem_cons.mp hmem with hmem | hmem
        · exact absurd hmem (by decide)
        · exact hzone.noBracket hmem
    rw [hcons]
    have htext := htrim ('[' :: ((text ++ '%' :: zone) ++ [']'])) (hopen _)
      (getLast?_isGraphic_append (by simp) hclose ('[' :: (text ++ '%' :: zone)))
    rw [parseForwardedToken_of_bracket htext hinner, takeWhile_percent_append h, h,
      Option.map_some]
  | @ipv6Port o text port h hport =>
    have htext := htrim ('[' :: (text ++ ']' :: ':' :: port)) (hopen _) (by
      have hport' : ∀ c ∈ ']' :: ':' :: port, IsGraphic c :=
        List.forall_mem_cons.mpr ⟨hclose _ (by simp), isGraphic_of_mem_port hport⟩
      exact getLast?_isGraphic_append (by simp) hport' ('[' :: text))
    rw [parseForwardedToken_of_bracket htext (bracket_notMem_of_parseIpAddr h),
      takeWhile_percent h, h, Option.map_some]
  | @ipv4Port o text port h hport =>
    have htext := htrim (text ++ ':' :: port) (head?_isGraphic_of_parseIpAddr h _)
      (getLast?_isGraphic_append (by simp) (isGraphic_of_mem_port hport) text)
    exact parseForwardedToken_of_ipv4Port htext h hport

/-! ### Lists -/

theorem comma_notMem_of_isForwardedToken (h : IsForwardedToken a tok) : ',' ∉ tok := by
  obtain ⟨before, form, after, rfl, hform, hbefore, hafter⟩ := h
  have hspace (ws : List Char) (hws : ∀ c ∈ ws, isWhitespace c = true) : ',' ∉ ws :=
    fun hmem => absurd (hws ',' hmem) (by decide)
  have haddr {a : IpAddr} {text : List Char} (h : parseIpAddr text = some a) : ',' ∉ text :=
    notMem_of_parseIpAddr h (by decide) (by decide) (by decide)
  have hdigits {port : List Char} (hport : ∀ c ∈ port, c.isDigit = true) : ',' ∉ port :=
    fun hmem => absurd (hport ',' hmem) (by decide)
  have hform' : ',' ∉ form := by
    cases hform with
    | bare h => exact haddr h
    | zoned h hzone => simp [haddr h, hzone.noComma]
    | bracketed h => simp [haddr h]
    | bracketedZoned h hzone => simp [haddr h, hzone.noComma]
    | ipv6Port h hport => simp [haddr h, hdigits hport]
    | ipv4Port h hport => simp [haddr h, hdigits hport]
  simp [hspace before hbefore, hspace after hafter, hform']

/-- **A list of written addresses is read as the addresses**, in their order and in canonical
form, whichever form each of them has. -/
theorem parseForwardedChain_of_forall₂ {addrs : List IpAddr} {toks : List (List Char)}
    (h : List.Forall₂ IsForwardedToken addrs toks) :
    parseForwardedChain ([','].intercalate toks) = addrs.map canonicalizeIp := by
  rw [parseForwardedChain_intercalate]
  induction h with
  | nil => rfl
  | @cons a tok addrs toks htok _ ih =>
    have hchain : parseForwardedChain tok = [canonicalizeIp a] := by
      rw [parseForwardedChain, List.splitOn_eq_singleton (comma_notMem_of_isForwardedToken htok),
        List.filterMap_cons, parseForwardedToken_of_isForwardedToken htok]
      rfl
    rw [List.flatMap_cons, hchain, ih]
    rfl

theorem parseForwardedChain_of_forall₂_written :
    parseForwardedChain ([','].intercalate
        ["192.0.2.1:80".toList, " fe80::1%eth0 ".toList, "[::ffff:c000:20a]:443".toList]) =
      [.v4 #v[192, 0, 2, 1], .v6 #v[0xfe, 0x80, 0, 0, 0, 0, 0, 0, 0, 0, 0, 0, 0, 0, 0, 1],
        .v6 #v[0, 0, 0, 0, 0, 0, 0, 0, 0, 0, 0xff, 0xff, 192, 0, 2, 10]].map canonicalizeIp := by
  have hport : IsForwardedToken (.v4 #v[192, 0, 2, 1]) "192.0.2.1:80".toList :=
    ⟨[], _, [], rfl, @AddressForm.ipv4Port _ "192.0.2.1".toList "80".toList (by decide +kernel)
      (List.all_eq_true.mp (by decide)), by simp, by simp⟩
  have hzone : IsForwardedToken (.v6 #v[0xfe, 0x80, 0, 0, 0, 0, 0, 0, 0, 0, 0, 0, 0, 0, 0, 1])
      " fe80::1%eth0 ".toList :=
    ⟨[' '], _, [' '], rfl, @AddressForm.zoned _ "fe80::1".toList "eth0".toList (by decide +kernel)
      ⟨by decide, by decide, by decide⟩, List.all_eq_true.mp (by decide),
      List.all_eq_true.mp (by decide)⟩
  have hbracket : IsForwardedToken
      (.v6 #v[0, 0, 0, 0, 0, 0, 0, 0, 0, 0, 0xff, 0xff, 192, 0, 2, 10])
      "[::ffff:c000:20a]:443".toList :=
    ⟨[], _, [], rfl, @AddressForm.ipv6Port _ "::ffff:c000:20a".toList "443".toList
      (by decide +kernel) (List.all_eq_true.mp (by decide)), by simp, by simp⟩
  exact parseForwardedChain_of_forall₂ (.cons hport (.cons hzone (.cons hbracket .nil)))

end CrowdSecBouncer

import CrowdSecBouncer.Foundations.Text
import CrowdSecBouncer.Net.Address

/-!
# Addresses as texts

The address parser of the standard library: dotted IPv4, and IPv6 groups with one `::` and an
optional trailing IPv4 part. A text that starts with an IPv4 address is no IPv6 address, so
that trying IPv4 first loses nothing (`parseIpAddr_of_v6`); and an address text has
hexadecimal digits, dots and colons only (`isAddrChar_of_parseIpAddr`), so that trimming does
not change it and no separator of another format occurs in it.
-/

namespace CrowdSecBouncer

open Text Text.Reader

/-- A decimal octet without leading zeros. -/
def readOctet : Reader ℕ := readNumber 10 3 false 255

def readIpv4Addr : Reader (Vector UInt8 4) :=
  andThen readOctet fun a => andThen (readChar '.') fun _ =>
  andThen readOctet fun b => andThen (readChar '.') fun _ =>
  andThen readOctet fun c => andThen (readChar '.') fun _ =>
  andThen readOctet fun d =>
    succeed #v[UInt8.ofNat a, UInt8.ofNat b, UInt8.ofNat c, UInt8.ofNat d]

/-- Every element but the first one comes after a separator. -/
def readSeparator {α : Type} (sep : Char) (index : ℕ) (inner : Reader α) : Reader α :=
  if 0 < index then andThen (readChar sep) fun _ => inner else inner

/-- The two groups that an embedded IPv4 address stands for. -/
def ipv4Groups (v4 : Vector UInt8 4) : List ℕ :=
  (List.range 2).map fun i =>
    (v4.toList.getD (2 * i) 0).toNat * 256 + (v4.toList.getD (2 * i + 1) 0).toNat

/-- A chunk of an IPv6 address from group number `index` on, with room for `left` groups: the
groups, whether they end in an embedded IPv4 address, and the rest of the text. -/
def readGroups (index : ℕ) : (left : ℕ) → List Char → List ℕ × Bool × List Char
  | 0, cs => ([], false, cs)
  | left + 1, cs =>
    -- an embedded IPv4 address needs two groups
    match if 0 < left then readSeparator ':' index readIpv4Addr cs else none with
    | some (v4, cs) => (ipv4Groups v4, true, cs)
    | none =>
      match readSeparator ':' index (readNumber 16 4 true 65535) cs with
      | some (group, cs) =>
        let (groups, ipv4, cs) := readGroups (index + 1) left cs
        (group :: groups, ipv4, cs)
      | none => ([], false, cs)

/-- The octets of eight groups. -/
def groupOctets (groups : List ℕ) : Vector UInt8 16 :=
  let octets := groups.flatMap fun g => [UInt8.ofNat (g / 256), UInt8.ofNat (g % 256)]
  Vector.ofFn fun i => octets.getD i 0

def readIpv6Addr : Reader (Vector UInt8 16) := fun cs =>
  match readGroups 0 8 cs with
  | (head, headIpv4, cs) =>
    if head.length = 8 then some (groupOctets head, cs)
    -- an IPv4 part is not allowed before `::`
    else if headIpv4 then none
    else
      (andThen (readChar ':') fun _ => readChar ':') cs |>.map fun (_, cs) =>
        -- the `::` stands for at least one group
        match readGroups 0 (8 - (head.length + 1)) cs with
        | (tail, _, cs) =>
          let zeros := List.replicate (8 - head.length - tail.length) 0
          (groupOctets (head ++ zeros ++ tail), cs)

def readIpAddr : Reader IpAddr := fun cs =>
  ((readIpv4Addr cs).map fun (v4, cs) => (.v4 v4, cs)).or
    ((readIpv6Addr cs).map fun (v6, cs) => (.v6 v6, cs))

/-- `str::parse::<Ipv4Addr>`: a long text is not looked at. -/
def parseIpv4Addr (cs : List Char) : Option (Vector UInt8 4) :=
  if 15 < cs.length then none else parse readIpv4Addr cs

/-- `str::parse::<Ipv6Addr>`. -/
def parseIpv6Addr (cs : List Char) : Option (Vector UInt8 16) := parse readIpv6Addr cs

/-- `str::parse::<IpAddr>`. -/
def parseIpAddr (cs : List Char) : Option IpAddr := parse readIpAddr cs

example : parseIpAddr "192.0.2.10".toList = some (.v4 #v[192, 0, 2, 10]) := by decide +kernel

example : parseIpAddr "::ffff:192.0.2.10".toList =
    some (.v6 #v[0, 0, 0, 0, 0, 0, 0, 0, 0, 0, 0xff, 0xff, 192, 0, 2, 10]) := by decide +kernel

example : parseIpAddr "2001:db8::1:0".toList =
    some (.v6 #v[0x20, 0x01, 0x0d, 0xb8, 0, 0, 0, 0, 0, 0, 0, 0, 0, 1, 0, 0]) := by
  decide +kernel

example : parseIpAddr "1.2.3".toList = none ∧ parseIpAddr "1.2.3.04".toList = none ∧
    parseIpAddr "1:2:3:4:5:6:7".toList = none ∧ parseIpAddr "1.2.3.4:80".toList = none := by
  decide +kernel

/-! ### What address texts look like -/

/-- A character of an address text. -/
def IsAddrChar (c : Char) : Prop := (toDigit 16 c).isSome = true ∨ c = ':' ∨ c = '.'

theorem IsAddrChar.isGraphic {c : Char} (h : IsAddrChar c) : IsGraphic c := by
  rcases h with h | rfl | rfl
  · exact isGraphic_of_toDigit h
  · exact ⟨by decide, by decide⟩
  · exact ⟨by decide, by decide⟩

variable {cs rest : List Char}

/-- What an IPv4 address takes are decimal digits and dots. -/
theorem readIpv4Addr_consumes {P : Char → Prop} (hdigit : ∀ c, (toDigit 10 c).isSome = true → P c)
    (hdot : P '.') : Consumes P readIpv4Addr := by
  have hoctet : Consumes P readOctet := .readNumber hdigit
  have hchar : Consumes P (readChar '.') := .readChar hdot
  refine hoctet.andThen fun a => hchar.andThen fun _ => ?_
  refine hoctet.andThen fun b => hchar.andThen fun _ => ?_
  refine hoctet.andThen fun c => hchar.andThen fun _ => ?_
  exact hoctet.andThen fun d => .succeed _

theorem consumes_readIpv4Addr : Consumes IsAddrChar readIpv4Addr :=
  readIpv4Addr_consumes (fun _ hc => .inl (isSome_toDigit_mono (by omega) hc)) (.inr (.inr rfl))

/-- An IPv4 address ends at the first character that is not a decimal digit after its last
octet. -/
theorem extends_readIpv4Addr :
    Extends (fun c => (toDigit 10 c).isSome = true) readIpv4Addr := by
  have hoctet : Extends (fun c => (toDigit 10 c).isSome = true) readOctet :=
    .readNumber fun _ hc => hc
  have hdot : Extends (fun c => (toDigit 10 c).isSome = true) (readChar '.') := .readChar '.'
  refine hoctet.andThen fun a => hdot.andThen fun _ => ?_
  refine hoctet.andThen fun b => hdot.andThen fun _ => ?_
  refine hoctet.andThen fun c => hdot.andThen fun _ => ?_
  exact hoctet.andThen fun d => .succeed _

theorem Consumes.readSeparator {α : Type} {inner : Reader α} {index : ℕ}
    (h : Consumes IsAddrChar inner) : Consumes IsAddrChar (readSeparator ':' index inner) := by
  rw [CrowdSecBouncer.readSeparator]
  split
  · exact (Consumes.readChar (.inr (.inl rfl))).andThen fun _ => h
  · exact h

/-- What is read of the groups are address characters. -/
theorem readGroups_taken (index left : ℕ) (cs : List Char) :
    ∃ taken, cs = taken ++ (readGroups index left cs).2.2 ∧ ∀ c ∈ taken, IsAddrChar c := by
  induction left generalizing index cs with
  | zero => exact ⟨[], rfl, by simp⟩
  | succ left ih =>
    rw [readGroups]
    split
    · next v4 rest heq =>
      have hread : readSeparator ':' index readIpv4Addr cs = some (v4, rest) := by
        rw [Option.ite_none_right_eq_some] at heq
        exact heq.2
      exact (Consumes.readSeparator consumes_readIpv4Addr) cs v4 rest hread
    · split
      · next group rest heq =>
        have hnumber : Consumes IsAddrChar (readNumber 16 4 true 65535) :=
          .readNumber fun _ => .inl
        obtain ⟨taken, rfl, htaken⟩ := (Consumes.readSeparator hnumber) cs group rest heq
        obtain ⟨taken', hrest, htaken'⟩ := ih (index + 1) rest
        refine ⟨taken ++ taken', ?_, fun c hc => ?_⟩
        · rw [List.append_assoc]
          exact congrArg _ hrest
        · rcases List.mem_append.mp hc with hc | hc
          · exact htaken c hc
          · exact htaken' c hc
      · exact ⟨[], rfl, by simp⟩

theorem consumes_readIpv6Addr : Consumes IsAddrChar readIpv6Addr := by
  intro cs v6 rest h
  obtain ⟨taken, hcs, htaken⟩ := readGroups_taken 0 8 cs
  rw [readIpv6Addr] at h
  rcases hhead : readGroups 0 8 cs with ⟨head, headIpv4, mid⟩
  rw [hhead] at h hcs
  dsimp only at h hcs
  split at h
  · obtain ⟨-, rfl⟩ := Prod.mk.inj (Option.some_injective _ h)
    exact ⟨taken, hcs, htaken⟩
  · split at h
    · exact absurd h (by simp)
    · obtain ⟨⟨u, mid'⟩, hcolons, heq⟩ := Option.map_eq_some_iff.mp h
      obtain ⟨-, rfl⟩ := Prod.mk.inj heq
      have hcolon : Consumes IsAddrChar (readChar ':') := .readChar (.inr (.inl rfl))
      obtain ⟨colons, rfl, haddr⟩ := (hcolon.andThen fun _ => hcolon) mid u mid' hcolons
      obtain ⟨taken', hmid', htaken'⟩ := readGroups_taken 0 (8 - (head.length + 1)) mid'
      refine ⟨taken ++ (colons ++ taken'), ?_, fun c hc => ?_⟩
      · rw [hcs, List.append_assoc, List.append_assoc]
        exact congrArg (fun l => taken ++ (colons ++ l)) hmid'
      · simp only [List.mem_append] at hc
        rcases hc with hc | hc | hc
        · exact htaken c hc
        · exact haddr c hc
        · exact htaken' c hc

theorem consumes_readIpAddr : Consumes IsAddrChar readIpAddr := by
  intro cs ip rest h
  rcases Option.or_eq_some_iff.mp h with h | ⟨-, h⟩
  · obtain ⟨⟨v4, rest'⟩, hread, heq⟩ := Option.map_eq_some_iff.mp h
    obtain ⟨-, rfl⟩ := Prod.mk.inj heq
    exact consumes_readIpv4Addr cs v4 rest' hread
  · obtain ⟨⟨v6, rest'⟩, hread, heq⟩ := Option.map_eq_some_iff.mp h
    obtain ⟨-, rfl⟩ := Prod.mk.inj heq
    exact consumes_readIpv6Addr cs v6 rest' hread

/-- **An address text has address characters only.** -/
theorem isAddrChar_of_parseIpAddr {ip : IpAddr} (h : parseIpAddr cs = some ip) :
    ∀ c ∈ cs, IsAddrChar c :=
  consumes_readIpAddr.forall_mem h

theorem isGraphic_of_parseIpAddr {ip : IpAddr} (h : parseIpAddr cs = some ip) :
    ∀ c ∈ cs, IsGraphic c :=
  fun c hc => (isAddrChar_of_parseIpAddr h c hc).isGraphic

/-! ### The two families -/

/-- A text that starts with an IPv4 address is no IPv6 address. -/
theorem readIpv6Addr_eq_none_of_v4 {v4 : Vector UInt8 4} (h : readIpv4Addr cs = some (v4, rest)) :
    readIpv6Addr cs = none := by
  have hgroups : readGroups 0 8 cs = (ipv4Groups v4, true, rest) := by
    rw [readGroups]
    simp [readSeparator, h]
  rw [readIpv6Addr, hgroups]
  simp [ipv4Groups]

theorem parseIpAddr_of_v4 {v4 : Vector UInt8 4} (h : parseIpv4Addr cs = some v4) :
    parseIpAddr cs = some (.v4 v4) := by
  rw [parseIpv4Addr, Option.ite_none_left_eq_some, parse_eq_some_iff] at h
  rw [parseIpAddr, parse_eq_some_iff, readIpAddr, h.2]
  rfl

theorem parseIpAddr_of_v6 {v6 : Vector UInt8 16} (h : parseIpv6Addr cs = some v6) :
    parseIpAddr cs = some (.v6 v6) := by
  rw [parseIpv6Addr, parse_eq_some_iff] at h
  have hnone : readIpv4Addr cs = none := by
    refine Option.eq_none_iff_forall_ne_some.mpr fun ⟨v4, rest⟩ h4 => ?_
    rw [readIpv6Addr_eq_none_of_v4 h4] at h
    exact absurd h (by simp)
  rw [parseIpAddr, parse_eq_some_iff, readIpAddr, hnone, h]
  rfl

/-- An IPv6 address is read by the IPv6 parser, and not by the IPv4 one. -/
theorem parseIpAddr_eq_v6 {v6 : Vector UInt8 16} (h : parseIpAddr cs = some (.v6 v6)) :
    parseIpv4Addr cs = none ∧ parseIpv6Addr cs = some v6 := by
  rw [parseIpAddr, parse_eq_some_iff] at h
  rcases Option.or_eq_some_iff.mp h with h | ⟨hnone, h⟩
  · obtain ⟨⟨v4, rest'⟩, -, heq⟩ := Option.map_eq_some_iff.mp h
    exact absurd (Prod.mk.inj heq).1 (by simp)
  · obtain ⟨⟨v6', rest'⟩, hread, heq⟩ := Option.map_eq_some_iff.mp h
    obtain ⟨hv6, rfl⟩ := Prod.mk.inj heq
    obtain rfl := IpAddr.v6.inj hv6
    refine ⟨?_, parse_eq_some_iff.mpr hread⟩
    rw [parseIpv4Addr, parse, Option.map_eq_none_iff.mp hnone]
    exact ite_self none

/-- An IPv4 address is read by the IPv4 reader. -/
theorem readIpv4Addr_of_parseIpAddr {v4 : Vector UInt8 4}
    (h : parseIpAddr cs = some (.v4 v4)) : readIpv4Addr cs = some (v4, []) := by
  rw [parseIpAddr, parse_eq_some_iff] at h
  rcases Option.or_eq_some_iff.mp h with h | ⟨-, h⟩
  · obtain ⟨⟨v4', rest'⟩, hread, heq⟩ := Option.map_eq_some_iff.mp h
    obtain ⟨hv4, rfl⟩ := Prod.mk.inj heq
    obtain rfl := IpAddr.v4.inj hv4
    exact hread
  · obtain ⟨⟨v6, rest'⟩, -, heq⟩ := Option.map_eq_some_iff.mp h
    exact absurd (Prod.mk.inj heq).1 (by simp)

/-- The text of an IPv4 address has no colon. -/
theorem colon_notMem_of_parseIpAddr {v4 : Vector UInt8 4}
    (h : parseIpAddr cs = some (.v4 v4)) : ':' ∉ cs := by
  have hconsumes : Consumes (· ≠ ':') readIpv4Addr := by
    refine readIpv4Addr_consumes (fun c hc => ?_) (by decide)
    rintro rfl
    exact absurd hc (by decide)
  intro hmem
  exact hconsumes.forall_mem (parse_eq_some_iff.mpr (readIpv4Addr_of_parseIpAddr h)) ':' hmem rfl

/-- An IPv4 address and a colon are the beginning of no address. -/
theorem parseIpAddr_append_colon {v4 : Vector UInt8 4} (h : parseIpAddr cs = some (.v4 v4))
    (rest : List Char) : parseIpAddr (cs ++ ':' :: rest) = none := by
  have hread : readIpv4Addr (cs ++ ':' :: rest) = some (v4, ':' :: rest) := by
    refine extends_readIpv4Addr cs v4 [] (':' :: rest) (readIpv4Addr_of_parseIpAddr h) ?_
    intro c hc
    obtain rfl : ':' = c := by simpa using hc
    decide
  refine Option.eq_none_iff_forall_ne_some.mpr fun ip hip => ?_
  rw [parseIpAddr, parse_eq_some_iff, readIpAddr, hread] at hip
  exact absurd (Prod.mk.inj (Option.some_injective _ hip)).2 (by simp)

/-! ### Writing addresses -/

/-- `Ipv4Addr::to_string`. -/
def showIpv4Addr (o : Vector UInt8 4) : List Char :=
  ['.'].intercalate (o.toList.map fun b => Nat.toDigits 10 b.toNat)

/-- The eight groups of an IPv6 address. -/
def ipv6Segments (o : Vector UInt8 16) : List ℕ :=
  (List.range 8).map fun i =>
    (o.toList.getD (2 * i) 0).toNat * 256 + (o.toList.getD (2 * i + 1) 0).toNat

/-- Start and length of the longest run of zero groups, the first one if there are several; the
current run starts at `start` and has the length `len`. -/
def longestZeroRun (index : ℕ) (longest : ℕ × ℕ) (start len : ℕ) : List ℕ → ℕ × ℕ
  | [] => longest
  | segment :: rest =>
    if segment = 0 then
      let start := if len = 0 then index else start
      let len := len + 1
      longestZeroRun (index + 1) (if longest.2 < len then (start, len) else longest) start len rest
    else longestZeroRun (index + 1) longest 0 0 rest

/-- Groups in lower-case hexadecimal. -/
def showSegments (segments : List ℕ) : List Char :=
  [':'].intercalate (segments.map (Nat.toDigits 16))

/-- `Ipv6Addr::to_string`: an IPv4-mapped address shows the IPv4 part, others have `::` for the
longest run of at least two zero groups. -/
def showIpv6Addr (o : Vector UInt8 16) : List Char :=
  if o.toList.take 12 = List.replicate 10 0 ++ [0xff, 0xff] then
    "::ffff:".toList ++ showIpv4Addr (o.drop 12)
  else
    let segments := ipv6Segments o
    let (start, len) := longestZeroRun 0 (0, 0) 0 0 segments
    if 1 < len then
      showSegments (segments.take start) ++ "::".toList ++
        showSegments (segments.drop (start + len))
    else showSegments segments

/-- `IpAddr::to_string`. -/
def IpAddr.toText : IpAddr → List Char
  | v4 o => showIpv4Addr o
  | v6 o => showIpv6Addr o

example : (IpAddr.v6 #v[0x20, 0x01, 0x0d, 0xb8, 0, 0, 0, 0, 0, 0, 0, 0, 0, 0, 0, 0x1f]).toText =
    "2001:db8::1f".toList := by decide +kernel

end CrowdSecBouncer

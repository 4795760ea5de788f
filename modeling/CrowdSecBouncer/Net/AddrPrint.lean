import CrowdSecBouncer.Foundations.Armour
import CrowdSecBouncer.Foundations.Hexadecimal
import CrowdSecBouncer.Net.AddrText

/-!
# Written addresses are read back

The printer of addresses against the parser. An IPv6 text is groups in hexadecimal with one `::`
for the longest run of zero groups, or none; the parser tries an IPv4 part before every group, and
what keeps it from taking one is that a group ends with a colon or with the text. So
`parseIpAddr_toText`: every address is read back from its text, which is ASCII and has at most 45
bytes (`length_utf8Bytes_toText`).
-/

namespace CrowdSecBouncer

open Text Text.Reader

/-- The text ends, or goes on with a colon. -/
def AtColon (rest : List Char) : Prop := ∀ c ∈ rest.head?, c = ':'

/-- Groups as they are written from group number `index` on: every one but the first of the
chunk has a colon in front. -/
def segmentsFrom : (index : ℕ) → List ℕ → List Char
  | _, [] => []
  | index, segment :: segments =>
    (if 0 < index then [':'] else []) ++ Nat.toDigits 16 segment ++
      segmentsFrom (index + 1) segments

/-- A run of zeros of the given start and length. -/
def IsZeroRun (segments : List ℕ) (run : ℕ × ℕ) : Prop :=
  ∃ before after, segments = before ++ List.replicate run.2 0 ++ after ∧ before.length = run.1

variable {cs rest digits : List Char} {segments : List ℕ} {index left : ℕ}

theorem AtColon.nil : AtColon [] := by simp [AtColon]

theorem AtColon.cons (cs : List Char) : AtColon (':' :: cs) := by simp [AtColon]

theorem AtColon.isSome_toDigit (h : AtColon rest) (radix : ℕ) (hradix : radix ≤ 16) :
    ∀ c ∈ rest.head?, (toDigit radix c).isSome = false := by
  intro c hc
  rw [h c hc, Bool.eq_false_iff]
  exact fun hdigit => absurd (isSome_toDigit_mono hradix hdigit) (by decide)

/-! ### IPv4 addresses -/

theorem readOctet_toDigits (b : UInt8) (hrest : ∀ c ∈ rest.head?, (toDigit 10 c).isSome = false) :
    readOctet (Nat.toDigits 10 b.toNat ++ rest) = some (b.toNat, rest) := by
  have hb := b.toNat_lt
  exact readNumber_toDigits (by decide) (by omega) (by decide) (by omega) hrest

/-- The text of an IPv4 address is four numbers and three dots. -/
theorem showIpv4Addr_cases (o : Vector UInt8 4) : ∃ a b c d : UInt8, o = #v[a, b, c, d] ∧
    showIpv4Addr o = Nat.toDigits 10 a.toNat ++ '.' :: (Nat.toDigits 10 b.toNat ++ '.' ::
      (Nat.toDigits 10 c.toNat ++ '.' :: (Nat.toDigits 10 d.toNat ++ []))) := by
  obtain ⟨a, b, c, d, rfl⟩ : ∃ a b c d, o = #v[a, b, c, d] :=
    ⟨o[0], o[1], o[2], o[3], Vector.ext fun i hi => by interval_cases i <;> rfl⟩
  exact ⟨a, b, c, d, rfl, by simp [showIpv4Addr, List.intercalate]⟩

theorem readIpv4Addr_showIpv4Addr (o : Vector UInt8 4) :
    readIpv4Addr (showIpv4Addr o) = some (o, []) := by
  obtain ⟨a, b, c, d, rfl, htext⟩ := showIpv4Addr_cases o
  have hdot (rest : List Char) : ∀ c ∈ ('.' :: rest).head?, (toDigit 10 c).isSome = false := by
    simp [show toDigit 10 '.' = none by decide]
  have hend : ∀ c ∈ ([] : List Char).head?, (toDigit 10 c).isSome = false := by simp
  have hchar (rest : List Char) : readChar '.' ('.' :: rest) = some ((), rest) := rfl
  rw [htext, readIpv4Addr]
  simp only [andThen, readOctet_toDigits _ (hdot _), hchar, Option.bind_some,
    readOctet_toDigits d hend, succeed, UInt8.ofNat_toNat]

/-- Digits that end with a colon, or with the text, are no IPv4 address. -/
theorem readIpv4Addr_eq_none (digits : List Char)
    (hdigits : ∀ c ∈ digits, (toDigit 16 c).isSome = true) (hrest : AtColon rest) :
    readIpv4Addr (digits ++ rest) = none := by
  refine Option.eq_none_iff_forall_ne_some.mpr fun ⟨v4, after⟩ h => ?_
  obtain ⟨a, mid, hoctet, hdot⟩ := andThen_eq_some_iff.mp h
  obtain ⟨u, tail, hchar, -⟩ := andThen_eq_some_iff.mp hdot
  obtain rfl := readChar_eq_some_iff.mp hchar
  have hconsumes : Consumes (fun c => (toDigit 16 c).isSome = true) readOctet :=
    .readNumber fun c hc => isSome_toDigit_mono (by decide) hc
  obtain ⟨taken, heq, htaken⟩ := hconsumes _ _ _ hoctet
  -- the first character that is no digit is a dot on one side, and a colon or none on the other
  have hdrop := congrArg (List.dropWhile fun c => (toDigit 16 c).isSome) heq
  rw [List.dropWhile_append_of_pos hdigits, List.dropWhile_append_of_pos htaken,
    dropWhile_eq_self_of_head? (hrest.isSome_toDigit 16 le_rfl),
    List.dropWhile_cons_of_neg (by decide)] at hdrop
  exact absurd (hrest '.' (by rw [hdrop]; rfl)) (by decide)

/-! ### Groups -/

theorem readSeparator_eq {α : Type} (inner : Reader α) :
    readSeparator ':' index inner ((if 0 < index then [':'] else []) ++ cs) = inner cs := by
  rw [readSeparator]
  split
  · rfl
  · rfl

theorem AtColon.segmentsFrom (h : AtColon rest) (index : ℕ) (segments : List ℕ) :
    AtColon (segmentsFrom (index + 1) segments ++ rest) := by
  cases segments with
  | nil => exact h
  | cons segment segments => exact .cons _

/-- Written groups are read up to what follows them. -/
theorem readGroups_segmentsFrom (index left : ℕ) (hsegments : ∀ s ∈ segments, s < 65536)
    (hrest : AtColon rest) (hleft : segments.length ≤ left) :
    readGroups index left (segmentsFrom index segments ++ rest) =
      (segments ++ (readGroups (index + segments.length) (left - segments.length) rest).1,
        (readGroups (index + segments.length) (left - segments.length) rest).2) := by
  induction segments generalizing index left with
  | nil => rfl
  | cons segment segments ih =>
    obtain ⟨hsegment, htail⟩ := List.forall_mem_cons.mp hsegments
    obtain ⟨left, rfl⟩ : ∃ n, left = n + 1 :=
      ⟨left - 1, by rw [List.length_cons] at hleft; omega⟩
    have hcolon : AtColon (segmentsFrom (index + 1) segments ++ rest) :=
      hrest.segmentsFrom index segments
    have hipv4 : readIpv4Addr (Nat.toDigits 16 segment ++ (segmentsFrom (index + 1) segments ++
        rest)) = none :=
      readIpv4Addr_eq_none _ (isSome_toDigit_of_mem_toDigits (by decide)) hcolon
    have hgroup : readNumber 16 4 true 65535 (Nat.toDigits 16 segment ++
        (segmentsFrom (index + 1) segments ++ rest)) =
          some (segment, segmentsFrom (index + 1) segments ++ rest) :=
      readNumber_toDigits (by decide) (by omega) (by decide) (by omega)
        (hcolon.isSome_toDigit 16 le_rfl)
    have hrec := ih (index + 1) left htail (by simpa using hleft)
    have hindex : index + (segment :: segments).length = index + 1 + segments.length := by
      rw [List.length_cons]
      omega
    have hroom : left + 1 - (segment :: segments).length = left - segments.length := by
      rw [List.length_cons]
      omega
    rw [segmentsFrom, List.append_assoc, List.append_assoc, readGroups, readSeparator_eq, hipv4,
      ite_self, readSeparator_eq, hgroup, hindex, hroom]
    simp only [hrec, List.cons_append]

theorem readGroups_nil (index left : ℕ) : readGroups index left [] = ([], false, []) := by
  cases left with
  | zero => rfl
  | succ left =>
    have hnone (α : Type) (inner : Reader α) (h : inner [] = none) :
        readSeparator ':' index inner [] = none := by
      rw [readSeparator]
      split
      · rfl
      · exact h
    rw [readGroups, hnone _ _ rfl, ite_self, hnone _ _ rfl]

/-- Groups end before `::`. -/
theorem readGroups_colons (index left : ℕ) (cs : List Char) :
    readGroups index left (':' :: ':' :: cs) = ([], false, ':' :: ':' :: cs) := by
  cases left with
  | zero => rfl
  | succ left =>
    have hnone (α : Type) (inner : Reader α) (h : ∀ cs, inner (':' :: cs) = none) :
        readSeparator ':' index inner (':' :: ':' :: cs) = none := by
      rw [readSeparator]
      split
      · exact h cs
      · exact h (':' :: cs)
    have hipv4 (cs : List Char) : readIpv4Addr (':' :: cs) = none :=
      readIpv4Addr_eq_none [] (by simp) (.cons cs)
    have hnumber (cs : List Char) : readNumber 16 4 true 65535 (':' :: cs) = none := by
      rw [readNumber, List.takeWhile_cons_of_neg (by decide)]
      rfl
    rw [readGroups, hnone _ _ hipv4, ite_self, hnone _ _ hnumber]

theorem readGroups_showIpv4Addr {left : ℕ} (hindex : 0 < index) (hleft : 1 < left)
    (o : Vector UInt8 4) :
    readGroups index left (':' :: showIpv4Addr o) = (ipv4Groups o, true, []) := by
  obtain ⟨left, rfl⟩ : ∃ n, left = n + 2 := ⟨left - 2, by omega⟩
  have hread : readSeparator ':' index readIpv4Addr (':' :: showIpv4Addr o) = some (o, []) := by
    rw [readSeparator, if_pos hindex]
    exact readIpv4Addr_showIpv4Addr o
  rw [readGroups, if_pos (Nat.succ_pos left), hread]

theorem segmentsFrom_succ (index : ℕ) (segments : List ℕ) :
    segmentsFrom (index + 1) segments = segments.flatMap fun s => ':' :: Nat.toDigits 16 s := by
  induction segments generalizing index with
  | nil => rfl
  | cons segment segments ih =>
    rw [segmentsFrom, ih, List.flatMap_cons, if_pos (Nat.succ_pos index)]
    rfl

theorem showSegments_eq (segments : List ℕ) : showSegments segments = segmentsFrom 0 segments := by
  cases segments with
  | nil => rfl
  | cons segment segments =>
    rw [segmentsFrom, segmentsFrom_succ]
    induction segments generalizing segment with
    | nil => simp [showSegments, List.intercalate]
    | cons next segments ih =>
      have hnext := ih next
      simp only [showSegments, List.intercalate, List.map_cons, List.intersperse_cons_cons,
        List.flatten_cons] at hnext ⊢
      rw [hnext]
      simp

/-! ### IPv6 addresses -/

theorem readIpv6Addr_eight (hsegments : ∀ s ∈ segments, s < 65536) (hlen : segments.length = 8) :
    readIpv6Addr (showSegments segments) = some (groupOctets segments, []) := by
  have hread := readGroups_segmentsFrom 0 8 hsegments .nil hlen.le
  rw [readGroups_nil, List.append_nil, List.append_nil, ← showSegments_eq] at hread
  rw [readIpv6Addr, hread]
  exact if_pos hlen

/-- Groups, `::`, and what is read as the groups behind it. -/
theorem readIpv6Addr_colons (hsegments : ∀ s ∈ segments, s < 65536) (hlen : segments.length < 8)
    {tail : List ℕ} {ipv4 : Bool}
    (htail : readGroups 0 (8 - (segments.length + 1)) cs = (tail, ipv4, [])) :
    readIpv6Addr (showSegments segments ++ ':' :: ':' :: cs) =
      some (groupOctets (segments ++ List.replicate (8 - segments.length - tail.length) 0 ++ tail),
        []) := by
  have hread := readGroups_segmentsFrom 0 8 hsegments (.cons (':' :: cs)) hlen.le
  rw [readGroups_colons, List.append_nil, ← showSegments_eq] at hread
  have hcolons : (andThen (readChar ':') fun _ => readChar ':') (':' :: ':' :: cs) =
      some ((), cs) := rfl
  rw [readIpv6Addr, hread]
  simp only [if_neg hlen.ne, Bool.false_eq_true, if_false, hcolons, Option.map_some, htail]

/-! ### The longest run of zeros -/

theorem isZeroRun_append {done : List ℕ} {run : ℕ × ℕ} (h : IsZeroRun done run) (rest : List ℕ) :
    IsZeroRun (done ++ rest) run := by
  obtain ⟨before, after, rfl, hlen⟩ := h
  exact ⟨before, after ++ rest, by simp only [List.append_assoc], hlen⟩

/-- What is found is a run of zeros, from such a run of the groups so far and the run at their
end. -/
theorem isZeroRun_longestZeroRun {done : List ℕ} {longest : ℕ × ℕ} {start len : ℕ}
    (hlongest : IsZeroRun done longest)
    (hcurrent : len = 0 ∨ ∃ before, done = before ++ List.replicate len 0 ∧ before.length = start)
    (rest : List ℕ) :
    IsZeroRun (done ++ rest) (longestZeroRun done.length longest start len rest) := by
  induction rest generalizing done longest start len with
  | nil => exact isZeroRun_append hlongest []
  | cons segment rest ih =>
    have hdone : done ++ segment :: rest = (done ++ [segment]) ++ rest := by simp
    have hlength : done.length + 1 = (done ++ [segment]).length := by simp
    rw [longestZeroRun, hdone, hlength]
    split
    · next hzero =>
      subst hzero
      -- the run at the end gets longer
      obtain ⟨before, hbefore, hstart⟩ : ∃ before,
          done ++ [0] = before ++ List.replicate (len + 1) 0 ∧
            before.length = if len = 0 then done.length else start := by
        rcases Nat.eq_zero_or_pos len with rfl | hpos
        · exact ⟨done, rfl, rfl⟩
        · obtain ⟨before, rfl, hstart⟩ := hcurrent.resolve_left hpos.ne'
          refine ⟨before, ?_, by rw [if_neg hpos.ne', hstart]⟩
          rw [List.replicate_succ', List.append_assoc]
      refine ih ?_ (.inr ⟨before, hbefore, hstart⟩)
      split
      · exact ⟨before, [], by rw [List.append_nil, hbefore], hstart⟩
      · exact isZeroRun_append hlongest [0]
    · exact ih (isZeroRun_append hlongest [segment]) (.inl rfl)

/-! ### The octets of groups -/

theorem length_ipv6Segments (o : Vector UInt8 16) : (ipv6Segments o).length = 8 := rfl

theorem ipv6Segments_lt (o : Vector UInt8 16) : ∀ s ∈ ipv6Segments o, s < 65536 := by
  intro s hs
  obtain ⟨i, -, rfl⟩ := List.mem_map.mp hs
  have hhigh := (o.toList.getD (2 * i) 0).toNat_lt
  have hlow := (o.toList.getD (2 * i + 1) 0).toNat_lt
  omega

theorem groupOctets_ipv6Segments (o : Vector UInt8 16) : groupOctets (ipv6Segments o) = o := by
  have hhigh (a b : UInt8) : UInt8.ofNat ((a.toNat * 256 + b.toNat) / 256) = a := by
    have hb := b.toNat_lt
    rw [show (a.toNat * 256 + b.toNat) / 256 = a.toNat by omega, UInt8.ofNat_toNat]
  have hlow (a b : UInt8) : UInt8.ofNat ((a.toNat * 256 + b.toNat) % 256) = b := by
    have hb := b.toNat_lt
    rw [show (a.toNat * 256 + b.toNat) % 256 = b.toNat by omega, UInt8.ofNat_toNat]
  have hoctets :
      ((ipv6Segments o).flatMap fun g => [UInt8.ofNat (g / 256), UInt8.ofNat (g % 256)]) =
      (List.range 8).flatMap fun i => [o.toList.getD (2 * i) 0, o.toList.getD (2 * i + 1) 0] := by
    simp only [ipv6Segments, List.flatMap_map, hhigh, hlow]
  rw [groupOctets, hoctets]
  refine Vector.ext fun i hi => ?_
  rw [Vector.getElem_ofFn]
  interval_cases i <;> simp [List.range, List.range.loop]

/-- The groups of an IPv4-mapped address. -/
theorem ipv6Segments_mapped {o : Vector UInt8 16}
    (h : o.toList.take 12 = List.replicate 10 0 ++ [0xff, 0xff]) :
    ipv6Segments o = List.replicate 5 0 ++ (0xffff :: ipv4Groups (o.drop 12)) := by
  have hfront (i : ℕ) (hi : i < 12) :
      o.toList.getD i 0 = (List.replicate 10 (0 : UInt8) ++ [0xff, 0xff]).getD i 0 := by
    rw [← h, List.getD_eq_getElem?_getD, List.getD_eq_getElem?_getD, List.getElem?_take_of_lt hi]
  have hback (j : ℕ) : (o.drop 12).toList.getD j 0 = o.toList.getD (12 + j) 0 := by
    rw [Vector.toList_drop, List.getD_eq_getElem?_getD, List.getD_eq_getElem?_getD,
      List.getElem?_drop]
  have hzero (i : ℕ) (hi : i < 5) :
      (o.toList.getD (2 * i) 0).toNat * 256 + (o.toList.getD (2 * i + 1) 0).toNat = 0 := by
    rw [hfront _ (by omega), hfront _ (by omega)]
    interval_cases i <;> rfl
  have hfive : (o.toList.getD (2 * 5) 0).toNat * 256 + (o.toList.getD (2 * 5 + 1) 0).toNat =
      0xffff := by
    rw [hfront _ (by omega), hfront _ (by omega)]
    rfl
  have hrange : List.range 8 = List.range 5 ++ 5 :: (List.range 2).map (6 + ·) := rfl
  rw [ipv6Segments, hrange, List.map_append, List.map_cons, List.map_map, hfive]
  refine congrArg₂ (· ++ ·) ?_ (congrArg _ ?_)
  · exact List.map_eq_replicate_iff.mpr fun i hi => hzero i (List.mem_range.mp hi)
  · refine List.map_congr_left fun i _ => ?_
    rw [hback, hback, Function.comp_apply, show 2 * (6 + i) = 12 + 2 * i by omega]
    rfl

/-! ### Addresses -/

/-- Any run of at least two zeros may be left out. -/
theorem readIpv6Addr_zeroRun {run : ℕ × ℕ} (hrun : IsZeroRun segments run)
    (hsegments : ∀ s ∈ segments, s < 65536) (hlen : segments.length = 8) (hlong : 1 < run.2) :
    readIpv6Addr (showSegments (segments.take run.1) ++ "::".toList ++
      showSegments (segments.drop (run.1 + run.2))) = some (groupOctets segments, []) := by
  obtain ⟨before, after, rfl, hstart⟩ := hrun
  simp only [List.length_append, List.length_replicate] at hlen
  have hbefore : (before ++ List.replicate run.2 0 ++ after).take run.1 = before := by
    rw [List.append_assoc, List.take_left' hstart]
  have hafter : (before ++ List.replicate run.2 0 ++ after).drop (run.1 + run.2) = after :=
    List.drop_left' (by simp [hstart])
  have hzeros : 8 - before.length - after.length = run.2 := by omega
  have htail := readGroups_segmentsFrom 0 (8 - (before.length + 1))
    (fun s hs => hsegments s (List.mem_append_right _ hs)) .nil (by omega)
  rw [readGroups_nil, List.append_nil, List.append_nil, ← showSegments_eq] at htail
  have hread := readIpv6Addr_colons
    (fun s hs => hsegments s (List.mem_append_left _ (List.mem_append_left _ hs))) (by omega) htail
  rw [hzeros] at hread
  rw [hbefore, hafter, List.append_assoc]
  exact hread

theorem readIpv6Addr_showIpv6Addr (o : Vector UInt8 16) :
    readIpv6Addr (showIpv6Addr o) = some (o, []) := by
  rw [showIpv6Addr]
  split
  · next hmapped =>
    -- `::`, the group `ffff` and the IPv4 part
    have htext : "::ffff:".toList ++ showIpv4Addr (o.drop 12) = showSegments [] ++ ':' :: ':' ::
        (segmentsFrom 0 [0xffff] ++ ':' :: showIpv4Addr (o.drop 12)) := rfl
    have htail := readGroups_segmentsFrom 0 7 (show ∀ s ∈ [0xffff], s < 65536 by decide)
      (.cons (showIpv4Addr (o.drop 12))) (by decide)
    rw [readGroups_showIpv4Addr (by decide) (by decide)] at htail
    have hgroups : [] ++ List.replicate (8 - ([] : List ℕ).length -
        ([0xffff] ++ ipv4Groups (o.drop 12)).length) 0 ++ ([0xffff] ++ ipv4Groups (o.drop 12)) =
          ipv6Segments o := (ipv6Segments_mapped hmapped).symm
    have hread := readIpv6Addr_colons (show ∀ s ∈ [], s < 65536 by simp) (by decide) htail
    rw [hgroups, groupOctets_ipv6Segments] at hread
    exact hread
  · have hempty : IsZeroRun [] (0, 0) := ⟨[], [], rfl, rfl⟩
    have hrun : IsZeroRun (ipv6Segments o) (longestZeroRun 0 (0, 0) 0 0 (ipv6Segments o)) :=
      isZeroRun_longestZeroRun hempty (.inl rfl) (ipv6Segments o)
    have hlt := ipv6Segments_lt o
    have hlen := length_ipv6Segments o
    dsimp only
    split
    · next hlong =>
      rw [readIpv6Addr_zeroRun hrun hlt hlen hlong, groupOctets_ipv6Segments]
    · rw [readIpv6Addr_eight hlt hlen, groupOctets_ipv6Segments]

/-- **Every address is read back from its text.** -/
theorem parseIpAddr_toText (ip : IpAddr) : parseIpAddr ip.toText = some ip := by
  cases ip with
  | v4 o =>
    rw [parseIpAddr, parse_eq_some_iff, IpAddr.toText, readIpAddr, readIpv4Addr_showIpv4Addr]
    rfl
  | v6 o => exact parseIpAddr_of_v6 (parse_eq_some_iff.mpr (readIpv6Addr_showIpv6Addr o))

theorem IpAddr.toText_injective : Function.Injective IpAddr.toText := by
  intro ip ip' h
  have hparse := congrArg parseIpAddr h
  rw [parseIpAddr_toText, parseIpAddr_toText] at hparse
  exact Option.some_injective _ hparse

/-! ### The length of a text -/

theorem length_toDigits_octet (b : UInt8) : (Nat.toDigits 10 b.toNat).length ≤ 3 := by
  have hb := b.toNat_lt
  exact (Nat.length_toDigits_le_iff (by decide) (by decide)).mpr (by omega)

theorem length_showIpv4Addr (o : Vector UInt8 4) : (showIpv4Addr o).length ≤ 15 := by
  obtain ⟨a, b, c, d, -, htext⟩ := showIpv4Addr_cases o
  have ha := length_toDigits_octet a
  have hb := length_toDigits_octet b
  have hc := length_toDigits_octet c
  have hd := length_toDigits_octet d
  rw [htext]
  simp only [List.length_append, List.length_cons, List.length_nil]
  omega

theorem length_segmentsFrom (hsegments : ∀ s ∈ segments, s < 65536) (index : ℕ) :
    (segmentsFrom index segments).length ≤ 5 * segments.length := by
  induction segments generalizing index with
  | nil => exact Nat.le_refl 0
  | cons segment segments ih =>
    obtain ⟨hsegment, htail⟩ := List.forall_mem_cons.mp hsegments
    have hrest := ih htail (index + 1)
    have hdigits : (Nat.toDigits 16 segment).length ≤ 4 :=
      (Nat.length_toDigits_le_iff (by decide) (by decide)).mpr (by omega)
    have hcolon : (if 0 < index then [':'] else []).length ≤ 1 := by
      split
      · exact Nat.le_refl 1
      · exact Nat.zero_le 1
    rw [segmentsFrom, List.length_append, List.length_append, List.length_cons]
    omega

theorem length_showIpv6Addr (o : Vector UInt8 16) : (showIpv6Addr o).length ≤ 45 := by
  have hshow (segments : List ℕ) (h : segments.Sublist (ipv6Segments o)) :
      (showSegments segments).length ≤ 5 * segments.length := by
    rw [showSegments_eq]
    exact length_segmentsFrom (fun s hs => ipv6Segments_lt o s (h.subset hs)) 0
  rw [showIpv6Addr]
  split
  · have hv4 := length_showIpv4Addr (o.drop 12)
    rw [List.length_append, show "::ffff:".toList.length = 7 from rfl]
    omega
  · dsimp only
    split
    · next hlong =>
      have hbefore := hshow _ (List.take_sublist (longestZeroRun 0 (0, 0) 0 0 (ipv6Segments o)).1 _)
      have hafter := hshow _ (List.drop_sublist ((longestZeroRun 0 (0, 0) 0 0 (ipv6Segments o)).1 +
        (longestZeroRun 0 (0, 0) 0 0 (ipv6Segments o)).2) _)
      rw [List.length_take, length_ipv6Segments] at hbefore
      rw [List.length_drop, length_ipv6Segments] at hafter
      rw [List.length_append, List.length_append, show "::".toList.length = 2 from rfl]
      omega
    · exact (hshow _ (List.Sublist.refl _)).trans (by rw [length_ipv6Segments]; decide)

/-- **The text of an address** has at most 45 bytes. -/
theorem length_utf8Bytes_toText (ip : IpAddr) : (utf8Bytes ip.toText).length ≤ 45 := by
  have hascii : IsAscii ip.toText := fun c hc => by
    have hgraphic := isGraphic_of_parseIpAddr (parseIpAddr_toText ip) c hc
    exact Nat.lt_of_le_of_lt hgraphic.2 (by decide)
  rw [length_utf8Bytes_eq_iff.mpr hascii]
  cases ip with
  | v4 o => exact (length_showIpv4Addr o).trans (by decide)
  | v6 o => exact length_showIpv6Addr o

end CrowdSecBouncer

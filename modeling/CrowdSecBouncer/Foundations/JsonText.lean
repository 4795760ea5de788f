import CrowdSecBouncer.Foundations.Hexadecimal
import Mathlib.Algebra.Ring.Nat
import Mathlib.Data.List.Infix

/-!
# The tokens of JSON texts

A JSON text is read character by character into tokens: the six structural characters, strings,
and words, which are the literals and the numbers. The strings of JSON are sequences of UTF-16
code units, since an escape `\u` is one code unit; a text is a sequence whose surrogates come in
pairs (`ofUtf16`).

A text can have holes, which are allowed in strings and nowhere else. Where a hole is filled with
a text that is escaped for strings, what the string has there are the code units of that text and
every other token is what it was (`jsonTokens_flatMap_fill`). What strings have in them does not
matter to the rest of the reading (`Lexer.exists_run_of_sameShape`).
-/

namespace Text

/-! ### UTF-16 -/

/-- The UTF-16 code units of a character. -/
def charUnits (c : Char) : List ℕ :=
  if c.toNat < 0x10000 then [c.toNat]
  else [0xD800 + (c.toNat - 0x10000) / 0x400, 0xDC00 + (c.toNat - 0x10000) % 0x400]

/-- The UTF-16 code units of a text. -/
def utf16 (cs : List Char) : List ℕ := cs.flatMap charUnits

/-- The text of a sequence of code units, if its surrogates come in pairs. -/
def ofUtf16 : List ℕ → Option (List Char)
  | [] => some []
  | u :: us =>
    if 0xD800 ≤ u ∧ u < 0xDC00 then
      match us with
      | [] => none
      | v :: us =>
        if 0xDC00 ≤ v ∧ v < 0xE000 then
          (ofUtf16 us).map (Char.ofNat (0x10000 + (u - 0xD800) * 0x400 + (v - 0xDC00)) :: ·)
        else none
    else if 0xDC00 ≤ u ∧ u < 0xE000 then none
    else (ofUtf16 us).map (Char.ofNat u :: ·)

theorem ofUtf16_charUnits (c : Char) (us : List ℕ) :
    ofUtf16 (charUnits c ++ us) = (ofUtf16 us).map (c :: ·) := by
  have hvalid := c.valid
  have hval : c.val.toNat = c.toNat := rfl
  rw [UInt32.isValidChar, Nat.isValidChar, hval] at hvalid
  rw [charUnits]
  split
  · rw [List.singleton_append, ofUtf16.eq_def]
    simp only
    rw [if_neg (by omega), if_neg (by omega), Char.ofNat_toNat]
  · rw [List.cons_append, List.singleton_append, ofUtf16.eq_def]
    simp only
    rw [if_pos (by omega), if_pos (by omega)]
    have hcode : 0x10000 + (0xD800 + (c.toNat - 0x10000) / 0x400 - 0xD800) * 0x400 +
        (0xDC00 + (c.toNat - 0x10000) % 0x400 - 0xDC00) = c.toNat := by omega
    rw [hcode, Char.ofNat_toNat]

/-- **A text is decoded from its code units.** -/
theorem ofUtf16_utf16 (cs : List Char) : ofUtf16 (utf16 cs) = some cs := by
  induction cs with
  | nil => rfl
  | cons c cs ih =>
    rw [utf16, List.flatMap_cons, ← utf16, ofUtf16_charUnits, ih]
    rfl

theorem charUnits_of_lt {c : Char} (h : c.toNat < 0x10000) : charUnits c = [c.toNat] := if_pos h

namespace Json

/-! ### Reading -/

/-- A token, with the contents of its string in `α`. -/
inductive Token (α : Type*)
  | structural (c : Char)
  | word (text : List Char)
  | string (contents : List α)
  deriving DecidableEq, Repr

/-- Where the reading is, with what it has of a word or of a string. -/
inductive Mode (α : Type*)
  | outside (word : List Char)
  | string (contents : List α)
  | escape (contents : List α)
  /-- After `\u`, with the digits that are missing after the next one and the code so far. -/
  | hex (contents : List α) (left code : ℕ)
  deriving DecidableEq, Repr

/-- The state of the reading: its mode and the tokens so far. -/
structure Lexer (α : Type*) where
  mode : Mode α
  tokens : List (Token α)
  deriving DecidableEq, Repr

/-- The white space between tokens. -/
def isSpace (c : Char) : Bool := c = ' ' || c = '\t' || c = '\n' || c = '\r'

/-- Brackets, braces, colon and comma. -/
def isStructural (c : Char) : Bool :=
  c = '[' || c = ']' || c = '{' || c = '}' || c = ':' || c = ','

/-- The code of an escape of one letter. -/
def shortEscape (c : Char) : Option ℕ :=
  if c = '"' || c = '\\' || c = '/' then some c.toNat
  else if c = 'b' then some 0x08
  else if c = 'f' then some 0x0C
  else if c = 'n' then some 0x0A
  else if c = 'r' then some 0x0D
  else if c = 't' then some 0x09
  else none

section Reading

variable {α : Type*} (unit : ℕ → α)

/-- The word collected so far as a token, if there is any. -/
def wordToken (word : List Char) : List (Token α) := if word = [] then [] else [.word word]

/-- Contents with further code units. -/
def push (contents : List α) (us : List ℕ) : List α := contents ++ us.map unit

/-- Read one character. -/
def Lexer.step (s : Lexer α) (c : Char) : Option (Lexer α) :=
  match s.mode with
  | .outside word =>
    if isSpace c then some ⟨.outside [], s.tokens ++ wordToken word⟩
    else if isStructural c then
      some ⟨.outside [], s.tokens ++ wordToken word ++ [.structural c]⟩
    else if c = '"' then some ⟨.string [], s.tokens ++ wordToken word⟩
    else some ⟨.outside (word ++ [c]), s.tokens⟩
  | .string contents =>
    if c = '"' then some ⟨.outside [], s.tokens ++ [.string contents]⟩
    else if c = '\\' then some ⟨.escape contents, s.tokens⟩
    -- control characters have to be escaped
    else if c.toNat < 0x20 then none
    else some ⟨.string (push unit contents (charUnits c)), s.tokens⟩
  | .escape contents =>
    if c = 'u' then some ⟨.hex contents 3 0, s.tokens⟩
    else (shortEscape c).map fun n => ⟨.string (push unit contents [n]), s.tokens⟩
  | .hex contents left code =>
    (Reader.toDigit 16 c).map fun d =>
      if left = 0 then ⟨.string (push unit contents [code * 16 + d]), s.tokens⟩
      else ⟨.hex contents (left - 1) (code * 16 + d), s.tokens⟩

/-- Read a text. -/
def Lexer.run (s : Lexer α) (cs : List Char) : Option (Lexer α) := cs.foldlM (Lexer.step unit) s

/-- The tokens at the end of a text, which does not end in a string. -/
def Lexer.finish (s : Lexer α) : Option (List (Token α)) :=
  match s.mode with
  | .outside word => some (s.tokens ++ wordToken word)
  | .string _ | .escape _ | .hex _ _ _ => none

/-- Before the first character. -/
def Lexer.start : Lexer α := ⟨.outside [], []⟩

end Reading

/-- The tokens of a text. -/
def jsonTokens (cs : List Char) : Option (List (Token ℕ)) :=
  (Lexer.start.run id cs).bind Lexer.finish

/-- The code units that a text is the inside of a string literal for. -/
def stringContents (cs : List Char) : Option (List ℕ) :=
  match (⟨.string [], []⟩ : Lexer ℕ).run id cs with
  | some ⟨.string contents, []⟩ => some contents
  | _ => none

/-- What a text is as the inside of a string literal. -/
def decodeString (cs : List Char) : Option (List Char) := (stringContents cs).bind ofUtf16

/-- A quote with no backslash for it. -/
def hasRawQuote : List Char → Bool
  | [] => false
  | '\\' :: _ :: cs => hasRawQuote cs
  | c :: cs => c = '"' || hasRawQuote cs

/-! ### Holes -/

/-- A character or a hole. -/
inductive Item (H : Type*)
  | char (c : Char)
  | hole (h : H)
  deriving DecidableEq, Repr

/-- A part of the contents of a string. -/
inductive StringPart (H : Type*)
  | unit (u : ℕ)
  | hole (h : H)
  deriving DecidableEq, Repr

variable {α β H : Type*}

/-- Read a character or a hole; a hole is allowed in a string only. -/
def Lexer.stepItem (s : Lexer (StringPart H)) : Item H → Option (Lexer (StringPart H))
  | .char c => s.step .unit c
  | .hole h =>
    match s.mode with
    | .string contents => some ⟨.string (contents ++ [.hole h]), s.tokens⟩
    | .outside _ | .escape _ | .hex _ _ _ => none

/-- The tokens of a text with holes. -/
def itemTokens (items : List (Item H)) : Option (List (Token (StringPart H))) :=
  (items.foldlM Lexer.stepItem Lexer.start).bind Lexer.finish

/-- The text of an item, with a text for each hole. -/
def Item.fill (text : H → List Char) : Item H → List Char
  | .char c => [c]
  | .hole h => text h

/-- The code units of a part, with those of each hole. -/
def StringPart.fill (units : H → List ℕ) : StringPart H → List ℕ
  | .unit u => [u]
  | .hole h => units h

/-- Contents with the code units of a text in each hole. -/
def fillUnits (value : H → List Char) (contents : List (StringPart H)) : List ℕ :=
  contents.flatMap (StringPart.fill fun h => utf16 (value h))

/-- The texts of a function are escaped for strings: in a string each is read as the code units
of what it is the escape of. -/
def IsStringEscape (escape : List Char → List Char) : Prop :=
  ∀ (value : List Char) (contents : List ℕ) (tokens : List (Token ℕ)),
    (⟨.string contents, tokens⟩ : Lexer ℕ).run id (escape value) =
      some ⟨.string (contents ++ utf16 value), tokens⟩

/-- A token with other contents. -/
def Token.map (f : List α → List β) : Token α → Token β
  | .structural c => .structural c
  | .word text => .word text
  | .string contents => .string (f contents)

/-- A mode with other contents. -/
def Mode.map (f : List α → List β) : Mode α → Mode β
  | .outside word => .outside word
  | .string contents => .string (f contents)
  | .escape contents => .escape (f contents)
  | .hex contents left code => .hex (f contents) left code

/-- A state with other contents. -/
def Lexer.map (f : List α → List β) (s : Lexer α) : Lexer β :=
  ⟨s.mode.map f, s.tokens.map (Token.map f)⟩

@[simp] theorem map_wordToken (f : List α → List β) (word : List Char) :
    (wordToken word).map (Token.map f) = wordToken word := by
  rw [wordToken, wordToken]
  split
  · rfl
  · rfl

/-- Reading commutes with a change of contents that keeps the empty ones and further units. -/
theorem Lexer.step_map {unit : ℕ → α} {unit' : ℕ → β} {f : List α → List β} (hnil : f [] = [])
    (hpush : ∀ contents us, f (push unit contents us) = push unit' (f contents) us)
    (s : Lexer α) (c : Char) : (s.map f).step unit' c = (s.step unit c).map (Lexer.map f) := by
  obtain ⟨mode, tokens⟩ := s
  cases mode with
  | outside word =>
    simp only [Lexer.step, Lexer.map, Mode.map]
    split_ifs <;> simp [Lexer.map, Mode.map, Token.map, hnil]
  | string contents =>
    simp only [Lexer.step, Lexer.map, Mode.map]
    split_ifs <;> simp [Lexer.map, Mode.map, Token.map, hpush]
  | escape contents =>
    simp only [Lexer.step, Lexer.map, Mode.map]
    split_ifs
    · rfl
    · cases shortEscape c <;> simp [Lexer.map, Mode.map, hpush]
  | hex contents left code =>
    simp only [Lexer.step, Lexer.map, Mode.map]
    cases Reader.toDigit 16 c with
    | none => rfl
    | some d =>
      simp only [Option.map_some]
      split_ifs <;> simp [Lexer.map, Mode.map, hpush]

theorem Lexer.finish_map (f : List α → List β) (s : Lexer α) :
    (s.map f).finish = s.finish.map (List.map (Token.map f)) := by
  obtain ⟨mode, tokens⟩ := s
  cases mode with
  | outside word => simp [Lexer.finish, Lexer.map, Mode.map]
  | string _ | escape _ | hex _ _ _ => rfl

theorem Lexer.run_append (unit : ℕ → α) (s : Lexer α) (cs ds : List Char) :
    s.run unit (cs ++ ds) = (s.run unit cs).bind fun t => t.run unit ds :=
  List.foldlM_append

theorem Lexer.exists_of_run_cons {unit : ℕ → α} {s t : Lexer α} {c : Char} {cs : List Char}
    (h : s.run unit (c :: cs) = some t) : ∃ u, s.step unit c = some u ∧ u.run unit cs = some t := by
  rw [run, List.foldlM_cons] at h
  exact Option.bind_eq_some_iff.mp h

theorem Lexer.exists_of_run_append {unit : ℕ → α} {s t : Lexer α} {cs ds : List Char}
    (h : s.run unit (cs ++ ds) = some t) :
    ∃ u, s.run unit cs = some u ∧ u.run unit ds = some t := by
  rw [run_append] at h
  exact Option.bind_eq_some_iff.mp h

/-- Holes are filled as other contents are: the units that are read stay what they are. -/
theorem fillUnits_push (value : H → List Char) (contents : List (StringPart H)) (us : List ℕ) :
    fillUnits value (push .unit contents us) = push id (fillUnits value contents) us := by
  rw [push, push, fillUnits, fillUnits, List.flatMap_append, List.map_id]
  congr 1
  induction us with
  | nil => rfl
  | cons u us ih =>
    rw [List.map_cons, List.flatMap_cons, ih, StringPart.fill, List.singleton_append]

/-- A hole is filled with an escaped text. -/
theorem Lexer.run_fill {escape : List Char → List Char} (hescape : IsStringEscape escape)
    (value : H → List Char) {s t : Lexer (StringPart H)} {item : Item H}
    (h : s.stepItem item = some t) :
    (s.map (fillUnits value)).run id (item.fill fun h => escape (value h)) =
      some (t.map (fillUnits value)) := by
  cases item with
  | char c =>
    rw [stepItem] at h
    have hstep := step_map rfl (fillUnits_push value) s c
    rw [h] at hstep
    rw [Item.fill, run, List.foldlM_cons, hstep]
    rfl
  | hole hole =>
    obtain ⟨mode, tokens⟩ := s
    cases mode with
    | string contents =>
      simp only [stepItem, Option.some.injEq] at h
      subst h
      rw [Item.fill, Lexer.map, Mode.map, hescape]
      simp [Lexer.map, Mode.map, fillUnits, StringPart.fill]
    | outside _ | escape _ | hex _ _ _ => exact absurd h (by simp [stepItem])

theorem Lexer.run_flatMap_fill {escape : List Char → List Char} (hescape : IsStringEscape escape)
    (value : H → List Char) {items : List (Item H)} {s t : Lexer (StringPart H)}
    (h : items.foldlM Lexer.stepItem s = some t) :
    (s.map (fillUnits value)).run id (items.flatMap (Item.fill fun h => escape (value h))) =
      some (t.map (fillUnits value)) := by
  induction items generalizing s with
  | nil =>
    obtain rfl := Option.some_injective _ h
    rfl
  | cons item items ih =>
    rw [List.foldlM_cons] at h
    obtain ⟨u, hu, ht⟩ := Option.bind_eq_some_iff.mp h
    rw [List.flatMap_cons, run_append, run_fill hescape value hu, Option.bind_some, ih ht]

/-- **Filling holes changes nothing but what strings have in the place of the holes.** -/
theorem jsonTokens_flatMap_fill {escape : List Char → List Char} (hescape : IsStringEscape escape)
    (value : H → List Char) {items : List (Item H)} {tokens : List (Token (StringPart H))}
    (h : itemTokens items = some tokens) :
    jsonTokens (items.flatMap (Item.fill fun h => escape (value h))) =
      some (tokens.map (Token.map (fillUnits value))) := by
  obtain ⟨t, ht, hfinish⟩ := Option.bind_eq_some_iff.mp h
  have hrun := Lexer.run_flatMap_fill hescape value ht
  rw [jsonTokens]
  refine (congrArg (Option.bind · Lexer.finish) hrun).trans ?_
  rw [Option.bind_some, Lexer.finish_map, hfinish]
  rfl

/-! ### What strings contain -/

/-- What is read so far, counted: code units of strings, and one for any other token. -/
def Token.weight : Token α → ℕ
  | .structural _ | .word _ => 1
  | .string contents => contents.length

/-- What the mode has of the next token. -/
def Mode.weight : Mode α → ℕ
  | .outside word => if word = [] then 0 else 1
  | .string contents | .escape contents | .hex contents _ _ => contents.length

/-- All that is read so far. -/
def Lexer.weight (s : Lexer α) : ℕ := (s.tokens.map Token.weight).sum + s.mode.weight

/-- Two states with the same tokens and modes but for what their strings contain. -/
def Lexer.SameShape (s s' : Lexer α) : Prop :=
  s.map (fun _ => ([] : List α)) = s'.map fun _ => []

theorem sum_weight_wordToken (word : List Char) :
    ((wordToken word : List (Token α)).map Token.weight).sum =
      (Mode.outside word : Mode α).weight := by
  rw [wordToken, Mode.weight]
  split
  · rfl
  · rfl

theorem Lexer.sum_weight_of_finish {s : Lexer α} {ts : List (Token α)} (h : s.finish = some ts) :
    (ts.map Token.weight).sum = s.weight := by
  obtain ⟨mode, tokens⟩ := s
  cases mode with
  | outside word =>
    obtain rfl := Option.some_injective _ h
    rw [List.map_append, List.sum_append, sum_weight_wordToken, weight]
  | string _ | escape _ | hex _ _ _ => exact absurd h (by simp [finish])

/-- What strings contain does not matter to the next step, and it adds the same to both states. -/
theorem Lexer.exists_step_of_sameShape {unit : ℕ → α} {s s' t : Lexer α} {c : Char}
    (hshape : s.SameShape s') (h : s.step unit c = some t) :
    ∃ t', s'.step unit c = some t' ∧ t.SameShape t' ∧
      t.weight + s'.weight = t'.weight + s.weight := by
  obtain ⟨mode, tokens⟩ := s
  obtain ⟨mode', tokens'⟩ := s'
  obtain ⟨hmode, htokens⟩ := Lexer.mk.inj hshape
  cases mode with
  | outside word =>
    cases mode' with
    | outside word' =>
      obtain rfl := Mode.outside.inj hmode
      simp only [step] at h ⊢
      split_ifs at h ⊢ <;> obtain rfl := Option.some_injective _ h <;> refine ⟨_, rfl, ?_, ?_⟩ <;>
        simp [SameShape, map, htokens, Mode.map, Token.map, weight, Mode.weight, Token.weight,
          sum_weight_wordToken] <;> omega
    | string _ | escape _ | hex _ _ _ => exact absurd hmode (by simp [Mode.map])
  | string contents =>
    cases mode' with
    | string contents' =>
      simp only [step] at h ⊢
      split_ifs at h ⊢ <;> obtain rfl := Option.some_injective _ h <;> refine ⟨_, rfl, ?_, ?_⟩ <;>
        simp [SameShape, map, htokens, Mode.map, Token.map, weight, Mode.weight, Token.weight,
          push] <;> omega
    | outside _ | escape _ | hex _ _ _ => exact absurd hmode (by simp [Mode.map])
  | escape contents =>
    cases mode' with
    | escape contents' =>
      simp only [step] at h ⊢
      split_ifs at h ⊢
      · obtain rfl := Option.some_injective _ h
        refine ⟨_, rfl, ?_, ?_⟩
        · simp [SameShape, map, htokens, Mode.map]
        · simp only [weight, Mode.weight]
          omega
      · obtain ⟨n, hn, rfl⟩ := Option.map_eq_some_iff.mp h
        refine ⟨_, congrArg _ hn, ?_, ?_⟩
        · simp [SameShape, map, htokens, Mode.map]
        · simp only [weight, Mode.weight, push, List.length_append, List.length_map]
          omega
    | outside _ | string _ | hex _ _ _ => exact absurd hmode (by simp [Mode.map])
  | hex contents left code =>
    cases mode' with
    | hex contents' left' code' =>
      obtain ⟨-, rfl, rfl⟩ := Mode.hex.inj hmode
      obtain ⟨d, hd, heq⟩ := Option.map_eq_some_iff.mp h
      simp only [step, hd, Option.map_some]
      refine ⟨_, rfl, ?_⟩
      split_ifs at heq ⊢ <;> subst heq <;>
        simp [SameShape, map, htokens, Mode.map, weight, Mode.weight, push] <;> omega
    | outside _ | string _ | escape _ => exact absurd hmode (by simp [Mode.map])

/-- What strings contain does not matter to the rest of a text. -/
theorem Lexer.exists_run_of_sameShape {unit : ℕ → α} {cs : List Char} {s s' t : Lexer α}
    (hshape : s.SameShape s') (h : s.run unit cs = some t) :
    ∃ t', s'.run unit cs = some t' ∧ t.SameShape t' ∧
      t.weight + s'.weight = t'.weight + s.weight := by
  induction cs generalizing s s' with
  | nil =>
    obtain rfl := Option.some_injective _ h
    exact ⟨s', rfl, hshape, Nat.add_comm _ _⟩
  | cons c cs ih =>
    obtain ⟨u, hu, hrun⟩ := exists_of_run_cons h
    obtain ⟨u', hu', hshape', hstep⟩ := exists_step_of_sameShape hshape hu
    obtain ⟨t', ht', hlast, hweight⟩ := ih hshape' hrun
    refine ⟨t', ?_, hlast, by omega⟩
    rw [run, List.foldlM_cons, hu']
    exact ht'

/-! ### What is kept of a text -/

theorem Lexer.tokens_isPrefix_step {unit : ℕ → α} {s t : Lexer α} {c : Char}
    (h : s.step unit c = some t) : s.tokens <+: t.tokens := by
  obtain ⟨mode, tokens⟩ := s
  cases mode with
  | outside word =>
    simp only [step] at h
    split_ifs at h <;> obtain rfl := Option.some_injective _ h <;> simp [List.append_assoc]
  | string contents =>
    simp only [step] at h
    split_ifs at h <;> obtain rfl := Option.some_injective _ h <;> simp
  | escape contents =>
    simp only [step] at h
    split_ifs at h
    · obtain rfl := Option.some_injective _ h
      exact List.prefix_rfl
    · obtain ⟨n, -, rfl⟩ := Option.map_eq_some_iff.mp h
      exact List.prefix_rfl
  | hex contents left code =>
    obtain ⟨d, -, heq⟩ := Option.map_eq_some_iff.mp h
    split_ifs at heq <;> subst heq <;> exact List.prefix_rfl

theorem Lexer.tokens_isPrefix_run {unit : ℕ → α} {cs : List Char} {s t : Lexer α}
    (h : s.run unit cs = some t) : s.tokens <+: t.tokens := by
  induction cs generalizing s with
  | nil =>
    obtain rfl := Option.some_injective _ h
    exact List.prefix_rfl
  | cons c cs ih =>
    obtain ⟨u, hu, hrun⟩ := exists_of_run_cons h
    exact (tokens_isPrefix_step hu).trans (ih hrun)

theorem Lexer.tokens_isPrefix_finish {s : Lexer α} {ts : List (Token α)}
    (h : s.finish = some ts) : s.tokens <+: ts := by
  obtain ⟨mode, tokens⟩ := s
  cases mode with
  | outside word =>
    obtain rfl := Option.some_injective _ h
    exact List.prefix_append _ _
  | string _ | escape _ | hex _ _ _ => exact absurd h (by simp [finish])

/-- In a string, characters other than quotes and backslashes are contents. -/
theorem Lexer.eq_of_run_string {unit : ℕ → α} {cs : List Char}
    (hplain : ∀ c ∈ cs, c ≠ '"' ∧ c ≠ '\\') {contents : List α} {tokens : List (Token α)}
    {t : Lexer α} (h : (⟨.string contents, tokens⟩ : Lexer α).run unit cs = some t) :
    t = ⟨.string (push unit contents (utf16 cs)), tokens⟩ := by
  induction cs generalizing contents with
  | nil =>
    obtain rfl := Option.some_injective _ h
    simp [push, utf16]
  | cons c cs ih =>
    obtain ⟨hquote, hbackslash⟩ := hplain c List.mem_cons_self
    obtain ⟨u, hu, hrun⟩ := exists_of_run_cons h
    simp only [step, if_neg hquote, if_neg hbackslash] at hu
    split_ifs at hu
    obtain rfl := Option.some_injective _ hu
    rw [ih (fun d hd => hplain d (List.mem_cons_of_mem _ hd)) hrun]
    simp [push, utf16]

/-- Two opening braces are read in a string, or else they are the last two tokens. -/
theorem Lexer.run_open_open {unit : ℕ → α} {s t : Lexer α}
    (h : s.run unit ['{', '{'] = some t) :
    (∃ contents, s.mode = .string contents) ∨
      ∃ ts, t.tokens = ts ++ [.structural '{', .structural '{'] := by
  obtain ⟨mode, tokens⟩ := s
  cases mode with
  | outside word =>
    obtain rfl := Option.some_injective _ h
    exact .inr ⟨tokens ++ wordToken word, by simp [wordToken]⟩
  | string contents => exact .inl ⟨contents, rfl⟩
  | escape contents => exact absurd h (by simp [run, step, shortEscape])
  | hex contents left code => exact absurd h (by simp [run, step, Reader.toDigit])

/-! ### Escapes -/

/-- A text is the inside of a string literal for a value: it has no quote that would end the
string and no control character that has to be escaped, and it is decoded to the value. -/
structure IsInsideOf (inside value : List Char) : Prop where
  hasRawQuote_eq : hasRawQuote inside = false
  noControl : ∀ c ∈ inside, 0x20 ≤ c.toNat
  decodeString_eq : decodeString inside = some value

theorem hasRawQuote_append_of_plain {cs : List Char} (h : ∀ c ∈ cs, c ≠ '"' ∧ c ≠ '\\')
    (ds : List Char) : hasRawQuote (cs ++ ds) = hasRawQuote ds := by
  induction cs with
  | nil => rfl
  | cons c cs ih =>
    obtain ⟨hquote, hbackslash⟩ := h c List.mem_cons_self
    have hcs := ih fun d hd => h d (List.mem_cons_of_mem _ hd)
    rw [List.cons_append, hasRawQuote, hcs, decide_eq_false hquote, Bool.false_or]
    exact fun d rest heq _ => hbackslash heq

/-- What is escaped is decoded. -/
theorem IsStringEscape.decodeString_eq {escape : List Char → List Char}
    (hescape : IsStringEscape escape) (value : List Char) :
    decodeString (escape value) = some value := by
  rw [decodeString, stringContents, hescape, List.nil_append]
  exact ofUtf16_utf16 value

/-- Escaping is for each character. -/
theorem isStringEscape_flatMap {escapeChar : Char → List Char}
    (h : ∀ (c : Char) (contents : List ℕ) (tokens : List (Token ℕ)),
      (⟨.string contents, tokens⟩ : Lexer ℕ).run id (escapeChar c) =
        some ⟨.string (contents ++ charUnits c), tokens⟩) :
    IsStringEscape (List.flatMap escapeChar) := by
  intro value
  induction value with
  | nil => simp [Lexer.run, utf16]
  | cons c value ih =>
    intro contents tokens
    rw [List.flatMap_cons, Lexer.run_append, h, Option.bind_some, ih, utf16, utf16,
      List.flatMap_cons, List.append_assoc]

/-- Four digits after `\u` are a code unit. -/
theorem run_hexEscape {d₁ d₂ d₃ d₄ : Char} {n₁ n₂ n₃ n₄ : ℕ} (h₁ : Reader.toDigit 16 d₁ = some n₁)
    (h₂ : Reader.toDigit 16 d₂ = some n₂) (h₃ : Reader.toDigit 16 d₃ = some n₃)
    (h₄ : Reader.toDigit 16 d₄ = some n₄) (contents : List ℕ) (tokens : List (Token ℕ)) :
    (⟨.string contents, tokens⟩ : Lexer ℕ).run id ['\\', 'u', d₁, d₂, d₃, d₄] =
      some ⟨.string (contents ++ [((n₁ * 16 + n₂) * 16 + n₃) * 16 + n₄]), tokens⟩ := by
  simp [Lexer.run, Lexer.step, h₁, h₂, h₃, h₄, push]

end Json

end Text

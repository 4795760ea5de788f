import CrowdSecBouncer.Foundations.JsonText
import Mathlib.Data.List.Chain

/-!
# JSON documents

A document is a tree of arrays and objects over strings, numbers and the three literals, and its
text is any text whose tokens are those of the document (`IsJson`). A text is of one document at
most (`IsJson.unique`). A document whose strings have holes becomes one without when they are
filled, with the same tree (`IsJson.fill`).
-/

universe u u'

namespace Text

namespace Json

/-! ### Numbers and literals -/

/-- One digit or more. -/
def isDigits (cs : List Char) : Bool := cs ≠ [] && cs.all Char.isDigit

/-- What may come after the digits of a number and its fraction. -/
def isExponent : List Char → Bool
  | [] => true
  | c :: cs =>
    (c = 'e' || c = 'E') &&
      isDigits (match cs with
        | '+' :: ds => ds
        | '-' :: ds => ds
        | ds => ds)

/-- What may come after the integer part of a number. -/
def isFraction : List Char → Bool
  | '.' :: cs => isDigits (cs.takeWhile Char.isDigit) && isExponent (cs.dropWhile Char.isDigit)
  | cs => isExponent cs

/-- A number without a sign: only a single digit is zero at the front. -/
def isUnsigned : List Char → Bool
  | [] => false
  | '0' :: cs => isFraction cs
  | c :: cs => c.isDigit && isFraction (cs.dropWhile Char.isDigit)

/-- The text of a number. -/
def isNumber : List Char → Bool
  | '-' :: cs => isUnsigned cs
  | cs => isUnsigned cs

/-- The words of JSON: numbers and the names `null`, `true` and `false`. -/
def isLiteral (word : List Char) : Bool :=
  word = "null".toList || word = "true".toList || word = "false".toList || isNumber word

/-! ### Documents -/

mutual

/-- A value, with the contents of its strings in `α`. -/
inductive Value (α : Type u) : Type u
  | literal (word : {word : List Char // isLiteral word = true})
  | string (contents : List α)
  | array (elements : Elements α)
  | object (members : Members α)

/-- The elements of an array. -/
inductive Elements (α : Type u) : Type u
  | nil
  | cons (v : Value α) (elements : Elements α)

/-- The members of an object, in their order. -/
inductive Members (α : Type u) : Type u
  | nil
  | cons (name : List α) (v : Value α) (members : Members α)

end

variable {α : Type u} {β : Type u'}

mutual

/-- The tokens of a value. -/
def Value.tokens : Value α → List (Token α)
  | .literal word => [.word word.1]
  | .string contents => [.string contents]
  | .array elements => .structural '[' :: elements.tokens []
  | .object members => .structural '{' :: members.tokens []

/-- The tokens of elements up to the closing bracket, each after a comma except, with nothing in
`lead`, the first. -/
def Elements.tokens : List (Token α) → Elements α → List (Token α)
  | _, .nil => [.structural ']']
  | lead, .cons v elements => lead ++ (v.tokens ++ elements.tokens [.structural ','])

/-- The tokens of members up to the closing brace. -/
def Members.tokens : List (Token α) → Members α → List (Token α)
  | _, .nil => [.structural '}']
  | lead, .cons name v members =>
    lead ++ (.string name :: .structural ':' :: (v.tokens ++ members.tokens [.structural ',']))

end

mutual

/-- A value with other contents of its strings. -/
def Value.map (f : List α → List β) : Value α → Value β
  | .literal word => .literal word
  | .string contents => .string (f contents)
  | .array elements => .array (elements.map f)
  | .object members => .object (members.map f)

/-- Elements with other contents of their strings. -/
def Elements.map (f : List α → List β) : Elements α → Elements β
  | .nil => .nil
  | .cons v elements => .cons (v.map f) (elements.map f)

/-- Members with other contents of their strings and names. -/
def Members.map (f : List α → List β) : Members α → Members β
  | .nil => .nil
  | .cons name v members => .cons (f name) (v.map f) (members.map f)

end

mutual

theorem Value.tokens_map (f : List α → List β) :
    ∀ v : Value α, (v.map f).tokens = v.tokens.map (Token.map f)
  | .literal word => rfl
  | .string contents => rfl
  | .array elements => by
    rw [Value.map, Value.tokens, Value.tokens, List.map_cons, ← elements.tokens_map f []]
    rfl
  | .object members => by
    rw [Value.map, Value.tokens, Value.tokens, List.map_cons, ← members.tokens_map f []]
    rfl

theorem Elements.tokens_map (f : List α → List β) :
    ∀ (lead : List (Token α)) (elements : Elements α),
      (elements.map f).tokens (lead.map (Token.map f)) = (elements.tokens lead).map (Token.map f)
  | _, .nil => rfl
  | lead, .cons v elements => by
    rw [Elements.map, Elements.tokens, Elements.tokens, List.map_append, List.map_append,
      ← v.tokens_map f, ← elements.tokens_map f [.structural ',']]
    rfl

theorem Members.tokens_map (f : List α → List β) :
    ∀ (lead : List (Token α)) (members : Members α),
      (members.map f).tokens (lead.map (Token.map f)) = (members.tokens lead).map (Token.map f)
  | _, .nil => rfl
  | lead, .cons name v members => by
    rw [Members.map, Members.tokens, Members.tokens, List.map_append, List.map_cons, List.map_cons,
      List.map_append, ← v.tokens_map f, ← members.tokens_map f [.structural ',']]
    rfl

end

/-! ### One document at most -/

/-- A value does not begin with a closing bracket. -/
theorem Value.tokens_append_ne (v : Value α) (ts r : List (Token α)) :
    v.tokens ++ ts ≠ .structural ']' :: r := by
  cases v with
  | literal _ | string _ | array _ | object _ => simp [Value.tokens]

mutual

/-- The tokens of a value say where it ends. -/
theorem Value.eq_of_tokens_append : ∀ (v w : Value α) {r r' : List (Token α)},
    v.tokens ++ r = w.tokens ++ r' → v = w ∧ r = r'
  | .literal word, w, r, r', h => by
    cases w with
    | literal word' =>
      simp only [Value.tokens, List.cons_append, List.nil_append, List.cons.injEq,
        Token.word.injEq] at h
      exact ⟨congrArg _ (Subtype.ext h.1), h.2⟩
    | string _ | array _ | object _ => exact absurd h (by simp [Value.tokens])
  | .string contents, w, r, r', h => by
    cases w with
    | string contents' =>
      simp only [Value.tokens, List.cons_append, List.nil_append, List.cons.injEq,
        Token.string.injEq] at h
      exact ⟨congrArg _ h.1, h.2⟩
    | literal _ | array _ | object _ => exact absurd h (by simp [Value.tokens])
  | .array elements, w, r, r', h => by
    cases w with
    | array elements' =>
      obtain ⟨rfl, hr⟩ := elements.eq_of_tokens_append elements' (.inl rfl) (List.cons.inj h).2
      exact ⟨rfl, hr⟩
    | literal _ | string _ | object _ => exact absurd h (by simp [Value.tokens])
  | .object members, w, r, r', h => by
    cases w with
    | object members' =>
      obtain ⟨rfl, hr⟩ := members.eq_of_tokens_append members' (.inl rfl) (List.cons.inj h).2
      exact ⟨rfl, hr⟩
    | literal _ | string _ | array _ => exact absurd h (by simp [Value.tokens])

theorem Elements.eq_of_tokens_append : ∀ (elements elements' : Elements α)
    {lead r r' : List (Token α)}, lead = [] ∨ lead = [.structural ','] →
    elements.tokens lead ++ r = elements'.tokens lead ++ r' → elements = elements' ∧ r = r'
  | .nil, .nil, lead, r, r', _, h => ⟨rfl, (List.cons.inj h).2⟩
  | .nil, .cons v elements', lead, r, r', hlead, h => by
    rw [Elements.tokens, Elements.tokens, List.append_assoc, List.append_assoc] at h
    rcases hlead with rfl | rfl
    · exact absurd h.symm (v.tokens_append_ne _ _)
    · exact absurd h (by simp)
  | .cons v elements, .nil, lead, r, r', hlead, h => by
    rw [Elements.tokens, Elements.tokens, List.append_assoc, List.append_assoc] at h
    rcases hlead with rfl | rfl
    · exact absurd h (v.tokens_append_ne _ _)
    · exact absurd h (by simp)
  | .cons v elements, .cons w elements', lead, r, r', hlead, h => by
    simp only [Elements.tokens, List.append_assoc, List.append_cancel_left_eq] at h
    obtain ⟨rfl, hrest⟩ := v.eq_of_tokens_append w h
    obtain ⟨rfl, hr⟩ := elements.eq_of_tokens_append elements' (.inr rfl) hrest
    exact ⟨rfl, hr⟩

theorem Members.eq_of_tokens_append : ∀ (members members' : Members α)
    {lead r r' : List (Token α)}, lead = [] ∨ lead = [.structural ','] →
    members.tokens lead ++ r = members'.tokens lead ++ r' → members = members' ∧ r = r'
  | .nil, .nil, lead, r, r', _, h => ⟨rfl, (List.cons.inj h).2⟩
  | .nil, .cons name v members', lead, r, r', hlead, h => by
    rcases hlead with rfl | rfl
    · exact absurd h (by simp [Members.tokens])
    · exact absurd h (by simp [Members.tokens])
  | .cons name v members, .nil, lead, r, r', hlead, h => by
    rcases hlead with rfl | rfl
    · exact absurd h (by simp [Members.tokens])
    · exact absurd h (by simp [Members.tokens])
  | .cons name v members, .cons name' w members', lead, r, r', hlead, h => by
    simp only [Members.tokens, List.append_assoc, List.append_cancel_left_eq, List.cons_append,
      List.cons.injEq, Token.string.injEq, true_and] at h
    obtain ⟨rfl, hvalue⟩ := h
    obtain ⟨rfl, hrest⟩ := v.eq_of_tokens_append w hvalue
    obtain ⟨rfl, hr⟩ := members.eq_of_tokens_append members' (.inr rfl) hrest
    exact ⟨rfl, hr⟩

end

/-! ### Opening braces -/

/-- One of two tokens is not an opening brace. -/
def NotBothOpen (t t' : Token α) : Prop := t ≠ .structural '{' ∨ t' ≠ .structural '{'

theorem isChain_cons_of_ne {t : Token α} {ts : List (Token α)} (ht : t ≠ .structural '{')
    (h : ts.IsChain NotBothOpen) : (t :: ts).IsChain NotBothOpen := by
  cases ts with
  | nil => exact .singleton t
  | cons t' ts => exact .cons_cons (.inl ht) h

mutual

theorem Value.isChain_tokens_append : ∀ (v : Value α) {ts : List (Token α)},
    ts.IsChain NotBothOpen → (v.tokens ++ ts).IsChain NotBothOpen
  | .literal word, _, h => isChain_cons_of_ne (by simp) h
  | .string contents, _, h => isChain_cons_of_ne (by simp) h
  | .array elements, _, h =>
    isChain_cons_of_ne (by simp) (elements.isChain_tokens_append (.inl rfl) h)
  | .object members, _, h => by
    have hmembers := members.isChain_tokens_append (.inl rfl) h
    cases members with
    | nil => exact .cons_cons (.inr (by simp)) hmembers
    | cons name v members => exact .cons_cons (.inr (by simp)) hmembers

theorem Elements.isChain_tokens_append : ∀ (elements : Elements α) {lead ts : List (Token α)},
    lead = [] ∨ lead = [.structural ','] → ts.IsChain NotBothOpen →
    (elements.tokens lead ++ ts).IsChain NotBothOpen
  | .nil, _, _, _, h => isChain_cons_of_ne (by simp) h
  | .cons v elements, lead, ts, hlead, h => by
    have hvalue := v.isChain_tokens_append (elements.isChain_tokens_append (.inr rfl) h)
    rw [Elements.tokens, List.append_assoc, List.append_assoc]
    rcases hlead with rfl | rfl
    · exact hvalue
    · exact isChain_cons_of_ne (by simp) hvalue

theorem Members.isChain_tokens_append : ∀ (members : Members α) {lead ts : List (Token α)},
    lead = [] ∨ lead = [.structural ','] → ts.IsChain NotBothOpen →
    (members.tokens lead ++ ts).IsChain NotBothOpen
  | .nil, _, _, _, h => isChain_cons_of_ne (by simp) h
  | .cons name v members, lead, ts, hlead, h => by
    have hvalue := v.isChain_tokens_append (members.isChain_tokens_append (.inr rfl) h)
    have hmember : (.string name :: .structural ':' ::
        (v.tokens ++ (members.tokens [.structural ','] ++ ts))).IsChain NotBothOpen :=
      isChain_cons_of_ne (by simp) (isChain_cons_of_ne (by simp) hvalue)
    rw [Members.tokens, List.append_assoc, List.cons_append, List.cons_append, List.append_assoc]
    rcases hlead with rfl | rfl
    · exact hmember
    · exact isChain_cons_of_ne (by simp) hmember

end

/-- No two opening braces stand together in a document. -/
theorem Value.tokens_ne_append_open_open (v : Value α) (before after : List (Token α)) :
    v.tokens ≠ before ++ .structural '{' :: .structural '{' :: after := by
  intro heq
  have hchain := v.isChain_tokens_append .nil
  rw [List.append_nil, heq, List.isChain_append_cons_cons] at hchain
  exact hchain.2.1.elim (absurd rfl) (absurd rfl)

/-! ### The text of a document -/

/-- The text is of the document. -/
def IsJson (cs : List Char) (v : Value ℕ) : Prop := jsonTokens cs = some v.tokens

instance (cs : List Char) (v : Value ℕ) : Decidable (IsJson cs v) :=
  inferInstanceAs (Decidable (_ = _))

/-- The text with holes, all of them in strings, is of the document. -/
def IsJsonWithHoles {H : Type u} (items : List (Item H)) (v : Value (StringPart H)) : Prop :=
  itemTokens items = some v.tokens

instance {H : Type u} [DecidableEq H] (items : List (Item H)) (v : Value (StringPart H)) :
    Decidable (IsJsonWithHoles items v) :=
  inferInstanceAs (Decidable (_ = _))

/-- The document with the code units of a text in each hole. -/
def Value.fill {H : Type u} (value : H → List Char) (v : Value (StringPart H)) : Value ℕ :=
  v.map (fillUnits value)

/-- **A text is of one document at most.** -/
theorem IsJson.unique {cs : List Char} {v w : Value ℕ} (hv : IsJson cs v) (hw : IsJson cs w) :
    v = w := by
  have htokens := Option.some_injective _ (hv.symm.trans hw)
  exact (v.eq_of_tokens_append w (congrArg (· ++ []) htokens)).1

/-- **Filling the holes of a document with escaped texts** gives a text of the same document, with
what the texts are in the place of the holes. -/
theorem IsJsonWithHoles.fill {H : Type u} {items : List (Item H)} {v : Value (StringPart H)}
    (h : IsJsonWithHoles items v) {escape : List Char → List Char}
    (hescape : IsStringEscape escape) (value : H → List Char) :
    IsJson (items.flatMap (Item.fill fun h => escape (value h))) (v.fill value) := by
  rw [IsJson, jsonTokens_flatMap_fill hescape value h, Value.fill, Value.tokens_map]

end Json

end Text

import CrowdSecBouncer.Foundations.Text

/-!
# Character references

Markup writes its special characters as references, an ampersand up to a semicolon. A decoder
replaces the references it knows and keeps every other character; decoders differ in the names
they know, so what all of them have in common is the structure `RefDecoder`. One that knows the
five predefined names and the numbers is `predefinedRefs`.
-/

namespace Text

/-- The references that every decoder of markup knows. -/
def commonRefs : List (Char × List Char) :=
  [('&', "&amp;".toList), ('<', "&lt;".toList), ('>', "&gt;".toList), ('"', "&quot;".toList),
    ('\'', "&#x27;".toList)]

/-- A decoder of references. -/
structure RefDecoder where
  decode : List Char → List Char
  decode_nil : decode [] = []
  decode_cons : ∀ c cs, c ≠ '&' → decode (c :: cs) = c :: decode cs
  decode_ref : ∀ c text, (c, text) ∈ commonRefs → ∀ cs, decode (text ++ cs) = c :: decode cs

/-- A text with the references of some characters in their place. -/
def writeRefs (refs : Char → List Char) (cs : List Char) : List Char := cs.flatMap refs

/-- **What is written with common references is decoded to the text**, if every ampersand is
written so. -/
theorem RefDecoder.decode_writeRefs (d : RefDecoder) {refs : Char → List Char}
    (hrefs : ∀ c, (c, refs c) ∈ commonRefs ∨ c ≠ '&' ∧ refs c = [c]) (cs : List Char) :
    d.decode (writeRefs refs cs) = cs := by
  induction cs with
  | nil => exact d.decode_nil
  | cons c cs ih =>
    rw [writeRefs, List.flatMap_cons, ← writeRefs]
    rcases hrefs c with href | ⟨hamp, hself⟩
    · rw [d.decode_ref c _ href, ih]
    · rw [hself, List.singleton_append, d.decode_cons c _ hamp, ih]

/-! ### A decoder -/

/-- The character of a reference, from what is between the ampersand and the semicolon. -/
def refChar (name : List Char) : Option Char :=
  match name with
  | '#' :: 'x' :: digits => parseRef 16 digits
  | '#' :: digits => parseRef 10 digits
  | _ =>
    if name = "amp".toList then some '&'
    else if name = "lt".toList then some '<'
    else if name = "gt".toList then some '>'
    else if name = "quot".toList then some '"'
    else if name = "apos".toList then some '\''
    else none
where
  /-- The character of a code in a radix. -/
  parseRef (radix : ℕ) (digits : List Char) : Option Char :=
    if digits ≠ [] ∧ digits.all fun c => (Reader.toDigit radix c).isSome then
      some (Char.ofNat (digits.foldl (fun n c => n * radix + (Reader.toDigit radix c).getD 0) 0))
    else none

/-- Decoding, inside a reference with the characters read since its ampersand, or outside. -/
def scanRefs : Option (List Char) → List Char → List Char
  | none, [] => []
  | none, c :: cs => if c = '&' then scanRefs (some []) cs else c :: scanRefs none cs
  | some name, [] => '&' :: name
  | some name, c :: cs =>
    if c = ';' then
      match refChar name with
      | some ref => ref :: scanRefs none cs
      | none => '&' :: (name ++ c :: scanRefs none cs)
    else if c = '&' then '&' :: (name ++ scanRefs (some []) cs)
    else scanRefs (some (name ++ [c])) cs

theorem scanRefs_commonRefs {c : Char} {text : List Char} (h : (c, text) ∈ commonRefs)
    (cs : List Char) : scanRefs none (text ++ cs) = c :: scanRefs none cs := by
  simp only [commonRefs, List.mem_cons, List.not_mem_nil, or_false, Prod.mk.injEq] at h
  rcases h with ⟨rfl, rfl⟩ | ⟨rfl, rfl⟩ | ⟨rfl, rfl⟩ | ⟨rfl, rfl⟩ | ⟨rfl, rfl⟩
  · rfl
  · rfl
  · rfl
  · rfl
  · rfl

/-- The decoder that knows the predefined names and the numbers. -/
def predefinedRefs : RefDecoder where
  decode := scanRefs none
  decode_nil := rfl
  decode_cons _ _ h := if_neg h
  decode_ref _ _ := scanRefs_commonRefs

end Text

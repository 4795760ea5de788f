import CrowdSecBouncer.Foundations.Armour
import CrowdSecBouncer.Foundations.Hexadecimal

/-!
# Blocks of header fields, and messages

Header fields are written as lines `name: value`, each with CR LF at its end; an empty line ends the
block, and the body follows. A reader takes lines that end in LF, with or without a CR, splits each
at its first colon and strips blanks off the value. It reads back the fields that were written, and
the body from where it starts, when no name has a colon in it and neither names nor values have a
CR or LF (`readBlock_writeBlock`).

An answer is a message: a start line with its status, such a block and a body, and its
`Content-Length` says where the body ends. Some answers have no body whatever their fields say, by
their status or by the request (`hasBody`). Answers with bodies that follow one another on a
connection are read back one by one, as long as every one of them fits its format
(`readMessages_writeMessages`).
-/

namespace HeaderBlock

open Text

abbrev Field := List Char × List Char

def crlf : List Char := ['\r', '\n']

def writeField (f : Field) : List Char := f.1 ++ ':' :: ' ' :: f.2 ++ crlf

def writeBlock (fields : List Field) : List Char := fields.flatMap writeField ++ crlf

/-- A line without the CR at its end. -/
def dropCr (line : List Char) : List Char :=
  if line.getLast? = some '\r' then line.dropLast else line

def isBlank (c : Char) : Bool := c = ' ' || c = '\t'

def trimBlanks (value : List Char) : List Char := (value.dropWhile isBlank).rdropWhile isBlank

/-- What a field is read as. -/
def Field.asRead (f : Field) : Field := (f.1, trimBlanks f.2)

/-- Read the fields and the body, when `line` is what has been read of the current line. A line
without a colon is refused, and so is a block without an end. -/
def readBlock : (line : List Char) → List Char → Option (List Field × List Char)
  | _, [] => none
  | line, '\n' :: rest =>
    if dropCr line = [] then some ([], rest)
    else do
      let (name, value) ← splitOnce ':' (dropCr line)
      let (fields, body) ← readBlock [] rest
      some ((name, trimBlanks value) :: fields, body)
  | line, c :: rest => readBlock (line ++ [c]) rest

/-- The field fits into its line. -/
structure IsField (f : Field) : Prop where
  name : ∀ c ∈ f.1, c ≠ ':' ∧ c ≠ '\r' ∧ c ≠ '\n'
  value : ∀ c ∈ f.2, c ≠ '\r' ∧ c ≠ '\n'

variable {f : Field} {fields : List Field} {line rest body : List Char}

theorem dropCr_append_cr (line : List Char) : dropCr (line ++ ['\r']) = line := by
  rw [dropCr, if_pos List.getLast?_concat, List.dropLast_concat]

/-- A line is read to its end. -/
theorem readBlock_append (h : '\n' ∉ line) (front : List Char) :
    readBlock front (line ++ '\n' :: rest) = readBlock (front ++ line) ('\n' :: rest) := by
  induction line generalizing front with
  | nil => rw [List.nil_append, List.append_nil]
  | cons c line ih =>
    obtain ⟨hc, hline⟩ := not_or.mp (mt List.mem_cons.mpr h)
    have hstep : readBlock front (c :: (line ++ '\n' :: rest)) =
        readBlock (front ++ [c]) (line ++ '\n' :: rest) :=
      readBlock.eq_3 _ _ _ fun heq => hc heq.symm
    rw [List.cons_append, hstep, ih hline, List.append_assoc, List.singleton_append]

/-- The line of a field is read as the field. -/
theorem readBlock_writeField (h : IsField f) :
    readBlock [] (writeField f ++ rest) =
      (readBlock [] rest).map fun block => (f.asRead :: block.1, block.2) := by
  have hname : ':' ∉ f.1 := fun hmem => (h.name _ hmem).1 rfl
  have hline : '\n' ∉ f.1 ++ ':' :: ' ' :: f.2 ++ ['\r'] := by
    simp only [List.mem_append, List.mem_cons, List.not_mem_nil, or_false, not_or]
    exact ⟨⟨fun hmem => (h.name _ hmem).2.2 rfl, by decide, by decide,
      fun hmem => (h.value _ hmem).2 rfl⟩, by decide⟩
  have hwrite : writeField f ++ rest = (f.1 ++ ':' :: ' ' :: f.2 ++ ['\r']) ++ '\n' :: rest := by
    simp [writeField, crlf]
  have hne : f.1 ++ ':' :: ' ' :: f.2 ≠ [] := by simp
  rw [hwrite, readBlock_append hline, List.nil_append, readBlock, dropCr_append_cr, if_neg hne,
    splitOnce_append hname]
  cases readBlock [] rest with
  | none => rfl
  | some block => rfl

/-- **Round trip.** -/
theorem readBlock_writeBlock (h : ∀ f ∈ fields, IsField f) (body : List Char) :
    readBlock [] (writeBlock fields ++ body) = some (fields.map Field.asRead, body) := by
  induction fields with
  | nil => rfl
  | cons f fields ih =>
    have hwrite : writeBlock (f :: fields) ++ body =
        writeField f ++ (writeBlock fields ++ body) := by
      simp [writeBlock]
    rw [hwrite, readBlock_writeField (h f List.mem_cons_self),
      ih fun f' hf' => h f' (List.mem_cons_of_mem f hf')]
    rfl

/-! ### Messages -/

structure Message where
  start : List Char
  fields : List Field
  body : List Char
  deriving DecidableEq, Repr

/-- The fields that say where a body ends. -/
def isFraming (name : List Char) : Bool :=
  eqIgnoreAsciiCase name "Content-Length".toList ||
    eqIgnoreAsciiCase name "Transfer-Encoding".toList

def contentLengthField (body : List Char) : Field :=
  ("Content-Length".toList, Nat.toDigits 10 (utf8Bytes body).length)

def writeMessage (m : Message) : List Char :=
  m.start ++ crlf ++ writeBlock m.fields ++ m.body

/-- The status in a start line: three digits behind its first blank. -/
def statusOf (start : List Char) : Option ℕ := do
  let (_, rest) ← splitOnce ' ' start
  let digits := rest.takeWhile (· ≠ ' ')
  if digits.length = 3 ∧ digits.all fun c => (Reader.toDigit 10 c).isSome
  then some (digitsValue 10 digits)
  else none

/-- An answer has a body, unless the request was for its header only or the status is one that goes
without. -/
def hasBody (headerOnly : Bool) (status : ℕ) : Bool :=
  !headerOnly && 200 ≤ status && status ≠ 204 && status ≠ 304

/-- A line, and what follows it. -/
def readLine (cs : List Char) : Option (List Char × List Char) :=
  (splitOnce '\n' cs).map fun (line, rest) => (dropCr line, rest)

/-- The length of the body. Fields that leave it open are refused: none at all, more than one, or
another one than `Content-Length`. -/
def bodyLength (fields : List Field) : Option ℕ :=
  match fields.filter fun f => isFraming f.1 with
  | [(name, value)] =>
    if eqIgnoreAsciiCase name "Content-Length".toList ∧ value ≠ [] ∧
        value.all fun c => (Reader.toDigit 10 c).isSome
    then some (digitsValue 10 value)
    else none
  | _ => none

/-- Read the answer to a request, which may have been for its header only. -/
def readMessage (headerOnly : Bool) (cs : List Char) : Option (Message × List Char) := do
  let (start, rest) ← readLine cs
  let status ← statusOf start
  let (fields, rest) ← readBlock [] rest
  if hasBody headerOnly status then do
    let length ← bodyLength fields
    let (body, rest) ← splitAtByte rest length
    some (⟨start, fields, body⟩, rest)
  else some (⟨start, fields, []⟩, rest)

/-- Read the answers to as many requests. -/
def readMessages : List Bool → List Char → Option (List Message × List Char)
  | [], cs => some ([], cs)
  | headerOnly :: requests, cs => do
    let (m, rest) ← readMessage headerOnly cs
    let (ms, rest) ← readMessages requests rest
    some (m :: ms, rest)

/-- The message fits its format, and the request and its status are such that it has a body. -/
structure IsMessage (headerOnly : Bool) (m : Message) : Prop where
  start : ∀ c ∈ m.start, c ≠ '\r' ∧ c ≠ '\n'
  status : ∃ status, statusOf m.start = some status ∧ hasBody headerOnly status = true
  fields : ∀ f ∈ m.fields, IsField f
  framing : m.fields.filter (fun f => isFraming f.1) = [contentLengthField m.body]

/-- What a message is read as. -/
def Message.asRead (m : Message) : Message := { m with fields := m.fields.map Field.asRead }

variable {m : Message} {headerOnly : Bool}

theorem readLine_append_crlf (h : ∀ c ∈ line, c ≠ '\r' ∧ c ≠ '\n') :
    readLine (line ++ crlf ++ rest) = some (line, rest) := by
  have hwrite : line ++ crlf ++ rest = (line ++ ['\r']) ++ '\n' :: rest := by simp [crlf]
  have hline : '\n' ∉ line ++ ['\r'] := by
    rw [List.mem_append, List.mem_singleton, not_or]
    exact ⟨fun hmem => (h _ hmem).2 rfl, by decide⟩
  rw [readLine, hwrite, splitOnce_append hline, Option.map_some]
  exact congrArg (fun line => some (line, rest)) (dropCr_append_cr line)

/-- A value without blanks at its ends is read as it is. -/
theorem trimBlanks_eq_self {value : List Char} (hhead : ∀ c ∈ value.head?, isBlank c = false)
    (hlast : ∀ c ∈ value.getLast?, isBlank c = false) : trimBlanks value = value := by
  rw [trimBlanks, dropWhile_eq_self_of_head? hhead, List.rdropWhile_eq_self_iff]
  intro hne hblank
  rw [hlast _ (List.getLast?_eq_some_getLast hne)] at hblank
  exact absurd hblank (by simp)

theorem trimBlanks_toDigits (n : ℕ) : trimBlanks (Nat.toDigits 10 n) = Nat.toDigits 10 n := by
  have hdigit : ∀ c ∈ Nat.toDigits 10 n, isBlank c = false := by
    intro c hc
    have hsome := isSome_toDigit_of_mem_toDigits (by decide) c hc
    cases hblank : isBlank c with
    | false => rfl
    | true =>
      simp only [isBlank, Bool.or_eq_true, decide_eq_true_eq] at hblank
      rcases hblank with rfl | rfl
      · exact absurd hsome (by decide)
      · exact absurd hsome (by decide)
  exact trimBlanks_eq_self (fun c hc => hdigit c (List.mem_of_mem_head? hc))
    fun c hc => hdigit c (List.mem_of_getLast? hc)

theorem filter_isFraming_map_asRead (fields : List Field) :
    (fields.map Field.asRead).filter (fun f => isFraming f.1) =
      (fields.filter fun f => isFraming f.1).map Field.asRead :=
  List.filter_map ..

theorem isFraming_contentLengthField (body : List Char) :
    isFraming (contentLengthField body).1 = true := by
  have hname : isFraming "Content-Length".toList = true := by decide
  exact hname

/-- A content length among fields that say nothing about the body. -/
theorem filter_isFraming_contentLengthField {before after : List Field}
    (hbefore : ∀ f ∈ before, isFraming f.1 = false) (hafter : ∀ f ∈ after, isFraming f.1 = false)
    (body : List Char) :
    (before ++ contentLengthField body :: after).filter (fun f => isFraming f.1) =
      [contentLengthField body] := by
  have hothers {others : List Field} (hnone : ∀ f ∈ others, isFraming f.1 = false) :
      others.filter (fun f => isFraming f.1) = [] :=
    List.filter_eq_nil_iff.mpr fun f hf => by simp [hnone f hf]
  have hlength : (contentLengthField body :: after).filter (fun f => isFraming f.1) =
      contentLengthField body :: after.filter (fun f => isFraming f.1) :=
    List.filter_cons_of_pos (isFraming_contentLengthField body)
  rw [List.filter_append, hothers hbefore, hlength, hothers hafter, List.nil_append]

theorem bodyLength_of_isMessage (h : IsMessage headerOnly m) :
    bodyLength (m.fields.map Field.asRead) = some (utf8Bytes m.body).length := by
  have hread : (contentLengthField m.body).asRead = contentLengthField m.body :=
    Prod.ext rfl (trimBlanks_toDigits _)
  have hdigits : (Nat.toDigits 10 (utf8Bytes m.body).length).all
      (fun c => (Reader.toDigit 10 c).isSome) = true :=
    List.all_eq_true.mpr (isSome_toDigit_of_mem_toDigits (by decide))
  have hcheck : eqIgnoreAsciiCase (contentLengthField m.body).1 "Content-Length".toList = true ∧
      (contentLengthField m.body).2 ≠ [] ∧
        (contentLengthField m.body).2.all (fun c => (Reader.toDigit 10 c).isSome) = true :=
    ⟨eqIgnoreAsciiCase_refl _, Nat.toDigits_ne_nil, hdigits⟩
  have hvalue : digitsValue 10 (contentLengthField m.body).2 = (utf8Bytes m.body).length :=
    digitsValue_toDigits (by decide) _
  rw [bodyLength, filter_isFraming_map_asRead, h.framing, List.map_singleton, hread]
  exact (if_pos hcheck).trans (congrArg some hvalue)

/-- A message is read back, and nothing of what follows it. -/
theorem readMessage_writeMessage (h : IsMessage headerOnly m) (rest : List Char) :
    readMessage headerOnly (writeMessage m ++ rest) = some (m.asRead, rest) := by
  obtain ⟨status, hstatus, hbody⟩ := h.status
  have hwrite : writeMessage m ++ rest =
      m.start ++ crlf ++ (writeBlock m.fields ++ (m.body ++ rest)) := by
    simp [writeMessage]
  rw [readMessage, hwrite, readLine_append_crlf h.start]
  change (statusOf m.start).bind _ = _
  rw [hstatus]
  change (readBlock [] (writeBlock m.fields ++ _)).bind _ = _
  rw [readBlock_writeBlock h.fields]
  change (if hasBody headerOnly status then _ else _) = _
  rw [if_pos hbody]
  change (bodyLength (m.fields.map Field.asRead)).bind _ = _
  rw [bodyLength_of_isMessage h]
  change (splitAtByte (m.body ++ rest) _).bind _ = _
  rw [splitAtByte_append_length]
  rfl

/-- **Messages on one connection** are read back one by one. -/
theorem readMessages_writeMessages {answers : List (Bool × Message)}
    (h : ∀ answer ∈ answers, IsMessage answer.1 answer.2) (rest : List Char) :
    readMessages (answers.map (·.1))
        (answers.flatMap (fun answer => writeMessage answer.2) ++ rest) =
      some (answers.map fun answer => answer.2.asRead, rest) := by
  induction answers with
  | nil => rfl
  | cons answer answers ih =>
    have hmessage := h answer List.mem_cons_self
    have hanswers := ih fun answer' hmem => h answer' (List.mem_cons_of_mem _ hmem)
    rw [List.map_cons, readMessages, List.flatMap_cons, List.append_assoc,
      readMessage_writeMessage hmessage]
    change (readMessages (answers.map (·.1)) _).bind _ = _
    rw [hanswers]
    rfl

end HeaderBlock

import CrowdSecBouncer.Foundations.Armour

/-!
# Texts in buffers of fixed capacity

A buffer of fixed capacity holds bytes at its front, with their number beside it. A text that is
written to one is cut at a number of bytes, which may lie inside a character; what is read back
is the text itself when its bytes fit, and no text with as many bytes in any other case
(`fromUtf8_front_copyFront_eq_some_iff`).
-/

namespace Text

/-- A zeroed buffer with bytes copied to its front. -/
def copyFront (cap : ℕ) (bytes : List UInt8) : Vector UInt8 cap :=
  Vector.ofFn fun i => bytes.getD i 0

/-- The first bytes of a buffer. -/
def front {cap : ℕ} (buf : Vector UInt8 cap) (len : ℕ) : List UInt8 := buf.toList.take len

variable {cap limit : ℕ} {cs : List Char}

theorem length_front (buf : Vector UInt8 cap) (len : ℕ) : (front buf len).length = min len cap := by
  rw [front, List.length_take, Vector.length_toList]

/-- What was copied to the front is there. -/
theorem front_copyFront {bytes : List UInt8} (h : bytes.length ≤ cap) :
    front (copyFront cap bytes) bytes.length = bytes := by
  refine List.ext_getElem (by rw [length_front, Nat.min_eq_left h]) fun i hi hi' => ?_
  simp [front, copyFront, List.getElem?_eq_getElem hi']

/-- The same for bytes that were cut at a limit. -/
theorem front_copyFront_take (bytes : List UInt8) (h : limit ≤ cap) :
    front (copyFront cap (bytes.take (min bytes.length limit))) (min bytes.length limit) =
      bytes.take limit := by
  have hlength : (bytes.take limit).length = min bytes.length limit := by
    rw [List.length_take, Nat.min_comm]
  have htake : bytes.take (min bytes.length limit) = bytes.take limit := by
    rw [Nat.min_comm, ← List.take_eq_take_min]
  rw [htake, ← hlength]
  exact front_copyFront (by rw [hlength]; exact (Nat.min_le_right ..).trans h)

/-- What is left of a cut text has no more bytes than the cut leaves. -/
theorem length_utf8Bytes_le_of_fromUtf8_take {bytes : List UInt8}
    (h : fromUtf8 (bytes.take limit) = some cs) : (utf8Bytes cs).length ≤ limit := by
  rw [← fromUtf8_eq_some_iff.mp h]
  exact List.length_take_le ..

/-- A text survives the cut exactly when its bytes fit. -/
theorem fromUtf8_take_eq_some_iff :
    fromUtf8 ((utf8Bytes cs).take limit) = some cs ↔ (utf8Bytes cs).length ≤ limit := by
  refine ⟨length_utf8Bytes_le_of_fromUtf8_take, fun h => ?_⟩
  rw [List.take_of_length_le h, fromUtf8_utf8Bytes]

/-- **A text is read back from a buffer** exactly when its bytes are within the limit. -/
theorem fromUtf8_front_copyFront_eq_some_iff (h : limit ≤ cap) :
    fromUtf8 (front (copyFront cap ((utf8Bytes cs).take (min (utf8Bytes cs).length limit)))
      (min (utf8Bytes cs).length limit)) = some cs ↔ (utf8Bytes cs).length ≤ limit := by
  rw [front_copyFront_take _ h, fromUtf8_take_eq_some_iff]

end Text

import Mathlib.Data.Finset.Card
import Mathlib.Data.Fintype.Basic
import Mathlib.Logic.Function.Basic
import Mathlib.Tactic.Common

/-!
# A reader-writer lock in one word

The lock word is `0` when free, `n` while `n` readers hold the lock and `-1` while a writer
does. Unlocking turns `-1` into `0` and otherwise subtracts one, without knowing who unlocks.

`Exact` says that the word tells the truth about the holders. Every acquisition and release
by a party that follows the rules keeps it; overwriting the word by `0` keeps it exactly when
nobody holds the lock (`exact_zero_iff`).
-/

namespace RwLock

/-- What a party holds. -/
inductive Mode
  | free
  | read
  | write
  deriving DecidableEq, Repr

/-- The unlock operation on the word. -/
def unlock (word : ℤ) : ℤ := if word = -1 then 0 else word - 1

variable {ι : Type*} [Fintype ι] [DecidableEq ι]

/-- The number of parties that hold the lock for reading. -/
def readers (mode : ι → Mode) : ℕ := (Finset.univ.filter fun i => mode i = .read).card

/-- The word is the number of readers and there is no writer, or it is `-1` and the lock has
one holder, a writer. -/
def Exact (word : ℤ) (mode : ι → Mode) : Prop :=
  (word = readers mode ∧ ∀ i, mode i ≠ .write) ∨
    (word = -1 ∧ ∃ i, mode i = .write ∧ ∀ j, j ≠ i → mode j = .free)

variable {word : ℤ} {mode : ι → Mode} {i : ι}

omit [Fintype ι] in
private theorem update_ne_write {m : Mode} (hm : m ≠ .write) (h : ∀ j, mode j ≠ .write) :
    ∀ j, Function.update mode i m j ≠ .write := by
  intro j
  rcases eq_or_ne j i with rfl | hne
  · rwa [Function.update_self]
  · rw [Function.update_of_ne hne]
    exact h j

theorem readers_update_read (h : mode i ≠ .read) :
    readers (Function.update mode i .read) = readers mode + 1 := by
  have hfilter : (Finset.univ.filter fun j => Function.update mode i .read j = .read) =
      insert i (Finset.univ.filter fun j => mode j = .read) := by
    ext j
    rcases eq_or_ne j i with rfl | hne
    · simp
    · simp [hne]
  rw [readers, hfilter, Finset.card_insert_of_notMem (by simpa using h), readers]

theorem readers_update_free (h : mode i = .read) :
    readers (Function.update mode i .free) + 1 = readers mode := by
  have hback : Function.update (Function.update mode i .free) i .read = mode := by
    rw [Function.update_idem, ← h, Function.update_eq_self]
  have hcount : readers (Function.update (Function.update mode i .free) i .read) =
      readers (Function.update mode i .free) + 1 :=
    readers_update_read (by rw [Function.update_self]; decide)
  rw [hback] at hcount
  exact hcount.symm

omit [DecidableEq ι] in
theorem readers_eq_zero_iff : readers mode = 0 ↔ ∀ i, mode i ≠ .read := by
  rw [readers, Finset.card_eq_zero, Finset.filter_eq_empty_iff]
  exact ⟨fun h i => h (Finset.mem_univ i), fun h i _ => h i⟩

namespace Exact

/-- A reader is let in unless a writer holds the lock. -/
theorem lockRead (h : Exact word mode) (hi : mode i = .free) (hword : word ≠ -1) :
    Exact (word + 1) (Function.update mode i .read) := by
  rcases h with ⟨hcount, hnone⟩ | ⟨hword', -⟩
  · refine .inl ⟨?_, update_ne_write (by decide) hnone⟩
    rw [readers_update_read (by rw [hi]; decide), hcount]
    rfl
  · exact absurd hword' hword

/-- A writer is let in when the word is zero. -/
theorem lockWrite (h : Exact word mode) (hword : word = 0) :
    Exact (-1) (Function.update mode i .write) := by
  rcases h with ⟨hcount, hnone⟩ | ⟨hword', -⟩
  · have hzero : readers mode = 0 := by
      rw [hword] at hcount
      exact_mod_cast hcount.symm
    refine .inr ⟨rfl, i, Function.update_self .., fun j hj => ?_⟩
    rw [Function.update_of_ne hj]
    have hread := readers_eq_zero_iff.mp hzero j
    have hwrite := hnone j
    cases hmode : mode j with
    | free => rfl
    | read => exact absurd hmode hread
    | write => exact absurd hmode hwrite
  · omega

/-- A holder unlocks. -/
theorem unlock (h : Exact word mode) (hi : mode i ≠ .free) :
    Exact (RwLock.unlock word) (Function.update mode i .free) := by
  rcases h with ⟨hcount, hnone⟩ | ⟨rfl, j, hj, hrest⟩
  · have hread : mode i = .read := by
      cases hmode : mode i with
      | free => exact absurd hmode hi
      | read => rfl
      | write => exact absurd hmode (hnone i)
    have hcard := readers_update_free hread
    refine .inl ⟨?_, update_ne_write (by decide) hnone⟩
    rw [RwLock.unlock, if_neg (by omega)]
    omega
  · -- the writer is the only holder
    obtain rfl : i = j := by
      by_contra hne
      exact hi (hrest i hne)
    have hfree : ∀ k, Function.update mode i .free k = .free := by
      intro k
      rcases eq_or_ne k i with rfl | hne
      · rw [Function.update_self]
      · rw [Function.update_of_ne hne, hrest k hne]
    refine .inl ⟨?_, fun k => by rw [hfree k]; decide⟩
    rw [RwLock.unlock, if_pos rfl, readers_eq_zero_iff.mpr fun k => by rw [hfree k]; decide]
    rfl

end Exact

omit [DecidableEq ι] in
/-- **Overwriting the word by zero** is right exactly when nobody holds the lock. -/
theorem exact_zero_iff : Exact 0 mode ↔ ∀ i, mode i = .free := by
  constructor
  · rintro (⟨hcount, hnone⟩ | ⟨hword, -⟩) i
    · have hread := readers_eq_zero_iff.mp (by exact_mod_cast hcount.symm) i
      cases hmode : mode i with
      | free => rfl
      | read => exact absurd hmode hread
      | write => exact absurd hmode (hnone i)
    · omega
  · intro h
    refine .inl ⟨?_, fun i => by rw [h i]; decide⟩
    rw [readers_eq_zero_iff.mpr fun i => by rw [h i]; decide]
    rfl

omit [DecidableEq ι] in
/-- The word is back at zero once nobody holds the lock. -/
theorem Exact.eq_zero (h : Exact word mode) (hfree : ∀ i, mode i = .free) : word = 0 := by
  rcases h with ⟨hcount, -⟩ | ⟨-, i, hi, -⟩
  · rw [hcount, readers_eq_zero_iff.mpr fun i => by rw [hfree i]; decide]
    rfl
  · rw [hfree i] at hi
    exact absurd hi (by decide)

end RwLock

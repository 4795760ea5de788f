import Mathlib.Order.WithBot
import Mathlib.Tactic.Common

/-!
# Deadlines as a lattice

A `Deadline T` over a linear order of times is `⊥` (nothing is scheduled), a time, or `⊤`
(no limit). It is *active* at `t` when `t` comes strictly before it. Merging two deadlines
is `⊔`: the later one wins and the unlimited one dominates (`active_sup`).

Lazy expiry drops a deadline once it has passed. Two deadlines that no later observation
can tell apart are *equal from* a time on (`EqFrom`); dropping a passed deadline, merging
and letting time pass all respect this relation.
-/

/-- A deadline: `⊥` for none, a time, or `⊤` for no limit. -/
abbrev Deadline (T : Type*) := WithBot (WithTop T)

namespace Deadline

variable {T : Type*} [LinearOrder T] {t t' : T} {a a' b b' : Deadline T}

/-- The deadline at the time `t`. -/
def at' (t : T) : Deadline T := ((t : WithTop T) : WithBot (WithTop T))

/-- A deadline is active at the times strictly before it. -/
def Active (t : T) (d : Deadline T) : Prop := at' t < d

@[simp] theorem not_active_bot : ¬ Active t (⊥ : Deadline T) := not_lt_bot

@[simp] theorem active_top : Active t (⊤ : Deadline T) :=
  WithBot.coe_lt_coe.mpr (WithTop.coe_lt_top t)

@[simp] theorem active_at' : Active t (at' t') ↔ t < t' := by
  rw [Active, at', at', WithBot.coe_lt_coe, WithTop.coe_lt_coe]

/-- A merged deadline is active as long as one of the two is. -/
theorem active_sup : Active t (a ⊔ b) ↔ Active t a ∨ Active t b := lt_sup_iff

/-- A deadline that is active now was active before. -/
theorem Active.of_le (h : Active t' a) (ht : t ≤ t') : Active t a :=
  lt_of_le_of_lt (WithBot.coe_le_coe.mpr (WithTop.coe_le_coe.mpr ht)) h

/-- No observation at or after `t` tells the two deadlines apart. -/
def EqFrom (t : T) (a b : Deadline T) : Prop :=
  ∀ t', t ≤ t' → (Active t' a ↔ Active t' b)

@[refl] theorem EqFrom.refl (t : T) (a : Deadline T) : EqFrom t a a := fun _ _ => Iff.rfl

theorem EqFrom.symm (h : EqFrom t a b) : EqFrom t b a := fun t' ht => (h t' ht).symm

theorem EqFrom.trans {c : Deadline T} (h : EqFrom t a b) (h' : EqFrom t b c) : EqFrom t a c :=
  fun t' ht => (h t' ht).trans (h' t' ht)

/-- Time passing only weakens the relation. -/
theorem EqFrom.mono (h : EqFrom t a b) (ht : t ≤ t') : EqFrom t' a b :=
  fun s hs => h s (ht.trans hs)

/-- Merging respects equality from a time on. -/
theorem EqFrom.sup (h : EqFrom t a a') (h' : EqFrom t b b') : EqFrom t (a ⊔ b) (a' ⊔ b') := by
  intro s hs
  rw [active_sup, active_sup, h s hs, h' s hs]

/-- Of two deadlines that are equal from a time on, one that is still ahead is the other. -/
theorem EqFrom.eq_of_active (h : EqFrom t a b) (ha : Active t a) : a = b := by
  have hb : Active t b := (h t le_rfl).mp ha
  -- the smaller one would be passed when the greater one is not
  have hle : ∀ a b : Deadline T, EqFrom t a b → Active t a → b ≤ a := by
    intro a b hab hact
    refine le_of_not_gt fun hlt => ?_
    induction a using WithBot.recBotCoe with
    | bot => exact not_active_bot hact
    | coe a =>
      induction a using WithTop.recTopCoe with
      | top => exact not_top_lt hlt
      | coe s =>
        have hts : t < s := active_at'.mp hact
        have hpassed : Active s (at' s) := (hab s hts.le).mpr hlt
        exact lt_irrefl s (active_at'.mp hpassed)
  exact le_antisymm (hle b a h.symm hb) (hle a b h ha)

/-- A deadline that has passed at `t` is as good as none from `t` on. -/
theorem eqFrom_bot_of_not_active (h : ¬ Active t a) : EqFrom t a ⊥ := by
  intro s hs
  exact iff_of_false (fun hact => h (hact.of_le hs)) not_active_bot

end Deadline

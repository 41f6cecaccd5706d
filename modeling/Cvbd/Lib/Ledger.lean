import Mathlib.Tactic.ByContra

/-!
Conservation of tokens. A balanced ledger counts one token for each key that
some holder owns and none for any other key; the rules say what a move, an issue
and a redemption of one token do to it.
-/

namespace Cvbd

variable {Key Holder : Type} [DecidableEq Key]

structure Balanced (count : Key → Nat) (owns : Key → Holder → Prop) : Prop where
  owned : ∀ key holder, owns key holder → count key = 1
  free : ∀ key, (∀ holder, ¬owns key holder) → count key = 0

namespace Balanced

variable {count after : Key → Nat} {owns ownsAfter : Key → Holder → Prop}

omit [DecidableEq Key] in
/-- A counted token has an owner. -/
theorem owner (balanced : Balanced count owns) {key : Key} (present : 0 < count key) :
    ∃ holder, owns key holder := by
  by_contra none
  have absent := balanced.free key fun holder held => none ⟨holder, held⟩
  omega

omit [DecidableEq Key] in
/-- Moving tokens between places changes nothing. -/
theorem move (balanced : Balanced count owns) (counts : ∀ key, after key = count key)
    (owners : ∀ key holder, ownsAfter key holder ↔ owns key holder) : Balanced after ownsAfter where
  owned := by
    intro key holder held
    rw [counts]
    exact balanced.owned key holder ((owners key holder).mp held)
  free := by
    intro key none
    rw [counts]
    exact balanced.free key fun holder held => none holder ((owners key holder).mpr held)

/-- A token is issued for a key that nobody owns. -/
theorem issue (balanced : Balanced count owns) (issued : Key) (receiver : Holder)
    (unowned : ∀ holder, ¬owns issued holder)
    (counts : ∀ key, after key = count key + if key = issued then 1 else 0)
    (owners : ∀ key holder, ownsAfter key holder ↔
      owns key holder ∨ key = issued ∧ holder = receiver) : Balanced after ownsAfter where
  owned := by
    intro key holder held
    rw [counts]
    rcases (owners key holder).mp held with old | ⟨rfl, _⟩
    · have different : key ≠ issued := fun same => unowned holder (same ▸ old)
      simp [different, balanced.owned key holder old]
    · simp [balanced.free key unowned]
  free := by
    intro key none
    have different : key ≠ issued := fun same =>
      none receiver ((owners key receiver).mpr (Or.inr ⟨same, rfl⟩))
    rw [counts, balanced.free key fun holder held =>
      none holder ((owners key holder).mpr (Or.inl held))]
    simp [different]

/-- The token of a key is redeemed by its only owner. -/
theorem redeem (balanced : Balanced count owns) (redeemed : Key) (redeemer : Holder)
    (held : owns redeemed redeemer) (only : ∀ holder, owns redeemed holder → holder = redeemer)
    (counts : ∀ key, after key + (if key = redeemed then 1 else 0) = count key)
    (owners : ∀ key holder, ownsAfter key holder ↔
      owns key holder ∧ ¬(key = redeemed ∧ holder = redeemer)) : Balanced after ownsAfter where
  owned := by
    intro key holder heldAfter
    obtain ⟨old, notRedeemed⟩ := (owners key holder).mp heldAfter
    have different : key ≠ redeemed := by
      rintro rfl
      exact notRedeemed ⟨rfl, only holder old⟩
    have same := counts key
    simp only [different, if_false, Nat.add_zero] at same
    rw [same]
    exact balanced.owned key holder old
  free := by
    intro key none
    have same := counts key
    by_cases equal : key = redeemed
    · subst equal
      have one := balanced.owned key redeemer held
      simp only [if_true] at same
      omega
    · simp only [equal, if_false, Nat.add_zero] at same
      rw [same]
      refine balanced.free key fun holder old => none holder ((owners key holder).mpr ⟨old, ?_⟩)
      exact fun redemption => equal redemption.1

end Balanced

end Cvbd

import Mathlib.Algebra.Group.Nat.Defs
import PickupGame.Proofs.Numeral.Reading
import PickupGame.Proofs.Settings.Validation
import PickupGame.Proofs.Text.Blank

/-!
# Timeouts

A timeout is accepted just if it spells a positive number of 64 bits, white space around it apart.
Any other text is refused for a reason that is decided from the left, and is named as it was given.
-/

namespace PickupGame

theorem Numeral.Fault.message_inj {e e' : Numeral.Fault} : e.message = e'.message ↔ e = e' := by
  cases e <;> cases e' <;> decide

namespace Settings

open Numeral (Spells readNat maxU64)

/-- A timeout that is refused for a reason. -/
def refusedTimeout (value reason : String) : Except Fault UInt64 :=
  .error (.invalidValue "timeout_seconds" value reason)

theorem refusedTimeout_inj {value reason reason' : String} :
    refusedTimeout value reason = refusedTimeout value reason' ↔ reason = reason' := by
  simp [refusedTimeout]

theorem message_ne_positive (e : Numeral.Fault) : e.message ≠ "timeout must be positive" := by
  cases e <;> decide

section Reasons

variable {value : String}

theorem validateTimeout_eq_zero :
    validateTimeout value = refusedTimeout value "timeout must be positive" ↔
      readNat maxU64 (Text.trim value.toList) = .ok 0 := by
  unfold validateTimeout
  split
  · rename_i hread
    exact iff_of_true rfl hread
  · rename_i m hzero hread
    rw [hread]
    exact iff_of_false nofun fun h => hzero (Except.ok.inj h)
  · rename_i e hread
    rw [hread]
    exact iff_of_false (fun h => message_ne_positive e (refusedTimeout_inj.1 h)) nofun

theorem validateTimeout_eq_refused (e : Numeral.Fault) :
    validateTimeout value = refusedTimeout value e.message ↔
      readNat maxU64 (Text.trim value.toList) = .error e := by
  unfold validateTimeout
  split
  · rename_i hread
    rw [hread]
    exact iff_of_false (fun h => message_ne_positive e (refusedTimeout_inj.1 h).symm) nofun
  · rename_i m hzero hread
    rw [hread]
    exact iff_of_false nofun nofun
  · rename_i e' hread
    rw [hread, Except.error.injEq, ← Numeral.Fault.message_inj]
    exact refusedTimeout_inj

theorem validateTimeout_cases (value : String) :
    (∃ n, validateTimeout value = .ok n) ∨
      ∃ reason, validateTimeout value = refusedTimeout value reason := by
  unfold validateTimeout
  split
  · exact .inr ⟨_, rfl⟩
  · exact .inl ⟨_, rfl⟩
  · exact .inr ⟨_, rfl⟩

end Reasons

/-- What becomes of a timeout, `core` being the text without the white space at its ends. -/
structure TimeoutJudged (value : String) (core : List Char) (o : Except Fault UInt64) : Prop where
  accepted : ∀ n : Nat, (∃ seconds : UInt64, o = .ok seconds ∧ seconds.toNat = n) ↔
    Spells core n ∧ 1 ≤ n ∧ n ≤ 2 ^ 64 - 1
  refused : (∃ seconds, o = .ok seconds) ∨ ∃ reason, o = refusedTimeout value reason
  empty : o = refusedTimeout value "cannot parse integer from empty string" ↔ core = []
  /-- Digits in front are enough for this, whatever stands behind them. -/
  tooLarge : o = refusedTimeout value "number too large to fit in target type" ↔
    ∃ front n, front <+: core ∧ Spells front n ∧ 2 ^ 64 - 1 < n
  zero : o = refusedTimeout value "timeout must be positive" ↔ Spells core 0
  /-- This is said in every other case. -/
  invalidDigit : o = refusedTimeout value "invalid digit found in string" ↔
    core ≠ [] ∧ (¬ ∃ n, Spells core n) ∧
      ¬ ∃ front n, front <+: core ∧ Spells front n ∧ 2 ^ 64 - 1 < n

/-- A text has one part without white space at its ends, and this decides whether the text is
accepted as a timeout and, if it is not, what is wrong with it. -/
theorem judged_validateTimeout (value : String) :
    ∃ core, (∀ cs, Text.Stripped value.toList cs ↔ cs = core) ∧
      TimeoutJudged value core (validateTimeout value) := by
  refine ⟨Text.trim value.toList, fun cs => Text.stripped_iff, ?_⟩
  constructor
  case accepted =>
    intro n
    simp only [validateTimeout_eq_ok, Numeral.readNat_eq_ok]
    constructor
    · rintro ⟨seconds, ⟨⟨hspelled, hle⟩, hone⟩, rfl⟩
      exact ⟨hspelled, hone, hle⟩
    · rintro ⟨hspelled, hone, hle⟩
      have hvalue : (UInt64.ofNat n).toNat = n := UInt64.toNat_ofNat_of_lt' (Nat.lt_succ_of_le hle)
      refine ⟨UInt64.ofNat n, ?_, hvalue⟩
      rw [hvalue]
      exact ⟨⟨hspelled, hle⟩, hone⟩
  case refused => exact validateTimeout_cases value
  case empty => exact (validateTimeout_eq_refused .empty).trans Numeral.readNat_eq_empty
  case tooLarge => exact (validateTimeout_eq_refused .tooLarge).trans Numeral.readNat_eq_tooLarge
  case zero =>
    rw [validateTimeout_eq_zero, Numeral.readNat_eq_ok]
    exact and_iff_left (Nat.zero_le maxU64)
  case invalidDigit =>
    exact (validateTimeout_eq_refused .invalidDigit).trans Numeral.readNat_eq_invalidDigit

example : validateTimeout "\u2003+007\n" = .ok 7 := by decide +kernel

-- The number is too large before the letter is reached, and is not where a letter comes first.
example : validateTimeout "18446744073709551616s" =
    refusedTimeout "18446744073709551616s" "number too large to fit in target type" := by
  decide +kernel

example : validateTimeout "1844674407370955161s6" =
    refusedTimeout "1844674407370955161s6" "invalid digit found in string" := by
  decide +kernel

end Settings

end PickupGame

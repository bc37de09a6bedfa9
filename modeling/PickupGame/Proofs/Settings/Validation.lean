import PickupGame.Proofs.Numeral.Decimal
import PickupGame.Proofs.Url.Base
import PickupGame.Settings.Config

/-!
# What validation accepts

An accepted address keeps its scheme when the slashes at its end are taken away, unless nothing but
slashes follows the scheme. An accepted timeout is positive.
-/

namespace PickupGame.Settings

/-! ## Addresses -/

theorem validateUrl_eq_ok {url : String} :
    validateUrl url = .ok () ↔ ∃ scheme ∈ urlSchemes, scheme <+: url.toList := by
  have hany : urlSchemes.any (·.isPrefixOf url.toList) = true ↔
      ∃ scheme ∈ urlSchemes, scheme <+: url.toList := by
    simp only [List.any_eq_true, List.isPrefixOf_iff_prefix]
  rw [← hany]
  unfold validateUrl
  split
  · rename_i hempty
    subst hempty
    decide +kernel
  · split
    · rename_i h
      simp [h]
    · rename_i h
      simp [h]

/-- A scheme and slashes behind it. -/
def IsBare (url : String) : Prop :=
  ∃ scheme ∈ urlSchemes, ∃ n, url.toList = scheme ++ List.replicate n '/'

/-- An accepted address remains one without the slashes at its end if it is not bare. -/
theorem validateUrl_trimSlashes {url : String} (h : validateUrl url = .ok ()) :
    validateUrl (Url.trimSlashes url) = .ok () ↔ ¬ IsBare url := by
  constructor
  · rintro hvalid ⟨scheme, hscheme, n, hurl⟩
    rw [Url.trimSlashes, hurl, Url.withoutSlashes_append_replicate] at hvalid
    simp only [urlSchemes, List.mem_cons, List.not_mem_nil, or_false] at hscheme
    rcases hscheme with rfl | rfl
    · exact absurd hvalid (by decide +kernel)
    · exact absurd hvalid (by decide +kernel)
  · intro hbare
    obtain ⟨scheme, hscheme, rest, hurl⟩ := validateUrl_eq_ok.1 h
    have hrest : Url.withoutSlashes rest ≠ [] := by
      intro hnil
      have hslashes : ∀ c ∈ rest, c = '/' := by
        simpa using List.rdropWhile_eq_nil_iff.1 hnil
      exact hbare ⟨scheme, hscheme, rest.length, by
        rw [← hurl, ← List.eq_replicate_of_mem hslashes]⟩
    refine validateUrl_eq_ok.2 ⟨scheme, hscheme, ?_⟩
    rw [Url.trimSlashes, String.toList_ofList, ← hurl, Url.withoutSlashes_append_of_ne_nil hrest]
    exact List.prefix_append scheme _

/-! ## Timeouts -/

section Timeouts

variable {value : String}

/-- A timeout is the positive number that is read, which fits. -/
theorem validateTimeout_eq_ok {n : UInt64} :
    validateTimeout value = .ok n ↔
      Numeral.readNat Numeral.maxU64 (Text.trim value.toList) = .ok n.toNat ∧ 1 ≤ n.toNat := by
  unfold validateTimeout
  split
  · rename_i hread
    rw [hread]
    constructor
    · nofun
    · rintro ⟨hzero, hone⟩
      have hzero := Except.ok.inj hzero
      omega
  · rename_i m hzero hread
    have hlt : m < 2 ^ 64 := Nat.lt_succ_of_le (Numeral.le_of_readNat hread)
    have hm : m ≠ 0 := hzero
    have hvalue : (UInt64.ofNat m).toNat = m := UInt64.toNat_ofNat_of_lt' hlt
    rw [hread, Except.ok.injEq, Except.ok.injEq, ← UInt64.toNat_inj, hvalue]
    omega
  · rename_i hread
    rw [hread]
    constructor
    · nofun
    · rintro ⟨⟨⟩, -⟩

theorem one_le_of_validateTimeout {n : UInt64} (h : validateTimeout value = .ok n) : 1 ≤ n.toNat :=
  (validateTimeout_eq_ok.1 h).2

end Timeouts

end PickupGame.Settings

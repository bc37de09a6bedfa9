import PickupGame.Machine
import PickupGame.Proofs.Api.Outcome
import PickupGame.Proofs.Json.Layout
import PickupGame.Session

/-!
# What is shown can be read again

An envelope is shown as JSON over several lines where the run asks for it, and below a headline where
its payload does not fit its code. Read as a body, that text is the same envelope, unless it has a
double in it.
-/

namespace PickupGame

open Api (Envelope ResponseCode)

namespace Api.Envelope

theorem ofMembers_of_eq_ok {data : Json.Members} {endpoint : String} {e : Envelope}
    (h : ofMembers data endpoint = .ok e) (again : String) : ofMembers data again = .ok e := by
  unfold ofMembers at h ⊢
  split at h
  · exact h
  · split at h
    · cases h
    · split at h
      · exact h
      · cases h

variable {body endpoint : String} {e : Envelope}

/-- The data of an envelope over several lines is a body of the envelope, for whatever endpoint. -/
theorem ofBody_pretty (h : ofBody body endpoint = .ok e) (hintegral : e.raw.Integral)
    (again : String) : ofBody e.raw.pretty again = .ok e := by
  obtain ⟨hparse, hmembers⟩ := parse_of_ofBody h
  have hnone : ∀ c ∈ ([] : List Char), Json.isSpace c = true := nofun
  have hread : Json.parse e.raw.pretty = .ok (.object e.data) := by
    have hindented := Json.parse_indented (Json.nested_of_parse hparse) hintegral hnone
    rwa [List.append_nil] at hindented
  rw [ofBody, hread]
  exact ofMembers_of_eq_ok hmembers again

end Api.Envelope

theorem Display.newline_notMem_headline (e : Envelope) : '\n' ∉ (headline e).toList := by
  have hdisplay (c : ResponseCode) : '\n' ∉ ("Response: " ++ c.display).toList := by
    cases c <;> decide +kernel
  exact hdisplay e.code

namespace Session

variable {body endpoint : String} {e : Envelope}

/-- An envelope without doubles that was read from a body is shown so that it can be read again:
the whole text is a body of it in a run that asks for JSON, and what stands below the headline is
one where its payload does not fit its code. -/
theorem ofBody_render [Display.Screen] (h : Envelope.ofBody body endpoint = .ok e) (hintegral : e.raw.Integral)
    (again : String) :
    (∀ s : Session, s.json = true → Envelope.ofBody (s.render e).1 again = .ok e) ∧
      ∀ f, e.payload = .error f → ∃ text,
        (Display.result e).1 = Display.headline e ++ "\n" ++ text ∧
          '\n' ∉ (Display.headline e).toList ∧ Envelope.ofBody text again = .ok e := by
  have hpretty := Envelope.ofBody_pretty h hintegral again
  refine ⟨fun s hjson => ?_, fun f hf => ?_⟩
  · rwa [render, if_pos hjson]
  · refine ⟨e.raw.pretty, ?_, Display.newline_notMem_headline e, hpretty⟩
    rw [Display.result, hf]

/-- The least and the greatest integer, escapes in a key and in a text, and an answer without the
listing that its code calls for. -/
theorem ofBody_render_unlisted :
    letI := machine
    let body := "\x7b\"response\":1000,\"\\u00e9\":[-9223372036854775808,18446744073709551615,
      \x7b\"a\\n\":\"\\ud83d\\ude00\\/\\\"\",\"\":[]\x7d]\x7d"
    let e : Envelope := ⟨.pugListing, [("response", .ofUInt64 1000),
      ("é", .array [.number (.integer (-9223372036854775808) (by decide) (by decide)),
        .number (.integer 18446744073709551615 (by decide) (by decide)),
        .object [("", .array []), ("a\n", .string "😀/\"")]])]⟩
    let s : Session := ⟨.empty, none, "default", some "k", none, true⟩
    Envelope.ofBody body "ITF2Pug/List/" = .ok e ∧
      Envelope.ofBody (s.render e).1 "ITF2Pug/Status/" = .ok e ∧
      ∃ text, (Display.result e).1 = Display.headline e ++ "\n" ++ text ∧
        '\n' ∉ (Display.headline e).toList ∧ Envelope.ofBody text "ITF2Pug/Status/" = .ok e := by
  let := machine
  intro body e s
  have hread : Envelope.ofBody body "ITF2Pug/List/" = .ok e := by
    unfold body
    rfl
  have hintegral : e.raw.Integral := by simp [e, Envelope.raw, Json.Value.ofUInt64]
  have hshown := ofBody_render hread hintegral "ITF2Pug/Status/"
  exact ⟨hread, hshown.1 s rfl, hshown.2 (.payload "PugListing" "missing 'pugs'") rfl⟩

end Session

end PickupGame

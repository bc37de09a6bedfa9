import PickupGame.CommandLine.Layout

/-!
# Command lines and the environment

What a command line says does not depend on the environment. That gives values to options that are
not given, and decides how a command line without a command is reported.
-/

namespace PickupGame.CommandLine

theorem parseTopic_congr {env : Environment} {t : Topic} {args : List String}
    {r : Command × List Found} (h : parseTopic env t args = .ok r) (env' : Environment) :
    parseTopic env' t args = .ok r := by
  unfold parseTopic at h ⊢
  cases hscan : (topicLevel t).scan .empty args with
  | error e =>
    rw [hscan] at h
    cases h
  | ok scanned =>
    obtain ⟨f, next⟩ := scanned
    rw [hscan] at h
    cases next with
    | some next => exact h
    | none =>
      simp only [bind, Except.bind] at h
      cases hflush : f.flush <;> rw [hflush] at h <;> cases h

theorem parseProgram_congr {env : Environment} {args : List String} {r : Command × List Found}
    (h : parseProgram env args = .ok r) (env' : Environment) :
    parseProgram env' args = .ok r := by
  unfold parseProgram at h ⊢
  cases hscan : programLevel.scan .empty args with
  | error e =>
    rw [hscan] at h
    cases h
  | ok scanned =>
    obtain ⟨f, next⟩ := scanned
    rw [hscan] at h
    cases next with
    | some next =>
      obtain ⟨t, rest⟩ := next
      simp only [bind, Except.bind] at h ⊢
      cases htopic : parseTopic env t rest with
      | error e =>
        rw [htopic] at h
        cases h
      | ok found =>
        rw [htopic] at h
        rw [parseTopic_congr htopic env']
        exact h
    | none =>
      simp only [bind, Except.bind] at h
      cases hflush : f.flush <;> rw [hflush] at h <;> cases h

/-- An environment without variables. -/
def Environment.bare : Environment := ⟨[]⟩

theorem value?_bare (o : Opt) : Environment.bare.value? o = none := by
  unfold Environment.value?
  cases o.environmentName? <;> rfl

theorem optionText_eq (env : Environment) (found : List Found) (o : Opt) :
    optionText env found o = (optionText .bare found o).or (env.value? o) := by
  rw [optionText, optionText, value?_bare, Option.or_none]

theorem ofFound_eq (env : Environment) (found : List Found) :
    Options.ofFound env found = (Options.ofFound .bare found).within env := by
  have hunnamed {o : Opt} (h : o.environmentName? = none) :
      optionText env found o = optionText .bare found o := by
    rw [optionText_eq, Environment.value?, h, Option.or_none]
  unfold Options.ofFound Options.within
  rw [hunnamed (o := .profile) rfl, hunnamed (o := .configDir) rfl, optionText_eq env found .apiKey,
    optionText_eq env found .url]

/-- A command line is read in an environment just if it is read without one, and then values are
given to options that have none. -/
theorem parse_eq_ok_iff {env : Environment} {args : List String} {i : Invocation} :
    parse env args = .ok i ↔ ∃ i', parse .bare args = .ok i' ∧ i = i'.within env := by
  unfold parse
  constructor
  · intro h
    cases hprogram : parseProgram env args with
    | error e =>
      rw [hprogram] at h
      cases h
    | ok r =>
      obtain ⟨command, found⟩ := r
      rw [hprogram] at h
      cases h
      rw [parseProgram_congr hprogram .bare]
      exact ⟨_, rfl, by rw [Invocation.within, ofFound_eq]⟩
  · rintro ⟨i', h, rfl⟩
    cases hprogram : parseProgram .bare args with
    | error e =>
      rw [hprogram] at h
      cases h
    | ok r =>
      obtain ⟨command, found⟩ := r
      rw [hprogram] at h
      cases h
      rw [parseProgram_congr hprogram env]
      simp only [Invocation.within, ofFound_eq env]

end PickupGame.CommandLine

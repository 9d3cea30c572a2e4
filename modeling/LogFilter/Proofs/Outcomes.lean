/-!
# Outcomes

What is computed in steps has a result exactly if every step has one. So a record that is read field
by field, or settings that are taken section by section, are understood from their parts.

## Main results

* `bind_eq_ok_iff`: two steps have a result exactly if both have.
* `bind_eq_error_iff`: two steps fail exactly if one of them does.
* `map_eq_ok_iff`: a result that is passed on comes from a result.
-/

namespace LogFilter

variable {ε α β : Type} {outcome : Except ε α}

/-- **Two steps have a result** exactly if both have. -/
theorem bind_eq_ok_iff {next : α → Except ε β} {result : β} :
    (outcome >>= next) = .ok result ↔ ∃ value, outcome = .ok value ∧ next value = .ok result := by
  cases outcome with
  | error e => exact ⟨nofun, fun ⟨_, h, _⟩ => nomatch h⟩
  | ok value => exact ⟨fun h => ⟨value, rfl, h⟩, fun ⟨_, h, hnext⟩ => Except.ok.inj h ▸ hnext⟩

/-- **Two steps fail** exactly if the first one fails, or the second one behind it. -/
theorem bind_eq_error_iff {next : α → Except ε β} {e : ε} :
    (outcome >>= next) = .error e ↔
      outcome = .error e ∨ ∃ value, outcome = .ok value ∧ next value = .error e := by
  cases outcome with
  | error other =>
    constructor
    · intro h
      exact .inl (congrArg Except.error (Except.error.inj h))
    · rintro (⟨⟨⟩⟩ | ⟨_, ⟨⟩, _⟩)
      rfl
  | ok value =>
    constructor
    · intro h
      exact .inr ⟨value, rfl, h⟩
    · rintro (⟨⟨⟩⟩ | ⟨_, ⟨⟩, hnext⟩)
      exact hnext

/-- Two steps are the same as two others if each of them is. -/
theorem bind_eq_bind {other : Except ε α} {next otherNext : α → Except ε β}
    (h : outcome = other) (hnext : ∀ value, next value = otherNext value) :
    outcome >>= next = other >>= otherNext := by
  rw [h, funext hnext]

/-- A result that is passed on comes from a result. -/
theorem map_eq_ok_iff {f : α → β} {result : β} :
    outcome.map f = .ok result ↔ ∃ value, outcome = .ok value ∧ f value = result := by
  cases outcome with
  | error e => exact ⟨nofun, fun ⟨_, h, _⟩ => nomatch h⟩
  | ok value =>
    exact ⟨fun h => ⟨value, rfl, Except.ok.inj h⟩,
      fun ⟨_, h, hf⟩ => congrArg Except.ok (Except.ok.inj h ▸ hf)⟩

/-- What is passed on is an error exactly if it was one. -/
theorem map_eq_error_iff {f : α → β} {e : ε} : outcome.map f = .error e ↔ outcome = .error e := by
  cases outcome with
  | error other => exact ⟨fun h => congrArg Except.error (Except.error.inj h), fun h => h ▸ rfl⟩
  | ok value => exact ⟨nofun, nofun⟩

/-- A result stays one when errors are reported in another way. -/
theorem mapError_eq_ok_iff {ε' : Type} {f : ε → ε'} {value : α} :
    outcome.mapError f = .ok value ↔ outcome = .ok value := by
  cases outcome with
  | error e => exact ⟨nofun, nofun⟩
  | ok other => exact ⟨fun h => congrArg Except.ok (Except.ok.inj h), fun h => h ▸ rfl⟩

/-- What has no result is an error. -/
theorem exists_error (h : ∀ value, outcome ≠ .ok value) : ∃ e, outcome = .error e := by
  cases outcome with
  | error e => exact ⟨e, rfl⟩
  | ok value => exact absurd rfl (h value)

/-- An outcome that has a result when its error is left out has this result. -/
theorem eq_ok_of_toOption {value : α} (h : outcome.toOption = some value) :
    outcome = .ok value := by
  cases outcome with
  | error e => cases h
  | ok other => exact congrArg Except.ok (Option.some.inj h)

end LogFilter

import ClientFacade.Log.Logged

/-!
# Steps in a row

A row of steps gives a result just if every step of it does, with or without records.
-/

namespace ClientFacade

theorem except_bind_eq_ok_iff {ε α β : Type} {step : Except ε α} {next : α → Except ε β} {b : β} :
    step >>= next = .ok b ↔ ∃ a, step = .ok a ∧ next a = .ok b := by
  cases step <;> simp [bind, Except.bind]

theorem except_map_eq_ok_iff {ε α β : Type} {f : α → β} {step : Except ε α} {b : β} :
    step.map f = .ok b ↔ ∃ a, step = .ok a ∧ f a = b := by
  cases step <;> simp [Except.map]

theorem except_map_bind {ε α β γ : Type} {f : α → β} {step : Except ε α}
    {next : β → Except ε γ} : step.map f >>= next = step >>= fun a => next (f a) := by
  cases step <;> rfl

theorem except_mapError_eq_ok_iff {ε ε' α : Type} {f : ε → ε'} {step : Except ε α} {a : α} :
    step.mapError f = .ok a ↔ step = .ok a := by
  cases step with
  | error e => exact ⟨nofun, nofun⟩
  | ok b => exact ⟨fun h => congrArg Except.ok (Except.ok.inj h),
      fun h => congrArg Except.ok (Except.ok.inj h)⟩

theorem except_mapError_eq_error_iff {ε ε' α : Type} {f : ε → ε'} {step : Except ε α} {e' : ε'} :
    step.mapError f = .error e' ↔ ∃ e, step = .error e ∧ f e = e' := by
  cases step with
  | error e =>
    refine ⟨fun h => ⟨e, rfl, Except.error.inj h⟩, ?_⟩
    rintro ⟨_, he, hf⟩
    rw [← hf, ← Except.error.inj he]
    rfl
  | ok a => exact ⟨nofun, nofun⟩

theorem exists_ok_of_any_toOption {ε α : Type} {step : Except ε α} {p : α → Bool}
    (h : step.toOption.any p = true) : ∃ a, step = .ok a ∧ p a = true := by
  cases step with
  | error e => cases h
  | ok a => exact ⟨a, rfl, h⟩

namespace Logged

variable {ε ε' α β : Type}

theorem ok_bind (records : List Record) (a : α) (next : α → Logged ε β) :
    (⟨records, .ok a⟩ : Logged ε α) >>= next =
      ⟨records ++ (next a).records, (next a).outcome⟩ := rfl

theorem write_bind (records : List Record) (next : Unit → Logged ε β) :
    (write records >>= next : Logged ε β) =
      ⟨records ++ (next ()).records, (next ()).outcome⟩ := rfl

theorem bind_outcome_eq_ok_iff {step : Logged ε α} {next : α → Logged ε β} {b : β} :
    (step >>= next).outcome = .ok b ↔ ∃ a, step.outcome = .ok a ∧ (next a).outcome = .ok b := by
  rw [bind_def, andThen]
  cases step.outcome <;> simp

theorem mapError_outcome_eq_ok_iff {f : ε → ε'} {step : Logged ε α} {a : α} :
    (step.mapError f).outcome = .ok a ↔ step.outcome = .ok a := except_mapError_eq_ok_iff

end Logged

end ClientFacade

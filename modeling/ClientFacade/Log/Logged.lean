import ClientFacade.Log.Record

/-!
# Results with records

A step may write records before it gives a result or fails. The records of a failed step are kept,
and nothing that follows it writes any.
-/

namespace ClientFacade

structure Logged (ε α : Type) where
  records : List Record
  outcome : Except ε α

namespace Logged

variable {ε ε' α β : Type}

def succeed (a : α) : Logged ε α := ⟨[], .ok a⟩

def fail (e : ε) : Logged ε α := ⟨[], .error e⟩

def ofExcept (outcome : Except ε α) : Logged ε α := ⟨[], outcome⟩

def write (records : List Record) : Logged ε Unit := ⟨records, .ok ()⟩

def log (topic : Topic) (level : Level) (message : Text) : Logged ε Unit :=
  write [.of topic level message]

def andThen (step : Logged ε α) (next : α → Logged ε β) : Logged ε β :=
  match step.outcome with
  | .ok a => ⟨step.records ++ (next a).records, (next a).outcome⟩
  | .error e => ⟨step.records, .error e⟩

def mapError (f : ε → ε') (step : Logged ε α) : Logged ε' α :=
  ⟨step.records, step.outcome.mapError f⟩

instance : Monad (Logged ε) where
  pure := succeed
  bind := andThen

@[simp] theorem pure_records (a : α) : (pure a : Logged ε α).records = [] := rfl

@[simp] theorem pure_outcome (a : α) : (pure a : Logged ε α).outcome = .ok a := rfl

theorem bind_def (step : Logged ε α) (next : α → Logged ε β) :
    step >>= next = step.andThen next := rfl

end Logged

end ClientFacade

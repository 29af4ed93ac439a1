import LifeRom.Failure

/-! # Log -/

namespace LifeRom

inductive Event
  | generated (module : String) (alive : Nat)
  | skipped (source : String) (failure : Failure)
  | composed (selector : String) (modules : Nat)
  deriving DecidableEq, Repr

namespace Event

inductive Level | debug | info | warn
  deriving DecidableEq, Repr

def level : Event → Level
  | generated .. => .debug
  | skipped .. => .warn
  | composed .. => .info

def message : Event → String
  | generated .. => "generated case table"
  | skipped _ failure => "skipping pattern: " ++ failure.message
  | composed .. => "assembled composite"

end Event

/-- A value and the events reported on the way to it, the earliest first. -/
structure Logged (α : Type) where
  value : α
  events : List Event

namespace Logged

variable {α β : Type}

instance : Monad Logged where
  pure a := ⟨a, []⟩
  bind s f := ⟨(f s.value).value, s.events ++ (f s.value).events⟩

def report (event : Event) : Logged Unit := ⟨(), [event]⟩

def all (ls : List (Logged α)) : Logged (List α) :=
  ⟨ls.map value, ls.flatMap events⟩

@[simp] theorem value_pure (a : α) : (pure a : Logged α).value = a := rfl

@[simp] theorem events_pure (a : α) : (pure a : Logged α).events = [] := rfl

@[simp] theorem value_bind (s : Logged α) (f : α → Logged β) :
    (s >>= f).value = (f s.value).value := rfl

@[simp] theorem events_bind (s : Logged α) (f : α → Logged β) :
    (s >>= f).events = s.events ++ (f s.value).events := rfl

@[simp] theorem value_map (f : α → β) (s : Logged α) : (f <$> s).value = f s.value := rfl

@[simp] theorem events_map (f : α → β) (s : Logged α) : (f <$> s).events = s.events :=
  List.append_nil _

@[simp] theorem value_report (e : Event) : (report e).value = () := rfl

@[simp] theorem events_report (e : Event) : (report e).events = [e] := rfl

@[simp] theorem value_all (ls : List (Logged α)) : (all ls).value = ls.map value := rfl

@[simp] theorem events_all (ls : List (Logged α)) : (all ls).events = ls.flatMap events := rfl

end Logged

end LifeRom

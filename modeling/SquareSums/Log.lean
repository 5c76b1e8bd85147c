import SquareSums.Progression

/-! What a computation reports while it runs. Records are values: a logged result stands beside the
records that led to it, in the order of emission, and nothing depends on who reads them. -/

namespace SquareSums

inductive Level where
  | error
  | warn
  | info
  | debug
deriving DecidableEq, Repr

/-- The most severe level is the lowest. -/
def Level.rank : Level → Nat
  | .error => 1
  | .warn => 2
  | .info => 3
  | .debug => 4

def Level.name : Level → String
  | .error => "ERROR"
  | .warn => "WARN"
  | .info => "INFO"
  | .debug => "DEBUG"

inductive Event where
  | solving (length bound : UInt64)
  | sieved (bound size : UInt64)
  | searched (length bisquares pairs found : UInt64)
  | repeated (progression : Progression)
  | collected (count length bound : UInt64)
deriving DecidableEq, Repr

namespace Event

def level : Event → Level
  | solving .. | collected .. => .info
  | sieved .. | searched .. | repeated .. => .debug

def target : Event → String
  | solving .. => "ariprog"
  | sieved .. => "ariprog::bisquare"
  | searched .. => "ariprog::search"
  | repeated .. | collected .. => "ariprog::collector"

def message : Event → String
  | solving length bound => "solving N=" ++ Decimal.write length ++ " M=" ++ Decimal.write bound
  | sieved bound size =>
    "built bisquare table: bound=" ++ Decimal.write bound ++ ", len=" ++ Decimal.write size
  | searched length bisquares pairs found =>
    "pair search: length=" ++ Decimal.write length ++ ", bisquares=" ++ Decimal.write bisquares ++
      ", pairs=" ++ Decimal.write pairs ++ ", found=" ++ Decimal.write found
  | repeated progression => "duplicate progression " ++ progression.text
  | collected count length bound =>
    Decimal.write count ++ " progression(s) of length " ++ Decimal.write length ++
      " with bound " ++ Decimal.write bound

end Event

structure Logged (α : Type) where
  value : α
  events : List Event

namespace Logged

def emit (event : Event) : Logged Unit := ⟨(), [event]⟩

def emitAll (events : List Event) : Logged Unit := ⟨(), events⟩

instance : Monad Logged where
  pure value := ⟨value, []⟩
  bind logged next :=
    let continued := next logged.value
    ⟨continued.value, logged.events ++ continued.events⟩

@[simp] theorem value_pure {α : Type} (value : α) : (pure value : Logged α).value = value := rfl

@[simp] theorem events_pure {α : Type} (value : α) : (pure value : Logged α).events = [] := rfl

@[simp] theorem value_bind {α β : Type} (logged : Logged α) (next : α → Logged β) :
    (logged >>= next).value = (next logged.value).value := rfl

@[simp] theorem events_bind {α β : Type} (logged : Logged α) (next : α → Logged β) :
    (logged >>= next).events = logged.events ++ (next logged.value).events := rfl

end Logged
end SquareSums

import ModelBindings.Fault

/-!
# Log records and traced results

A run leaves log records on the way to its result, and leaves them also when it stops at a fault.

* `Record` : a log record with its level and channel.
* `Traced` : a result or a fault, with the records left before it.
-/

set_option autoImplicit false

namespace ModelBindings

/-- How important a record is. -/
inductive Level where
  | debug
  | info
  | warning
  | error
  deriving Repr, DecidableEq

namespace Level

/-- The name of a level. -/
def name : Level → Text
  | .debug => "DEBUG"
  | .info => "INFO"
  | .warning => "WARNING"
  | .error => "ERROR"

/-- Levels from the least important up. -/
def rank : Level → Nat
  | .debug => 0
  | .info => 1
  | .warning => 2
  | .error => 3

end Level

/-- The part of the program that leaves a record. -/
inductive Channel where
  | reader
  | renderer
  | package
  | service
  deriving Repr, DecidableEq

/-- The name of a channel in a line of log output. -/
def Channel.name : Channel → Text
  | .reader => "prisma_to_pydantic.pipeline.schema_ast.parser"
  | .renderer => "prisma_to_pydantic.pipeline.backends.pydantic_backend"
  | .package => "prisma_to_pydantic.pipeline.generator"
  | .service => "prisma_to_pydantic.rpc"

/-- A log record. -/
structure Record where
  level : Level
  channel : Channel
  message : Text
  deriving Repr, DecidableEq

/-- A record as a line of output. -/
def Record.line (r : Record) : Text :=
  r.level.name ++ " " ++ r.channel.name ++ ": " ++ r.message ++ "\n"

/-- The lines of the records at or above a level. -/
def logLines (least : Level) (log : List Record) : Text :=
  Text.concat ((log.filter fun r => decide (least.rank ≤ r.level.rank)).map Record.line)

/-- A result or a fault, with the records left before it. -/
structure Traced (α : Type) where
  log : List Record
  result : Except Fault α

namespace Traced

/-- A result that leaves no record. -/
def ok {α : Type} (a : α) : Traced α :=
  ⟨[], .ok a⟩

/-- A fault that leaves no record. -/
def fail {α : Type} (f : Fault) : Traced α :=
  ⟨[], .error f⟩

/-- A result or fault that leaves no record. -/
def ofExcept {α : Type} (r : Except Fault α) : Traced α :=
  ⟨[], r⟩

/-- Go on with a result; the records stand in order. -/
def bind {α β : Type} (x : Traced α) (f : α → Traced β) : Traced β :=
  match x.result with
  | .error e => ⟨x.log, .error e⟩
  | .ok a => ⟨x.log ++ (f a).log, (f a).result⟩

instance : Monad Traced where
  pure := ok
  bind := bind

/-- Apply a step to each item in order, up to the first fault. -/
def collect {α β : Type} (f : α → Traced β) : List α → Traced (List β)
  | [] => ok []
  | a :: r => (f a).bind fun b => (collect f r).bind fun bs => ok (b :: bs)

end Traced

end ModelBindings

import Soap.OrderedMap
import Soap.Server.Completion

/-!
# Handlers

A handler answers calls of one operation. It is given the arguments and a completion; what it does
with them is a `Handling`: the values it delivers before it returns, what it returns, and the values
that are delivered later by the hands it passed the completion to. The first of all these is the
answer.
-/

namespace Soap

inductive Outcome where
  /-- The answer, unless one was delivered before. -/
  | ready (v : Value)
  /-- The answer is delivered through the completion. -/
  | pending
deriving Inhabited

/-- What a handler does with one call. -/
structure Handling where
  before : List Value := []
  outcome : Outcome
  later : List Value := []
deriving Inhabited

/-- The completion after a handling: the handler's hold on it and the caller's are gone. -/
def Handling.run (h : Handling) : Completion :=
  let returned := Completion.start.share.completeAll h.before
  let answered :=
    match h.outcome with
    | .ready v => (returned.complete v).1
    | .pending => returned
  (answered.release.completeAll h.later).release

def Handling.answer? (h : Handling) : Option Value :=
  match h.run.receive.2 with
  | .value v => some v
  | .nothing | .closed => none

/-- A handler: what it does with given arguments. -/
abbrev Handler := Value → Handling

/-- The handler that answers with a function of the arguments. -/
def Handler.ofFunction (f : Value → Value) : Handler := fun args => { outcome := .ready (f args) }

/-- The handler that delivers a function of the arguments after it has returned. -/
def Handler.deferred (f : Value → Value) : Handler :=
  fun args => { outcome := .pending, later := [f args] }

structure OperationKey where
  service : String
  port : String
  operation : String
deriving DecidableEq, Repr

abbrev HandlerRegistry := OrderedMap OperationKey Handler

def HandlerRegistry.summarize (r : HandlerRegistry) : String :=
  "ServiceRegistry \x7b handlers: " ++ toString r.length ++ " \x7d"

/-! ### Laws -/

/-- A function's handler answers with its value, whether at once or later. -/
theorem Handling.answer?_ofFunction (f : Value → Value) (args : Value) :
    (Handler.ofFunction f args).answer? = some (f args) := rfl

theorem Handling.answer?_deferred (f : Value → Value) (args : Value) :
    (Handler.deferred f args).answer? = some (f args) := rfl

end Soap

import Soap.Value

/-!
# Completions

A handler delivers its result through a completion, at once or later, from any of the hands that
hold it. The first delivery counts: it takes the slot, and every other one is refused. Once the last
holder is gone without a delivery, the receiver knows that nothing will come.

`Completion.complete` and the other operations are the atomic steps; whatever happens concurrently
is a sequence of them.
-/

namespace Soap

/-- What the receiver of a result can still expect. -/
inductive Mailbox where
  | waiting
  | holding (v : Value)
  /-- Nothing will come: the value was taken out, nobody can send one, or nobody wants one. -/
  | closed
deriving Inhabited

/-- The receiver's side after a value is sent: a closed mailbox loses it. -/
def Mailbox.put (v : Value) : Mailbox → Mailbox
  | .waiting => .holding v
  | mailbox => mailbox

/-- The receiver's side when nothing more can come; what was sent before stays there. -/
def Mailbox.close : Mailbox → Mailbox
  | .waiting => .closed
  | mailbox => mailbox

/-- A result to be delivered once: how many hold it, whether the slot is taken, and the receiver's
side. -/
structure Completion where
  holders : Nat
  taken : Bool
  mailbox : Mailbox
deriving Inhabited

/-- What the receiver gets. -/
inductive Received where
  | value (v : Value)
  /-- Nothing so far. -/
  | nothing
  | closed
deriving Inhabited

namespace Completion

/-- A completion with one holder. -/
def start : Completion := { holders := 1, taken := false, mailbox := .waiting }

def share (c : Completion) : Completion := { c with holders := c.holders + 1 }

/-- Deliver a value: the completion after it, and whether this was the first delivery. -/
def complete (c : Completion) (v : Value) : Completion × Bool :=
  if c.taken then (c, false)
  else ({ c with taken := true, mailbox := c.mailbox.put v }, true)

def isCompleted (c : Completion) : Bool := c.taken

/-- One holder lets go. -/
def release (c : Completion) : Completion :=
  { c with
    holders := c.holders - 1
    mailbox := if c.holders ≤ 1 then c.mailbox.close else c.mailbox }

/-- The receiver takes out what is there. -/
def receive (c : Completion) : Completion × Received :=
  match c.mailbox with
  | .waiting => (c, .nothing)
  | .holding v => ({ c with mailbox := .closed }, .value v)
  | .closed => (c, .closed)

def close (c : Completion) : Completion := { c with mailbox := c.mailbox.close }

def completeAll (c : Completion) (values : List Value) : Completion :=
  values.foldl (fun c v => (c.complete v).1) c

/-! ### Laws -/

/-- A delivery is accepted exactly when none was before. -/
theorem complete_accepts_iff (c : Completion) (v : Value) :
    (c.complete v).2 = true ↔ c.isCompleted = false := by
  cases h : c.taken <;> simp [complete, isCompleted, h]

/-- After a delivery the completion is completed. -/
theorem isCompleted_complete (c : Completion) (v : Value) :
    (c.complete v).1.isCompleted = true := by
  cases h : c.taken <;> simp [complete, isCompleted, h]

/-- What comes after the first delivery changes nothing. -/
theorem completeAll_of_isCompleted {c : Completion} (h : c.isCompleted = true)
    (values : List Value) : c.completeAll values = c := by
  have hstep : ∀ v, (c.complete v).1 = c := fun v => by
    simp only [isCompleted] at h
    simp [complete, h]
  induction values with
  | nil => rfl
  | cons v rest ih =>
    simp only [completeAll, List.foldl_cons, hstep] at ih ⊢
    exact ih

end Completion

end Soap

/-!
# Mailboxes

A bounded queue with one reader. What is put in comes out once and in the same order. A mailbox
that has as many items as its capacity is full until one is taken out, and one whose reader has
gone is closed for good.
-/

namespace StepperMotion

structure Mailbox (α : Type) where
  /-- How many items there is room for. -/
  capacity : Nat
  /-- The items, oldest first. -/
  items : List α := []
  /-- There is a reader. -/
  isOpen : Bool := true
deriving DecidableEq, Repr

namespace Mailbox

/-- Why an item was not taken in. -/
inductive Refusal where
  | full
  /-- Nobody would read it. -/
  | closed
deriving DecidableEq, Repr

variable {α : Type}

def offer (b : Mailbox α) (x : α) : Except Refusal (Mailbox α) :=
  if b.isOpen then
    if b.items.length < b.capacity then .ok { b with items := b.items ++ [x] }
    else .error .full
  else .error .closed

def next? (b : Mailbox α) : Option (α × Mailbox α) :=
  match b.items with
  | [] => none
  | x :: rest => some (x, { b with items := rest })

/-- The mailbox when its reader has gone; what was in it is lost. -/
def close (b : Mailbox α) : Mailbox α := { b with items := [], isOpen := false }

end Mailbox

end StepperMotion

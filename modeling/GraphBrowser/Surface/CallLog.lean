import GraphBrowser.Surface
import Std.Data.ExtTreeMap

set_option autoImplicit false

namespace GraphBrowser

inductive Call (α : Type) where
  | create (id : String)
  | bind (id : String) (element : Nat)
  | reveal (element : Nat)
  | hide (element : Nat)
  | connect (source target : Nat) (label : String)
  | disconnect (element : Nat)
  | setOffset (element : Nat) (offset : Point α)
  | repaint (element : Nat)

-- Elements are numbered as they are created, and stand at the origin until they are moved.
structure CallLog (α : Type) where
  calls : Array (Call α)
  offsets : Std.ExtTreeMap Nat (Point α)
  size : Size α
  created : Nat

namespace CallLog

variable {α : Type}

def empty (size : Size α) : CallLog α := ⟨#[], ∅, size, 0⟩

def write (log : CallLog α) (call : Call α) : CallLog α :=
  { log with calls := log.calls.push call }

def takeCalls (log : CallLog α) : List (Call α) × CallLog α :=
  (log.calls.toList, { log with calls := #[] })

instance [Scalar α] : Surface (CallLog α) α Nat where
  create node log := (log.created, { log.write (.create node.id) with created := log.created + 1 })
  bind id element log := log.write (.bind id element)
  reveal element log := log.write (.reveal element)
  hide element log := log.write (.hide element)
  connect source target label log := log.write (.connect source target label)
  disconnect element log := log.write (.disconnect element)
  offset log element := log.offsets.getD element Point.origin
  setOffset element offset log :=
    { log.write (.setOffset element offset) with offsets := log.offsets.insert element offset }
  repaint element log := log.write (.repaint element)
  size log := log.size

end CallLog

end GraphBrowser

import GraphBrowser.Proofs.Session
import GraphBrowser.Surface.CallLog

set_option autoImplicit false

namespace GraphBrowser

structure DrawCount (σ : Type) {α ε : Type} [Surface σ α ε] where
  count : σ → Nat
  create : ∀ node s, count (Surface.create node s).2 = count s
  bind : ∀ id element s, count (Surface.bind id element s) = count s
  reveal : ∀ element s, count (Surface.reveal element s) = count s
  hide : ∀ element s, count (Surface.hide element s) = count s
  connect : ∀ source target label s, count (Surface.connect source target label s) = count s + 1
  disconnect : ∀ element s, count (Surface.disconnect element s) = count s
  setOffset : ∀ element offset s, count (Surface.setOffset element offset s) = count s
  repaint : ∀ element s, count (Surface.repaint element s) = count s

structure MoveCount (σ : Type) {α ε : Type} [Surface σ α ε] where
  count : σ → (ε → Point α → Bool) → Nat
  create : ∀ node s counted, count (Surface.create node s).2 counted = count s counted
  bind : ∀ id element s counted, count (Surface.bind id element s) counted = count s counted
  reveal : ∀ element s counted, count (Surface.reveal element s) counted = count s counted
  hide : ∀ element s counted, count (Surface.hide element s) counted = count s counted
  connect : ∀ source target label s counted,
    count (Surface.connect source target label s) counted = count s counted
  disconnect : ∀ element s counted, count (Surface.disconnect element s) counted = count s counted
  setOffset : ∀ element offset s counted,
    count (Surface.setOffset element offset s) counted = count s counted + if counted element offset then 1 else 0
  repaint : ∀ element s counted, count (Surface.repaint element s) counted = count s counted

-- A number to which a surface's calls add: so much for each connector drawn, and so much for each move of an
-- element.
structure Tally (σ : Type) {α ε : Type} [Surface σ α ε] where
  count : σ → Nat
  perDraw : Nat
  perMove : ε → Point α → Nat
  create : ∀ node s, count (Surface.create node s).2 = count s
  bind : ∀ id element s, count (Surface.bind id element s) = count s
  reveal : ∀ element s, count (Surface.reveal element s) = count s
  hide : ∀ element s, count (Surface.hide element s) = count s
  connect : ∀ source target label s, count (Surface.connect source target label s) = count s + perDraw
  disconnect : ∀ element s, count (Surface.disconnect element s) = count s
  setOffset : ∀ element offset s, count (Surface.setOffset element offset s) = count s + perMove element offset
  repaint : ∀ element s, count (Surface.repaint element s) = count s

def DrawCount.tally {σ α ε : Type} [Surface σ α ε] (draws : DrawCount σ) : Tally σ where
  count := draws.count
  perDraw := 1
  perMove _ _ := 0
  create := draws.create
  bind := draws.bind
  reveal := draws.reveal
  hide := draws.hide
  connect := draws.connect
  disconnect := draws.disconnect
  setOffset := draws.setOffset
  repaint := draws.repaint

def MoveCount.tally {σ α ε : Type} [Surface σ α ε] (moves : MoveCount σ) (counted : ε → Point α → Bool) : Tally σ where
  count s := moves.count s counted
  perDraw := 0
  perMove element offset := if counted element offset then 1 else 0
  create node s := moves.create node s counted
  bind id element s := moves.bind id element s counted
  reveal element s := moves.reveal element s counted
  hide element s := moves.hide element s counted
  connect source target label s := moves.connect source target label s counted
  disconnect element s := moves.disconnect element s counted
  setOffset element offset s := moves.setOffset element offset s counted
  repaint element s := moves.repaint element s counted

namespace CallLog

def isDraw {α : Type} : Call α → Bool
  | .connect _ _ _ => true
  | _ => false

def isMove {α : Type} (counted : Nat → Point α → Bool) : Call α → Bool
  | .setOffset element offset => counted element offset
  | _ => false

variable {α : Type}

theorem write_count (counted : Call α → Bool) (log : CallLog α) (call : Call α) :
    (log.write call).calls.countP counted = log.calls.countP counted + if counted call then 1 else 0 := by
  rw [write, Array.countP_push]

variable [Scalar α]

def draws : DrawCount (CallLog α) where
  count log := log.calls.countP isDraw
  create node s := write_count isDraw s (.create node.id)
  bind id element s := write_count isDraw s (.bind id element)
  reveal element s := write_count isDraw s (.reveal element)
  hide element s := write_count isDraw s (.hide element)
  connect source target label s := write_count isDraw s (.connect source target label)
  disconnect element s := write_count isDraw s (.disconnect element)
  setOffset element offset s := write_count isDraw s (.setOffset element offset)
  repaint element s := write_count isDraw s (.repaint element)

def moves : MoveCount (CallLog α) where
  count log counted := log.calls.countP (isMove counted)
  create node s counted := write_count (isMove counted) s (.create node.id)
  bind id element s counted := write_count (isMove counted) s (.bind id element)
  reveal element s counted := write_count (isMove counted) s (.reveal element)
  hide element s counted := write_count (isMove counted) s (.hide element)
  connect source target label s counted := write_count (isMove counted) s (.connect source target label)
  disconnect element s counted := write_count (isMove counted) s (.disconnect element)
  setOffset element offset s counted := write_count (isMove counted) s (.setOffset element offset)
  repaint element s counted := write_count (isMove counted) s (.repaint element)

end CallLog

-- Nobody but the explorer writes to its log.
instance {α : Type} : Adjustable (CallLog α) Empty := ⟨fun change _ => change.elim⟩

namespace Explorer

abbrev recorded (ops : List (Operation Float Nat Empty)) : Explorer Float (CallLog Float) Nat :=
  (Explorer.new (CallLog.empty ⟨800, 600⟩) .standard).run ops

end Explorer

end GraphBrowser

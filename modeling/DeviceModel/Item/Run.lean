import DeviceModel.Item.Basic

/-!
# Runs of an item

An operation on an item is a write, the restoring of its instants, a change of its visibility or
the recording of a rule. `Item.run` applies a sequence of them.
-/

namespace DeviceModel.Item

variable {τ : Type}

/-- An operation on an item, with the instants it needs. -/
inductive Op (τ : Type)
  | write (w : Write) (now : τ)
  | restore (instant : τ)
  | setPublic (isPublic : Bool)
  | addRule (rule : Int32)
deriving DecidableEq

/-- The item after an operation. -/
def apply (item : Item τ) : Op τ → Item τ
  | .write w now => (item.write w now).item
  | .restore instant => item.restore instant
  | .setPublic isPublic => item.setPublic isPublic
  | .addRule rule => item.addRule rule

/-- Whether an operation is accepted; only a write can be rejected. -/
def accepts (item : Item τ) : Op τ → Bool
  | .write w now => (item.write w now).accepted
  | _ => true

/-- The item after a sequence of operations. -/
def run (item : Item τ) (ops : List (Op τ)) : Item τ :=
  ops.foldl apply item

@[simp] theorem run_nil (item : Item τ) : item.run [] = item := rfl

theorem run_cons (item : Item τ) (op : Op τ) (ops : List (Op τ)) :
    item.run (op :: ops) = (item.apply op).run ops := rfl

theorem run_concat (item : Item τ) (ops : List (Op τ)) (op : Op τ) :
    item.run (ops ++ [op]) = (item.run ops).apply op := by
  rw [run, List.foldl_append]
  rfl

end DeviceModel.Item

import DeviceModel.Resource.Basic

/-!
# Runs of a resource

An operation on a resource adds an item from a catalog, removes one, or operates on an item that is
found by its suffix or by its place. `Resource.run` applies a sequence of them. An item that the
catalog does not have with the given type is not added.
-/

namespace DeviceModel.Resource

variable {τ : Type}

/-- An operation on a resource. -/
inductive Op (τ : Type)
  | add (catalog : Catalog) (dataType : DataType) (suffix : String)
  | remove (suffix : String)
  | item (suffix : String) (op : Item.Op τ)
  | itemAt (index : Nat) (op : Item.Op τ)
deriving DecidableEq

/-- The resource after an operation. -/
def apply (resource : Resource τ) : Op τ → Resource τ
  | .add catalog dataType suffix =>
    match resource.add catalog dataType suffix with
    | .ok resource => resource
    | .error _ => resource
  | .remove suffix => ((resource.remove? suffix).map (·.2)).getD resource
  | .item suffix op => resource.modify suffix (·.apply op)
  | .itemAt index op => resource.modifyAt index (·.apply op)

/-- The resource after a sequence of operations. -/
def run (resource : Resource τ) (ops : List (Op τ)) : Resource τ :=
  ops.foldl apply resource

theorem run_cons (resource : Resource τ) (op : Op τ) (ops : List (Op τ)) :
    resource.run (op :: ops) = (resource.apply op).run ops := rfl

end DeviceModel.Resource

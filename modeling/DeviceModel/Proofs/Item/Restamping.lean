import DeviceModel.Proofs.Item.Writing
import DeviceModel.Resource.Basic

/-!
# Other instants

An item keeps the instants it is given and never looks at them. So it does not matter when a write
is done: if every instant is replaced by another one (`restamp`), before a write or after it, the
outcome is the same (`restamp_write`).
-/

namespace DeviceModel

variable {τ σ : Type} (f : τ → σ)

namespace Item

/-- The item with other instants. -/
def restamp (item : Item τ) : Item σ where
  descriptor := item.descriptor
  number := item.number
  previous := item.previous
  buffer := item.buffer
  lastSet := item.lastSet.map f
  lastChanged := item.lastChanged.map f
  isPublic := item.isPublic
  rules := item.rules

/-- The outcome of a write with other instants. -/
def Outcome.restamp (outcome : Outcome τ) : Outcome σ :=
  ⟨outcome.accepted, outcome.item.restamp f⟩

@[simp] theorem restamp_new (descriptor : Descriptor) :
    (new descriptor : Item τ).restamp f = new descriptor := rfl

theorem unnoticed_restamp : Unnoticed f (restamp f) where
  descriptor _ := rfl
  buffer _ := rfl
  put item now content := by
    cases content with
    | text s => by_cases h : item.buffer = some s <;> simp [put, restamp, h]
    | number n => by_cases h : item.number = n <;> simp [put, restamp, h]
    | nothing => rfl

/-- **A write does not depend on when it is done**, apart from the instants it leaves behind. -/
theorem restamp_write (item : Item τ) (w : Write) (now : τ) :
    (item.restamp f).write w (f now) = (item.write w now).restamp f :=
  (unnoticed_restamp f).write item w now

end Item

namespace Resource

/-- The resource with other instants. -/
def restamp (resource : Resource τ) : Resource σ where
  path := resource.path
  items := resource.items.map (Item.restamp f)

end Resource

end DeviceModel

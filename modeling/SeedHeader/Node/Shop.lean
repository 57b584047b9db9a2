import SeedHeader.Node.Basic
import SeedHeader.Game.Seed

/-!
# Node — Shop prices by any key

A shop slot is found by its location or by the uber identifier of what is sold.  An identifier
that is built by hand finds its slot when its fields count as the numbers of the slot.
-/

namespace SeedHeader

/-- The uber state that holds the price of the slot that the key refers to. -/
def shopPrice? : Datum → Option UberIdentifier
  | .atom (.text location) => Game.priceAt? location
  | .node .uberIdentifier _ [.atom group, .atom id] => do
    Game.priceOf? ⟨← group.natural?, ← id.natural?⟩
  | _ => none

end SeedHeader

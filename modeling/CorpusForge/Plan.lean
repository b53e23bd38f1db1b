import CorpusForge.Selection
import CorpusForge.Structure.Archetype

/-!
# Plans

A plan foretells the repositories of a run: the specifications that it would draw for its first
slots, in order, without looking at what exists.
-/

namespace CorpusForge

/-- A repository that a run would make. -/
structure Planned where
  spec : Spec
  archetype : Archetype
  deriving DecidableEq

/-- What is planned for a specification. -/
def Planned.ofSpec (spec : Spec) : Planned :=
  ⟨spec, .classify spec.category (spec.template.getD "")⟩

namespace Plan

/-- The repositories of slots, numbered from `index` on. -/
def ofSlots (selector : Selector) (seed : String) :
    (index : Number) → List Slot → Except Refusal (List Planned)
  | _, [] => .ok []
  | index, slot :: rest => do
    let spec ← ((selector.select slot index).run (.ofRepository seed index)).1
    let planned ← ofSlots selector seed index.next rest
    return .ofSpec spec :: planned

/-- The first `count` repositories of a run, or as many as there are slots. -/
def repositories (config : Config) (seed : String) (count : Number) :
    Except Refusal (List Planned) := do
  let selector ← Selector.ofConfig config
  let slots := Quota.first config.categories (count.upTo (Quota.size config.categories))
  ofSlots selector seed config.startIndex slots

end Plan

end CorpusForge

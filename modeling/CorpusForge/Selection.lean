import CorpusForge.Quota
import CorpusForge.Spec

/-!
# Selection

What the tables leave open about a repository is drawn: its language, its size, its contributors.

* `Pool.draw`: some of the contributors, none twice;
* `Selector.select`: the specification of a repository, from its slot and its number.
-/

namespace CorpusForge

/-- The contributors that repositories draw from. -/
structure Pool where
  members : List Contributor
  nonempty : members ≠ []

namespace Pool

/-- A pool of the given members; there must be one. -/
def ofList (members : List Contributor) : Except Refusal Pool :=
  if h : members = [] then .error .emptyPool else .ok ⟨members, h⟩

/-- The greatest number of members that one draw gives. -/
def limit (pool : Pool) (maxCount : Number) : Number :=
  Number.maximum 1 (maxCount.minimum (.ofNat pool.members.length))

/-- Between one and `maxCount` members, none twice, in the order drawn. -/
def draw (pool : Pool) (maxCount : Number) : Drawing Refusal (List Contributor) := do
  let count ← Drawing.int 1 (pool.limit maxCount)
  Drawing.sample pool.members count

end Pool

/-- The name of a language drawn by weight. -/
def Language.pick (languages : List Language) : Drawing Refusal String := do
  let index ← Drawing.weightedIndex (languages.map Language.weight)
  return (languages[index]?.map Language.name).getD ""

/-- The tables and ranges that specifications are drawn from. -/
structure Selector where
  categories : List Category
  languages : List Language
  pool : Pool
  ranges : Ranges

namespace Selector

/-- The selector of a configuration. -/
def ofConfig (config : Config) : Except Refusal Selector := do
  let pool ← Pool.ofList config.contributors
  return ⟨config.categories, config.languages, pool, config.ranges⟩

/-- The specification of the repository with the given number in a slot. -/
def select (s : Selector) (slot : Slot) (id : Number) : Drawing Refusal Spec := do
  let language ← Language.pick s.languages
  let targetLines ← Drawing.int s.ranges.lines.low s.ranges.lines.high
  let targetCommits ← Drawing.int s.ranges.commits.low s.ranges.commits.high
  let contributors ← s.pool.draw s.ranges.maxContributors
  return { id, name := repositoryName id slot.template, category := slot.category
           template := slot.template, language, targetLines, targetCommits, contributors }

end Selector

end CorpusForge

import CorpusForge.Number.Decimal

/-!
# Source styles

How source files look in a language: a header, one unit after the other, functions outside units
where the language has them, and a footer.
-/

namespace CorpusForge

/-- A unit of code: a class, or a structure with its methods. -/
structure CodeUnit where
  /-- The position of the unit in its file. -/
  index : Nat
  name : String
  role : String
  /-- The unit transforms its data by a defective statement. -/
  faulty : Bool
  deriving DecidableEq, Repr

namespace Source

/-- The look of source files in a language. -/
structure Style where
  /-- The name of the language. -/
  id : String
  /-- The language has functions outside units. -/
  freeFunctions : Bool
  header : (role : String) → List String
  unit : CodeUnit → List String
  function : Option ((index : Nat) → (role : String) → List String) := none
  footer : List String := []

/-- The comment that marks every deliberate fault. -/
def faultMarker : String := "BUG:"

end Source

end CorpusForge

import CorpusForge.Proofs.Number.Text
import CorpusForge.Proofs.Source.Lines
import CorpusForge.Source.Registry

/-!
# The styles are legible

In every style a unit declares itself on one line, and is marked on one line if it is faulty; a
function outside units declares itself on one line; and nothing else of a source file says anything
of this kind (`Registry.isLegible`). That the sound and the faulty variant of a unit differ in
their number of lines, or that a class is public only where it comes first, makes no difference.

* `Style.IsFormed`: the forms of the lines of a style;
* `Style.IsFormed.isLegible`: what the forms must say for the style to be legible.
-/

namespace CorpusForge

/-! ### Numbers in names -/

theorem Text.isDigit_eq (c : Char) : isDigit c = c.isDigit := rfl

namespace Source

theorem isNameChar_of_isDigit {c : Char} (h : c.isDigit = true) : isNameChar c = true := by
  rw [isNameChar, Text.isDigit_eq, h, Bool.or_true]

theorem IsNumbered.append {name : List Char} (hname : ∀ c ∈ name, isNameChar c = true)
    (n : Nat) : IsNumbered (name ++ Decimal.digitsOf n) := by
  have hdigit : ∀ c ∈ Decimal.digitsOf n, c.isDigit = true := fun c hmem =>
    Nat.isDigit_of_mem_toDigits (by decide) (by decide) hmem
  have hsome : Decimal.digitsOf n ≠ [] := List.length_pos_iff.1 Nat.length_toDigits_pos
  refine ⟨fun c hmem => ?_, name ++ (Decimal.digitsOf n).dropLast,
    (Decimal.digitsOf n).getLast hsome, ?_, ?_⟩
  · exact (List.mem_append.1 hmem).elim (hname c) fun h => isNameChar_of_isDigit (hdigit c h)
  · rw [List.append_assoc, List.dropLast_append_getLast]
  · rw [Text.isDigit_eq]
    exact hdigit _ (List.getLast_mem hsome)

theorem isNumbered_natText (n : Nat) : IsNumbered (Decimal.natText n).toList := by
  rw [Decimal.natText, String.toList_ofList]
  exact IsNumbered.append (List.forall_mem_nil _) n

/-! ### Styles -/

/-- A style whose sources tell the units and the functions that are in them. -/
structure Style.IsLegible (style : Style) : Prop where
  header : ∀ role : String, '\n' ∉ role.toList → ':' ∉ role.toList →
    Reads style.id (style.header role) 0 [] []
  unit : ∀ index name role faulty, IsNumbered name.toList →
    Reads style.id (style.unit ⟨index, name, role, faulty⟩) faulty.toNat [name.toList] []
  function : ∀ function ∈ style.function, ∀ index role,
    Reads style.id (function index role) 0 [] [(Decimal.natText index).toList]
  footer : style.footer = []
  free : style.freeFunctions = style.function.isSome

/-- The forms of the lines of a style: those of the header, of units that are sound or faulty, and of
    functions, if there are any. -/
structure Style.IsFormed (style : Style) (header sound faulty f : List Form)
    (unit function : List (List Char)) : Prop where
  header : ∀ role, HasForms style.id role (style.header role) header unit function
  sound : ∀ index name role,
    HasForms style.id name (style.unit ⟨index, name, role, false⟩) sound unit function
  faulty : ∀ index name role,
    HasForms style.id name (style.unit ⟨index, name, role, true⟩) faulty unit function
  function : ∀ lines ∈ style.function, ∀ index role,
    HasForms style.id (Decimal.natText index) (lines index role) f unit function
  footer : style.footer = []
  free : style.freeFunctions = style.function.isSome

/-- A style is legible when its forms say what they should: nothing in the header, a unit with its
    mark, and a function. -/
theorem Style.IsFormed.isLegible {style : Style} {header sound faulty f : List Form}
    {unit function : List (List Char)}
    (h : style.IsFormed header sound faulty f unit function)
    (hall : (∀ form ∈ header, form.IsSilent unit function) ∧ Says unit function sound 0 1 0 ∧
      Says unit function faulty 1 1 0 ∧ (style.function.isSome → Says unit function f 0 0 1)) :
    style.IsLegible := by
  obtain ⟨hheader, hsound, hfaulty, hfunction⟩ := hall
  refine ⟨fun role hbreak hcolon => HasForms.reads_nothing hbreak hcolon (h.header role) hheader,
    fun index name role faulty hname => ?_, fun lines hlines index role => ?_, h.footer, h.free⟩
  · cases faulty with
    | false => exact HasForms.reads_unit hname (h.sound index name role) hsound
    | true => exact HasForms.reads_unit hname (h.faulty index name role) hfaulty
  · exact HasForms.reads_function (isNumbered_natText index) (h.function lines hlines index role)
      (hfunction (Option.isSome_of_mem hlines))

/-- There are no functions outside the classes. -/
theorem isLegible_csharp : csharp.IsLegible := by
  apply Style.IsFormed.isLegible (f := [])
  · constructor
    case header => intro _; repeat' constructor
    case sound | faulty => intro _ _ _; repeat' constructor
    case function => exact fun _ h => absurd h (Option.not_mem_none _)
    case footer => rfl
    case free => rfl
  · decide

/-- There are no functions outside the classes, and a class has other forms when it comes first. -/
theorem isLegible_java : java.IsLegible where
  header role hbreak hcolon := by
    apply HasForms.reads_nothing hbreak hcolon
    · repeat' constructor
    · decide
  unit index name role faulty hname := by
    -- the class is public or not, and faulty or not
    cases index <;> cases faulty <;> apply HasForms.reads_unit hname
    · repeat' constructor
    · decide
    · repeat' constructor
    · decide
    · repeat' constructor
    · decide
    · repeat' constructor
    · decide
  function _ h := absurd h (Option.not_mem_none _)
  footer := rfl
  free := rfl

/-- All styles of the library are legible. -/
theorem Registry.isLegible : ∀ style ∈ default.styles, style.IsLegible := by
  simp only [default, List.forall_mem_cons]
  refine ⟨?_, ?_, ?_, isLegible_java, ?_, ?_, isLegible_csharp, ?_, ?_, List.forall_mem_nil _⟩
  -- the other styles have functions, and their forms are read off their lines
  all_goals
    apply Style.IsFormed.isLegible
    · constructor
      case header => intro _; repeat' constructor
      case sound | faulty => intro _ _ _; repeat' constructor
      case function =>
        rintro _ ⟨⟩ _ _
        repeat' constructor
      case footer => rfl
      case free => rfl
    · decide

end Source

end CorpusForge

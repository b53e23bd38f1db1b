import CorpusForge.Source.CSharp
import CorpusForge.Source.Go
import CorpusForge.Source.Java
import CorpusForge.Source.JavaScript
import CorpusForge.Source.Kotlin
import CorpusForge.Source.Python
import CorpusForge.Source.Rust
import CorpusForge.Source.Swift
import CorpusForge.Source.TypeScript
import CorpusForge.Text.Case

/-!
# The registry of source styles

Styles are found by the name of a language, in any letter case, or by another name that stands
for it. A language without a style gets placeholder text.
-/

namespace CorpusForge.Source

/-- The known styles, in the order of their registration, and the other names of languages. -/
structure Registry where
  styles : List Style
  aliases : List (String × String)

namespace Registry

/-- Replaces an entry where it stands, or adds it at the end. -/
def place (style : Style) : List Style → List Style
  | [] => [style]
  | s :: rest => if s.id = style.id then style :: rest else s :: place style rest

/-- Adds a style; one with the same name is replaced. -/
def register (r : Registry) (style : Style) : Registry := ⟨place style r.styles, r.aliases⟩

/-- Lets a name stand for a language. -/
def addAlias (r : Registry) (name language : String) : Registry :=
  ⟨r.styles, (name, language) :: r.aliases⟩

/-- The name that a language is registered under. A name that stands for another is followed
    once. -/
def canonical (r : Registry) (language : String) : String :=
  let name := Text.lower language
  ((r.aliases.find? fun (key, _) => key == name).map Prod.snd).getD name

/-- The style of a language. -/
def get? (r : Registry) (language : String) : Option Style :=
  r.styles.find? fun style => style.id == r.canonical language

/-- The names of the styles. -/
def ids (r : Registry) : List String := r.styles.map Style.id

/-- A registry that knows other names but no style. -/
def empty : Registry where
  styles := []
  aliases :=
    [("py", "python"), ("js", "javascript"), ("ts", "typescript"), ("kt", "kotlin"),
     ("cs", "csharp"), ("c#", "csharp")]

/-- The registry with all styles of the library. -/
def default : Registry where
  styles := [python, javascript, typescript, java, go, rust, csharp, kotlin, swift]
  aliases := empty.aliases

end Registry

end CorpusForge.Source

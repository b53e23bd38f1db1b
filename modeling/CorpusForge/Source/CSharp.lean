import CorpusForge.Source.Style

/-!
# C# sources

Classes of a namespace. There are no functions outside classes.
-/

namespace CorpusForge.Source

/-- The style of C# sources. -/
def csharp : Style where
  id := "csharp"
  freeFunctions := false
  header role :=
    ["using System;",
     "using System.Collections.Generic;",
     "",
     "// " ++ role,
     "namespace Example.App;",
     ""]
  unit u :=
    ["public class " ++ u.name,
     "\x7b",
     "    private readonly IDictionary<string, object> _config;",
     "    private bool _initialized;",
     "",
     "    public " ++ u.name ++ "(IDictionary<string, object> config)",
     "    \x7b",
     "        _config = config;",
     "    \x7d",
     "",
     "    public void Initialize()",
     "    \x7b",
     "        Console.WriteLine(\"Initializing component\");",
     "        _initialized = true;",
     "    \x7d",
     "",
     "    public IDictionary<string, object> Process(object data)",
     "    \x7b",
     "        if (!_initialized)",
     "        \x7b",
     "            throw new InvalidOperationException(\"Component not initialized\");",
     "        \x7d",
     "        return Transform(data);",
     "    \x7d",
     "",
     "    private IDictionary<string, object> Transform(object data)",
     "    \x7b"]
    ++ (if u.faulty then
        ["        return (Dictionary<string, object>)data; // BUG: InvalidCastException"]
      else
        ["        return new Dictionary<string, object> \x7b [\"data\"] = data, [\"timestamp\"] = DateTime.UtcNow \x7d;"])
    ++ ["    \x7d",
     "\x7d",
     ""]

end CorpusForge.Source

import CorpusForge.Source.Style

/-!
# JavaScript sources

Classes and functions of a script.
-/

namespace CorpusForge.Source

/-- The style of JavaScript sources. -/
def javascript : Style where
  id := "javascript"
  freeFunctions := true
  header role :=
    ["// " ++ role,
     "\"use strict\";",
     ""]
  unit u :=
    ["class " ++ u.name ++ " \x7b",
     "  constructor(config) \x7b",
     "    this.config = config;",
     "    this.initialized = false;",
     "  \x7d",
     "",
     "  async initialize() \x7b",
     "    console.log(\"Initializing service\");",
     "    this.initialized = true;",
     "  \x7d",
     "",
     "  async process(data) \x7b",
     "    if (!this.initialized) \x7b",
     "      throw new Error(\"Service not initialized\");",
     "    \x7d",
     "    return this.transform(data);",
     "  \x7d",
     "",
     "  async transform(data) \x7b"]
    ++ (if u.faulty then
        ["    return data.nonexistent.property; // BUG: Cannot read properties of undefined"]
      else
        ["    return \x7b ...data, processed: true \x7d;"])
    ++ ["  \x7d",
     "\x7d",
     ""]
  function := some fun index _ =>
    ["function function" ++ Decimal.natText index ++ "(param1, param2 = 0) \x7b",
     "  return \x7b param1, param2, timestamp: new Date().toISOString() \x7d;",
     "\x7d",
     ""]

end CorpusForge.Source

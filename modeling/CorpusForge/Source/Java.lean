import CorpusForge.Source.Style

/-!
# Java sources

Classes of one compilation unit, of which only the first may be public. There are no functions
outside classes.
-/

namespace CorpusForge.Source

/-- The access of a class and its constructor. -/
def visibility (u : CodeUnit) : String := if u.index = 0 then "public " else ""

/-- The style of Java sources. -/
def java : Style where
  id := "java"
  freeFunctions := false
  header role :=
    ["package com.example.app;",
     "",
     "import java.time.LocalDateTime;",
     "import java.util.HashMap;",
     "import java.util.Map;",
     "",
     "// " ++ role]
  unit u :=
    [visibility u ++ "class " ++ u.name ++ " \x7b",
     "    private final Map<String, Object> config;",
     "    private boolean initialized;",
     "",
     "    " ++ visibility u ++ u.name ++ "(Map<String, Object> config) \x7b",
     "        this.config = config;",
     "        this.initialized = false;",
     "    \x7d",
     "",
     "    public void initialize() \x7b",
     "        System.out.println(\"Initializing component\");",
     "        this.initialized = true;",
     "    \x7d",
     "",
     "    public Map<String, Object> process(Object data) \x7b",
     "        if (!initialized) \x7b",
     "            throw new IllegalStateException(\"Component not initialized\");",
     "        \x7d",
     "        return transform(data);",
     "    \x7d",
     "",
     "    @SuppressWarnings(\"unchecked\")",
     "    private Map<String, Object> transform(Object data) \x7b"]
    ++ (if u.faulty then
        ["        return (Map<String, Object>) data; // BUG: ClassCastException"]
      else
        ["        Map<String, Object> result = new HashMap<>();",
         "        result.put(\"data\", data);",
         "        result.put(\"timestamp\", LocalDateTime.now());",
         "        return result;"])
    ++ ["    \x7d",
     "\x7d",
     ""]

end CorpusForge.Source

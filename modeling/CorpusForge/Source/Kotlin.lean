import CorpusForge.Source.Style

/-!
# Kotlin sources

Classes and functions.
-/

namespace CorpusForge.Source

/-- The style of Kotlin sources. -/
def kotlin : Style where
  id := "kotlin"
  freeFunctions := true
  header role :=
    ["package com.example.app",
     "",
     "import java.time.Instant",
     "",
     "// " ++ role,
     ""]
  unit u :=
    ["class " ++ u.name ++ "(private val config: Map<String, Any>) \x7b",
     "    private var initialized = false",
     "",
     "    fun initialize() \x7b",
     "        println(\"Initializing component\")",
     "        initialized = true",
     "    \x7d",
     "",
     "    fun process(data: Any): Map<String, Any> \x7b",
     "        check(initialized) \x7b \"Component not initialized\" \x7d",
     "        return transform(data)",
     "    \x7d",
     "",
     "    @Suppress(\"UNCHECKED_CAST\")",
     "    private fun transform(data: Any): Map<String, Any> ="]
    ++ (if u.faulty then
        ["        data as Map<String, Any> // BUG: ClassCastException"]
      else
        ["        mapOf(\"data\" to data, \"timestamp\" to Instant.now())"])
    ++ ["\x7d",
     ""]
  function := some fun index _ =>
    ["fun function" ++ Decimal.natText index ++ "(param1: String, param2: Int = 0): Map<String, Any> =",
     "    mapOf(\"param1\" to param1, \"param2\" to param2, \"timestamp\" to Instant.now())",
     ""]

end CorpusForge.Source

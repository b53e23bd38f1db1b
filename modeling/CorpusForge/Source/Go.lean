import CorpusForge.Source.Style

/-!
# Go sources

Structures with methods, and functions.
-/

namespace CorpusForge.Source

/-- The style of Go sources. -/
def go : Style where
  id := "go"
  freeFunctions := true
  header role :=
    ["// Package main holds the " ++ role ++ " implementation.",
     "package main",
     "",
     "import (",
     "\t\"fmt\"",
     "\t\"time\"",
     ")",
     ""]
  unit u :=
    ["type " ++ u.name ++ " struct \x7b",
     "\tConfig      map[string]interface\x7b\x7d",
     "\tInitialized bool",
     "\x7d",
     "",
     "func New" ++ u.name ++ "(config map[string]interface\x7b\x7d) *" ++ u.name ++ " \x7b",
     "\treturn &" ++ u.name ++ "\x7bConfig: config\x7d",
     "\x7d",
     "",
     "func (c *" ++ u.name ++ ") Initialize() \x7b",
     "\tfmt.Println(\"Initializing component\")",
     "\tc.Initialized = true",
     "\x7d",
     "",
     "func (c *" ++ u.name ++ ") Process(data interface\x7b\x7d) (map[string]interface\x7b\x7d, error) \x7b",
     "\tif !c.Initialized \x7b",
     "\t\treturn nil, fmt.Errorf(\"component not initialized\")",
     "\t\x7d",
     "\treturn c.transform(data)",
     "\x7d",
     "",
     "func (c *" ++ u.name ++ ") transform(data interface\x7b\x7d) (map[string]interface\x7b\x7d, error) \x7b"]
    ++ (if u.faulty then
        ["\tvar result map[string]interface\x7b\x7d",
         "\tresult[\"data\"] = data // BUG: assignment to entry in nil map"]
      else
        ["\tresult := map[string]interface\x7b\x7d\x7b\"data\": data, \"timestamp\": time.Now()\x7d"])
    ++ ["\treturn result, nil",
     "\x7d",
     ""]
  function := some fun index _ =>
    ["func Function" ++ Decimal.natText index ++ "(param1 string, param2 int) map[string]interface\x7b\x7d \x7b",
     "\treturn map[string]interface\x7b\x7d\x7b\"param1\": param1, \"param2\": param2, \"timestamp\": time.Now()\x7d",
     "\x7d",
     ""]

end CorpusForge.Source

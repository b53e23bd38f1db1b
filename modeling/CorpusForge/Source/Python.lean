import CorpusForge.Source.Style

/-!
# Python sources

Classes and functions of a Python module.
-/

namespace CorpusForge.Source

/-- The style of Python sources. -/
def python : Style where
  id := "python"
  freeFunctions := true
  header role :=
    ["\"\"\"",
     "Module for " ++ role,
     "\"\"\"",
     "",
     "import logging",
     "import typing",
     "from datetime import datetime",
     "",
     "logger = logging.getLogger(__name__)",
     ""]
  unit u :=
    ["class " ++ u.name ++ ":",
     "    \"\"\"" ++ u.name ++ " component\"\"\"",
     "",
     "    def __init__(self, config: dict):",
     "        self.config = config",
     "        self.initialized = False",
     "",
     "    def initialize(self):",
     "        \"\"\"Initialize component\"\"\"",
     "        logger.info(\"Initializing %s\", type(self).__name__)",
     "        self.initialized = True",
     "",
     "    def process(self, data: typing.Any) -> typing.Any:",
     "        \"\"\"Process data\"\"\"",
     "        if not self.initialized:",
     "            raise RuntimeError(\"Component not initialized\")",
     "        return self._transform(data)",
     "",
     "    def _transform(self, data: typing.Any) -> typing.Any:"]
    ++ (if u.faulty then
        ["        return data + None  # BUG: TypeError"]
      else
        ["        return data"])
    ++ [""]
  function := some fun index _ =>
    ["def function_" ++ Decimal.natText index ++ "(param1: str, param2: int = 0) -> dict:",
     "    \"\"\"Function " ++ Decimal.natText index ++ "\"\"\"",
     "    return \x7b",
     "        \"param1\": param1,",
     "        \"param2\": param2,",
     "        \"timestamp\": datetime.now().isoformat(),",
     "    \x7d",
     ""]

end CorpusForge.Source

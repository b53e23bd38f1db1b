import CorpusForge.Source.Style

/-!
# Rust sources

Structures with implementations, and functions.
-/

namespace CorpusForge.Source

/-- The style of Rust sources. -/
def rust : Style where
  id := "rust"
  freeFunctions := true
  header role :=
    ["//! " ++ role,
     "",
     "use chrono::Utc;",
     "use std::collections::HashMap;",
     ""]
  unit u :=
    ["pub struct " ++ u.name ++ " \x7b",
     "    config: HashMap<String, String>,",
     "    initialized: bool,",
     "\x7d",
     "",
     "impl " ++ u.name ++ " \x7b",
     "    pub fn new(config: HashMap<String, String>) -> Self \x7b",
     "        Self \x7b config, initialized: false \x7d",
     "    \x7d",
     "",
     "    pub fn initialize(&mut self) \x7b",
     "        println!(\"Initializing component\");",
     "        self.initialized = true;",
     "    \x7d",
     "",
     "    pub fn process(&self, data: &str) -> Result<HashMap<String, String>, String> \x7b",
     "        if !self.initialized \x7b",
     "            return Err(\"Component not initialized\".to_string());",
     "        \x7d",
     "        self.transform(data)",
     "    \x7d",
     "",
     "    fn transform(&self, data: &str) -> Result<HashMap<String, String>, String> \x7b",
     "        let mut result = HashMap::new();"]
    ++ (if u.faulty then
        ["        result.insert(\"data\".to_string(), data + 1); // BUG: cannot add integer to &str"]
      else
        ["        result.insert(\"data\".to_string(), data.to_string());"])
    ++ ["        result.insert(\"timestamp\".to_string(), Utc::now().to_rfc3339());",
     "        Ok(result)",
     "    \x7d",
     "\x7d",
     ""]
  function := some fun index _ =>
    ["pub fn function_" ++ Decimal.natText index ++ "(param1: &str, param2: i64) -> HashMap<String, String> \x7b",
     "    let mut result = HashMap::new();",
     "    result.insert(\"param1\".to_string(), param1.to_string());",
     "    result.insert(\"param2\".to_string(), param2.to_string());",
     "    result",
     "\x7d",
     ""]

end CorpusForge.Source

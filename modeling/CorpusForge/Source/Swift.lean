import CorpusForge.Source.Style

/-!
# Swift sources

Final classes and functions.
-/

namespace CorpusForge.Source

/-- The style of Swift sources. -/
def swift : Style where
  id := "swift"
  freeFunctions := true
  header role :=
    ["import Foundation",
     "",
     "// " ++ role,
     ""]
  unit u :=
    ["final class " ++ u.name ++ " \x7b",
     "    private let config: [String: Any]",
     "    private var initialized = false",
     "",
     "    init(config: [String: Any]) \x7b",
     "        self.config = config",
     "    \x7d",
     "",
     "    func initialize() \x7b",
     "        print(\"Initializing component\")",
     "        initialized = true",
     "    \x7d",
     "",
     "    func process(_ data: Any) throws -> [String: Any] \x7b",
     "        guard initialized else \x7b",
     "            throw NSError(domain: \"Component\", code: 1, userInfo: [NSLocalizedDescriptionKey: \"Component not initialized\"])",
     "        \x7d",
     "        return transform(data)",
     "    \x7d",
     "",
     "    private func transform(_ data: Any) -> [String: Any] \x7b"]
    ++ (if u.faulty then
        ["        return data as! [String: Any] // BUG: crashes when data is not a dictionary"]
      else
        ["        return [\"data\": data, \"timestamp\": Date()]"])
    ++ ["    \x7d",
     "\x7d",
     ""]
  function := some fun index _ =>
    ["func function" ++ Decimal.natText index ++ "(_ param1: String, _ param2: Int = 0) -> [String: Any] \x7b",
     "    return [\"param1\": param1, \"param2\": param2, \"timestamp\": Date()]",
     "\x7d",
     ""]

end CorpusForge.Source

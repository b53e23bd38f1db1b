import CorpusForge.Source.Style

/-!
# TypeScript sources

Classes that implement a component interface, and typed functions.
-/

namespace CorpusForge.Source

/-- The style of TypeScript sources. -/
def typescript : Style where
  id := "typescript"
  freeFunctions := true
  header role :=
    ["// " ++ role,
     "import type \x7b Component \x7d from \"./types\";",
     ""]
  unit u :=
    ["export class " ++ u.name ++ " implements Component \x7b",
     "  private initialized = false;",
     "",
     "  constructor(private readonly config: Record<string, unknown>) \x7b\x7d",
     "",
     "  async initialize(): Promise<void> \x7b",
     "    console.log(\"Initializing service\");",
     "    this.initialized = true;",
     "  \x7d",
     "",
     "  async process(data: Record<string, unknown>): Promise<Record<string, unknown>> \x7b",
     "    if (!this.initialized) \x7b",
     "      throw new Error(\"Service not initialized\");",
     "    \x7d",
     "    return this.transform(data);",
     "  \x7d",
     "",
     "  private async transform(data: Record<string, unknown>): Promise<Record<string, unknown>> \x7b"]
    ++ (if u.faulty then
        ["    return (data.nonexistent as Record<string, unknown>).property as Record<string, unknown>; // BUG: Cannot read properties of undefined"]
      else
        ["    return \x7b ...data, processed: true \x7d;"])
    ++ ["  \x7d",
     "\x7d",
     ""]
  function := some fun index _ =>
    ["export function function" ++ Decimal.natText index ++ "(param1: string, param2 = 0): Record<string, unknown> \x7b",
     "  return \x7b param1, param2, timestamp: new Date().toISOString() \x7d;",
     "\x7d",
     ""]

end CorpusForge.Source

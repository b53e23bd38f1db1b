import CorpusForge.Config.Basic

/-!
# The bundled corpus

The tables that a run uses when its configuration gives none of its own.
-/

namespace CorpusForge.Corpus

def bundledCategories : List Category :=
  [⟨"open_source_clones", 100,
    ["react-clone", "vue-clone", "angular-clone", "django-clone", "flask-clone", "rails-clone",
     "spring-boot-clone", "express-clone", "laravel-clone", "symfony-clone", "fastapi-clone",
     "nextjs-clone", "gatsby-clone", "nuxt-clone", "nest-clone", "koa-clone", "gin-clone",
     "echo-clone", "actix-clone", "rocket-clone"]⟩,
   ⟨"enterprise_ecommerce", 50,
    ["shopify-clone", "woocommerce-clone", "magento-clone", "bigcommerce-clone"]⟩,
   ⟨"enterprise_crm", 50,
    ["salesforce-clone", "hubspot-clone", "zoho-clone", "pipedrive-clone"]⟩,
   ⟨"enterprise_erp", 50,
    ["sap-clone", "odoo-clone", "netsuite-clone", "oracle-erp-clone"]⟩,
   ⟨"enterprise_cms", 50,
    ["wordpress-clone", "drupal-clone", "joomla-clone", "strapi-clone"]⟩,
   ⟨"enterprise_analytics", 50,
    ["google-analytics-clone", "mixpanel-clone", "amplitude-clone", "segment-clone"]⟩,
   ⟨"enterprise_bi", 50,
    ["tableau-clone", "powerbi-clone", "looker-clone", "metabase-clone"]⟩,
   ⟨"enterprise_hr", 50,
    ["workday-clone", "bamboo-clone", "namely-clone", "gusto-clone"]⟩,
   ⟨"enterprise_pm", 50,
    ["jira-clone", "asana-clone", "monday-clone", "clickup-clone"]⟩,
   ⟨"microservices_small", 100,
    ["10-service-ecommerce", "10-service-social", "10-service-booking"]⟩,
   ⟨"microservices_medium", 100,
    ["50-service-banking", "50-service-healthcare", "50-service-logistics"]⟩,
   ⟨"microservices_large", 50,
    ["100-service-ridehail", "100-service-streaming"]⟩,
   ⟨"libraries_web", 100,
    ["web-framework", "http-client", "websocket-lib", "graphql-lib"]⟩,
   ⟨"libraries_testing", 50,
    ["test-framework", "mock-lib", "assertion-lib", "e2e-framework"]⟩,
   ⟨"libraries_orm", 50,
    ["orm-lib", "query-builder", "migration-tool", "schema-validator"]⟩,
   ⟨"cli_tools", 100,
    ["build-tool", "package-manager", "deploy-tool", "monitor-tool"]⟩,
   ⟨"mobile_ios", 50,
    ["swiftui-app", "uikit-app", "combine-app"]⟩,
   ⟨"mobile_android", 50,
    ["kotlin-app", "compose-app", "coroutines-app"]⟩,
   ⟨"games", 50,
    ["unity-game", "godot-game", "phaser-game"]⟩,
   ⟨"data_engineering", 50,
    ["etl-pipeline", "data-warehouse", "stream-processor", "ml-pipeline"]⟩]

def bundledLanguages : List Language :=
  [⟨"python", .ofRat (3 / 10), [".py"]⟩,
   ⟨"javascript", .ofRat (1 / 4), [".js", ".jsx"]⟩,
   ⟨"typescript", .ofRat (1 / 5), [".ts", ".tsx"]⟩,
   ⟨"java", .ofRat (1 / 10), [".java"]⟩,
   ⟨"go", .ofRat (1 / 20), [".go"]⟩,
   ⟨"rust", .ofRat (3 / 100), [".rs"]⟩,
   ⟨"ruby", .ofRat (3 / 100), [".rb"]⟩,
   ⟨"php", .ofRat (1 / 50), [".php"]⟩,
   ⟨"csharp", .ofRat (1 / 50), [".cs"]⟩]

def bundledContributors : List Contributor :=
  [⟨"Avery Quinn", "avery.quinn@example.com"⟩,
   ⟨"Jordan Patel", "jpatel@example.com"⟩,
   ⟨"Riley Okafor", "riley.o@example.com"⟩,
   ⟨"Morgan Lindqvist", "mlindqvist@example.com"⟩,
   ⟨"Casey Nakamura", "cnakamura@example.com"⟩,
   ⟨"Taylor Brennan", "tbrennan@example.com"⟩,
   ⟨"Jamie Castillo", "jcastillo@example.com"⟩,
   ⟨"Skyler Adeyemi", "sadeyemi@example.com"⟩,
   ⟨"Drew Halvorsen", "dhalvorsen@example.com"⟩,
   ⟨"Rowan Mercer", "rmercer@example.com"⟩,
   ⟨"Parker Ivanova", "pivanova@example.com"⟩,
   ⟨"Emerson Tan", "etan@example.com"⟩,
   ⟨"Hayden Moreau", "hmoreau@example.com"⟩,
   ⟨"Reese Kowalski", "rkowalski@example.com"⟩,
   ⟨"Sawyer Achebe", "sachebe@example.com"⟩]

/-- The tables shipped with the library. -/
def bundled : Corpus := ⟨bundledCategories, bundledLanguages, bundledContributors⟩

end CorpusForge.Corpus

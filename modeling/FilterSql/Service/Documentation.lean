import FilterSql.Json.Basic

/-!
# Documentation of the service

The page that shows the interface of the service, and an outline of that interface for tools: its
paths and the names of its schemas.
-/

namespace FilterSql.Service

def version : String := "0.1.0"

def title : String := "RecordQL API"

def description : String :=
  "Compiles structured record filters into parameterized SQL and runs them page by page"

def operations : List (String × List (String × String)) :=
  [("/api/v1/health", [("get", "Health check")]),
   ("/api/v1/query", [("get", "Describe supported operators, record types and an example request"),
     ("post", "Compile and execute a record query")])]

def schemas : List String :=
  ["CapabilitiesResponse", "ExecutionStats", "FailureDebug", "HealthResponse", "PaginationMeta",
   "QueryDebug", "QueryFailure", "QueryRequest", "QueryResponse"]

def outline : Json.Members :=
  [("openapi", .string "3.1.0"),
   ("info", .object
     [("title", .string title), ("description", .string description),
      ("version", .string version)]),
   ("paths", .object <| operations.map fun (path, methods) =>
     (path, .object <| methods.map fun (method, summary) =>
       (method, .object [("summary", .string summary)]))),
   ("components", .object
     [("schemas",
       .object <| schemas.map fun name => (name, .object [("type", .string "object")]))])]

def documentationPage : String :=
  "<!DOCTYPE html>\n" ++
  "<html lang=\"en\">\n" ++
  "<head>\n" ++
  "    <meta charset=\"UTF-8\">\n" ++
  "    <meta name=\"viewport\" content=\"width=device-width, initial-scale=1.0\">\n" ++
  "    <title>RecordQL API Documentation</title>\n" ++
  "    <link rel=\"stylesheet\" type=\"text/css\" " ++
  "href=\"https://unpkg.com/swagger-ui-dist@5/swagger-ui.css\">\n" ++
  "    <style>\n" ++
  "        html \x7b box-sizing: border-box; overflow-y: scroll; \x7d\n" ++
  "        *, *:before, *:after \x7b box-sizing: inherit; \x7d\n" ++
  "        body \x7b margin: 0; background: #fafafa; \x7d\n" ++
  "    </style>\n" ++
  "</head>\n" ++
  "<body>\n" ++
  "    <div id=\"swagger-ui\"></div>\n" ++
  "    <script src=\"https://unpkg.com/swagger-ui-dist@5/swagger-ui-bundle.js\"></script>\n" ++
  "    <script src=\"https://unpkg.com/swagger-ui-dist@5/swagger-ui-standalone-preset.js\">" ++
  "</script>\n" ++
  "    <script>\n" ++
  "        window.onload = () => \x7b\n" ++
  "            window.ui = SwaggerUIBundle(\x7b\n" ++
  "                url: \"/api/openapi.json\",\n" ++
  "                dom_id: '#swagger-ui',\n" ++
  "                presets: [\n" ++
  "                    SwaggerUIBundle.presets.apis,\n" ++
  "                    SwaggerUIStandalonePreset\n" ++
  "                ],\n" ++
  "                layout: \"StandaloneLayout\",\n" ++
  "                deepLinking: true,\n" ++
  "                showExtensions: true,\n" ++
  "                showCommonExtensions: true\n" ++
  "            \x7d);\n" ++
  "        \x7d;\n" ++
  "    </script>\n" ++
  "</body>\n" ++
  "</html>"

end FilterSql.Service

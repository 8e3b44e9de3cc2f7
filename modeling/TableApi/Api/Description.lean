import TableApi.Api.Health

namespace TableApi.Api

namespace Description

structure Parameter where
  name : String
  place : String
  type : String
  text : String
deriving DecidableEq, Repr

structure Operation where
  method : String
  tag : String
  parameters : List Parameter := []
  takesBody : Bool := false
  /-- What each status means. -/
  outcomes : List (Nat × String)
deriving DecidableEq, Repr

def resourceName : Parameter :=
  { name := "resource", place := "path", type := "string", text := "Configured resource name" }

def key : Parameter :=
  { name := "id", place := "path", type := "string", text := "Primary key" }

def listingParameters : List Parameter := [
  { name := "page", place := "query", type := "integer", text := "Page number (default 1)" },
  { name := "per_page", place := "query", type := "integer", text := "Items per page (1-500)" },
  { name := "sort", place := "query", type := "string",
    text := "Sort as \x60field[,asc|desc]\x60" },
  { name := "limit", place := "query", type := "integer", text := "Cap on matching rows" }]

def unauthorized : Nat × String := (401, "Missing or invalid API key")
def notObject : Nat × String := (400, "Body is not a JSON object")
def notFound : Nat × String := (404, "Record not found")
def refused : Nat × String := (422, "Validation failed")

def operations : List (String × List Operation) := [
  ("/api/v1/health", [
    { method := "get", tag := "health",
      outcomes := [(200, "Service is healthy"), (503, "Database unreachable")] }]),
  ("/api/v1/\x7bresource\x7d", [
    { method := "get", tag := "resources", parameters := resourceName :: listingParameters,
      outcomes := [(200, "Matching records"), (400, "Invalid paging parameters"), unauthorized,
        (422, "Invalid date filter")] },
    { method := "post", tag := "resources", parameters := [resourceName], takesBody := true,
      outcomes := [(201, "Record created"), notObject, unauthorized, refused] }]),
  ("/api/v1/\x7bresource\x7d/\x7bid\x7d", [
    { method := "get", tag := "resources", parameters := [resourceName, key],
      outcomes := [(200, "Record"), unauthorized, notFound] },
    { method := "put", tag := "resources", parameters := [resourceName, key], takesBody := true,
      outcomes := [(200, "Record updated"), notObject, unauthorized, notFound, refused] },
    { method := "delete", tag := "resources", parameters := [resourceName, key],
      outcomes := [(200, "Record deleted"), unauthorized, notFound, (500, "Delete failed")] }])]

def Parameter.json (p : Parameter) : Json :=
  .obj [("name", .str p.name), ("in", .str p.place), ("description", .str p.text),
    ("required", .bool (p.place = "path")), ("schema", .obj [("type", .str p.type)])]

def contentJson (text : String) : Json :=
  .obj [("description", .str text),
    ("content", .obj [(jsonType, .obj [("schema", .obj [("type", .str "object")])])])]

def Operation.json (o : Operation) : Json :=
  .obj ([("tags", .strings [o.tag])] ++
    (if o.parameters.isEmpty then []
      else [("parameters", .arr (o.parameters.map Parameter.json))]) ++
    (if o.takesBody then [("requestBody", contentJson "Column values")] else []) ++
    [("responses",
      .obj (o.outcomes.map fun (status, text) => (toString status, contentJson text)))])

def tagJson (name text : String) : Json :=
  .obj [("name", .str name), ("description", .str text)]

def document : Json :=
  .obj [
    ("openapi", .str "3.1.0"),
    ("info", .obj [("title", .str "QueryGate API"),
      ("description", .str "Query-string filtered REST API over SQLite tables"),
      ("version", .str version)]),
    ("paths", .obj (operations.map fun (path, ops) =>
      (path, .obj (ops.map fun o => (o.method, o.json))))),
    ("tags", .arr [tagJson "health" "Health check endpoint",
      tagJson "resources" "Configured table resources"])]

def pageLines : List String := [
  "<!DOCTYPE html>",
  "<html lang=\"en\">",
  "<head>",
  "    <meta charset=\"UTF-8\">",
  "    <meta name=\"viewport\" content=\"width=device-width, initial-scale=1.0\">",
  "    <title>QueryGate API Documentation</title>",
  "    <link rel=\"stylesheet\" type=\"text/css\" " ++
    "href=\"https://unpkg.com/swagger-ui-dist@5/swagger-ui.css\">",
  "    <style>",
  "        html \x7b box-sizing: border-box; overflow-y: scroll; \x7d",
  "        *, *:before, *:after \x7b box-sizing: inherit; \x7d",
  "        body \x7b margin: 0; background: #fafafa; \x7d",
  "    </style>",
  "</head>",
  "<body>",
  "    <div id=\"swagger-ui\"></div>",
  "    <script src=\"https://unpkg.com/swagger-ui-dist@5/swagger-ui-bundle.js\"></script>",
  "    <script src=\"https://unpkg.com/swagger-ui-dist@5/swagger-ui-standalone-preset.js\"></script>",
  "    <script>",
  "        window.onload = () => \x7b",
  "            window.ui = SwaggerUIBundle(\x7b",
  "                url: \"/api/openapi.json\",",
  "                dom_id: '#swagger-ui',",
  "                presets: [",
  "                    SwaggerUIBundle.presets.apis,",
  "                    SwaggerUIStandalonePreset",
  "                ],",
  "                layout: \"StandaloneLayout\",",
  "                deepLinking: true,",
  "                showExtensions: true,",
  "                showCommonExtensions: true",
  "            \x7d);",
  "        \x7d;",
  "    </script>",
  "</body>",
  "</html>"]

end Description

def descriptionResponse : Response := .json 200 Description.document

def descriptionPage : Response :=
  { status := 200, headers := [("content-type", "text/html; charset=utf-8")],
    body := Text.join "\n" Description.pageLines }

end TableApi.Api

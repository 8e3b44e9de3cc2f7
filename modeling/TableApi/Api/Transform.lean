import TableApi.Json.Basic

namespace TableApi.Api

def visible (hidden : List String) (record : Record) : Record :=
  record.retain fun name => !hidden.contains name

end TableApi.Api

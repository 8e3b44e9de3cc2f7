import TableApi.Json.Basic
import TableApi.Store.Page

namespace TableApi.Api

def defaultPerPage : Nat := 15

def maxPerPage : Nat := 500

structure PageRequest where
  page : Nat := 1
  perPage : Option Nat := none
deriving DecidableEq, Repr

def PageRequest.problems (r : PageRequest) : List String :=
  (if 1 ≤ r.page then [] else ["Page must be >= 1"]) ++
    (if r.perPage.all fun n => 1 ≤ n && n ≤ maxPerPage then []
     else ["per_page must be between 1 and 500"])

structure Pagination where
  total : Nat
  count : Nat
  perPage : Nat
  currentPage : Nat
  totalPages : Nat
deriving DecidableEq, Repr

/-- The pagination of a page that holds `count` of `total` rows: there is at least one page, and
every row is on one. -/
def pagination (p : Store.Page) (total count : Nat) : Pagination :=
  let size := max p.perPage 1
  { total, count, perPage := p.perPage, currentPage := p.number,
    totalPages := max ((total + size - 1) / size) 1 }

def Pagination.json (p : Pagination) : Json :=
  .obj [("total", .nat p.total), ("count", .nat p.count), ("per_page", .nat p.perPage),
    ("current_page", .nat p.currentPage), ("total_pages", .nat p.totalPages)]

end TableApi.Api

import TableApi.Text.Digits

namespace TableApi.Store

structure Page where
  number : Nat
  perPage : Nat
deriving DecidableEq, Repr

/-- How many rows stand before the page, cut to 64 bits. -/
def Page.offset (p : Page) : Nat := min Text.maxUnsigned64 ((p.number - 1) * p.perPage)

end TableApi.Store

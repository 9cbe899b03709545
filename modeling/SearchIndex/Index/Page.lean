import SearchIndex.Value.Shape

/-!
# Pages

A page holds one window of the results. The number of pages is the quotient of total and page size,
rounded to a float and then up, and at least one.

## Main definitions

* `Page`: the items of a window and where it lies
* `Page.lastPage`, `Page.hasMore`: the number of the last page, and whether this page is before it
-/

namespace SearchIndex.Index

/-- The items of a window of the results, the number of all results, the number of the page and the
size of pages. -/
structure Page (α : Type) where
  items : List α
  total : Value
  number : Value
  size : Value
deriving Repr

/-- The number of the last page of so many results, pages having a size. -/
def lastPageOf (total size : Number) : Except Number.Fault Int :=
  (total.ceilRatio size).map (max 1)

namespace Page

variable {α : Type}

/-- **The number of the last page.** -/
def lastPage (p : Page α) : Except Failure Int := do
  let size ← p.size.numberOf
  -- Only a size above zero is divided by.
  if (Number.int 0).less size then
    (lastPageOf (← p.total.numberOf) size).mapError .arithmetic
  else return 1

/-- A page follows this one. -/
def hasMore (p : Page α) : Except Failure Bool := do
  let last ← p.lastPage
  return (← p.number.numberOf).less (.int last)

end Page

end SearchIndex.Index

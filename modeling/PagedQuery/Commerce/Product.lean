import PagedQuery.Entity
import PagedQuery.Filter.Criteria

/-!
# Products

What a bicycle manufacturer sells, as a typed entity.

* `Product.ofRecord`, `Product.toRecord`: a product from its record, and its record;
* `ProductFilter`: what products can be looked up by.
-/

namespace PagedQuery.Commerce

/-- Something on the price list. -/
structure Product where
  productId : Int64
  name : String
  productNumber : String
  color : Option String
  listPrice : Decimal
  sellStartDate : Date
deriving DecidableEq

namespace Product

/-- What the records of products look like. -/
def schema : Schema where
  entity := "Product"
  identifier := "ProductID"
  attributes :=
    [⟨"Name", .text⟩, ⟨"ProductNumber", .text⟩, ⟨"Color", .text⟩, ⟨"ListPrice", .decimal⟩,
      ⟨"SellStartDate", .date⟩]
  names_valid := by decide
  names_distinct := by decide

/-- The product that a record stands for. -/
def ofRecord (r : Record) : Except Error Product := do
  return {
    productId := ← r.integerId
    name := ← r.required "Name" Value.asText
    productNumber := ← r.required "ProductNumber" Value.asText
    color := ← r.optional "Color" Value.asText
    listPrice := ← r.required "ListPrice" Value.asDecimal
    sellStartDate := ← r.required "SellStartDate" Value.asDate }

instance : Entity Product := ⟨schema, ofRecord⟩

/-- The record of a product. A color that is missing is null in it. -/
def toRecord (p : Product) : Record :=
  .ofList (.integer p.productId)
    [("Name", .text p.name),
      ("ProductNumber", .text p.productNumber),
      ("Color", p.color.elim .null .text),
      ("ListPrice", .decimal p.listPrice),
      ("SellStartDate", .date p.sellStartDate)]

end Product

/-- What products can be looked up by: parts of the name and of the product number, the color, and
    the two ends of a range of prices. -/
structure ProductFilter where
  name : Option String
  productNumber : Option String
  color : Option String
  minListPrice : Option Decimal
  maxListPrice : Option Decimal
deriving DecidableEq

namespace ProductFilter

/-- The end of a range at a price, which belongs to the range. -/
def priceBound (price : Option Decimal) : Bound :=
  price.elim .unbounded fun d => .inclusive (.decimal d)

/-- The range of prices, unless it has no ends. -/
def priceRange? (filter : ProductFilter) : Option Predicate :=
  if filter.minListPrice.isSome || filter.maxListPrice.isSome then
    some (.range (priceBound filter.minListPrice) (priceBound filter.maxListPrice))
  else none

/-- The criteria of a filter, with a clause for everything that is set; the ends of the range of
    prices share one. -/
def criteria (filter : ProductFilter) : Criteria :=
  .ofList <| List.flatten
    [filter.name.toList.map fun s => ("Name", .contains s),
      filter.productNumber.toList.map fun s => ("ProductNumber", .contains s),
      filter.color.toList.map fun s => ("Color", .equals (.text s)),
      filter.priceRange?.toList.map fun p => ("ListPrice", p)]

end ProductFilter

end PagedQuery.Commerce

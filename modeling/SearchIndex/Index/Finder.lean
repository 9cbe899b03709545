import SearchIndex.Index.Gateway

/-!
# Finders

A finder is a query builder that can run its request, if it has a gateway. Asking for the first
entity or for a page changes the size, and for a page the start, of the request for good.

## Main definitions

* `Finder σ`: a builder with a gateway and a factory
* `Finder.execute`, `Finder.get`: the result and the entities of the request
* `Finder.first`, `Finder.paginate`: the finder afterwards, and the first entity or a page
-/

namespace SearchIndex.Index

/-- A query builder with a gateway to run it and a factory for entities. -/
structure Finder (σ : Type) where
  gateway : Option (Gateway σ) := none
  factory : Factory := attributesOnly
  builder : Query.Builder := {}

namespace Finder

variable {σ : Type}

/-- A finder with a page size, whose field of kinds is its gateway's unless it is given one. -/
def new (gateway : Option (Gateway σ)) (factory : Factory) (typeField size : Value) : Finder σ :=
  ⟨gateway, factory, Query.Builder.new typeField
    ((gateway.map Gateway.typeField).getD (.text Query.defaultTypeField)) size⟩

/-- The gateway, which a finder needs to run its request. -/
def requireGateway (f : Finder σ) : Act σ (Gateway σ) :=
  match f.gateway with
  | some gateway => pure gateway
  | none => throw .noGateway

/-- The finder with its builder after a step. -/
def apply (f : Finder σ) (step : Query.Builder.Step) : Except Query.Fault (Finder σ) := do
  return { f with builder := ← f.builder.apply step }

/-- The finder with another request. -/
def withRequest (f : Finder σ) (r : Query.Request) : Finder σ :=
  { f with builder := { f.builder with request := r } }

/-- The parameters of the request. -/
def build (f : Finder σ) : Except Query.Fault Fields := f.builder.build

/-- **The result of the request.** -/
def execute (f : Finder σ) : Act σ Result := do
  (← f.requireGateway).execute f.builder.request

/-- **The entities of the request's hits.** -/
def get (f : Finder σ) : Act σ (List Value) := do
  (← f.requireGateway).get f.builder.request f.factory

/-- **The first entity**, nothing if there is none, with the finder afterwards. -/
def first (f : Finder σ) : Finder σ × Act σ Value :=
  let f := f.withRequest { f.builder.request with size := .int 1 }
  (f, do return (← f.get).headD .null)

/-- **A page**, with the finder afterwards; without a gateway, or a window to ask for, the finder
stays as it is. -/
def paginate (f : Finder σ) (size number : Value) : Finder σ × Act σ (Page Value) :=
  match f.gateway with
  | none => (f, throw .noGateway)
  | some gateway =>
    (match window f.builder.request size number with
      | .ok (r, _) => f.withRequest r
      | .error _ => f,
    gateway.paginate f.builder.request size number f.factory)

end Finder

end SearchIndex.Index

import SearchIndex.Index.Finder

/-!
# Inquiries

An inquiry searches for a phrase and prints the ids of the hits.

## Main definitions

* `Inquiry`: a phrase, and what is said about where and how much to search
* `Inquiry.steps`: the inquiry as steps of a query builder
* `Inquiry.run`: search and print
-/

namespace SearchIndex.Command

/-- A phrase to search for. -/
structure Inquiry where
  phrase : String
  /-- The kind to keep to. -/
  kind : Option String := none
  /-- The field to search in. -/
  field : Option String := none
  /-- The number of hits to ask for. -/
  size : Int := 0
deriving DecidableEq, Repr

namespace Inquiry

/-- A text that may be missing as a value. -/
def optional (s : Option String) : Value := (s.map Value.text).getD .null

/-- The step that searches for the phrase. -/
def phraseStep (q : Inquiry) : Query.Builder.Step :=
  .request (.query (.add (.phrase (.text q.phrase) (optional q.field))))

/-- **The inquiry as steps of a query builder.** An empty kind and a size of zero say nothing. -/
def steps (q : Inquiry) : List Query.Builder.Step :=
  let kind := q.kind.getD ""
  [q.phraseStep] ++
    (if kind = "" then [] else [.ofKind (.text kind) .null]) ++
    (if q.size = 0 then [] else [.request (.setSize (.int q.size))])

/-- The number of hits asked for when nothing is said about it. -/
def defaultSize : Int := 10

variable {σ : Type}

/-- **Search and print**: the result. -/
def run (q : Inquiry) (g : Index.Gateway σ) (print : String → Act σ Unit) : Act σ Index.Result := do
  let blank := Index.Finder.new (some g) Index.attributesOnly .null (.int defaultSize)
  let builder ← Act.ofExcept ((blank.builder.applyAll q.steps).mapError .query)
  let finder := { blank with builder := builder }
  let compiled ← Act.ofExcept (finder.build.mapError .query)
  g.backend.note (.debug ("Query: " ++ (Value.map compiled).shown))
  let result ← finder.execute
  g.backend.note (.info ("Found " ++ Decimal.intText result.found ++ " hit(s), showing " ++
    Decimal.natText result.hits.length))
  result.hits.forM fun hit => print hit.id
  return result

end Inquiry

end SearchIndex.Command

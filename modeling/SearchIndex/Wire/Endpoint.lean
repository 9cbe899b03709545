import SearchIndex.Failure
import SearchIndex.Text.Blank
import SearchIndex.Text.Pieces

/-!
# Endpoints

An endpoint is the address of a search domain. It is brought into one form: a scheme, no white
space around it, no slash at its end. Documents are sent to a host of their own, whose name starts
with another word than the one for searches.

## Main definitions

* `Endpoint.normalize url`: the endpoint in its one form
* `Endpoint.forDocuments url`: the endpoint that documents are sent to
-/

namespace SearchIndex.Wire.Endpoint

/-- The mark between a scheme and a host. -/
def schemeMark : List Char := "://".toList

/-- The scheme that is put before an endpoint without one. -/
def defaultScheme : List Char := "https".toList

/-- The endpoint with a scheme. -/
def withScheme (cs : List Char) : List Char :=
  if (Text.cutAt? schemeMark cs).isSome then cs else defaultScheme ++ schemeMark ++ cs

/-- **The endpoint in its one form.** -/
def normalize (url : String) : Except Failure String :=
  match Text.trim Text.isBlank url.toList with
  | [] => .error .emptyEndpoint
  | cs => .ok (String.ofList (Text.trimEnd (· == '/') (withScheme cs)))

/-- The first word of a host for searches. -/
def searchWord : List Char := "search-".toList

/-- The first word of a host for documents. -/
def documentWord : List Char := "doc-".toList

/-- The host for documents beside a host for searches. -/
def documentHost (host : List Char) : List Char :=
  match Text.afterStart? searchWord host with
  | some rest => documentWord ++ rest
  | none => host

/-- **The endpoint that documents are sent to.** -/
def forDocuments (url : String) : Except Failure String := do
  let normal ← normalize url
  let (scheme, host) := (Text.cutAt? schemeMark normal.toList).getD (normal.toList, [])
  return String.ofList (scheme ++ schemeMark ++ documentHost host)

end SearchIndex.Wire.Endpoint

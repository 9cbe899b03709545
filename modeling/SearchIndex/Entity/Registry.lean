import SearchIndex.Entity.Repository
import SearchIndex.Index.Hydration
import SearchIndex.Log.Note

/-!
# The registry of repositories

A registry knows the repository of each kind. It can be built from import paths, each a module and
an attribute of it, by a catalog that says what modules offer.

## Main definitions

* `Registry`, `Registry.get`, `Registry.register`: the repositories by their kinds
* `Registry.kinds`: the kinds in order
* `Registry.hydrate`, `Registry.factory`: how entities of all kinds are made
* `Offer`, `Catalog`: what modules offer
* `Registry.ofPaths`: the registry of import paths

## Main results

* `get_put_self`: a kind's repository is the one registered last
-/

namespace SearchIndex.Entity

/-- The repositories by their kinds. -/
abbrev Registry := List (Value.Key × Repository)

/-- What an attribute of a module is. -/
inductive Offer where
  /-- A repository. -/
  | ready (repository : Repository)
  /-- A function or class that makes a repository when it is called. -/
  | maker (repository : Repository)
  /-- Something that makes a value of another type when it is called. -/
  | stray (typeName : String)
  /-- Something that cannot be called without arguments, and what it says then. -/
  | demanding (text : String)
  /-- Something that cannot be called. -/
  | other (typeName : String)

/-- The attributes of modules. -/
abbrev Catalog := List (String × List (String × Offer))

namespace Registry

/-- **The repository of a kind.** -/
def get (r : Registry) (kind : Value) : Except Failure Repository := do
  match Keyed.find? (← kind.keyOf) r with
  | some repository => return repository
  | none => throw (.unknownKind kind)

/-- The registry with a kind's repository. -/
def register (r : Registry) (kind : Value) (repository : Repository) : Except Failure Registry := do
  return Keyed.put (← kind.keyOf) repository r

theorem get_put_self (r : Registry) (kind : String) (repository : Repository) :
    get (Keyed.put (.text kind) repository r) (.text kind) = .ok repository := by
  have h := Keyed.find?_put_self (Value.Key.exact_text kind).beq_self repository r
  simp only [get, Value.keyOf, Value.key?, bind, Except.bind, h]
  rfl

/-- The kind has a repository. -/
def contains (r : Registry) (kind : Value) : Except Failure Bool := do
  return (Keyed.find? (← kind.keyOf) r).isSome

/-- One key comes before another one: texts have the order of their code points, numbers that of
their values, and other keys have none. -/
def before? : Value.Key → Value.Key → Option Bool
  | .text a, .text b => some (a < b)
  | .number a, .number b => some (a.less b)
  | _, _ => none

/-- **The kinds with a repository**, in order. -/
def kinds (r : Registry) : Except Failure (List Value.Key) :=
  let keys := r.map Prod.fst
  -- One key needs no order.
  if 1 < keys.length ∧ keys.any fun a => keys.any fun b => (before? a b).isNone then
    .error .mixedKeys
  else .ok (keys.mergeSort fun a b => !((before? b a).getD false))

/-- **How an entity of a kind is made**: in the kind's own way if it has one, else by keeping the
attributes. -/
def hydrate (r : Registry) (kind attributes : Value) : Except Failure Value := do
  match (Keyed.find? (← kind.keyOf) r).bind Repository.hydrate with
  | some hydrate => hydrate attributes
  | none => return attributes

/-- How entities of all kinds are made. -/
def factory (r : Registry) : Index.Factory := fun kind attributes =>
  r.hydrate (.text kind) (.map attributes)

end Registry

/-! ## Import paths -/

/-- The module and the attribute of an import path. -/
def splitPath (path : String) : String × String :=
  match Text.cutAt? [':'] path.toList with
  | some (module, name) => (String.ofList module, String.ofList name)
  | none => (path, "")

/-- The steps of a module's name. -/
def moduleSteps (module : String) : List String := Text.splitOn '.' module

/-- The attributes of a module. A name that goes on after a module fails at its next step. -/
def Catalog.module (c : Catalog) (module : String) : Except Failure (List (String × Offer)) :=
  if module = "" then .error .emptyModule
  else
    match Keyed.find? module c with
    | some offers => .ok offers
    | none =>
      match moduleSteps module with
      | package :: next :: _ =>
        if package = "" then .error .relativeModule
        else if (Keyed.find? package c).isSome then
          .error (.notAPackage (package ++ "." ++ next) package)
        else .error (.unknownModule package)
      | _ => .error (.unknownModule module)

/-- A value of another type in the place of a repository: it does nothing that one does. -/
def Repository.stray (typeName : String) : Repository where
  fetch _ := .error (.noMember typeName "fetch")
  all := .error (.noMember typeName "iter_chunks")
  key _ := .error (.noMember typeName "searchable_id")
  document _ := .error (.noMember typeName "search_document")

/-- The repository that an import path leads to. -/
def Catalog.resolve (c : Catalog) (path : String) : Except Failure Repository := do
  let (module, name) := splitPath path
  let offers ← c.module module
  match Keyed.find? name offers with
  | none => throw (.unknownAttribute module name)
  | some (.ready repository) => return repository
  | some (.maker repository) => return repository
  | some (.stray typeName) => return .stray typeName
  | some (.demanding text) => throw (.demanding text)
  | some (.other typeName) => throw (.notARepository typeName)

/-- **The registry of import paths**, with a note about each. -/
def Registry.ofPaths {σ : Type} (note : Log.Note → Act σ Unit) (c : Catalog) (paths : Fields) :
    Act σ Registry :=
  paths.foldlM (fun registry (kind, path) => do
    let path ← Act.ofExcept (path.textFor "partition")
    let repository ← Act.ofExcept (c.resolve path)
    note (.debug ("Registered repository for " ++ (Value.ofKey kind).plain ++ ": " ++ path))
    return Keyed.put kind repository registry) []

end SearchIndex.Entity

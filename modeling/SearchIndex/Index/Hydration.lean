import SearchIndex.Index.Result
import SearchIndex.Query.Builder
import SearchIndex.Text.Case
import SearchIndex.Text.Pieces

/-!
# Entities from hits

A hit becomes an entity again: its fields are flattened, the field of kinds is taken out and names
the kind, and a factory makes the entity from the kind and the other attributes. Hits without a
kind and entities that are nothing are dropped.

## Main definitions

* `resultType kind`: the short name of a kind
* `Factory`: how entities are made
* `hydrateHit`, `hydrateHits`: the entity of a hit, and those of several
* `groupHits`: the entities by the short names of their kinds

## Main results

* `hydrateHit_ofKey`: the entity of a hit when the field of kinds is a key
* `hydrateHits_nil`: no hits give no entities
-/

namespace SearchIndex.Index

/-- The characters between the parts of a kind's name. -/
def isKindSeparator (c : Char) : Bool := c == '\\' || c == '/' || c == '.' || c == ':'

/-- The last part of a kind's name, in lower case. -/
def resultType (kind : String) : String :=
  Text.lower (String.ofList ((Text.splitBy isKindSeparator kind.toList).getLast?.getD []))

/-- The attribute that holds the short name of a kind. -/
def resultTypeField : String := "result_type"

/-- How an entity is made from its kind and attributes. -/
abbrev Factory := String → Fields → Except Failure Value

/-- The factory that keeps the attributes. -/
def attributesOnly : Factory := fun _ attributes => .ok (.map attributes)

/-- The kind of a hit, if it has one. -/
def kindOf? (typeField : Value.Key) (h : Hit) : Option String :=
  let v := Value.lookup h.flatten typeField
  if v.truthy then some v.plain else none

/-- The attributes of a hit of a kind. -/
def attributesOf (typeField : Value.Key) (kind : String) (h : Hit) : Fields :=
  Keyed.put resultTypeField (.text (resultType kind)) (Keyed.erase typeField h.flatten)

/-- The entity of a hit by the key of its kind, nothing if it has no kind. -/
def hydrateBy (factory : Factory) (typeField : Value.Key) (h : Hit) : Except Failure Value :=
  match kindOf? typeField h with
  | none => .ok .null
  | some kind => factory kind (attributesOf typeField kind h)

/-- **The entity of a hit**, nothing if it has no kind. -/
def hydrateHit (factory : Factory) (typeField : Value) (h : Hit) : Except Failure Value :=
  -- Without fields there is no kind, whatever the field of kinds.
  if h.fields.isEmpty then .ok .null else do hydrateBy factory (← typeField.keyOf) h

theorem hydrateHit_ofKey (factory : Factory) (key : Value.Key) (h : Hit) :
    hydrateHit factory (.ofKey key) h = hydrateBy factory key h := by
  rw [hydrateHit, Value.keyOf_ofKey]
  split
  · next he =>
    have hf : h.fields = [] := by simpa using he
    simp [hydrateBy, kindOf?, Hit.flatten, hf, Value.lookup, Value.valueAt?, Value.truthy]
  · rfl

/-- The value is something. -/
def isSomething : Value → Bool
  | .null => false
  | _ => true

/-- **The entities of hits**, without those that are nothing. -/
def hydrateHits (factory : Factory) (typeField : Value) (hits : List Hit) :
    Except Failure (List Value) := do
  let entities ← hits.mapM (hydrateHit factory typeField)
  return entities.filter isSomething

theorem hydrateHits_nil (factory : Factory) (typeField : Value) :
    hydrateHits factory typeField [] = .ok [] := rfl

/-- The entity of a hit with the short name of its kind, if it has one and is something. -/
def labelled (factory : Factory) (typeField : Value) (h : Hit) :
    Except Failure (Option (String × Value)) := do
  match kindOf? (← typeField.keyOf) h with
  | none => return none
  | some kind =>
    let entity ← hydrateHit factory typeField h
    -- Entities that are nothing have no group.
    return if isSomething entity then some (resultType kind, entity) else none

/-- **The entities of hits by the short names of their kinds.** -/
def groupHits (factory : Factory) (typeField : Value) (hits : List Hit) :
    Except Failure (List (String × List Value)) := do
  let entities ← hits.mapM (labelled factory typeField)
  return (Keyed.group Prod.fst (entities.filterMap id)).map fun (name, group) =>
    (name, group.map Prod.snd)

end SearchIndex.Index

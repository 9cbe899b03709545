import SearchIndex.Query.Expression

/-!
# Boxes around a point on the globe

A box reaches the same number of miles in each direction. A degree of latitude is taken as 69
miles, and a degree of longitude as 69 miles times the cosine of the latitude.

## Main definitions

* `Point`, `Box`: a position in degrees, and two opposite corners
* `Box.around`: the box around a point
* `haversine`: the formula of the distance of a field's position from a point
-/

namespace SearchIndex.Query

/-- A position in degrees. -/
structure Point where
  latitude : Float
  longitude : Float
deriving Repr, Inhabited

/-- The text of a position: latitude, comma, longitude. -/
def Point.text (p : Point) : String :=
  Decimal.floatText p.latitude ++ "," ++ Decimal.floatText p.longitude

/-- A box by two opposite corners. -/
structure Box where
  upperLeft : Point
  lowerRight : Point
deriving Repr, Inhabited

/-- The miles of a degree of latitude. -/
def milesPerDegree : Int := 69

/-- An angle of degrees in radians. -/
def radians (degrees : Float) : Float := degrees * 0.017453292519943295

/-- The cosine of an angle, which an infinite angle does not have. -/
def cosine (angle : Float) : Except Number.Fault Float :=
  match Binary64.read angle with
  | .infinite _ => .error .outsideDomain
  | _ => .ok angle.cos

/-- The box whose corners are two distances away from a centre. -/
def Box.ofCentre (lat lon latDelta lonDelta : Float) : Box :=
  ⟨⟨lat + latDelta, lon - lonDelta⟩, ⟨lat - latDelta, lon + lonDelta⟩⟩

/-- The number a value is, as a coordinate must be. -/
def coordinate (v : Value) : Except Fault Number :=
  match v.number? with
  | some n => .ok n
  | none => .error (.notANumber v.typeName)

/-- The float of a coordinate. -/
def degrees (v : Value) : Except Fault Float := do
  (← coordinate v).toFloat.mapError .arithmetic

/-- **The box around a point** that reaches `radius` miles in each direction. -/
def Box.around (lat lon radius : Value) : Except Fault Box := do
  let radius ← coordinate radius
  let latDelta ← (radius.divide (.int milesPerDegree)).mapError .arithmetic
  let latitude ← degrees lat
  let scale ← (cosine (radians latitude)).mapError .arithmetic
  let lonDelta ← (radius.divide (.float (scale * Float.ofInt milesPerDegree).abs)).mapError
    .arithmetic
  -- The longitude is looked at last.
  let longitude ← degrees lon
  return Box.ofCentre latitude longitude latDelta lonDelta

/-- The formula of the distance of a field's position from a point. -/
def haversine (field lat lon : Value) : String :=
  "haversin(" ++ lat.plain ++ "," ++ lon.plain ++ "," ++ field.plain ++ ".latitude," ++
    field.plain ++ ".longitude)"

end SearchIndex.Query

import StubClass.Method.Definition
import StubClass.Random.Source
import StubClass.Settings

set_option autoImplicit false

/-! # What a member returns

A member returns its literal, the same on every call, unless its definition wants random values:
then every call makes one request of a source, within the bounds of the settings that the member was
built with. Which of the two it is, and within which bounds, is settled when the member is made. -/

namespace StubClass

open StubClass.Random (Request Source)

/-- What is asked for in place of a marker. -/
def Marker.request (settings : Settings) : Marker → Request
  | .int => .integer (.int settings.integerMin) (.int settings.integerMax)
  | .str | .symbol => .text (.int settings.stringLength)

/-- The answer to the request of a marker, as a value of the kind it asks for. -/
def Marker.dress : Marker → Value → Value
  | .symbol, .str text => .symbol text
  | _, answer => answer

/-- A fresh value for a marker. -/
def Marker.draw (m : Marker) (settings : Settings) (source : Source) :
    Except Error Value × Source :=
  let (answer, source) := source.draw (m.request settings)
  (answer.map m.dress, source)

/-- A fresh value if the value is a marker, and the value itself otherwise. -/
def Value.drawIfMarker (v : Value) (settings : Settings) (source : Source) :
    Except Error Value × Source :=
  match v.marker? with
  | some m => m.draw settings source
  | none => (.ok v, source)

/-- Draws for the markers among some values one after another, up to the first draw that fails. -/
def Value.drawMarkers (settings : Settings) :
    List Value → Source → Except Error (List Value × Source)
  | [], source => .ok ([], source)
  | v :: vs, source =>
    match v.drawIfMarker settings source with
    | (.error e, _) => .error e
    | (.ok drawn, source) => (drawMarkers settings vs source).map fun r => (drawn :: r.1, r.2)

/-- What resolves the return value of a member. -/
inductive Resolver where
  /-- A value that is returned as it is. -/
  | literal (value : Value)
  /-- A value that is drawn for on every call, within the bounds of settings. -/
  | random (value : Value) (settings : Settings)
deriving Repr

/-- What resolves the return value of a definition within settings. -/
def MethodDefinition.resolver (d : MethodDefinition) (settings : Settings) : Resolver :=
  if d.wantsRandom then .random d.returnValue settings else .literal d.returnValue

/-- The return value of a call. -/
def Resolver.resolve : Resolver → StateM Source (Except Error Value)
  | literal value => fun source => (.ok value, source)
  | random value settings => fun source => value.drawIfMarker settings source

end StubClass

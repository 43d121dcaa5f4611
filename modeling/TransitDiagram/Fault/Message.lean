import TransitDiagram.Decimal.Shortest
import TransitDiagram.Fault

/-!
# Wording of faults

What is said of a fault. A number is given with all of its digits, never with an exponent.
-/

namespace TransitDiagram

namespace Fault

/-- Numbers in messages are written plainly, whole ones without a point. -/
def numberStyle : NumeralStyle :=
  ⟨fun _ => true, false⟩

def numberText (x : Float) : String :=
  if x.isFinite then String.ofList (Numeral.ofFloat .up numberStyle x).chars
  else if x.isNaN then "NaN"
  else if x < 0 then "-inf"
  else "inf"

end Fault

def Measure.name : Measure → String
  | occupancy => "occupancy"
  | capacity => "capacity"
  | value => "value"
  | referenceOccupancy => "referenceOccupancy"

def Owner.label : Owner → String
  | node side key => side.name ++ " node " ++ key.label
  | link id => "link " ++ toString id
  | flow index => "flow record #" ++ toString index
  | trip key => "section " ++ key.text

def Moment.label : Moment → String
  | displayTime key => "display time of node " ++ key.label
  | departure key => "departure of section " ++ key.text
  | arrival key => "arrival of section " ++ key.text

/-- What is wrong with a style, in words. -/
def StyleFault.message : StyleFault Float → String
  | notPositive setting value =>
    setting ++ " must be positive, got " ++ Fault.numberText value
  | negative setting value =>
    setting ++ " must be a non-negative number, got " ++ Fault.numberText value
  | nodeExceedsLink node link =>
    "minNodeExtent (" ++ Fault.numberText node ++ ") must not exceed minLinkExtent (" ++
      Fault.numberText link ++ ")"

def Fault.message : Fault Float → String
  | negative measure owner value =>
    measure.name ++ " of " ++ owner.label ++ " must not be negative (got " ++
      numberText value ++ ")"
  | notFinite measure owner value =>
    measure.name ++ " of " ++ owner.label ++ " must be finite (got " ++ numberText value ++ ")"
  | repeatedNode side key => "duplicate node id on the " ++ side.name ++ " side: " ++ key.label
  | style fault => "invalid layout config: " ++ fault.message
  | clock time => "invalid clock time " ++ time.text
  | noDate moment seconds =>
    moment.label ++ " is not a representable timestamp: " ++ toString seconds.toInt
  | noRange => "flow records were given without a time window"

end TransitDiagram

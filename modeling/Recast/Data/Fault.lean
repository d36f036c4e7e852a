/-!
Faults of a data stage.

A transformation changes data only after the data was validated against the model, so the
conditions that would stop it (content that is not an object, a path that reaches two targets
where the model admits one) cannot arise on valid data. Should one arise anyway, the data stage
reports a `DataFault` naming the transformation and what it met.
-/

namespace Recast

/-- A condition that validating the data first rules out, met by a transformation's data stage. -/
structure DataFault where
  transformation : String
  message : String
  deriving DecidableEq, Inhabited, Repr

/-- The text of a data fault. -/
def DataFault.text (fault : DataFault) : String :=
  "Transformation '" ++ fault.transformation ++ "' hit an unexpected condition: " ++ fault.message

end Recast

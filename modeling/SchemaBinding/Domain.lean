import SchemaBinding.Domain.Label

namespace SchemaBinding.Domain

/-- The ASCII form of the domain that a text stands for, if it stands for one. -/
def ascii? (text : List Char) : Option (List Char) := do
  let labels ← ((composed (← readings? text)).splitOnP (· == '.')).mapM meant?
  if labels.all (fun label => isAscii label || isValid label) && directionsAgree labels then
    some (Text.joinWith "." (labels.map fun label => String.ofList (toAscii label))).toList
  else none

end SchemaBinding.Domain

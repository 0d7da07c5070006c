import SchemaBinding.Table
import SchemaBinding.Text.Pieces

namespace SchemaBinding

/-- The facets of which a restriction has at most one. -/
inductive SingleFacet
  | length
  | minLength
  | maxLength
  | minInclusive
  | maxInclusive
  | minExclusive
  | maxExclusive
  | totalDigits
  | fractionDigits
  deriving DecidableEq, Repr

namespace SingleFacet

/-- In the order in which they are described. -/
def all : List SingleFacet :=
  [length, minLength, maxLength, minInclusive, maxInclusive, minExclusive, maxExclusive,
    totalDigits, fractionDigits]

def tag : SingleFacet → String
  | length => "length"
  | minLength => "minLength"
  | maxLength => "maxLength"
  | minInclusive => "minInclusive"
  | maxInclusive => "maxInclusive"
  | minExclusive => "minExclusive"
  | maxExclusive => "maxExclusive"
  | totalDigits => "totalDigits"
  | fractionDigits => "fractionDigits"

def label : SingleFacet → String
  | length => "Length"
  | minLength => "Min length"
  | maxLength => "Max length"
  | minInclusive => "Min inclusive"
  | maxInclusive => "Max inclusive"
  | minExclusive => "Min exclusive"
  | maxExclusive => "Max exclusive"
  | totalDigits => "Total digits"
  | fractionDigits => "Fraction digits"

def ofTag? (tag : String) : Option SingleFacet :=
  all.find? fun facet => facet.tag == tag

end SingleFacet

structure Facets where
  enumeration : List String := []
  patterns : List String := []
  /-- The latest value of each single facet that was set. -/
  singles : Table SingleFacet String := []
  deriving DecidableEq, Repr

namespace Facets

/-- Facets that are known and say nothing worth a comment. -/
def silentTags : List String := ["whiteSpace", "assertion", "explicitTimezone"]

def single? (facets : Facets) (facet : SingleFacet) : Option String :=
  facets.singles.get? facet

def set? (facets : Facets) (tag value : String) : Option Facets :=
  if tag = "enumeration" then
    some { facets with enumeration := facets.enumeration ++ [value] }
  else if tag = "pattern" then
    some { facets with patterns := facets.patterns ++ [value] }
  else
    match SingleFacet.ofTag? tag with
    | some facet => some { facets with singles := facets.singles.put facet value }
    | none => if silentTags.contains tag then some facets else none

/-- One line per facet, in a fixed order. -/
def describe (facets : Facets) : List String :=
  (if facets.enumeration.isEmpty then []
    else ["Allowed values: " ++ Text.joinWith ", " facets.enumeration]) ++
  facets.patterns.map ("Pattern: " ++ ·) ++
  SingleFacet.all.filterMap fun facet =>
    (facets.single? facet).map fun value => facet.label ++ ": " ++ value

def isEmpty (facets : Facets) : Bool :=
  facets.describe.isEmpty

end Facets

end SchemaBinding

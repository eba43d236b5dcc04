/-
# Problems with settings

Why the value of a setting is refused. All refused settings of a record are
reported together, in the order in which the record declares them.

Key definitions: `Problem`, `Problem.code`, `Problem.message`, `Refusal`.
-/
namespace ClusterLink

/-- What is wrong with the value of a setting. -/
inductive Problem
  | missing
  | notPositive
  | negative
  | notANumber
  | unreadableNumber
  | notAnInteger
  | unreadableInteger
  | fractional
  | integerTooLarge
  | notFinite
  | notAText
  | emptyText
  deriving DecidableEq, Repr

namespace Problem

/-- The code of the problem. -/
def code : Problem → String
  | missing => "missing"
  | notPositive => "greater_than"
  | negative => "greater_than_equal"
  | notANumber => "float_type"
  | unreadableNumber => "float_parsing"
  | notAnInteger => "int_type"
  | unreadableInteger => "int_parsing"
  | fractional => "int_from_float"
  | integerTooLarge => "int_parsing_size"
  | notFinite => "finite_number"
  | notAText => "string_type"
  | emptyText => "string_too_short"

/-- The problem in words. -/
def message : Problem → String
  | missing => "Field required"
  | notPositive => "Input should be greater than 0"
  | negative => "Input should be greater than or equal to 0"
  | notANumber => "Input should be a valid number"
  | unreadableNumber => "Input should be a valid number, unable to parse string as a number"
  | notAnInteger => "Input should be a valid integer"
  | unreadableInteger => "Input should be a valid integer, unable to parse string as an integer"
  | fractional => "Input should be a valid integer, got a number with a fractional part"
  | integerTooLarge => "Unable to parse input string as an integer, exceeded maximum size"
  | notFinite => "Input should be a finite number"
  | notAText => "Input should be a valid string"
  | emptyText => "String should have at least 1 character"

end Problem

/-- A setting that was refused, and why. -/
structure Refusal where
  field : String
  problem : Problem
  deriving DecidableEq, Repr

end ClusterLink

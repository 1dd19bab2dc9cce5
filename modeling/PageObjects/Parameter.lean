import PageObjects.Types.Basic

/-!
# Parameters

An argument, once resolved, is a parameter: either a literal, a constant
already written as code with its type, or a named parameter, which becomes a
parameter of the generated method. Only named parameters take part in
signatures and in the check that names are distinct.
-/

namespace PageObjects

/-- A resolved argument. -/
inductive Parameter where
  /-- A constant, written as code. -/
  | literal (value : String) (type : Ty)
  /-- A named parameter of the generated method. -/
  | named (name : String) (type : Ty)
  deriving DecidableEq, Repr, Inhabited

namespace Parameter

/-- The type of a parameter. -/
def type : Parameter → Ty
  | literal _ t => t
  | named _ t => t

/-- Whether a parameter is named. -/
def isNamed : Parameter → Bool
  | named .. => true
  | literal .. => false

/-- The name of a named parameter. -/
def name? : Parameter → Option String
  | named n _ => some n
  | literal .. => none

end Parameter

/-- The named parameters among parameters, in order. -/
def namedOnly (parameters : List Parameter) : List Parameter :=
  parameters.filter Parameter.isNamed

/-- The names of the named parameters, in order. -/
def parameterNames (parameters : List Parameter) : List String :=
  parameters.filterMap Parameter.name?

/-- The first name that two named parameters share, scanning from the front. -/
def repeatedName? (parameters : List Parameter) : Option String :=
  (parameterNames parameters).firstRepeat?

end PageObjects

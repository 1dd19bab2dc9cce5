import PageObjects.Error
import PageObjects.Json.Display

/-!
# Type tokens

The grammar names built-in types by tokens. The registry holds fourteen, in
this order: `boolean`, `number`, `string`, `locator`, `reference`, `function`,
`void`, `container`, `element`, and the five capabilities. Narrower positions
accept fewer: a named argument takes a primitive, `locator`, `reference` or
`element`; a placeholder a primitive; an element's capability list the five
capabilities.

An unknown token is reported with the tokens its position accepts, in registry
order. A token that is not a text at all is shown by its plain text.
-/

namespace PageObjects.Registry

/-- The registered type tokens, in registry order. -/
def tokens : List String :=
  ["boolean", "number", "string", "locator", "reference", "function", "void", "container",
    "element"] ++ Capability.all.map Capability.token

/-- The tokens a named argument may declare. -/
def argumentTokens : List String :=
  ["boolean", "number", "string", "locator", "reference", "element"]

/-- The primitive tokens. -/
def primitiveTokens : List String := ["boolean", "number", "string"]

/-- The capability tokens. -/
def capabilityTokens : List String := Capability.all.map Capability.token

/-- The type a registered token names. -/
def typeOf? (token : String) : Option Ty :=
  match token with
  | "boolean" => some Ty.boolean
  | "number" => some Ty.number
  | "string" => some Ty.string
  | "locator" => some .locator
  | "reference" => some .reference
  | "function" => some .function
  | "void" => some .void
  | "container" => some .container
  | "element" => some Ty.element
  | other => (Capability.ofToken? other).map (fun c => .basic [c])

/-- The type of a token that the allowed list admits, or the unknown-type error
listing it. -/
def resolveAmong (allowed : List String) (owner : Option String) (token : String) :
    Compiling Ty :=
  match (if allowed.contains token then typeOf? token else none) with
  | some t => .ok t
  | none => failWith owner (.unknownType token allowed)

/-- The type of any registered token. -/
def resolve (owner : Option String) (token : String) : Compiling Ty :=
  resolveAmong tokens owner token

/-- The type of a token a named argument declares. -/
def resolveArgument (owner : Option String) (token : String) : Compiling Ty :=
  resolveAmong argumentTokens owner token

/-- The type of a primitive token. -/
def resolvePrimitive (owner : Option String) (token : String) : Compiling Ty :=
  resolveAmong primitiveTokens owner token

/-- The type of a token given as any value: a text is looked up among the
allowed tokens, anything else is unknown. -/
def resolveValueAmong (allowed : List String) (owner : Option String) : Json → Compiling Ty
  | .str token => resolveAmong allowed owner token
  | other => failWith owner (.unknownType other.plain allowed)

/-- The capability a value names, or the unknown-type error of a capability
list. -/
def capabilityOf (owner : Option String) : Json → Compiling Capability
  | .str token =>
    match Capability.ofToken? token with
    | some c => .ok c
    | none => failWith owner (.unknownType token capabilityTokens)
  | other => failWith owner (.unknownType other.plain capabilityTokens)

/-- The basic element type of a list of capability tokens, in any order and
with repeats: actionable for none, canonical otherwise. The first token that
names no capability is reported. -/
def basicElementType (owner : Option String) (tokens : List Json) : Compiling Ty := do
  let capabilities ← tokens.mapM (capabilityOf owner)
  return Ty.basicOf capabilities

end PageObjects.Registry

import PageObjects.Decimal.Binary64

/-!
# Page-object declarations before resolution

What the grammar reads from a document, with names, types and selectors still
unresolved tokens.

* An argument is a literal value (with an optional declared type), a named
  parameter with its type, or a predicate: a list of statements.
* A literal is a flag, an integer, a binary64 number, a text, a selector, or a
  reference to an element with arguments for its getter.
* A statement applies an action to an element, with arguments, an optional
  matcher, an optional filtering predicate, and the result type of a component
  call.
* An element has a name, a type token, a selector, visibility, nested and
  shadow elements, a filter and a description.
* A method has a name and one of three bodies (compose statements, a chain of
  links, or an external utility), or none in an interface. For `args`, the
  return and `returnAll`, absence differs from an empty value.
-/

namespace PageObjects

/-- A type token: one token, or a list of capability tokens. -/
inductive TypeToken where
  | single (token : String)
  | capabilities (tokens : List String)
  deriving DecidableEq, Repr

mutual

/-- An argument as declared. -/
inductive ArgumentSpec where
  /-- A literal value, with the type it declares, if any. -/
  | value (literal : LiteralSpec) (declared : Option String)
  /-- A named parameter and its type token. -/
  | named (name : String) (type : String)
  /-- A predicate: statements whose last one gives the result. -/
  | predicate (statements : List StatementSpec)

/-- A literal value as declared. -/
inductive LiteralSpec where
  | flag (value : Bool)
  | integer (value : Int)
  | decimal (value : Decimal.Binary64)
  | text (value : String)
  | selector (spec : SelectorSpec)
  /-- A reference to an element's getter, with literal arguments. -/
  | element (name : String) (args : List ArgumentSpec)

/-- A selector as declared: its kind and template tokens, arguments for its
placeholders, and whether it returns all matches. -/
structure SelectorSpec where
  kind : String
  template : String
  args : List ArgumentSpec
  returnsAll : Bool

/-- A matcher as declared: its name and arguments. -/
structure MatcherSpec where
  type : String
  args : List ArgumentSpec

/-- A compose statement as declared. -/
structure StatementSpec where
  element : String
  apply : String
  args : List ArgumentSpec
  matcher : Option MatcherSpec
  predicate : Option (List StatementSpec)
  returnType : Option String
  returnsAll : Bool

end

/-- A filter of a list element as declared. -/
structure FilterSpec where
  apply : String
  args : List ArgumentSpec
  matcher : Option MatcherSpec
  findFirst : Bool

/-- An element as declared. -/
structure ElementSpec where
  name : String
  type : Option TypeToken
  selector : Option SelectorSpec
  isPublic : Bool
  isNullable : Bool
  elements : List ElementSpec
  shadowElements : List ElementSpec
  filter : Option FilterSpec
  description : String

/-- A link of a chain as declared. -/
structure ChainLinkSpec where
  element : String
  type : Option String
  returnsAll : Bool

/-- An external utility call as declared. -/
structure UtilitySpec where
  type : String
  invoke : String
  args : List ArgumentSpec

/-- A method as declared. -/
structure MethodSpec where
  name : String
  args : Option (List ArgumentSpec)
  returnType : Option TypeToken
  returnsAll : Option Bool
  compose : Option (List StatementSpec)
  chain : Option (List ChainLinkSpec)
  utility : Option UtilitySpec
  description : String

/-- A page object as declared. -/
structure PageObjectSpec where
  elements : List ElementSpec
  shadowElements : List ElementSpec
  methods : List MethodSpec
  isInterface : Bool
  implements : Option String
  isRoot : Bool
  rootSelector : Option SelectorSpec
  rootType : Option TypeToken
  exposeRootElement : Bool
  description : String

end PageObjects

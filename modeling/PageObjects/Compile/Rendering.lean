import PageObjects.Compile.PageObject

/-!
# Compiled declarations as JSON

The JSON form of a compiled page object. Types appear by their full text.
Optional parts of a statement (`elementArgs`, `predicate`, `filter`,
`matcher`, `fanOut`, `isLast`) and of a selector (`args`, `returnAll`) appear
only when non-empty or true; a method's `description` only when it has comment
lines.
-/

namespace PageObjects

/-- A text value. -/
def jsonText (s : String) : Json := .str s

/-- A list of types by their full text. -/
def typesJson (types : List Ty) : Json := .arr (types.map (fun t => .str t.render))

/-- The JSON form of a parameter. -/
def Parameter.toJson : Parameter → Json
  | .literal value type => .obj [("value", .str value), ("type", .str type.render)]
  | .named name type => .obj [("name", .str name), ("type", .str type.render)]

/-- The JSON form of parameters. -/
def parametersJson (parameters : List Parameter) : Json :=
  .arr (parameters.map Parameter.toJson)

/-- The JSON form of a selector. -/
def Selector.toJson (s : Selector) : Json :=
  .obj ([(s.kind.token, .str s.template)] ++
    (if s.parameters.isEmpty then [] else [("args", parametersJson s.parameters)]) ++
    (if s.returnsAll then [("returnAll", .bool true)] else []))

/-- The JSON form of a matcher. -/
def Matcher.toJson (m : Matcher) : Json :=
  .obj [("type", .str m.kind.name), ("args", parametersJson m.parameters)]

/-- The JSON form of an optional value, null when absent. -/
def optionJson {α : Type} (f : α → Json) : Option α → Json
  | some a => f a
  | none => .null

mutual

/-- The JSON form of a compose statement. -/
def Statement.toJson : Statement → Json
  | ⟨elementName, getterName, actionName, _, elementParameters, parameters, predicate, filter,
      matcher, fanOut, returnType, isLast⟩ =>
    .obj ([("element", .str elementName), ("getter", .str getterName), ("apply", .str actionName),
        ("args", parametersJson parameters), ("returnType", .str returnType.render)] ++
      (if elementParameters.isEmpty then [] else [("elementArgs", parametersJson elementParameters)]) ++
      (if predicate.isEmpty then [] else [("predicate", .arr (statementsJson predicate))]) ++
      (if filter.isEmpty then [] else [("filter", .arr (statementsJson filter))]) ++
      (match matcher with
        | some m => [("matcher", m.toJson)]
        | none => []) ++
      (if fanOut then [("fanOut", .bool true)] else []) ++
      (if isLast then [("isLast", .bool true)] else []))

/-- The JSON forms of statements. -/
def statementsJson : List Statement → List Json
  | [] => []
  | st :: rest => st.toJson :: statementsJson rest

end

/-- The JSON form of a view method's body. -/
def Body.toJson : Body → Json
  | .method (.compose statements) =>
    .obj [("kind", .str "compose"), ("statements", .arr (statementsJson statements))]
  | .method (.chain links) =>
    .obj [("kind", .str "chain"), ("links", .arr (links.map (fun link =>
      .obj [("element", .str link.elementName), ("getter", .str link.getterName),
        ("type", .str link.type.render), ("returnAll", .bool link.returnsAll)])))]
  | .method (.utility type invoke parameters) =>
    .obj [("kind", .str "externalUtility"), ("type", .str type.render), ("invoke", .str invoke),
      ("args", parametersJson parameters)]
  | .method .abstract => .obj [("kind", .str "abstract")]
  | .getter g =>
    .obj ([("kind", .str "element"), ("element", .str g.elementName),
        ("scope", optionJson jsonText g.scope), ("selector", optionJson Selector.toJson g.selector),
        ("list", .bool g.isList), ("nullable", .bool g.isNullable)] ++
      match g.filter with
      | some f =>
        [("filter", .obj [("apply", .str f.apply), ("args", parametersJson f.parameters),
          ("matcher", optionJson Matcher.toJson f.matcher), ("findFirst", .bool f.findFirst)])]
      | none => [])

/-- The fields of a method signature. -/
def MethodDeclaration.fields (d : MethodDeclaration) : List (String × Json) :=
  [("name", .str d.name), ("args", parametersJson d.parameters), ("return", .str d.returnType.render),
    ("imports", typesJson d.imports)] ++
  (if d.comments.isEmpty then [] else [("description", .arr (d.comments.map Json.str))])

/-- The JSON form of a method of the implementation view. -/
def PageObjectMethod.toJson (m : PageObjectMethod) : Json :=
  .obj (m.declaration.fields ++
    [("public", .bool m.isPublic), ("body", m.body.toJson), ("classImports", typesJson m.classImports)])

/-- The JSON form of a compiled page object. -/
def Declaration.toJson (d : Declaration) : Json :=
  .obj [("identifier", .str d.identifier), ("type", .str d.type.full),
    ("interfaceOnly", .bool d.isInterface),
    ("implements", optionJson (fun t => .str t.render) d.implements),
    ("interface", optionJson (fun (v : InterfaceView) =>
      .obj [("type", .str v.type.full), ("imports", typesJson v.imports),
        ("methods", .arr (v.methods.map (fun m => .obj m.fields)))]) d.interface),
    ("implementation", optionJson (fun (v : ImplementationView) =>
      .obj [("type", .str v.type.full), ("implements", .str v.implements.render),
        ("imports", typesJson v.imports), ("methods", .arr (v.methods.map PageObjectMethod.toJson))])
      d.implementation),
    ("description", .str d.description)]

end PageObjects

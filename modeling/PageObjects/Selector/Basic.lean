import PageObjects.Parameter
import PageObjects.Error
import PageObjects.Text.Blank
import PageObjects.Text.Quoted
import PageObjects.UiSelector.Parser

/-!
# Selectors

A selector locates elements: a locator kind (`css`, `accessid`, `classchain`
or `uiautomator`), a template, one parameter per placeholder of the template,
and whether it returns all matches. Two selectors locate the same nodes when
kind and template agree. A selector is written `kind("template")`, the template
in its JSON form.

A template is checked for its kind before use: a blank template is refused,
and a `uiautomator` template must be a supported UiSelector chain and is kept
with the `new UiSelector().` prefix.

A container without a selector of its own scopes the first child:
`css(":scope > *:first-child")`.
-/

namespace PageObjects

/-- A locator kind. -/
inductive LocatorKind where
  | css
  | accessid
  | classchain
  | uiautomator
  deriving DecidableEq, Repr, Inhabited

namespace LocatorKind

/-- Every locator kind, in the order the grammar lists them. -/
def all : List LocatorKind := [.css, .accessid, .classchain, .uiautomator]

/-- The token of a locator kind. -/
def token : LocatorKind → String
  | .css => "css"
  | .accessid => "accessid"
  | .classchain => "classchain"
  | .uiautomator => "uiautomator"

/-- The locator kind a token names. -/
def ofToken? (token : String) : Option LocatorKind :=
  all.find? (fun k => k.token == token)

/-- The locator kind a token names, or the unknown-type error listing the kinds. -/
def resolve (owner : Option String) (token : String) : Compiling LocatorKind :=
  match ofToken? token with
  | some k => .ok k
  | none => failWith owner (.unknownType token (all.map LocatorKind.token))

end LocatorKind

/-- A resolved selector. -/
structure Selector where
  kind : LocatorKind
  template : String
  parameters : List Parameter := []
  returnsAll : Bool := false
  deriving DecidableEq, Repr, Inhabited

namespace Selector

/-- Whether two selectors locate the same nodes: same kind, same template. -/
def sameLocator (s : Selector) (other : Option Selector) : Bool :=
  match other with
  | some o => s.kind == o.kind && s.template == o.template
  | none => false

/-- The text of a selector, `kind("template")`. -/
def render (s : Selector) : String :=
  s.kind.token ++ "(" ++ Text.jsonQuote s.template ++ ")"

/-- The template of the selector a container without one uses. -/
def containerTemplate : String := ":scope > *:first-child"

/-- The selector a container without one uses. -/
def containerDefault : Selector := { kind := .css, template := containerTemplate }

end Selector

/-- The canonical template of a kind: a blank one is refused, a `uiautomator`
one must be a supported chain and gets the prefix. A number in the chain too
long to read stops the compiler rather than refusing the selector. -/
def normalizeTemplate (owner : Option String) (kind : LocatorKind) (template : String) :
    Compiling String :=
  if Text.isBlankText template then
    failWith owner (.invalidSelector template "selector cannot be empty")
  else
    match kind with
    | .uiautomator =>
      match UiSelector.parse template with
      | .error (.oversizedNumber digits) => failWith owner (.oversizedNumber digits)
      | .error e => failWith owner (.invalidSelector template e.message)
      | .ok _ => .ok (UiSelector.withPrefix template)
    | _ => .ok template

end PageObjects

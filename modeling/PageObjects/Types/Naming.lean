import PageObjects.Error
import PageObjects.Json.Display
import PageObjects.Text.Case

/-!
# Naming page-object types

A page object's identifier `namespace/kind/[sub/…/]name` names its type: the
package is the namespace with `-` read as `.`, then the kind and the sub
packages in lower case, joined by `.`; the simple name is the last part
capitalised. An identifier with fewer than three parts, or an empty part, names
no type.

Its implementation type lives in the sub package `impl` and adds `Impl` to the
name. A token is a type reference when it is a text that contains `/`.
-/

namespace PageObjects.Naming

/-- Whether a token refers to a page-object type. -/
def isTypeReference (token : String) : Bool :=
  token.toList.contains '/'

/-- Whether a token given as any value refers to a page-object type. -/
def isTypeReferenceValue : Json → Bool
  | .str token => isTypeReference token
  | _ => false

/-- The namespace part of a package: `-` is read as `.`. -/
def namespacePackage (part : String) : String :=
  String.ofList (part.toList.map (fun c => if c == '-' then '.' else c))

/-- The type an identifier names. -/
def typeName (identifier : String) : Compiling TypeName :=
  let parts := (identifier.toList.splitOn '/').map String.ofList
  match parts with
  | first :: kind :: rest@(_ :: _) =>
    if parts.any (·.isEmpty) then .error (CompileError.plain (.invalidTypeReference identifier))
    else
      let middle := rest.dropLast
      let last := rest.getLast?.getD ""
      let packages := namespacePackage first :: Text.lower kind :: middle.map Text.lower
      .ok ⟨Text.capitalize last, ".".intercalate packages⟩
  | _ => .error (CompileError.plain (.invalidTypeReference identifier))

/-- The type an identifier given as any value names; a value that is not a
text names none. -/
def typeNameOfValue : Json → Compiling TypeName
  | .str identifier => typeName identifier
  | other => .error (CompileError.plain (.invalidTypeReference other.plain))

/-- The implementation type of a page-object type. -/
def implementation (t : TypeName) : TypeName :=
  { name := t.name ++ "Impl"
    package := if t.package.isEmpty then "impl" else t.package ++ ".impl" }

end PageObjects.Naming

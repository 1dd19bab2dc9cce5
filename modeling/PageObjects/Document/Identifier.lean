import PageObjects.Document.Uri

/-!
# Identifiers of page-object files

A page object stored in a file is identified as
`<namespace>/pageObjects/<name>`, where the name is the file's final path
component without its page-object suffix: `.utam.json` when it ends so, else
`.json`. The final component is the last part between slashes that is
neither empty nor `.`, or empty when there is none.
-/

namespace PageObjects.Document

/-- The suffixes of page-object files, the longer first. -/
def fileSuffixes : List String := [".utam.json", ".json"]

/-- The final component of a slash-separated path. -/
def finalComponent (path : List Char) : List Char :=
  ((path.splitOn '/').filter (fun part => part != [] && part != ['.'])).getLastD []

/-- A file name without the first page-object suffix it ends with. -/
def stripSuffix (name : List Char) : List Char :=
  match fileSuffixes.find? (fun suffix => suffix.toList.isSuffixOf name) with
  | some suffix => name.take (name.length - suffix.length)
  | none => name

/-- The identifier of the page object stored at a path. -/
def identifierFor (path : String) (ns : String) : String :=
  ns ++ "/pageObjects/" ++ String.ofList (stripSuffix (finalComponent path.toList))

/-- The identifier of the page object stored at the path of a URI. -/
def identifierForUri (uri : String) (ns : String) : Except UriError String := do
  let path ← uriPath uri
  pure (identifierFor (String.ofList (percentDecode path)) ns)

end PageObjects.Document

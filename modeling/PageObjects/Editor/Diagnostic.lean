import PageObjects.Compile.PageObject
import PageObjects.Editor.Position
import PageObjects.Json.Parser

/-!
# Diagnostics

A document that fails to compile gets one diagnostic, with the error's text,
at the entry `"name": "<owner name>"` of the element or method that owns the
error (the first such entry in the document), one character wide. An owner
names an element or a method when it reads `element '…'` or `method '…'`, the
name running to the next quote. Without such an owner, or such an entry, the
diagnostic stands at the start of the document. A text that is not JSON gets
one at the offset where reading stopped. Both ends of a diagnostic are editor
positions, so a diagnostic past the largest coordinate one can hold is not
given: the diagnosis stops there.
-/

namespace PageObjects.Editor

/-- The element or method name an owner names, if it names one. -/
def ownerName? (owner : String) : Option String :=
  let cs := owner.toList
  let rest? :=
    if "element '".toList.isPrefixOf cs then some (cs.drop 9)
    else if "method '".toList.isPrefixOf cs then some (cs.drop 8)
    else none
  match rest? with
  | some rest =>
    let name := rest.takeWhile (· != '\'')
    if !name.isEmpty && (rest.drop name.length).head? == some '\'' then some (String.ofList name)
    else none
  | none => none

/-- Whether characters start with `"name"`, blanks, a colon, blanks and the
quoted name. -/
def startsWithNameEntry (name : List Char) (cs : List Char) : Bool :=
  match afterLiteral "\"name\"".toList cs with
  | some rest =>
    match rest.dropWhile Text.isBlank with
    | ':' :: more => (('"' :: name) ++ ['"']).isPrefixOf (more.dropWhile Text.isBlank)
    | _ => false
  | none => false
where
  /-- The characters after a literal prefix. -/
  afterLiteral (word cs : List Char) : Option (List Char) :=
    if word.isPrefixOf cs then some (cs.drop word.length) else none

/-- The offset, in code points, of the first glyph of held characters from
which a test holds of the rest; a two-character glyph is stepped over whole. -/
def firstOffset (test : List Char → Bool) : List Char → Nat → Option Nat
  | [], pos => if test [] then some pos else none
  | c :: rest, pos =>
    if test (c :: rest) then some pos
    else
      match rest with
      | d :: more =>
        if c == Text.mark then firstOffset test more (pos + 1)
        else firstOffset test (d :: more) (pos + 1)
      | [] => firstOffset test [] (pos + 1)

/-- The offset of the entry naming an owner's element or method. -/
def ownerOffset (source : String) (owner : Option String) : Option Nat :=
  match owner with
  | none => none
  | some o =>
    if o.isEmpty then none
    else
      match ownerName? o with
      | some name => firstOffset (startsWithNameEntry name.toList) source.toList 0
      | none => none

/-- A diagnostic: where it stands and what it says. -/
structure Diagnostic where
  start : Position
  stop : Position
  message : String
  deriving DecidableEq, Repr

/-- A diagnostic one character wide at an offset, or at the start without one.
Both of its ends must be positions an editor can hold. -/
def Diagnostic.at? (source : String) (offset : Option Nat) (message : String) :
    Except PositionError Diagnostic := do
  let start ← match offset with
    | some o => locate source o
    | none => pure ⟨0, 0⟩
  let stop ← Position.validate ⟨start.line, start.character + 1⟩
  pure ⟨start, stop, message⟩

/-- What stops a diagnosis before it gives any diagnostic. -/
inductive DiagnosisStop where
  /-- Reading the text stopped at a number too long to read or at nesting too
  deep, which no diagnostic reports. -/
  | reading (e : Json.ReadError)
  /-- Compiling stopped the compiler itself. -/
  | compiling (e : CompileError)
  /-- An end of the diagnostic lies past the coordinates an editor position
  may hold. -/
  | placing (e : PositionError)
  deriving Repr

/-- The one diagnostic of a document, if it can be placed. -/
def DiagnosisStop.single : Except PositionError Diagnostic → Except DiagnosisStop (List Diagnostic)
  | .ok d => .ok [d]
  | .error e => .error (.placing e)

/-- The diagnostics of a document: none when it compiles. Reading a text that
breaks the JSON syntax gives a diagnostic; a number too long to read, in the
text or in a selector chain of it, or nesting too deep to read, stops the
diagnosis, and so does a diagnostic whose ends no editor position can hold. -/
def diagnose (settings : Settings) (source : String) (identifier : Json) :
    Except DiagnosisStop (List Diagnostic) :=
  match Json.parse source with
  | .error (.malformed message offset) =>
    DiagnosisStop.single (Diagnostic.at? source (some offset) ("Invalid JSON: " ++ message))
  | .error e => .error (.reading e)
  | .ok tree =>
    match compile settings identifier tree with
    | .ok _ => .ok []
    | .error e =>
      if e.fault.isCompilationFault then
        DiagnosisStop.single (Diagnostic.at? source (ownerOffset source e.owner) e.message)
      else .error (.compiling e)

end PageObjects.Editor

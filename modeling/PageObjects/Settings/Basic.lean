import PageObjects.Settings.Parser
import PageObjects.Json.Display

/-!
# Compiler settings

The settings shared by every page object of one compiler: how deeply
predicates may nest (at least one, eight unless set), the namespace that
identifiers built from file names start with (`utam` unless set), and whether
the grammar rejects keys it does not know (yes unless set).

Entries are checked in order: each key must be one of the three and each value
of exactly the kind of its setting, a whole number, a text or a flag (a flag is
not a whole number). Only when every entry passes is the depth checked.
-/

namespace PageObjects

/-- The settings of a compiler. -/
structure Settings where
  maxPredicateDepth : Nat := 8
  identifierNamespace : String := "utam"
  strictGrammar : Bool := true
  deriving DecidableEq, Repr

namespace Settings

/-- The keys of the settings, in sorted order. -/
def keys : List String := ["max_predicate_depth", "namespace", "strict_grammar"]

/-- Why entries do not make settings. -/
inductive Invalid where
  /-- A key that names no setting. -/
  | unknownKey (key : String)
  /-- A value of another kind than its setting's. -/
  | wrongKind (key expected actual : String)
  /-- A depth below one. -/
  | depthBelowOne
  deriving DecidableEq, Repr

/-- The text of an invalid entry. -/
def Invalid.message : Invalid → String
  | .unknownKey key => s!"Unknown config key '{key}', supported are " ++ Text.nameListing keys
  | .wrongKind key expected actual => s!"Config key '{key}' expects {expected}, got {actual}"
  | .depthBelowOne => "Config key 'max_predicate_depth' must be at least 1"

/-- Applies one entry to settings built so far; the depth is kept as given and
checked after all entries. -/
def applyEntry (current : Settings × Option Int) (entry : String × Json) :
    Except Invalid (Settings × Option Int) :=
  let (settings, depth) := current
  match entry with
  | ("max_predicate_depth", .int n) => .ok (settings, some n)
  | ("max_predicate_depth", other) => .error (.wrongKind "max_predicate_depth" "int" other.typeName)
  | ("namespace", .str s) => .ok ({ settings with identifierNamespace := s }, depth)
  | ("namespace", other) => .error (.wrongKind "namespace" "str" other.typeName)
  | ("strict_grammar", .bool b) => .ok ({ settings with strictGrammar := b }, depth)
  | ("strict_grammar", other) => .error (.wrongKind "strict_grammar" "bool" other.typeName)
  | (key, _) => .error (.unknownKey key)

/-- The settings that entries give, the rest left at their defaults. -/
def ofEntries (entries : List (String × Json)) : Except Invalid Settings := do
  let (settings, depth) ← entries.foldlM applyEntry ({}, none)
  match depth with
  | some n => if n < 1 then .error .depthBelowOne else .ok { settings with maxPredicateDepth := n.toNat }
  | none => .ok settings

/-- An entry value of a settings file as a decoded value. -/
def valueJson : Settings.Value → Json
  | .text raw => .str raw
  | .number value => .int value
  | .flag value => .bool value

/-- Why a settings text gives no settings. -/
inductive LoadError where
  | malformed (e : Settings.ParseError)
  | invalid (e : Invalid)
  deriving DecidableEq, Repr

/-- The settings a settings text gives. -/
def ofText (text : String) : Except LoadError Settings :=
  match Settings.parse text with
  | .error e => .error (.malformed e)
  | .ok entries =>
    match ofEntries (entries.map (fun (k, v) => (k, valueJson v))) with
    | .error e => .error (.invalid e)
    | .ok settings => .ok settings

end Settings

end PageObjects

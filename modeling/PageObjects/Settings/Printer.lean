import PageObjects.Settings.Basic

/-!
# Writing settings files

Entries are written in one `compiler` section, `key: value` separated by
commas: a number in decimal, a flag as `true` or `false` and a text between
double quotes around its raw form. Settings are written as their three
entries, so reading and validating the text gives the settings back.
-/

namespace PageObjects.Settings

/-- The text of an entry value. -/
def Value.render : Value → String
  | .text raw => "\"" ++ raw ++ "\""
  | .number value => Decimal.intText value
  | .flag value => if value then "true" else "false"

/-- A settings text holding entries in one `compiler` section. -/
def renderEntries (entries : List (String × Value)) : String :=
  "compiler \x7b " ++ ", ".intercalate (entries.map (fun (key, value) => key ++ ": " ++ value.render)) ++
    " \x7d"

end PageObjects.Settings

namespace PageObjects

/-- The entries that state settings, one per key. -/
def Settings.entries (s : Settings) : List (String × Settings.Value) :=
  [("max_predicate_depth", .number s.maxPredicateDepth), ("namespace", .text s.identifierNamespace),
    ("strict_grammar", .flag s.strictGrammar)]

/-- The settings text that states settings. -/
def Settings.render (s : Settings) : String :=
  Settings.renderEntries s.entries

end PageObjects

/-
# `Workplan.CommandLine.Template` — the manifest of a new catalog
-/

namespace Workplan.CommandLine

/-- The lines of the manifest that a new catalog begins with. -/
def templateLines : List String :=
  ["version: \"1.0\"",
    "name: my-catalog",
    "description: \"Managed by capforge\"",
    "",
    "policy:",
    "  bindings: first_wins",
    "  journal: true",
    "  parallel: false",
    "",
    "units:",
    "  org.example.capability.greeting:",
    "    description: Produce a greeting for a name",
    "    inputs:",
    "      name:",
    "        type: string",
    "        required: true",
    "        verify: [non_empty]",
    "    outputs: [greeting]",
    "    run: echo \"hello, $CAPFORGE_IN_NAME\"",
    "",
    "  org.example.action.shout:",
    "    kind: action",
    "    description: Upper-case the greeting",
    "    inputs:",
    "      greeting:",
    "        type: string",
    "        required: true",
    "    outputs: [shout]",
    "    run: echo \"$CAPFORGE_IN_GREETING\" | tr '[:lower:]' '[:upper:]'"]

/-- The manifest that a new catalog begins with. -/
def template : String := String.join (templateLines.map (· ++ "\n"))

end Workplan.CommandLine

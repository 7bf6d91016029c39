/-! The configuration that a new project starts with. -/

namespace PatternLint

def configFileName : String := "autosar-lint.toml"

def starterLines : List String := [
  "# autosar-lint configuration",
  "",
  "# Rule subset of the built-in catalog: \"strict\" (all rules),",
  "# \"recommended\" (warning and error) or \"minimal\" (error only)",
  "preset = \"strict\"",
  "",
  "# Lowest severity that makes `autosar-lint check` exit non-zero",
  "fail_on = \"error\"",
  "",
  "[analyzer]",
  "# Root directory to analyze (default: current directory)",
  "# root = \"./src\"",
  "",
  "# Glob patterns to exclude from analysis",
  "exclude = [",
  "    \"**/build/**\",",
  "    \"**/third_party/**\",",
  "]",
  "",
  "# Extensions of C and C++ files to analyze",
  "extensions = [\"c\", \"cc\", \"cpp\", \"cxx\", \"h\", \"hh\", \"hpp\", \"hxx\"]",
  "",
  "# Respect .gitignore files",
  "respect_gitignore = true",
  "",
  "[engine]",
  "# Backtracking budget per pattern match attempt",
  "backtrack_limit = 1000000",
  "",
  "# Extra rule catalogs, relative to this file",
  "# rule_files = [\"rules/project.toml\"]",
  "",
  "# Per-rule overrides, keyed by rule code",
  "# [rules.A5-1-1]",
  "# enabled = false",
  "",
  "# [rules.A6-5-2]",
  "# severity = \"error\""]

def starterConfig : String := String.join (starterLines.map (· ++ "\n"))

end PatternLint

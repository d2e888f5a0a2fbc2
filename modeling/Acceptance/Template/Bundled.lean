import Acceptance.Template.Render

/-!
# The bundled template

The template that a project starts with.  It writes one test class per feature: the set-up with the
objects that hold the step methods and with the background, a test method per scenario, and a
method per missing step.
-/

namespace Acceptance.Template

/-- A tag that prints a value. -/
def value (e : String) : String := "\x7b\x7b " ++ e ++ " \x7d\x7d"

/-- A tag that steers. -/
def tag (e : String) : String := "\x7b% " ++ e ++ " %\x7d"

def bundledLines : List String := [
  tag "macro call_step(step)",
  "        # " ++ value "step.keyword" ++ " " ++ value "step.text",
  tag "if step.data_table",
  "        " ++ value "step.data_table.variable_name" ++ " = DataTable(",
  "            [" ++ tag "for header in step.data_table.headers" ++ value "header.value | tojson" ++
    tag "if not header.last" ++ ", " ++ tag "endif" ++ tag "endfor" ++ "],",
  tag "for row in step.data_table.rows",
  "            [" ++ tag "for cell in row.cells" ++ value "cell.value | tojson" ++
    tag "if not cell.last" ++ ", " ++ tag "endif" ++ tag "endfor" ++ "]" ++ tag "if not row.last" ++
    "," ++ tag "endif",
  "",
  tag "endfor",
  "        )",
  tag "endif",
  "        " ++ value "\"self\" if step.owner == \"self\" else \"self.\" ~ step.owner" ++ "." ++
    value "step.method" ++ "(" ++ tag "for arg in step.arguments" ++ value "arg.expression" ++
    tag "if not arg.last" ++ ", " ++ tag "endif" ++ tag "endfor" ++ ")",
  tag "endmacro",
  "\"\"\"" ++ value "feature_name | docstring" ++ ": acceptance tests.",
  "",
  "Generated by feature-gen from " ++ value "file_name | docstring" ++ ".feature. DO NOT EDIT.",
  "\"\"\"",
  "",
  "import pytest",
  "",
  "from feature_gen.runtime import DataTable  # noqa: F401",
  tag "for using in usings",
  "from " ++ value "using" ++ " import *  # noqa: F401,F403",
  tag "endfor",
  "",
  "",
  "class Test" ++ value "feature_class" ++ tag "if base_class" ++ "(" ++ value "base_class" ++
    ")" ++ tag "endif" ++ ":",
  "    \"\"\"" ++ value "feature_name | docstring",
  tag "if description_lines",
  "",
  tag "for line in description_lines",
  "    " ++ value "line | docstring",
  tag "endfor",
  tag "endif",
  "    \"\"\"",
  "",
  "    @pytest.fixture(autouse=True)",
  "    def _setup(self):",
  "        \"\"\"Create step objects and run the Background.\"\"\"",
  tag "for step_class in classes",
  "        self." ++ value "step_class" ++ " = " ++ value "step_class" ++ "(self)",
  tag "endfor",
  tag "if background",
  "",
  tag "for step in background.steps",
  value "call_step(step)",
  tag "endfor",
  tag "endif",
  tag "for rule in rules",
  "",
  "    # Rule: " ++ value "rule.name",
  tag "if rule.description",
  "    # " ++ value "rule.description | replace(\"\\n\", \"\\n    # \")",
  tag "endif",
  tag "for scenario in rule.scenarios",
  "",
  tag "if scenario.explicit_tag",
  "    @pytest.mark.skip(reason=\"explicit scenario, run on demand\")",
  tag "endif",
  tag "if scenario.parameters",
  "    @pytest.mark.parametrize(",
  "        [" ++ tag "for param in scenario.parameters" ++ value "param.name | tojson" ++
    tag "if not param.last" ++ ", " ++ tag "endif" ++ tag "endfor" ++ "],",
  "        [",
  tag "for case in scenario.test_cases",
  "            (" ++ value "case" ++ ",),",
  tag "endfor",
  "        ],",
  "    )",
  tag "endif",
  "    def test_" ++ value "scenario.method" ++ "(self" ++ tag "for param in scenario.parameters" ++
    ", " ++ value "param.name" ++ ": " ++ value "param.type" ++ tag "endfor" ++ "):",
  "        \"\"\"" ++ value "scenario.name | docstring",
  tag "if scenario.remarks",
  "",
  tag "for line in scenario.remarks.lines",
  "        " ++ value "line | docstring",
  tag "endfor",
  tag "endif",
  "        \"\"\"",
  tag "for step in scenario.steps",
  value "call_step(step)",
  tag "endfor",
  tag "endfor",
  tag "endfor",
  tag "if unimplemented",
  "",
  "    # Unimplemented steps",
  tag "for stub in unimplemented",
  "",
  "    def " ++ value "stub.method" ++ "(self" ++ tag "for param in stub.parameters" ++ ", " ++
    value "param.name" ++ ": " ++ value "param.type" ++ tag "endfor" ++ "):",
  "        " ++ value "(stub.keyword ~ \" \" ~ stub.text) | tojson",
  "        raise NotImplementedError(" ++
    value "(\"Step not implemented: \" ~ stub.keyword ~ \" \" ~ stub.text) | tojson" ++ ")",
  tag "endfor",
  tag "endif"]

/-- The text of the bundled template. -/
def bundled : String := String.join (bundledLines.map fun line => line ++ "\n")

end Acceptance.Template

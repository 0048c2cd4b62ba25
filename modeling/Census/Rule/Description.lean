/-
The description of a rule on one line, for diagnostics.

* `Rule.describe`: all that a rule says of itself, two points standing for its check.
-/
import Census.Rule
import Census.Text.Quoted

namespace Census

/-- All that a rule says of itself.  Two points stand for the check, which cannot be shown. -/
def Rule.describe (r : Rule) : String :=
  let fields := ", ".intercalate (r.fields.map Text.quote)
  "RuleDefinition \x7b code: " ++ Text.quote r.code ++ ", table: " ++ Text.quote r.table ++
    ", message: " ++ Text.quote r.message ++ ", affected_fields: [" ++ fields ++
    "], severity: " ++ r.severity.label ++ ", .. \x7d"

end Census

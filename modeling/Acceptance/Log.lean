/-!
# Log records

What a run reports on the way: a level, the part of the program that speaks, and a message.
-/

namespace Acceptance

inductive Level where
  | debug
  | info
  | warning
  | error
  deriving Repr, DecidableEq

/-- Levels in rising order of weight. -/
def Level.weight : Level → Nat
  | .debug => 10
  | .info => 20
  | .warning => 30
  | .error => 40

def Level.name : Level → String
  | .debug => "DEBUG"
  | .info => "INFO"
  | .warning => "WARNING"
  | .error => "ERROR"

/-- The parts of the program that speak. -/
inductive Speaker where
  | catalog
  | matcher
  | converter
  | pipeline
  deriving Repr, DecidableEq

def Speaker.name : Speaker → String
  | .catalog => "feature_gen.catalog"
  | .matcher => "feature_gen.matcher"
  | .converter => "feature_gen.converter"
  | .pipeline => "feature_gen.pipeline"

/-- One record of a run. -/
structure Record where
  level : Level
  speaker : Speaker
  message : String
  deriving Repr, DecidableEq

abbrev Log := List Record

end Acceptance

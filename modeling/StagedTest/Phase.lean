import StagedTest.TestConfiguration

/-!
# Phases

The steps of a test stand in three phases. The first failure ends a phase, except that every
step of the last phase gets its turn, because those steps clean up.
-/
namespace StagedTest

/-- A phase of a test. -/
inductive Phase
  /-- Preparation. -/
  | pre
  /-- The test itself. -/
  | test
  /-- Cleanup. -/
  | post
deriving DecidableEq, Inhabited, Repr

namespace Phase

/-- The phases in the order in which they run. -/
def all : List Phase := [.pre, .test, .post]

/-- What a phase is called. -/
def name : Phase → String
  | .pre => "pre"
  | .test => "test"
  | .post => "post"

/-- Whether the first failing step ends the phase. -/
def stopsAtFailure : Phase → Bool
  | .pre | .test => true
  | .post => false

/-- The steps of a phase. -/
def steps (config : TestConfiguration) : Phase → List Step
  | .pre => config.pre
  | .test => config.test
  | .post => config.post

end Phase

/-- How far a phase has come. -/
inductive PhaseState
  /-- The phase has not begun. -/
  | notStarted
  /-- The phase has begun and not ended. -/
  | running
  /-- The phase has ended without errors. -/
  | succeeded
  /-- The phase has ended with errors. -/
  | failed
deriving DecidableEq, Inhabited, Repr

end StagedTest

import Preflight.Duration

/-!
How long and how often the finality of a sent call is checked. The delay between two checks starts
at the poll interval, is multiplied after every check that was not final, and stops at a cap that is
never below the poll interval.
-/

namespace Preflight

/-- Whether finality is waited for at all. -/
inductive Mode where
  | live
  | test
  deriving DecidableEq, Repr

def Mode.word : Mode → String
  | .live => "live"
  | .test => "test"

/-! ## 1. Policies -/

@[ext] structure Policy where
  /-- The delay before the second check. -/
  pollInterval : Duration := .ofMillis 10000
  /-- The factor that a delay grows by after each check; zero counts as one. -/
  backoff : UInt32 := 1
  maxInterval : Duration := .ofMillis 60000
  /-- The number of checks to give up after, if there is such a bound. -/
  maxAttempts : Option UInt32 := some 60
  /-- The time to give up after, if there is such a bound. -/
  timeout : Option Duration := none
  deriving DecidableEq, Repr

namespace Policy

def standard : Policy := {}

instance : Inhabited Policy := ⟨standard⟩

-- a fixed delay, and no bound
def unbounded (interval : Duration) : Policy where
  pollInterval := interval
  backoff := 1
  maxInterval := interval
  maxAttempts := none
  timeout := none

def factor (p : Policy) : Nat := max p.backoff.toNat 1

-- a cap below the poll interval does not shorten the first delay either
def cap (p : Policy) : Duration := max p.maxInterval p.pollInterval

/-- The delay that follows a delay of `current`. -/
def nextInterval (p : Policy) (current : Duration) : Duration :=
  min (current.times p.factor) p.cap

/-- The delay after `n` more checks that were not final. -/
def intervalAfter (p : Policy) (current : Duration) : Nat → Duration
  | 0 => current
  | n + 1 => p.intervalAfter (p.nextInterval current) n

end Policy

/-! ## 2. Configurations -/

@[ext] structure Config where
  mode : Mode := .live
  finalization : Policy := {}
  deriving DecidableEq, Repr

namespace Config

def standard : Config := {}

instance : Inhabited Config := ⟨standard⟩

def test : Config := { mode := .test }

def live (p : Policy) : Config := { mode := .live, finalization := p }

def isTest (c : Config) : Bool := c.mode = .test

end Config

/-! ## 3. The shown form -/

namespace Config

def shownOption : Option String → String
  | none => "None"
  | some text => s!"Some({text})"

def modeName : Mode → String
  | .live => "Live"
  | .test => "Test"

def shownPolicy (p : Policy) : String :=
  "FinalizationPolicy \x7b poll_interval: " ++ Nanos.text p.pollInterval.nanos
    ++ ", backoff: " ++ toString p.backoff.toNat
    ++ ", max_interval: " ++ Nanos.text p.maxInterval.nanos
    ++ ", max_attempts: " ++ shownOption (p.maxAttempts.map fun n => toString n.toNat)
    ++ ", timeout: " ++ shownOption (p.timeout.map fun d => Nanos.text d.nanos) ++ " \x7d"

-- one line that shows every field
def shown (c : Config) : String :=
  "TxConfig \x7b mode: " ++ modeName c.mode ++ ", finalization: " ++ shownPolicy c.finalization
    ++ " \x7d"

end Config

end Preflight

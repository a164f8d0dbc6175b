/-!
# Names of measurements

The measurements that selection makes, by name.
-/

namespace LoadBalancer.Metric

/-- A service had no instances. -/
def noInstances : String := "load_balancer_no_instances"

/-- No instance was a candidate. -/
def noCandidates : String := "load_balancer_no_candidates"

/-- Selection gave up after the last attempt. -/
def maxTries : String := "load_balancer_max_tries"

/-- A selection failed. -/
def failedSelections : String := "load_balancer_failed_selections"

/-- A selection succeeded. -/
def selections : String := "load_balancer_selections"

/-- The time from having candidates to the outcome. -/
def selectionDuration : String := "load_balancer_selection_duration"

/-- A connection was to be closed that was not open. -/
def counterUnderflow : String := "load_balancer_counter_underflow"

end LoadBalancer.Metric

/-
# Roles

A driver is the scheduler's side of the cluster protocol, which talks to the
master, or the executor's side, which talks to the agent.

Key definition: `Role`.
-/
namespace ClusterLink

/-- Which side of the protocol a driver plays. -/
inductive Role
  | scheduler | executor
  deriving DecidableEq, Repr, Inhabited

/-- The name of the role. -/
def Role.name : Role → String
  | .scheduler => "scheduler"
  | .executor => "executor"

/-- The name of the role's callback table. -/
def Role.tableName : Role → String
  | .scheduler => "SchedulerCallbacks"
  | .executor => "ExecutorCallbacks"

/-- The name of the role's driver. -/
def Role.driverName : Role → String
  | .scheduler => "SchedulerDriver"
  | .executor => "ExecutorDriver"

end ClusterLink

/-
# Messages

All messages exchanged between a driver and its remote side, which is the
master for a scheduler and the agent for an executor. Bodies are serialized
elsewhere, and opaque here.

A message is also a record: a class name and a list of named fields, in the
order in which the class declares them. `Message.ofRecord?` reads the record
back (`ofRecord?_record`), so that a format has to deal with four kinds of
fields only.

Key definitions: `Message`, `Field`, `Message.className`, `Message.fields`,
`Message.ofRecord?`.
-/
import ClusterLink.Text.Wide

namespace ClusterLink

/-- A message to or from the remote side. -/
inductive Message
  | registerFramework (framework : Bytes) (replyTo : WideText)
  | unregisterFramework (frameworkId : Bytes)
  | frameworkRegistered (frameworkId masterInfo : Bytes)
  | frameworkReregistered (masterInfo : Bytes)
  | resourceOffers (offers : List Bytes)
  | rescindResourceOffer (offerId : Bytes)
  | launchTasks (frameworkId : Bytes) (offerIds tasks : List Bytes) (filters : Bytes)
  | declineOffer (frameworkId offerId filters : Bytes)
  | reviveOffers (frameworkId : Bytes)
  | requestResources (frameworkId : Bytes) (requests : List Bytes)
  | slaveLost (slaveId : Bytes)
  | executorLost (executorId slaveId : Bytes) (status : Int)
  | registerExecutor (frameworkId executorId : Bytes) (replyTo : WideText)
  | executorRegistered (executorInfo frameworkInfo slaveInfo : Bytes)
  | executorReregistered (slaveInfo : Bytes)
  | runTask (task : Bytes)
  | shutdownExecutor
  | killTask (frameworkId taskId : Bytes)
  | statusUpdate (status uuid : Bytes)
  | statusUpdateAcknowledgement (frameworkId uuid : Bytes)
  | frameworkToExecutor (frameworkId executorId slaveId data : Bytes)
  | executorToFramework (frameworkId executorId slaveId data : Bytes)
  | disconnected
  | error (message : WideText)
  deriving DecidableEq, Repr, Inhabited

/-- The content of a field of a message. -/
inductive Field
  | octets (b : Bytes)
  | batch (bs : List Bytes)
  | text (t : WideText)
  | integer (n : Int)
  deriving DecidableEq, Repr, Inhabited

namespace Message

/-- The name of the message's class. -/
def className : Message → String
  | registerFramework .. => "RegisterFramework"
  | unregisterFramework .. => "UnregisterFramework"
  | frameworkRegistered .. => "FrameworkRegistered"
  | frameworkReregistered .. => "FrameworkReregistered"
  | resourceOffers .. => "ResourceOffers"
  | rescindResourceOffer .. => "RescindResourceOffer"
  | launchTasks .. => "LaunchTasks"
  | declineOffer .. => "DeclineOffer"
  | reviveOffers .. => "ReviveOffers"
  | requestResources .. => "RequestResources"
  | slaveLost .. => "SlaveLost"
  | executorLost .. => "ExecutorLost"
  | registerExecutor .. => "RegisterExecutor"
  | executorRegistered .. => "ExecutorRegistered"
  | executorReregistered .. => "ExecutorReregistered"
  | runTask .. => "RunTask"
  | shutdownExecutor => "ShutdownExecutor"
  | killTask .. => "KillTask"
  | statusUpdate .. => "StatusUpdate"
  | statusUpdateAcknowledgement .. => "StatusUpdateAcknowledgement"
  | frameworkToExecutor .. => "FrameworkToExecutor"
  | executorToFramework .. => "ExecutorToFramework"
  | disconnected => "Disconnected"
  | error .. => "Error"

/-- The fields of the message, in the order of the class. -/
def fields : Message → List (String × Field)
  | registerFramework f r => [("framework", .octets f), ("reply_to", .text r)]
  | unregisterFramework f => [("framework_id", .octets f)]
  | frameworkRegistered f m => [("framework_id", .octets f), ("master_info", .octets m)]
  | frameworkReregistered m => [("master_info", .octets m)]
  | resourceOffers os => [("offers", .batch os)]
  | rescindResourceOffer o => [("offer_id", .octets o)]
  | launchTasks f os ts l =>
    [("framework_id", .octets f), ("offer_ids", .batch os), ("tasks", .batch ts),
      ("filters", .octets l)]
  | declineOffer f o l =>
    [("framework_id", .octets f), ("offer_id", .octets o), ("filters", .octets l)]
  | reviveOffers f => [("framework_id", .octets f)]
  | requestResources f rs => [("framework_id", .octets f), ("requests", .batch rs)]
  | slaveLost s => [("slave_id", .octets s)]
  | executorLost e s n =>
    [("executor_id", .octets e), ("slave_id", .octets s), ("status", .integer n)]
  | registerExecutor f e r =>
    [("framework_id", .octets f), ("executor_id", .octets e), ("reply_to", .text r)]
  | executorRegistered e f s =>
    [("executor_info", .octets e), ("framework_info", .octets f), ("slave_info", .octets s)]
  | executorReregistered s => [("slave_info", .octets s)]
  | runTask t => [("task", .octets t)]
  | shutdownExecutor => []
  | killTask f t => [("framework_id", .octets f), ("task_id", .octets t)]
  | statusUpdate s u => [("status", .octets s), ("uuid", .octets u)]
  | statusUpdateAcknowledgement f u => [("framework_id", .octets f), ("uuid", .octets u)]
  | frameworkToExecutor f e s d =>
    [("framework_id", .octets f), ("executor_id", .octets e), ("slave_id", .octets s),
      ("data", .octets d)]
  | executorToFramework f e s d =>
    [("framework_id", .octets f), ("executor_id", .octets e), ("slave_id", .octets s),
      ("data", .octets d)]
  | disconnected => []
  | error m => [("message", .text m)]

/-- A representative of every class, with empty fields. -/
def blanks : List Message :=
  [registerFramework [] "", unregisterFramework [], frameworkRegistered [] [],
    frameworkReregistered [], resourceOffers [], rescindResourceOffer [], launchTasks [] [] [] [],
    declineOffer [] [] [], reviveOffers [], requestResources [] [], slaveLost [],
    executorLost [] [] 0, registerExecutor [] [] "", executorRegistered [] [] [],
    executorReregistered [], runTask [], shutdownExecutor, killTask [] [], statusUpdate [] [],
    statusUpdateAcknowledgement [] [], frameworkToExecutor [] [] [] [],
    executorToFramework [] [] [] [], disconnected, error ""]

/-- The message of the class of `blank` with the given field contents, in the order of the class. -/
def refill? (blank : Message) (contents : List Field) : Option Message :=
  match blank, contents with
  | registerFramework .., [.octets f, .text r] => some (registerFramework f r)
  | unregisterFramework .., [.octets f] => some (unregisterFramework f)
  | frameworkRegistered .., [.octets f, .octets m] => some (frameworkRegistered f m)
  | frameworkReregistered .., [.octets m] => some (frameworkReregistered m)
  | resourceOffers .., [.batch os] => some (resourceOffers os)
  | rescindResourceOffer .., [.octets o] => some (rescindResourceOffer o)
  | launchTasks .., [.octets f, .batch os, .batch ts, .octets l] => some (launchTasks f os ts l)
  | declineOffer .., [.octets f, .octets o, .octets l] => some (declineOffer f o l)
  | reviveOffers .., [.octets f] => some (reviveOffers f)
  | requestResources .., [.octets f, .batch rs] => some (requestResources f rs)
  | slaveLost .., [.octets s] => some (slaveLost s)
  | executorLost .., [.octets e, .octets s, .integer n] => some (executorLost e s n)
  | registerExecutor .., [.octets f, .octets e, .text r] => some (registerExecutor f e r)
  | executorRegistered .., [.octets e, .octets f, .octets s] => some (executorRegistered e f s)
  | executorReregistered .., [.octets s] => some (executorReregistered s)
  | runTask .., [.octets t] => some (runTask t)
  | shutdownExecutor, [] => some shutdownExecutor
  | killTask .., [.octets f, .octets t] => some (killTask f t)
  | statusUpdate .., [.octets s, .octets u] => some (statusUpdate s u)
  | statusUpdateAcknowledgement .., [.octets f, .octets u] =>
    some (statusUpdateAcknowledgement f u)
  | frameworkToExecutor .., [.octets f, .octets e, .octets s, .octets d] =>
    some (frameworkToExecutor f e s d)
  | executorToFramework .., [.octets f, .octets e, .octets s, .octets d] =>
    some (executorToFramework f e s d)
  | disconnected, [] => some disconnected
  | error .., [.text m] => some (error m)
  | _, _ => none

/-- The message with the given class name and fields, in whatever order the fields come. -/
def ofRecord? (name : String) (given : List (String × Field)) : Option Message := do
  let blank ← blanks.find? fun m => m.className = name
  let contents ← blank.fields.mapM fun f => (given.find? fun g => g.1 = f.1).map (·.2)
  blank.refill? contents

/-- A message is read back from its class name and fields. -/
theorem ofRecord?_record (m : Message) : ofRecord? m.className m.fields = some m := by
  cases m <;> rfl

end Message

end ClusterLink

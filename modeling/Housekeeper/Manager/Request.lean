import Housekeeper.Manager.Pass

/-!
# Requests to a manager

Every request is answered: a report that was asked for is the answer itself, and otherwise success
or failure is told to the sender. Notices of changes elsewhere are passed on to the owner, and
their snapshots released unless the owner keeps them. Anything else is no request.
-/

namespace Housekeeper

namespace Owner

/-- Switches the periodic reports of a set on or off. -/
def setReporting (owner : Owner) (sid : Sid) (enabled : Bool) (kind : ReportKind) :
    Except PoolError Owner :=
  match owner.getSetOfKind sid kind with
  | .error e => .error e
  | .ok set =>
    if set.reporting = enabled then .error .reportingStatusUnchanged
    else .ok (owner.modifySet sid fun set => set.withReporting enabled)

def setInterval (owner : Owner) (sid : Sid) (seconds : Binary32) (kind : ReportKind) :
    Except PoolError Owner :=
  match owner.getSetOfKind sid kind with
  | .error e => .error e
  | .ok set =>
    match set.timer with
    | none => .error .periodicHelperInvalid
    | some timer => .ok (owner.modifySet sid fun set => set.withTimer (timer.setInterval seconds))

end Owner

namespace HkState

variable {σ : Type}

/-- Where replies to a message go. -/
def replyTo (state : HkState σ) (message : CommandMessage) : QueueId :=
  if message.sender = noQueue then state.manager.destination else message.sender

/-- Where a report that was asked for goes. -/
def reportTo (state : HkState σ) (message : CommandMessage) : QueueId :=
  if state.manager.destination = noQueue then message.sender else state.manager.destination

/-- Tells the sender how its request went; that it cannot be told does not change the result. -/
def reply (services : Services σ) (message : CommandMessage) (sid : Sid)
    (result : Except PoolError Unit) (state : HkState σ) : Except PoolError Unit × HkState σ :=
  let command :=
    match result with
    | .ok () => Command.success sid
    | .error e => Command.ofError sid e
  (result,
    { state with
      services := (state.manager.send services (state.replyTo message) command state.services).2 })

/-- Answers a request that changes a set of the owner. -/
def applyChange (services : Services σ) (message : CommandMessage) (sid : Sid)
    (change : Except PoolError Owner) (state : HkState σ) : Except PoolError Unit × HkState σ :=
  match change with
  | .ok owner => { state with owner }.reply services message sid (.ok ())
  | .error e => state.reply services message sid (.error e)

/-- Answers a request for a report. -/
def answerReport (services : Services σ) (message : CommandMessage) (sid : Sid)
    (sent : Except PoolError Unit × σ) (state : HkState σ) : Except PoolError Unit × HkState σ :=
  match sent with
  | (.ok (), after) => (.ok (), { state with services := after })
  | (.error e, after) => { state with services := after }.reply services message sid (.error e)

/-- Passes a notice on to the owner. -/
def forward (services : Services σ) (message : CommandMessage) (notice : ChangeNotice)
    (state : HkState σ) : Except PoolError Unit × HkState σ :=
  let told := { state with owner := state.owner.tell notice }
  if state.owner.keeps notice then (.ok (), told)
  else
    let (result, after) := services.release message state.services
    (result, { told with services := after })

def handle (services : Services σ) (message : CommandMessage) (state : HkState σ) :
    Except PoolError Unit × HkState σ :=
  match message.command with
  | .setReporting kind enabled sid =>
    state.applyChange services message sid (state.owner.setReporting sid enabled kind)
  | .setInterval kind sid seconds =>
    state.applyChange services message sid (state.owner.setInterval sid seconds kind)
  | .requestStructure kind sid =>
    state.answerReport services message sid
      (state.manager.sendStructure services state.owner sid kind (state.replyTo message)
        state.services)
  | .requestReport kind sid =>
    state.answerReport services message sid
      (state.manager.sendOnce services state.owner sid kind (state.reportTo message)
        state.services)
  | .setChanged sid => state.forward services message (.ofSet sid none)
  | .variableChanged gpid => state.forward services message (.ofVariable gpid none)
  | .setSnapshot sid store => state.forward services message (.ofSet sid (some store))
  | .variableSnapshot gpid store => state.forward services message (.ofVariable gpid (some store))
  | _ => (.error .unknownCommand, state)

end HkState

end Housekeeper

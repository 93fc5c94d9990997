import EventPipeline.Executors.XmlRpcPool

/-! # Tasks through the XML-RPC executor

Executor and manager together: where objects cross the wire unchanged, a task ends as the call of
it does, and exceptions arrive as they were raised.
-/

namespace EventPipeline

open XMLRPCExecutor

variable {Object : Type}

namespace XMLRPCManager

variable (runtime : SocketRuntime Object) (refused : Thrown → XmlRpcError)

/-- What a call comes to, for the client. The manager raises what it cannot show in the log. -/
def callOutcome : Except Thrown Object → Option (Except Thrown Object)
  | .ok result => some (outcomeOf runtime result)
  | .error thrown =>
      if thrown.isException then
        match thrown.str with
        | .ok _ => some (.error thrown)
        | .error raised => errorOutcome (refused raised)
      else errorOutcome (refused thrown)

theorem callOutcome_eq {outcome : Except Thrown Object}
    (plain : ∀ result, outcome = .ok result → runtime.thrown? result = none)
    (caught : ∀ thrown, outcome = .error thrown → thrown.Caught) :
    callOutcome runtime refused outcome = some outcome := by
  cases outcome with
  | ok result => rw [callOutcome, outcomeOf, plain result rfl]
  | error thrown =>
      rcases caught thrown rfl with ⟨isException, text, shown⟩
      rw [callOutcome, if_pos isException, shown]

variable {runtime refused}

theorem outcomeOf_object {thrown : Thrown} (caught : thrown.isException = true) :
    outcomeOf runtime (runtime.object thrown) = .error thrown := by
  rw [outcomeOf, runtime.thrown?_object]
  exact if_pos caught

/-- What the client makes of the reply of the manager is what the call comes to. -/
theorem delivery_serve {taskMessage : Object} {message : Bytes}
    (serialized : runtime.serializeObject taskMessage = .ok message)
    (sent : runtime.Carries taskMessage)
    (returns : ∀ object, runtime.answer? (runtime.call taskMessage) = some object →
      runtime.Carries object) :
    delivery runtime taskMessage (some (serve runtime refused message)) =
      callOutcome runtime refused (runtime.call taskMessage) := by
  rcases sent.serialized with ⟨data, sameData, deserialized⟩
  cases Except.ok.inj (serialized.symm.trans sameData)
  have called : callTask runtime message = runtime.call taskMessage := by
    simp only [callTask, deserialized, bind, Except.bind]
  have read_back : ∀ object response isTask,
      runtime.deserialize response = .ok (object, isTask) →
      responseOutcome runtime response = some (outcomeOf runtime object) := by
    intro object response isTask read
    rw [responseOutcome.eq_def, read]
  cases outcome : runtime.call taskMessage with
  | ok result =>
      rw [outcome] at returns called
      rcases (returns result rfl).serialized with ⟨response, replied, read⟩
      have served : serve runtime refused message = .ok response := by
        rw [serve, execute, called]
        simp only [replied]
      rw [served, delivery.eq_def, serialized]
      exact read_back result response _ read
  | error thrown =>
      rw [outcome] at returns called
      rw [callOutcome]
      cases caught : thrown.isException with
      | false =>
          have served : serve runtime refused message = .error (refused thrown) := by
            rw [serve, execute, called]
            simp only [caught, Bool.false_eq_true, if_false]
          rw [served, delivery.eq_def, serialized]
          rfl
      | true =>
          cases shown : thrown.str with
          | error raised =>
              have served : serve runtime refused message = .error (refused raised) := by
                rw [serve, execute, called]
                simp only [caught, if_true, shown, bind, Except.bind]
              rw [served, delivery.eq_def, serialized]
              rfl
          | ok text =>
              have sentBack : runtime.answer? (.error thrown) = some (runtime.object thrown) := by
                rw [SocketRuntime.answer?, if_pos caught, shown]
              rcases (returns _ sentBack).serialized with ⟨response, replied, read⟩
              have served : serve runtime refused message = .ok response := by
                rw [serve, execute, called]
                simp only [caught, if_true, shown, bind, Except.bind, replied]
              rw [served, delivery.eq_def, serialized]
              exact (read_back _ response _ read).trans (congrArg some (outcomeOf_object caught))

end XMLRPCManager

namespace XMLRPCExecutor

variable {runtime : SocketRuntime Object} {refused : Thrown → XmlRpcError} {maxWorkers : Nat}
  {executor : XMLRPCExecutor Object} {index : Nat} {task : XmlRpcTask Object}

theorem replyOf_of_asked {answers : Bytes → Except XmlRpcError Bytes → Prop}
    {taskMessage : Object} {log : List (XmlRpcInteraction Object)} {message : Bytes}
    (serialized : runtime.serializeObject taskMessage = .ok message)
    (asked : Asked runtime taskMessage log)
    (sound : LogSound runtime answers taskMessage log) :
    ∃ reply, replyOf log = some reply ∧ answers message reply := by
  rcases Option.isSome_iff_exists.mp (asked message serialized) with ⟨reply, answered⟩
  refine ⟨reply, answered, ?_⟩
  rcases List.exists_of_findSome?_eq_some answered with ⟨⟨command, other⟩, member, same⟩
  cases command with
  | execute data =>
      cases same
      have ⟨sent, answers⟩ := sound.answered data _ member
      cases Except.ok.inj (serialized.symm.trans sent)
      exact answers
  | resolve outcome => cases same

/-- Whatever the order of the steps, a task that has ended, and that its owner has not cancelled,
has given its future what the call of the task comes to. -/
theorem delivers_call
    (reachable : Reachable runtime maxWorkers
      (fun message reply => reply = XMLRPCManager.serve runtime refused message) executor)
    (found : executor.tasks[index]? = some task) {log result}
    (ended : task.phase = .ended log result)
    (sent : runtime.Carries task.taskMessage)
    (returns : ∀ object, runtime.answer? (runtime.call task.taskMessage) = some object →
      runtime.Carries object) :
    task.future = XmlRpcTask.futureOf task.cancelled
      (XMLRPCManager.callOutcome runtime refused (runtime.call task.taskMessage)) := by
  have sound := sound_of_reachable reachable found
  have same := sound.future
  have ⟨asked, logSound⟩ : PhaseSound runtime _ task.taskMessage (.ended log result) :=
    ended ▸ sound.phase
  rcases sent.serialized with ⟨message, serialized, _⟩
  rcases replyOf_of_asked serialized asked logSound with ⟨reply, answered, served⟩
  rw [XmlRpcTask.settled, XmlRpcTask.outcome, ended] at same
  simp only [answered, served] at same
  rw [same, XMLRPCManager.delivery_serve serialized sent returns]

/-- A task of seven is sent, called, and answered. -/
theorem delivers_call_seven :
    ∃ executor task log result,
      Reachable wireRuntime 1
        (fun message reply => reply = XMLRPCManager.serve wireRuntime .raised message) executor ∧
      executor.tasks[0]? = some task ∧ task.phase = .ended log result ∧
      task.future = XmlRpcTask.futureOf task.cancelled
        (XMLRPCManager.callOutcome wireRuntime .raised (wireRuntime.call task.taskMessage)) := by
  have submitted : Reachable wireRuntime 1
      (fun message reply => reply = XMLRPCManager.serve wireRuntime .raised message)
      { tasks := [{ taskMessage := WireObject.task 7 }] } :=
    .single (.submit (WireObject.task 7) rfl)
  have only : ∀ task : XmlRpcTask WireObject, [task][0]? = some task := fun _ => rfl
  have started := submitted.tail (.work (.start (only _) rfl
    (fun _ _ _ _ => Nat.zero_le _) (by decide)))
  have asked := started.tail (.work (.advance (only _) rfl (.execute rfl)))
  have resolved := asked.tail (.work (.advance (only _) rfl (.resolve rfl)))
  have ended := resolved.tail (.work (.finish (only _) rfl))
  exact ⟨_, _, _, _, ended, only _, rfl, delivers_call ended (only _) rfl
    ⟨[1, 7], rfl, rfl⟩ fun object sentBack => by
      cases sentBack
      exact ⟨[0, 7], rfl, rfl⟩⟩

end XMLRPCExecutor

end EventPipeline

import FrameStream.Proofs.Writes
import FrameStream.Session.OutputSide

namespace FrameStream

inductive InputTask where
  | idle
  | activating (batchSize : UInt16) (resume : Bool)
  | writing (point : WritePoint)
  deriving Repr

inductive InputIncident where
  | write (frame : Bytes)
  | activate (requested : UInt16) (resume : Bool)
  | setTimeout (timeout : Duration)
  /-- The wait for the device is over: it is ready, or the time is up. -/
  | settle (isReady : Bool)
  /-- What a write waits for, or another task through the handle. -/
  | meet (exchange : Exchange)

/-- What an incident leads to: the stream afterwards and what it is doing then, with the reply that
its owner got. -/
structure InputConsequence where
  stream : InputStream
  task : InputTask := .idle
  reply? : Option (Except StreamError Reply) := none

namespace InputConsequence

def refuse (stream : InputStream) (error : StreamError) : InputConsequence :=
  { stream, reply? := some (.error error) }

/-- A step of a write. -/
def ofWrite : InputStream.WriteState → InputConsequence
  | (stream, .waiting point) => { stream, task := .writing point }
  | (stream, .finished result) => { stream, reply? := some (result.map fun _ => .done) }

end InputConsequence

namespace InputStream

/-- What an incident leads to that can happen while a stream is at a task. -/
inductive Responds (stream : InputStream) :
    InputTask → InputIncident → InputConsequence → Prop where
  | signal (task : InputTask) :
      Responds stream task (.meet (.signal request))
        { stream := (stream.signal request).value, task }
  | setTimeout (timeout : Duration) :
      Responds stream .idle (.setTimeout timeout) { stream := { stream with timeout } }
  | write : Responds stream .idle (.write frame) (.ofWrite (stream.beginWrite frame).value)
  | reserve : Responds stream (.writing (.asking payload later))
      (.meet (.reserve payload.length answer))
      (.ofWrite (stream.granted payload later answer).value)
  | rest : Responds stream (.writing (.resting wait payload later)) (.meet (.rest wait outcome))
      (.ofWrite (stream.rested payload later outcome).value)
  | send : Responds stream (.writing (.sending payload sent later))
      (.meet (.send (payload.drop sent) outcome))
      (.ofWrite (stream.delivered payload sent later outcome).value)
  | unready : stream.beginActivation requested = .error error →
      Responds stream .idle (.activate requested resume) (.refuse stream error)
  | activate {batchSize : UInt16} : stream.beginActivation requested = .ok batchSize →
      Responds stream .idle (.activate requested resume)
        { stream, task := .activating batchSize resume }
  | expire {batchSize : UInt16} :
      Responds stream (.activating batchSize resume) (.settle false)
        (.refuse stream (activationTimeout stream.timeout))
  | overtaken {batchSize : UInt16} : stream.completeActivation batchSize resume = .error error →
      Responds stream (.activating batchSize resume) (.settle true) (.refuse stream error)
  | activated {batchSize : UInt16} : stream.completeActivation batchSize resume = .ok activated →
      Responds stream (.activating batchSize resume) (.settle true)
        { stream := activated.value, reply? := some (.ok .done) }

/-- What a list of incidents makes of a stream and what it is doing, with the replies given
meanwhile. -/
inductive Runs : InputStream → InputTask → List InputIncident → List (Except StreamError Reply) →
    InputStream → InputTask → Prop where
  | done : Runs stream task [] [] stream task
  | step : Responds stream task incident next →
      Runs next.stream next.task incidents replies last final →
      Runs stream task (incident :: incidents) (next.reply?.toList ++ replies) last final

end InputStream

end FrameStream

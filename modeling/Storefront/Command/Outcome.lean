import Storefront.Command.Answer
import Storefront.Command.Error
import Storefront.Log.Told
import Storefront.Settings.Environment
import Storefront.Storage.Disk
/-!
# Commands — outcomes

A command starts from a world: an environment, a disk and perhaps a
directory that the program itself is in. It leaves a disk behind, and
has an answer, an error, or both, and events.
-/

namespace Storefront

/-- What a command starts from. -/
structure World where
  environment : Environment := []
  disk : Disk
  programDirectory : Option String := none
  deriving DecidableEq, Repr

/-- What a command leads to. -/
structure Outcome where
  disk : Disk
  answer : Option Answer := none
  error : Option CommandError := none
  events : List Event := []
  deriving DecidableEq, Repr

namespace Outcome

/-- An answer that leaves the disk as it is. -/
def answering (disk : Disk) (a : Answer) : Outcome := { disk, answer := some a }

/-- An error that leaves the disk as it is. -/
def failing (disk : Disk) (e : CommandError) : Outcome := { disk, error := some e }

/-- Everything happened inside one more span. -/
def inside (s : Span) (o : Outcome) : Outcome := { o with events := s.around o.events }

/-- Go on with a result that does not touch the disk, unless there is
none. -/
def after (disk : Disk) (t : Told CommandError α) (next : α → Outcome) : Outcome :=
  match t.result with
  | .ok x => { next x with events := t.events ++ (next x).events }
  | .error e => { disk, error := some e, events := t.events }

/-- The outcome of writing to the disk: an answer and further events if
it went well. -/
def ofWritten (w : Written Disk) (a : Answer) (events : List Event) : Outcome :=
  match w.failure with
  | some f => { disk := w.sink, error := some (.failed f), events := w.events }
  | none => { disk := w.sink, answer := some a, events := w.events ++ events }

end Outcome

end Storefront

import Storefront.Failure
import Storefront.Log.Event
/-!
# Storage — sinks

A sink is a place to write documents to. It can tell whether a path is
taken, make directories and write files. An operation leaves a sink
even when it fails, because it may have done part of its work.
-/

namespace Storefront

/-- What an operation on a sink leaves behind. -/
structure Written (σ : Type) where
  sink : σ
  failure : Option Failure := none
  events : List Event := []

/-- A place to write documents to. -/
class Sink (σ : Type) where
  /-- Whether a path is taken by a file or a directory. -/
  isTaken : σ → String → Bool
  /-- Make a directory and those above it. -/
  createDirectories : σ → String → Written σ
  /-- Write a file in a directory that is there. -/
  writeFile : σ → String → String → Written σ

namespace Written

/-- Go on with another operation, unless this one failed. -/
def andThen (w : Written σ) (next : σ → Written σ) : Written σ :=
  match w.failure with
  | some _ => w
  | none =>
    let w' := next w.sink
    { w' with events := w.events ++ w'.events }

end Written

/-- A sink that has done nothing but log. -/
def Written.told (sink : σ) (events : List Event) : Written σ :=
  { sink, events }

/-- Make the directory that a file needs, if it needs one. -/
def Sink.prepare [Sink σ] (sink : σ) : Option String → Written σ
  | none => { sink }
  | some dir => createDirectories sink dir

end Storefront

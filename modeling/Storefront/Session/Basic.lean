import Storefront.Catalog.Integrity
import Storefront.Storage.Path
import Storefront.Storage.Sink
import Storefront.Text.Quoted
import Storefront.Verse.Document
/-!
# Sessions

A session is what an editor of a shop works on: a catalog, a selection,
a mode and a quantity to consume. Committing and removing entries keeps
the selection in step with the catalog; an operation that fails leaves
the session as it was. A document is rendered anew each time it is asked
for.
-/

namespace Storefront

/-- An editing session over one catalog. -/
structure Session where
  catalog : Catalog
  selection : Selection
  mode : Mode := .definitions
  quantity : UInt32 := 1
  deriving DecidableEq, Repr

/-- The result of an operation, the session after it, and what
happened. -/
structure Session.Step (α : Type) where
  result : Except Failure α
  session : Session
  events : List Event := []

/-- The number of entries of each sort. -/
structure Summary where
  infoModules : Nat
  entitlements : Nat
  consumables : Nat
  offers : Nat
  bundles : Nat
  selected : Nat
  deriving DecidableEq, Repr

namespace Session

/-- Where the events of a session come from. -/
def target : String := "shopgen_core::application::services::catalog_session"

/-- An event of a session. -/
def event (level : Level) (message : String) (fields : List (String × Fact)) : Event :=
  { level, target, message, fields }

/-- A new session: everything selected, definitions mode, quantity one. -/
def start (c : Catalog) : Session :=
  { catalog := c, selection := .all c }

/-- The session with its selection in step with its catalog. -/
def sync (s : Session) : Session :=
  { s with selection := s.selection.sync s.catalog }

/-- What is told when the selection has to be reset. -/
def syncEvents (s : Session) : List Event :=
  if s.selection.isStale s.catalog then
    [event .debug "Catalog shape changed, selection reset to all"
      [("selected", .count s.sync.selection.size)]]
  else []

/-- Append an entry, or replace the one at an index. -/
def commit (s : Session) (index : Option Nat) (e : Entry) : Step Nat :=
  match s.catalog.put index e with
  | .ok (place, c) =>
    let s' := { s with catalog := c }
    { result := .ok place
      session := s'.sync
      events := event .debug "Entry committed" [("at", .count place)] :: s'.syncEvents }
  | .error reason =>
    { result := .error (.catalog reason)
      session := s
      events := [event .warn "Entry rejected" [("error", .shown reason.message)]] }

/-- Take out the entry at an index of a kind. -/
def remove (s : Session) (k : Kind) (i : Nat) : Step Entry :=
  match s.catalog.remove k i with
  | .ok (e, c) =>
    let s' := { s with catalog := c }
    { result := .ok e
      session := s'.sync
      events := event .debug "Entry removed" [("key", .text e.key)] :: s'.syncEvents }
  | .error reason => { result := .error (.catalog reason), session := s }

/-- Select a class name, or deselect it. -/
def toggle (s : Session) (name : String) : Session :=
  { s with selection := s.selection.toggle name }

/-- Narrow the selection to some names. -/
def selectOnly (s : Session) (names : List String) : Session :=
  { s with selection := s.selection.restrictTo names }

/-- Drop some names from the selection. -/
def deselect (s : Session) (names : List String) : Session :=
  { s with selection := s.selection.exclude names }

/-- Choose the document to render. -/
def setMode (s : Session) (m : Mode) : Session := { s with mode := m }

/-- Choose the quantity to consume, which is at least one. -/
def setQuantity (s : Session) (q : UInt32) : Step Unit :=
  if q == 0 then { result := .error (.catalog (.quantityRejected q)), session := s }
  else { result := .ok (), session := { s with quantity := q } }

/-- The document of a mode. -/
def renderMode (s : Session) (m : Mode) : String :=
  Verse.document m s.catalog s.selection s.quantity

/-- The document of the session's mode. -/
def render (s : Session) : String := s.renderMode s.mode

/-- What is told when the document of a mode is rendered. -/
def renderEvents (s : Session) (m : Mode) : List Event :=
  Span.around ⟨target, "render_mode", [("mode", .shown m.title)]⟩
    [event .debug "Document rendered" [("bytes", .count (s.renderMode m).utf8ByteSize)]]

/-- The number of entries of each sort. -/
def summary (s : Session) : Summary :=
  { infoModules := s.catalog.count .info
    entitlements := s.catalog.count .entitlement
    consumables := (s.catalog.entitlements.filter (·.consumable)).length
    offers := s.catalog.count .offer
    bundles := s.catalog.count .bundle
    selected := s.selection.size }

/-- Write the session's document to a path. A path that is taken is
refused unless the write is forced. -/
def writeDocument [Sink σ] (s : Session) (sink : σ) (path : String) (force : Bool) :
    Written σ :=
  let outcome : Written σ :=
    if Sink.isTaken sink path && !force then
      { sink, failure := some (.transfer (.outputExists path)) }
    else
      (Sink.prepare sink (Path.properParent? path)).andThen fun sink =>
        (Written.told sink (s.renderEvents s.mode)).andThen fun sink =>
          (Sink.writeFile sink path s.render).andThen fun sink =>
            .told sink [event .info "Document written" []]
  let span : Span :=
    ⟨target, "write_document",
      [("force", .bool force), ("path", .shown path), ("mode", .shown s.mode.name)]⟩
  { outcome with events := span.around outcome.events }

end Session

end Storefront

import ReplicaRouter.Selector
import ReplicaRouter.Service
/-
Read/write splitting. A logical connection keeps a link to a writer and one to a reader and runs its
operations on one of them; which one follows its read-only mode. Changing over is refused while a
transaction is open. Where no reader can be reached the writer stands in for it. After a failover
the link that was current is stale: it is not used again, and closed once another one is current.
-/
namespace ReplicaRouter

/-- The state of read/write splitting. -/
structure Splitter where
  props : Properties
  /-- How a reader is picked. -/
  selector : Selector
  /-- Whether a reader is picked anew before every statement in read-only mode. -/
  loadBalance : Bool := false
  writer : Option HostLink := none
  reader : Option HostLink := none
  /-- The link that was current when a failover happened. -/
  stale : Option Link := none
  /-- The read-only mode that was asked for last. -/
  readOnly : Bool := false
  /-- How often another link became current. -/
  switches : Counter := { name := "read_write_splitting.switches" }
  /-- How often the writer stood in for a reader. -/
  fallbacks : Counter := { name := "read_write_splitting.reader_fallbacks" }

/-- What read/write splitting does: acts of the logical connection with the splitter at hand. -/
abbrev Split (D : Type) : Type → Type := StateT Splitter (Act D)

def Split.act {D α : Type} (x : Act D α) : Split D α := liftM x

def Split.world {D α : Type} (x : Routine (World D) α) : Split D α := Split.act (Act.world x)

namespace Splitter

/-! ## Looking at the links -/

/-- Whether a kept link is this one. -/
def holds (slot : Option HostLink) (l : Link) : Bool := slot.any (·.1 == l)

/-- Whether the link counts as one to a reader. -/
def isOnReader (s : Splitter) (l : HostLink) : Bool := holds s.reader l.1 || l.2.isReader

/-- Whether the link counts as one to the writer. -/
def isOnWriter (s : Splitter) (l : HostLink) : Bool :=
  holds s.writer l.1 || (l.2.isWriter && !holds s.reader l.1)

/-- Whether the link is the one that a failover left behind. -/
def isStale (s : Splitter) (l : Link) : Bool := s.stale == some l

/-- Whether the current link is the one that a failover left behind. -/
def isCurrentStale (s : Splitter) (v : Service) : Bool := v.link?.any s.isStale

variable {D : Type} [Backend D]

/-- A kept link, if it is open. -/
def openSlot (w : World D) (slot : Option HostLink) : Option HostLink :=
  slot.filter fun l => !w.isLinkClosed l.1

/-- The current link, if it is open and not stale. -/
def usable (s : Splitter) (v : Service) (w : World D) : Option HostLink :=
  v.current.filter fun l => !w.isLinkClosed l.1 && !s.isStale l.1

end Splitter

namespace Split

variable {D : Type} [Backend D]

open Splitter

def usable? : Split D (Option HostLink) := do
  return (← get).usable (← Split.act get) (← Split.world get)

/-! ## Changing the links -/

/-- Lets go of a link that was kept. -/
def letGo (slot : Option HostLink) : Split D Unit := do
  if let some l := slot then Split.world l.1.letGo

/-- Holds a link that is to be kept. -/
def hold (slot : Option HostLink) : Split D Unit := do
  if let some l := slot then Split.world l.1.hold

/-- Keeps another link for writing. -/
def setWriter (slot : Option HostLink) : Split D Unit := do
  hold slot
  let earlier := (← get).writer
  modify fun s => { s with writer := slot }
  letGo earlier

/-- Keeps another link for reading. -/
def setReader (slot : Option HostLink) : Split D Unit := do
  hold slot
  let earlier := (← get).reader
  modify fun s => { s with reader := slot }
  letGo earlier

/-- Marks another link, or none, as stale. -/
def setStale (stale : Option Link) : Split D Unit := do
  if let some l := stale then Split.world l.hold
  let earlier := (← get).stale
  modify fun s => { s with stale }
  if let some l := earlier then Split.world l.letGo

/-- Keeps the current link under its host's role, unless an open link is kept there. -/
def rememberCurrent (l : HostLink) : Split D Unit := do
  let s ← get
  let w ← Split.world get
  if l.2.isWriter then
    if (openSlot w s.writer).isNone then setWriter (some l)
  else if (openSlot w s.reader).isNone then setReader (some l)

def countSwitch : Split D Unit := do
  let (switches, signal) := (← get).switches.increment
  modify fun s => { s with switches }
  Split.act (Service.signal signal)

def countFallback : Split D Unit := do
  let (fallbacks, signal) := (← get).fallbacks.increment
  modify fun s => { s with fallbacks }
  Split.act (Service.signal signal)

/-- Makes a link the current one, unless it is so already. -/
def makeCurrent (l : HostLink) : Split D Unit := do
  if !((← usable?).any (·.1 == l.1)) then
    Split.act (Service.setCurrent l.1 l.2)
    countSwitch

/-! ## Finding links -/

/-- An open link to the writer: the one that is kept, or the current one, or a new one. -/
def ensureWriter : Split D (Except RouteError HostLink) := do
  match openSlot (← Split.world get) (← get).writer with
  | some l => return .ok l
  | none =>
    match (← usable?).filter (·.2.isWriter) with
    | some l =>
      setWriter (some l)
      return .ok l
    | none =>
      match Topology.writer? (← Split.act Service.hosts) with
      | none => return .error (.connectionUnavailable "no writer host in topology")
      | some host =>
        match ← Split.act (Service.connect host (← get).props) with
        | .ok l =>
          setWriter (some (l, host))
          return .ok (l, host)
        | .error e =>
          return .error (.connectionUnavailable
            ("unable to connect to writer " ++ host.text ++ ": " ++ e.message))

/-- The index that the selector picks among so many hosts. -/
def pick (size : Nat) : Split D (Option Nat) :=
  modifyGet fun s =>
    let (picked, selector) := s.selector.pick size
    (picked, { s with selector })

/-- Tries the candidates in the order in which the selector picks them until one can be connected;
`room` is more than their number. -/
def tryReaders : (room : Nat) → List Host → Split D (Option HostLink)
  | 0, _ => return none
  | room + 1, candidates => do
    match (← pick candidates.length).bind fun i => candidates[i]?.map (i, ·) with
    | none => return none
    | some (i, host) =>
      match ← Split.act (Service.connect host (← get).props) with
      | .ok l => return some (l, host)
      | .error e =>
        Split.world (World.log .warn ("Failed to connect to reader " ++ host.text ++ ": " ++ e.message))
        tryReaders room (candidates.eraseIdx i)

/-- A new link to a reader, if any reader can be connected. -/
def connectReader : Split D (Option HostLink) := do
  let readers := Topology.readers (← Split.act Service.hosts)
  tryReaders (readers.length + 1) readers

/-! ## Switching -/

/-- The error of changing over while a transaction is open. -/
def pinned (target : String) : RouteError :=
  .transactionSafety ("cannot switch to the " ++ target ++ " connection while a transaction is open")

/-- Keeps a link for reading and makes it the current one. -/
def readFrom (l : HostLink) : Split D Unit := do
  setReader (some l)
  makeCurrent l

/-- Changes over to a reader: the one that is kept, or a new one, or else the writer. -/
def leaveForReader : Split D (Except RouteError Unit) := do
  match openSlot (← Split.world get) (← get).reader with
  | some l =>
    Split.world (World.log .debug ("Reusing reader connection to " ++ l.2.text))
    makeCurrent l
    return .ok ()
  | none =>
    match ← connectReader with
    | some l =>
      Split.world (World.log .debug ("Switched to reader " ++ l.2.text))
      readFrom l
      return .ok ()
    | none =>
      match ← ensureWriter with
      | .error e => return .error e
      | .ok l =>
        Split.world (World.log .warn ("No reader available, falling back to writer " ++ l.2.text))
        countFallback
        readFrom l
        return .ok ()

/-- Changes over to the only host there is. -/
def leaveForOnlyHost : Split D (Except RouteError Unit) := do
  match ← ensureWriter with
  | .error e => return .error e
  | .ok l =>
    readFrom l
    return .ok ()

/-- Sees to it that the current link is one to a reader. -/
def switchToReader : Split D (Except RouteError Unit) := do
  let current ← usable?
  if let some l := current then rememberCurrent l
  let s ← get
  if current.any s.isOnReader then return .ok ()
  let single := Topology.isSingle (← Split.act Service.hosts)
  if single && current.any s.isOnWriter then
    setReader s.writer
    return .ok ()
  if (← Split.act get).inTransaction then return .error (pinned "reader")
  if single then leaveForOnlyHost else leaveForReader

/-- Sees to it that the current link is one to the writer. -/
def switchToWriter : Split D (Except RouteError Unit) := do
  let current ← usable?
  if let some l := current then rememberCurrent l
  if current.any (← get).isOnWriter then return .ok ()
  if (← Split.act get).inTransaction then return .error (pinned "writer")
  match ← ensureWriter with
  | .error e => return .error e
  | .ok l =>
    Split.world (World.log .debug ("Switched to writer " ++ l.2.text))
    makeCurrent l
    return .ok ()

/-- Closes the stale link once another one is current. -/
def releaseStale : Split D Unit := do
  let s ← get
  if !s.isCurrentStale (← Split.act get) then
    if let some l := s.stale then
      modify fun s => { s with stale := none }
      Split.world (World.log .debug "Closing connection left behind by failover")
      Split.world l.closeQuietly
      Split.world l.letGo

/-- The name of a switch in telemetry. -/
def switchWork : String := "read_write_splitting.switch"

/-- Makes the current link match a mode. Fails when a transaction is open and the current link would
change. -/
def switchTo (readOnly : Bool) : Split D (Except RouteError Unit) := do
  Split.act (Service.signal (.began switchWork))
  Split.act (Service.signal (.attribute switchWork "read_only" s!"{readOnly}"))
  let result ← if readOnly then switchToReader else switchToWriter
  match result with
  | .ok () =>
    releaseStale
    Split.act (Service.signal (.succeeded switchWork true))
  | .error e => Split.act (Service.signal (.failed switchWork e.message))
  Split.act (Service.signal (.ended switchWork))
  return result

/-! ## Load balancing -/

/-- Moves to a new link in place of the one kept for reading, which is closed unless it is also kept
for writing. -/
def moveReader (l : HostLink) : Split D Unit := do
  hold (some l)
  let earlier := (← get).reader
  modify fun s => { s with reader := some l }
  makeCurrent l
  if let some old := earlier then
    if !holds (← get).writer old.1 then Split.world old.1.closeQuietly
    Split.world old.1.letGo

/-- Moves to a freshly picked reader. Whatever stands in the way leaves things as they are. -/
def rotateReader : Split D Unit := do
  let readers := Topology.readers (← Split.act Service.hosts)
  if 2 ≤ readers.length then
    match (← pick readers.length).bind (readers[·]?) with
    | none => return ()
    | some host =>
      let kept := openSlot (← Split.world get) (← get).reader
      if !kept.any (·.2.sameNode host) then
        match ← Split.act (Service.connect host (← get).props) with
        | .ok l =>
          Split.world (World.log .debug ("Load balancing to reader " ++ host.text))
          moveReader (l, host)
        | .error e =>
          Split.world (World.log .warn
            ("Keeping current reader, failed to connect to " ++ host.text ++ ": " ++ e.message))

/-! ## Giving links up -/

/-- Closes links other than the current one, each once; `closed` are those closed so far. -/
def discard (current : Option Link) : (closed : List Link) → List HostLink → Split D Unit
  | _, [] => return ()
  | closed, (l, host) :: rest => do
    if current == some l || closed.contains l then
      Split.world l.letGo
      discard current closed rest
    else
      Split.world (World.log .debug ("Closing cached connection to " ++ host.text))
      Split.world l.closeQuietly
      Split.world l.letGo
      discard current (l :: closed) rest

/-- Forgets both kept links, and closes those that are not current. -/
def discardKept : Split D Unit := do
  let current := (← Split.act get).link?
  let s ← get
  modify fun s => { s with writer := none, reader := none }
  discard current [] (s.writer.toList ++ s.reader.toList)

/-- A logical connection that ends lets go of every link. -/
def finish : Split D Unit := do
  setWriter none
  setReader none
  setStale none

end Split

end ReplicaRouter

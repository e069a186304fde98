import Mapecd.Map.Rule
import Mapecd.Semantics.Runs

/-! The watcher of the lease file, with whoever writes the file and the event loop
that the watcher feeds. -/
namespace Mapecd

/-- `char::is_whitespace`. -/
def isWhitespace (c : Char) : Bool :=
  (9 ≤ c.toNat && c.toNat ≤ 13) || (0x2000 ≤ c.toNat && c.toNat ≤ 0x200a) ||
    [0x20, 0x85, 0xa0, 0x1680, 0x2028, 0x2029, 0x202f, 0x205f, 0x3000].contains c.toNat

/-- `str::trim`. -/
def trim (text : List Char) : List Char :=
  ((text.dropWhile isWhitespace).reverse.dropWhile isWhitespace).reverse

/-- `str::lines`. -/
def lines : List Char → List (List Char)
  | [] => []
  | '\n' :: rest => [] :: lines rest
  | '\r' :: '\n' :: rest => [] :: lines rest
  | c :: rest =>
      match lines rest with
      | [] => [[c]]
      | line :: more => (c :: line) :: more

def leaseKey : List Char := "X-DELEGATED-PREFIX=".toList

/-- What the watcher is set up with: how prefixes are read, the index of the
interface as a file name, and the length of an inotify queue. -/
structure LeaseSetup where
  parseNet : List Char → Option Ipv6Net
  targetName : String
  maxQueuedEvents : Nat

namespace LeaseSetup

variable (setup : LeaseSetup)

/-- The first line with the key decides, also where its value is no prefix. -/
def parseLines : List (List Char) → Option Ipv6Net
  | [] => none
  | line :: rest =>
      match (trim line).dropPrefix? leaseKey with
      | some value => setup.parseNet (trim value)
      | none => parseLines rest

def parseDelegatedPrefix (content : List Char) : Option Ipv6Net := setup.parseLines (lines content)

/-- No text stands for a file that is not there or is not UTF-8. -/
def parseLeaseFile (content : Option (List Char)) : Option Ipv6Net :=
  content.bind setup.parseDelegatedPrefix

end LeaseSetup

/-- The events of the watch, which names files of the lease directory. -/
inductive InotifyEvent where
  | closeWrite (name : String)
  | movedTo (name : String)
  | overflow
deriving DecidableEq

def InotifyEvent.name : InotifyEvent → Option String
  | .closeWrite name => some name
  | .movedTo name => some name
  | .overflow => none

/-- A reader of the file is `torn` if the file has changed since it was opened. -/
inductive WatcherStage where
  | starting
  | waiting
  | handling (events : List InotifyEvent)
  | reading (torn : Bool) (events : List InotifyEvent)
  | sending (iaPd : Ipv6Net) (events : List InotifyEvent)
  | stopped
deriving DecidableEq

/-- `start_linux` up to its event loop. -/
inductive MainStage where
  | starting
  | reading (torn : Bool)
  | sending (iaPd : Ipv6Net)
  | looping
  | stopped
deriving DecidableEq

def WatcherStage.tear : WatcherStage → WatcherStage
  | .reading _ events => .reading true events
  | stage => stage

def MainStage.tear : MainStage → MainStage
  | .reading _ => .reading true
  | stage => stage

/-- The events that were read from the queue and are not handled yet. -/
def WatcherStage.events : WatcherStage → List InotifyEvent
  | .handling events => events
  | .reading _ events => events
  | .sending _ events => events
  | _ => []

def leaseCapacity : Nat := 4

/-- File, queue, watcher, channel and main task at one moment. -/
structure LeaseState where
  file : Option (List Char)
  /-- Open descriptors that can write to the file. -/
  writers : Nat
  queue : List InotifyEvent
  watcher : WatcherStage
  main : MainStage
  channel : List Ipv6Net
  /-- The prefixes that the event loop has handled. -/
  received : List Ipv6Net
deriving DecidableEq

/-- The steps of all parties, in any order that the state allows. -/
inductive LeaseAction where
  | openWrite
  | write (content : Option (List Char))
  | closeWrite (merge : Bool)
  /-- Another file takes the name, which may be open for writing itself. -/
  | rename (content : Option (List Char)) (writers : Nat) (merge : Bool)
  | remove
  /-- Any other event of the directory. -/
  | touch (event : InotifyEvent) (merge : Bool)
  | addWatch
  | stopWatcher
  | readable
  | readEvents (count : Nat)
  /-- The queue is empty or cannot be read. -/
  | leaveLoop
  | nextEvent
  | finishRead (content : Option (List Char))
  | send
  | openInitial
  /-- The interface has no index. -/
  | skipInitial
  | finishInitial (content : Option (List Char))
  | sendInitial
  | receive
  | stopMain

namespace LeaseState

/-- Nothing has been read yet. -/
def initial (file : Option (List Char)) (writers : Nat) : LeaseState :=
  { file, writers, queue := [], watcher := .starting, main := .starting, channel := []
    received := [] }

def change (s : LeaseState) (content : Option (List Char)) : LeaseState :=
  { s with file := content, watcher := s.watcher.tear, main := s.main.tear }

/-- An event like the last one may be merged with it, and a full queue takes
nothing but one mark of an overflow. -/
def enqueue (setup : LeaseSetup) (merge : Bool) (event : InotifyEvent)
    (queue : List InotifyEvent) : List InotifyEvent :=
  if merge = true ∧ queue.getLast? = some event then queue
  else if queue.length < setup.maxQueuedEvents then queue ++ [event]
  else if queue.getLast? = some .overflow then queue
  else queue ++ [.overflow]

/-- Without a watch there is no queue. -/
def notify (setup : LeaseSetup) (merge : Bool) (event : InotifyEvent) (s : LeaseState) :
    LeaseState :=
  if s.watcher = .starting ∨ s.watcher = .stopped then s
  else { s with queue := enqueue setup merge event s.queue }

/-- What a reader makes of the file. A torn one may find anything. -/
def CanRead (s : LeaseState) (torn : Bool) (content : Option (List Char)) : Prop :=
  torn = true ∨ content = s.file

instance (s : LeaseState) (torn : Bool) (content : Option (List Char)) :
    Decidable (s.CanRead torn content) := inferInstanceAs (Decidable (_ ∨ _))

/-- What others do to the file, and the events that come of it. -/
def stepWriter (setup : LeaseSetup) (s : LeaseState) : LeaseAction → Option LeaseState
  | .openWrite => some { s with writers := s.writers + 1 }
  | .write content => if 0 < s.writers then some (s.change content) else none
  | .closeWrite merge =>
      if 0 < s.writers then
        some (notify setup merge (.closeWrite setup.targetName) { s with writers := s.writers - 1 })
      else none
  | .rename content writers merge =>
      some (notify setup merge (.movedTo setup.targetName)
        { s.change content with writers := writers })
  | .remove => some { s.change none with writers := 0 }
  | .touch event merge => some (notify setup merge event s)
  | _ => none

/-- The steps of `run_lease_watcher` and `handle_lease_event`. -/
def stepWatcher (setup : LeaseSetup) (s : LeaseState) (action : LeaseAction) : Option LeaseState :=
  match s.watcher, action with
  | .starting, .addWatch => some { s with watcher := .waiting }
  | .starting, .stopWatcher => some { s with watcher := .stopped }
  | .waiting, .stopWatcher => some { s with watcher := .stopped, queue := [] }
  | .waiting, .readable => some { s with watcher := .handling [] }
  | .handling [], .readEvents count =>
      if 0 < count ∧ count ≤ s.queue.length then
        some { s with watcher := .handling (s.queue.take count), queue := s.queue.drop count }
      else none
  | .handling [], .leaveLoop => some { s with watcher := .waiting }
  | .handling (event :: events), .nextEvent =>
      if event.name = some setup.targetName then some { s with watcher := .reading false events }
      else some { s with watcher := .handling events }
  | .reading torn events, .finishRead content =>
      if s.CanRead torn content then
        match setup.parseLeaseFile content with
        | some iaPd => some { s with watcher := .sending iaPd events }
        | none => some { s with watcher := .handling events }
      else none
  | .sending iaPd events, .send =>
      -- without a receiver the error is ignored, a full channel has to be waited for
      if s.main = .stopped then some { s with watcher := .handling events }
      else if s.channel.length < leaseCapacity then
        some { s with watcher := .handling events, channel := s.channel ++ [iaPd] }
      else none
  | _, _ => none

/-- The steps of `start_linux` that have to do with the lease file. -/
def stepMain (setup : LeaseSetup) (s : LeaseState) (action : LeaseAction) : Option LeaseState :=
  match s.main, action with
  | .starting, .openInitial => some { s with main := .reading false }
  | .starting, .skipInitial => some { s with main := .looping }
  | .reading torn, .finishInitial content =>
      if s.CanRead torn content then
        match setup.parseLeaseFile content with
        | some iaPd => some { s with main := .sending iaPd }
        | none => some { s with main := .looping }
      else none
  | .sending iaPd, .sendInitial =>
      if s.channel.length < leaseCapacity then
        some { s with main := .looping, channel := s.channel ++ [iaPd] }
      else none
  | .looping, .receive =>
      match s.channel with
      | iaPd :: rest => some { s with channel := rest, received := s.received ++ [iaPd] }
      | [] => none
  | _, .stopMain => some { s with main := .stopped, channel := [] }
  | _, _ => none

end LeaseState

/-- The party that a step belongs to. -/
inductive LeaseParty where
  | writer
  | watcher
  | main
deriving DecidableEq

def LeaseAction.party : LeaseAction → LeaseParty
  | .openWrite | .write _ | .closeWrite _ | .rename _ _ _ | .remove | .touch _ _ => .writer
  | .addWatch | .stopWatcher | .readable | .readEvents _ | .leaveLoop | .nextEvent
  | .finishRead _ | .send => .watcher
  | .openInitial | .skipInitial | .finishInitial _ | .sendInitial | .receive | .stopMain => .main

/-- One step of the party that the action belongs to. -/
def LeaseState.step (setup : LeaseSetup) (s : LeaseState) (action : LeaseAction) :
    Option LeaseState :=
  match action.party with
  | .writer => s.stepWriter setup action
  | .watcher => s.stepWatcher setup action
  | .main => s.stepMain setup action

end Mapecd

import Mathlib.Data.List.Nodup
import Mathlib.Data.List.TakeWhile
import Mathlib.Logic.Function.Basic
import OpenWoW.Lib.Run

/-! The sessions of the world and the queue before the login. -/
namespace OpenWoW.LoginQueue

structure WorldSession where
  account : Nat := 0
  /-- `RBAC_PERM_SKIP_QUEUE`. -/
  skipQueue : Bool := false
  inQueue : Bool := false
  /-- The position that the server last set out to send. -/
  position : Option Nat := none
  /-- The last position that a packet contained. -/
  sent : Option Nat := none
  deriving DecidableEq, Repr

namespace WorldSession

/-- The packet has room for the position, and nothing writes it. -/
def sendAuthResponse (s : WorldSession) (queued : Bool) (queuePos : Nat) : WorldSession :=
  { s with position := if queued then some queuePos else s.position }

def sendAuthWaitQue (s : WorldSession) (position : Nat) : WorldSession :=
  { s with
    position := some position
    sent := if position = 0 then s.sent else some position }

end WorldSession

structure World where
  /-- `m_sessions`: an account and the address of its session. -/
  sessions : List (Nat × Nat) := []
  /-- What is at an address. -/
  session : Nat → WorldSession := fun _ => {}
  queuedPlayer : List Nat := []
  /-- `m_disconnects`: an account and the time when it was last lost. -/
  disconnects : List (Nat × Nat) := []
  time : Nat := 0
  created : Nat := 0
  /-- The sessions that were ever put into the queue, and those that left it for the game. -/
  entered : List Nat := []
  admitted : List Nat := []

/-- What one step tells: the session that left, the ones that left the queue for the game, and
whether a new one became active at once; with the number of other active sessions then. -/
structure Report where
  left : Option Nat := none
  admitted : List (Nat × Nat) := []
  active : Option Nat := none
  deriving DecidableEq, Repr

variable (playerLimit tolerance : Nat)

namespace World

def activeAndQueuedSessionCount (w : World) : Nat := w.sessions.length

def activeSessionCount (w : World) : Nat := w.sessions.length - w.queuedPlayer.length

def change (w : World) (address : Nat) (f : WorldSession → WorldSession) : World :=
  { w with session := Function.update w.session address (f (w.session address)) }

/-- The sessions in the game but two. -/
def others (w : World) (one other : Nat) : Nat :=
  w.sessions.countP fun entry =>
    !(w.session entry.2).inQueue && entry.2 ≠ one && entry.2 ≠ other

def queuePos (w : World) (sess : Nat) : Nat :=
  if sess ∈ w.queuedPlayer then w.queuedPlayer.idxOf sess + 1 else 0

def addQueuedPlayer (w : World) (sess : Nat) : World :=
  let queued := { w.change sess ({ · with inQueue := true }) with
    queuedPlayer := w.queuedPlayer ++ [sess], entered := w.entered ++ [sess] }
  queued.change sess (·.sendAuthResponse true (queued.queuePos sess))

/-- The loop that updates the positions. -/
def sendPositions (w : World) : Nat → List Nat → World
  | _, [] => w
  | position, sess :: rest =>
    (w.change sess (·.sendAuthWaitQue position)).sendPositions (position + 1) rest

def accept (w : World) (front : Nat) (rest : List Nat) : World :=
  { w.change front fun s => { s with inQueue := false }.sendAuthWaitQue 0 with
    queuedPlayer := rest, admitted := w.admitted ++ [front] }

def erased (w : World) (sess : Nat) : World :=
  let before := w.queuedPlayer.takeWhile (· ≠ sess)
  match w.queuedPlayer.dropWhile (· ≠ sess) with
  | [] => w
  | _ :: after =>
    { w.change sess ({ · with inQueue := false }) with queuedPlayer := before ++ after }

def removeQueuedPlayer (w : World) (sess : Nat) : World × Bool × List (Nat × Nat) :=
  let found := decide (sess ∈ w.queuedPlayer)
  let skipped := w.queuedPlayer.takeWhile (· ≠ sess)
  let next := (w.queuedPlayer.dropWhile (· ≠ sess)).tail
  let sessions := if found then w.activeSessionCount else w.activeSessionCount - 1
  let left := w.erased sess
  match left.queuedPlayer with
  | [] => (left.sendPositions (skipped.length + 1) next, found, [])
  | front :: rest =>
    if playerLimit = 0 ∨ sessions < playerLimit then
      ((left.accept front rest).sendPositions 1 rest, found, [(front, left.others front sess)])
    else (left.sendPositions (skipped.length + 1) next, found, [])

/-- The search through `m_disconnects`; entries that are too old are erased on the way. -/
def searchDisconnects (now account : Nat) : List (Nat × Nat) → Bool × List (Nat × Nat)
  | [] => (false, [])
  | entry :: rest =>
    if (entry.2 : Int) - now < tolerance then
      if entry.1 = account then (true, entry :: rest)
      else
        let (found, left) := searchDisconnects now account rest
        (found, entry :: left)
    else searchDisconnects now account rest

def hasRecentlyDisconnected (w : World) (account : Nat) : World × Bool :=
  if tolerance = 0 then (w, false)
  else
    let (found, left) := searchDisconnects tolerance w.time account w.disconnects
    ({ w with disconnects := left }, found)

/-- The part of `AddSession_` behind `m_sessions[s->GetAccountId()] = s`. -/
def enter (w : World) (sess : Nat) (decreaseSession : Bool) : World × Option Nat :=
  let s := w.session sess
  let sessions := w.activeAndQueuedSessionCount - if decreaseSession then 1 else 0
  let response (w : World) :=
    (w.change sess (·.sendAuthResponse false 0), some (w.others sess sess))
  if 0 < playerLimit ∧ playerLimit ≤ sessions ∧ ¬s.skipQueue then
    match w.hasRecentlyDisconnected tolerance s.account with
    | (w, true) => response w
    | (w, false) => (w.addQueuedPlayer sess, none)
  else response w

def store (w : World) (account : Nat) (skipQueue : Bool) : World :=
  { w with
    sessions := (account, w.created) :: w.sessions.filter (·.1 ≠ account)
    session := Function.update w.session w.created { account, skipQueue }
    created := w.created + 1 }

def addSession (w : World) (account : Nat) (skipQueue loading : Bool) : World × Report :=
  match w.sessions.find? (·.1 = account) with
  | none =>
    let (after, active) := (w.store account skipQueue).enter playerLimit tolerance w.created true
    (after, { active })
  | some (_, old) =>
    -- a session whose player is loading refuses the new one
    if loading then (w, {})
    else
      let (left, found, admitted) := w.removeQueuedPlayer playerLimit old
      let (after, active) :=
        (left.store account skipQueue).enter playerLimit tolerance left.created (!found)
      (after, { left := some old, admitted, active })

/-- A session whose `Update` reports a closed connection. -/
def close (w : World) (account : Nat) : World × Report :=
  match w.sessions.find? (·.1 = account) with
  | none => (w, {})
  | some (_, sess) =>
    let (first, found, admitted) := w.removeQueuedPlayer playerLimit sess
    let lost :=
      if !found && tolerance ≠ 0 then
        { first with
          disconnects := (account, w.time) :: first.disconnects.filter (·.1 ≠ account) }
      else first
    let (second, _, more) := lost.removeQueuedPlayer playerLimit sess
    ({ second with sessions := second.sessions.filter (·.1 ≠ account) },
      { left := some sess, admitted := admitted ++ more })

end World

/-- One of the things that `UpdateSessions` does in turn, some time after the one before. -/
inductive Input where
  | addSession (elapsed account : Nat) (skipQueue loading : Bool)
  | close (elapsed account : Nat)
  deriving DecidableEq, Repr

def step (w : World) : Input → World × Report
  | .addSession elapsed account skipQueue loading =>
    { w with time := w.time + elapsed }.addSession playerLimit tolerance account skipQueue loading
  | .close elapsed account => { w with time := w.time + elapsed }.close playerLimit tolerance account

/-- A call of `UpdateSessions`. -/
structure Update where
  /-- The new sessions: the time before each, its account, whether it may skip the queue, and
  whether a player of the session that it meets is loading. -/
  added : List (Nat × Nat × Bool × Bool)
  /-- The sessions that are closed, as the loop comes upon them. -/
  closed : List (Nat × Nat)

/-- `UpdateSessions` adds the new sessions and then updates all. -/
def Update.inputs (update : Update) : List Input :=
  (update.added.map fun (elapsed, account, skipQueue, loading) =>
    .addSession elapsed account skipQueue loading) ++
  update.closed.map fun (elapsed, account) => .close elapsed account

end OpenWoW.LoginQueue

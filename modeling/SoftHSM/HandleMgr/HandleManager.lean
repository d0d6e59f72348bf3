import Mathlib.Algebra.Group.Nat.Defs
import Mathlib.Data.List.Basic
import Mathlib.Logic.Function.Basic

/-!
The handle manager: the table of issued session and object handles and the four indexes
kept beside it.

A `std::map` is a function to `Option`, a `std::set` a list without repetitions; a set
that `operator[]` would create empty is the empty list. An operation that releases
objects after it has dropped the lock returns them with the new state.
-/

namespace SoftHSM

/-- `CK_INVALID_HANDLE`. -/
def CK_INVALID_HANDLE : ℕ := 0

/-- `Handle`, by its kind: a session of a slot, or an object of a slot with the session it
belongs to (`CK_INVALID_HANDLE` for a token object). -/
inductive Handle (Obj Sess : Type)
  | session (slotID : ℕ) (session : Sess)
  | object (slotID hSession : ℕ) (isPrivate : Bool) (object : Obj)
  deriving DecidableEq

def Handle.slotID {Obj Sess : Type} : Handle Obj Sess → ℕ
  | .session s _ => s
  | .object s _ _ _ => s

/-- The object behind an object handle. -/
def Handle.objectOf {Obj Sess : Type} : Handle Obj Sess → Option Obj
  | .session _ _ => none
  | .object _ _ _ o => some o

/-- The session an object handle belongs to, if it is one of a session object. -/
def Handle.sessionOf {Obj Sess : Type} : Handle Obj Sess → Option ℕ
  | .session _ _ => none
  | .object _ S _ _ => if S = CK_INVALID_HANDLE then none else some S

structure HandleManager (Obj Sess : Type) where
  handles : ℕ → Option (Handle Obj Sess)
  objects : Obj → Option ℕ
  handleCounter : ℕ
  sessionObjectHandles : ℕ → List ℕ
  slotHandles : ℕ → List ℕ
  slotSessionCount : ℕ → ℕ

namespace HandleManager

variable {Obj Sess : Type} [DecidableEq Obj]

/-- The constructor: nothing issued. -/
def empty : HandleManager Obj Sess :=
  ⟨fun _ => none, fun _ => none, 0, fun _ => [], fun _ => [], fun _ => 0⟩

/-- `++handleCounter`, on a 64-bit `CK_ULONG`. -/
def nextHandle (m : HandleManager Obj Sess) : ℕ := (m.handleCounter + 1) % 2 ^ 64

def addSession (m : HandleManager Obj Sess) (slotID : ℕ) (session : Sess) :
    ℕ × HandleManager Obj Sess :=
  let h := m.nextHandle
  (h, { m with
    handleCounter := h
    handles := Function.update m.handles h (some (.session slotID session))
    slotHandles := Function.update m.slotHandles slotID ((m.slotHandles slotID).insert h)
    slotSessionCount :=
      Function.update m.slotSessionCount slotID (m.slotSessionCount slotID + 1) })

def getSession (m : HandleManager Obj Sess) (hSession : ℕ) : Option Sess :=
  match m.handles hSession with
  | some (.session _ session) => some session
  | _ => none

def getObject (m : HandleManager Obj Sess) (hObject : ℕ) : Option Obj :=
  match m.handles hObject with
  | some (.object _ _ _ object) => some object
  | _ => none

/-- The first lines of `addSessionObject` and `addTokenObject`: the answer for an object
that is already registered. -/
def registered (m : HandleManager Obj Sess) (slotID : ℕ) (object : Obj) :
    Option (ℕ × HandleManager Obj Sess) :=
  match m.objects object with
  | none => none
  | some h =>
    match m.handles h with
    | some (.object s _ _ _) =>
      if slotID ≠ s then
        some (CK_INVALID_HANDLE, { m with objects := Function.update m.objects object none })
      else some (h, m)
    | _ => some (CK_INVALID_HANDLE, { m with objects := Function.update m.objects object none })

/-- `addSessionObject`; the last component says whether the object was acquired. -/
def addSessionObject (m : HandleManager Obj Sess) (slotID hSession : ℕ) (isPrivate : Bool)
    (object : Obj) : ℕ × HandleManager Obj Sess × Bool :=
  match m.registered slotID object with
  | some (h, m') => (h, m', false)
  | none =>
    let h := m.nextHandle
    (h, { m with
      handleCounter := h
      handles := Function.update m.handles h (some (.object slotID hSession isPrivate object))
      objects := Function.update m.objects object (some h)
      sessionObjectHandles := Function.update m.sessionObjectHandles hSession
        ((m.sessionObjectHandles hSession).insert h)
      slotHandles := Function.update m.slotHandles slotID ((m.slotHandles slotID).insert h) },
      true)

def addTokenObject (m : HandleManager Obj Sess) (slotID : ℕ) (isPrivate : Bool)
    (object : Obj) : ℕ × HandleManager Obj Sess :=
  match m.registered slotID object with
  | some r => r
  | none =>
    let h := m.nextHandle
    (h, { m with
      handleCounter := h
      handles := Function.update m.handles h
        (some (.object slotID CK_INVALID_HANDLE isPrivate object))
      objects := Function.update m.objects object (some h)
      slotHandles := Function.update m.slotHandles slotID ((m.slotHandles slotID).insert h) })

def destroyObject (m : HandleManager Obj Sess) (hObject : ℕ) :
    HandleManager Obj Sess × List Obj :=
  match m.handles hObject with
  | some (.object slotID hSession _ object) =>
    ({ m with
      sessionObjectHandles :=
        if hSession ≠ CK_INVALID_HANDLE then
          Function.update m.sessionObjectHandles hSession
            ((m.sessionObjectHandles hSession).erase hObject)
        else m.sessionObjectHandles
      slotHandles :=
        Function.update m.slotHandles slotID ((m.slotHandles slotID).erase hObject)
      objects := Function.update m.objects object none
      handles := Function.update m.handles hObject none },
      if hSession ≠ CK_INVALID_HANDLE then [object] else [])
  | _ => (m, [])

/-- One round of the loop of `allSessionsClosed`. -/
def allSessionsClosedRound (acc : HandleManager Obj Sess × List Obj) (h : ℕ) :
    HandleManager Obj Sess × List Obj :=
  match acc.1.handles h with
  | none => acc
  | some (.object _ hSession _ object) =>
    ({ acc.1 with
      objects := Function.update acc.1.objects object none
      handles := Function.update acc.1.handles h none },
      if hSession ≠ CK_INVALID_HANDLE then acc.2.insert object else acc.2)
  | some (.session _ _) =>
    ({ acc.1 with
      sessionObjectHandles := Function.update acc.1.sessionObjectHandles h []
      handles := Function.update acc.1.handles h none }, acc.2)

def allSessionsClosed (m : HandleManager Obj Sess) (slotID : ℕ) :
    HandleManager Obj Sess × List Obj :=
  let r := (m.slotHandles slotID).foldl allSessionsClosedRound (m, [])
  ({ r.1 with
    slotHandles := Function.update r.1.slotHandles slotID []
    slotSessionCount := Function.update r.1.slotSessionCount slotID 0 }, r.2)

/-- One round of the loop of `sessionClosed`. The source reads `object` off whatever
handle it finds; a session handle is never in the list, so that case is left alone. -/
def sessionClosedRound (slotID : ℕ) (acc : HandleManager Obj Sess × List Obj) (h : ℕ) :
    HandleManager Obj Sess × List Obj :=
  match acc.1.handles h with
  | some (.object _ _ _ object) =>
    ({ acc.1 with
      objects := Function.update acc.1.objects object none
      slotHandles := Function.update acc.1.slotHandles slotID ((acc.1.slotHandles slotID).erase h)
      handles := Function.update acc.1.handles h none }, acc.2.insert object)
  | _ => acc

/-- `sessionClosed` up to the session counter: the session, its object handles and one
count are gone. -/
def closeSession (m : HandleManager Obj Sess) (hSession slotID : ℕ) :
    HandleManager Obj Sess × List Obj :=
  let m1 := { m with
    slotHandles :=
      Function.update m.slotHandles slotID ((m.slotHandles slotID).erase hSession)
    handles := Function.update m.handles hSession none }
  let r := (m1.sessionObjectHandles hSession).foldl (sessionClosedRound slotID) (m1, [])
  ({ r.1 with
    sessionObjectHandles := Function.update r.1.sessionObjectHandles hSession []
    slotSessionCount :=
      Function.update r.1.slotSessionCount slotID (r.1.slotSessionCount slotID - 1) }, r.2)

/-- `sessionClosed`; the nested `allSessionsClosed` has its own set of objects and releases
it first. -/
def sessionClosed (m : HandleManager Obj Sess) (hSession : ℕ) :
    HandleManager Obj Sess × List Obj :=
  match m.handles hSession with
  | some (.session slotID _) =>
    let r := m.closeSession hSession slotID
    if r.1.slotSessionCount slotID = 0 then
      let a := r.1.allSessionsClosed slotID
      (a.1, a.2 ++ r.2)
    else r
  | _ => (m, [])

/-- One round of the loop of `tokenLoggedOut`. -/
def tokenLoggedOutRound (slotID : ℕ) (acc : HandleManager Obj Sess × List Obj) (h : ℕ) :
    HandleManager Obj Sess × List Obj :=
  match acc.1.handles h with
  | some (.object _ hSession true object) =>
    ({ acc.1 with
      sessionObjectHandles :=
        if hSession ≠ CK_INVALID_HANDLE then
          Function.update acc.1.sessionObjectHandles hSession
            ((acc.1.sessionObjectHandles hSession).erase h)
        else acc.1.sessionObjectHandles
      objects := Function.update acc.1.objects object none
      handles := Function.update acc.1.handles h none
      slotHandles :=
        Function.update acc.1.slotHandles slotID ((acc.1.slotHandles slotID).erase h) },
      if hSession ≠ CK_INVALID_HANDLE then acc.2.insert object else acc.2)
  | _ => acc

def tokenLoggedOut (m : HandleManager Obj Sess) (slotID : ℕ) :
    HandleManager Obj Sess × List Obj :=
  (m.slotHandles slotID).foldl (tokenLoggedOutRound slotID) (m, [])

end HandleManager

end SoftHSM

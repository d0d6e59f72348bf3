import SoftHSM.Lib.SharedRecord
import SoftHSM.Lib.Transition
import SoftHSM.SlotMgr.PolicyRuns

/-!
A token whose object file several processes use, one whole operation at a time, with every step
succeeding. A process has its copy of the attributes, and a secure data manager over the blobs that were
stored when its token was made.
-/

namespace SoftHSM.SharedToken

open RecordFile SecureDataManager CK_RV

structure Process where
  attributes : TokenObject
  sdm : Option SecureDataManager

/-- The file and the processes, and of the history the PINs and the master key that were set last, and
what was encrypted under that key, with its plaintext. -/
structure System (ι : Type) where
  disk : Option TokenObject
  process : ι → Option Process
  soPIN : ByteString
  userPIN : Option ByteString
  key : ByteString
  encrypted : List (ByteString × ByteString)

inductive Reply
  /-- there is no token for the process -/
  | absent
  | rv (rv : CK_RV)
  | bytes (value : Option ByteString)
  deriving DecidableEq

/-- What a format draws. -/
structure FormatDraws where
  verifier : Draws
  draws : Draws
  login : Draws
  userDraws : Draws
  rebuilt : Draws

/-- The operations, with what each draws. -/
inductive Op
  /-- the token is made over a store that has it already -/
  | start (r : Draws)
  | loginSO (r : Draws) (pin : ByteString)
  | loginUser (r : Draws) (pin : ByteString)
  | reAuthenticate (pin : ByteString)
  | logout
  | setSOPIN (verifier draws : Draws) (oldPIN newPIN : ByteString)
  | setUserPIN (verifier draws : Draws) (oldPIN newPIN : ByteString)
  | initUserPIN (draws : Draws) (pin : ByteString)
  | createToken (r : FormatDraws) (requested : Option ByteString) (soPIN : ByteString)
      (label : Option ByteString)
  /-- `initTokenExtended`, with the parameters that `C_EX_InitToken` checks first -/
  | initTokenExtended (r : FormatDraws) (soPIN : ByteString) (pInitInfo : CK_RUTOKEN_INIT_PARAM)
  | encrypt (r : Draws) (plaintext : ByteString)
  | decrypt (r : Draws) (encrypted : ByteString)

/-- A change of a PIN in which every step succeeds. -/
def pinEnv (verifier draws : Draws) : Token.PinEnv :=
  ⟨verifier, draws, .none, .done, .done, .done, .done, .done, .done, .done⟩

/-- A format in which every step succeeds. -/
def formatEnv (r : FormatDraws) : Token.FormatEnv :=
  { Token.doneFormat with
    verifier := r.verifier, draws := r.draws, login := r.login, userDraws := r.userDraws
    rebuilt := r.rebuilt }

variable {ι : Type} [DecidableEq ι]

namespace System

/-- Nobody has made the token yet. -/
def empty : System ι := ⟨none, fun _ => none, [], none, [], []⟩

/-- The file and one process after an operation. -/
def set (s : System ι) (i : ι) (attributes disk : TokenObject) (sdm : Option SecureDataManager) :
    System ι :=
  { s with disk := some disk, process := Function.update s.process i (some ⟨attributes, sdm⟩) }

/-- The history after an operation that succeeded. -/
def note (f : System ι → System ι) (r : Reply × System ι) : Reply × System ι :=
  if r.1 = .rv CKR_OK then (r.1, f r.2) else r

/-- An operation on the token of a process. -/
def call (s : System ι) (i : ι)
    (op : SecureDataManager → TokenObject.Prog (CK_RV × SecureDataManager)) : Reply × System ι :=
  match s.process i, s.disk with
  | some ⟨c, some sdm⟩, some d =>
    let ((rv, sdm), c, d) := (op sdm).visit c d
    (.rv rv, s.set i c d (some sdm))
  | _, _ => (.absent, s)

/-- An operation on the manager of a process. -/
def compute (s : System ι) (i : ι)
    (op : SecureDataManager → Option ByteString × SecureDataManager) : Reply × System ι :=
  match s.process i, s.disk with
  | some ⟨c, some sdm⟩, some d =>
    let (value, sdm) := op sdm
    (.bytes value, s.set i c d (some sdm))
  | _, _ => (.absent, s)

/-- A process that finds no token makes it. -/
def install (s : System ι) (i : ι) : CK_RV × Option Token → Reply × System ι
  | (rv, none) => (.rv rv, s)
  | (rv, some ⟨token, sdm⟩) =>
    (.rv rv, { s with
      disk := token.disk, process := Function.update s.process i (some ⟨token.attributes, sdm⟩) })

/-- What a format with a new master key leaves of the history. -/
def renewed (r : FormatDraws) (soPIN : ByteString) (userPIN : Option ByteString) (s : System ι) :
    System ι :=
  { s with
    soPIN := soPIN, userPIN := userPIN, key := generateRandom r.draws.key 32, encrypted := [] }

variable (P : Primitives)

def createToken (s : System ι) (i : ι) (r : FormatDraws) (requested : Option ByteString)
    (soPIN : ByteString) (label : Option ByteString) : Reply × System ι :=
  match s.process i, s.disk with
  | none, none =>
    match Token.createToken P (formatEnv r) requested soPIN label none with
    | none => (.absent, s)
    | some result => note (renewed r soPIN none) (s.install i result)
  | some ⟨c, sdm⟩, some d =>
    match newPolicy requested with
    | none => (.rv CKR_ARGUMENTS_BAD, s)
    | some policy =>
      if soPIN.length < policy.minSOLength.toNat || soPIN.length > policy.maxLength.toNat then
        (.rv CKR_PIN_LEN_RANGE, s)
      else
        match label with
        | none => (.rv CKR_ARGUMENTS_BAD, s)
        | some label =>
          match (Token.recreate P (formatEnv r) policy soPIN label sdm).visit c d with
          | (none, _) => (.absent, s)
          | (some (rv, sdm), c, d) =>
            note (fun s => { s with soPIN := soPIN, userPIN := none }) (.rv rv, s.set i c d sdm)
  | _, _ => (.absent, s)

lemma createToken_first {s : System ι} {i : ι} (hnone : s.process i = none) (hdisk : s.disk = none)
    (r : FormatDraws) (requested : Option ByteString) (soPIN : ByteString)
    (label : Option ByteString) : s.createToken P i r requested soPIN label =
      match Token.createToken P (formatEnv r) requested soPIN label none with
      | none => (.absent, s)
      | some result => note (renewed r soPIN none) (s.install i result) := by
  unfold createToken
  rw [hnone, hdisk]

def initTokenExtended (s : System ι) (i : ι) (r : FormatDraws) (soPIN : ByteString)
    (pInitInfo : CK_RUTOKEN_INIT_PARAM) : Reply × System ι :=
  match pInitInfo.check with
  | none => (.rv CKR_ARGUMENTS_BAD, s)
  | some c =>
    note (renewed r c.newSOPIN (some c.newUserPIN))
      (match s.process i, s.disk with
      | none, none => s.install i (Token.initNew P (formatEnv r) c)
      | some ⟨a, sdm⟩, some d =>
        let ((rv, sdm), a, d) := (Token.reformat P (formatEnv r) soPIN c sdm).visit a d
        (.rv rv, s.set i a d sdm)
      | _, _ => (.absent, s))

/-- One operation of a process. -/
def exec (s : System ι) (i : ι) : Op → Reply × System ι
  | .start r =>
    match s.disk with
    | none => (.absent, s)
    | some d =>
      let (soPINBlob, userPINBlob) := (Token.readBlobs.eval d).1
      (.rv CKR_OK, s.set i d d (some (create r soPINBlob userPINBlob)))
  | .loginSO r pin => s.call i (Token.loginSO P r .done pin)
  | .loginUser r pin => s.call i (Token.loginUser P r .done pin)
  | .reAuthenticate pin => s.call i (Token.reAuthenticate P .done pin)
  | .logout => s.call i fun sdm => return (CKR_OK, sdm.logout)
  | .setSOPIN verifier draws oldPIN newPIN =>
    note (fun s => { s with soPIN := newPIN })
      (s.call i (Token.setSOPIN P (pinEnv verifier draws) oldPIN newPIN))
  | .setUserPIN verifier draws oldPIN newPIN =>
    note (fun s => { s with userPIN := some newPIN })
      (s.call i (Token.setUserPIN P (pinEnv verifier draws) oldPIN newPIN))
  | .initUserPIN draws pin =>
    note (fun s => { s with userPIN := some pin })
      (s.call i (Token.initUserPIN P (pinEnv draws draws) pin))
  | .createToken r requested soPIN label => s.createToken P i r requested soPIN label
  | .initTokenExtended r soPIN pInitInfo => s.initTokenExtended P i r soPIN pInitInfo
  | .encrypt r plaintext =>
    match s.compute i (SecureDataManager.encrypt P r plaintext) with
    | (.bytes (some c), s) => (.bytes (some c), { s with encrypted := (plaintext, c) :: s.encrypted })
    | result => result
  | .decrypt r encrypted => s.compute i (SecureDataManager.decrypt P r encrypted)

end System

end SoftHSM.SharedToken

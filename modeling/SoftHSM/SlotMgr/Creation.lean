import SoftHSM.SlotMgr.LoginState

/-!
The making of a token on a slot that has none, down to the directories of the object store:
both backends, the list of tokens that `ObjectStore` keeps, the two functions of the slot and
the calls in front of them.

Every step of the storage says how it turns out. Removing is the exception: files are removed
whenever that is asked for, and a directory whenever it is empty.
-/

namespace SoftHSM.Creation

open RecordFile TokenObject SecureDataManager PinPolicy LocalPin CK_RV Token
open RecordFile.File (settled)

inductive Backend
  | file
  | database
  deriving DecidableEq

/-- What is in the directory of a token: no file, files out of which no token object can be
read, or a token object. -/
inductive Directory
  | empty
  | unreadable
  | holds (object : TokenObject)

/-- The directories in the directory of the store, by their names. -/
abbrev Directories := ℕ → Option Directory

/-- `::rmdir`, which only removes an empty directory. -/
def rmdir (name : ℕ) (d : Directories) : Directories :=
  match d name with
  | some .empty => Function.update d name none
  | _ => d

def removeFiles (name : ℕ) (d : Directories) : Directories :=
  Function.update d name (some .empty)

/-! ### The backends -/

/-- How the steps of making a token object turn out. -/
structure NewToken where
  tokenUUID : ℕ
  baseDir : Bool
  mkdir : Bool
  refresh : Bool
  /-- the first store of an empty object; for the database, the file with its tables and the
  row of the token object -/
  object : Write
  tokenLabel : Bool
  tokenSerial : Bool
  tokenCreated : Bool
  tokenFlags : Bool
  /-- whether the token is there when it is looked at once more: the constructor of `OSToken`
  over its directory, and `isValid` of `DBToken` -/
  opened : Bool

def NewToken.attributes (n : NewToken) : Bool :=
  n.tokenLabel && n.tokenSerial && n.tokenCreated && n.tokenFlags

def OSToken.createToken (n : NewToken) (label : ByteString) (d : Directories) :
    Option (File TokenObject) × Directories :=
  if !n.baseDir then (none, d)
  else if !n.mkdir || (d n.tokenUUID).isSome then (none, d)
  else
    let d := Function.update d n.tokenUUID (some .empty)
    if !n.refresh then (none, d)
    else
      -- a file that is empty, or cut within its generation, reads as an object without attributes
      let stored := Function.update d n.tokenUUID (some (.holds {}))
      match n.object with
      | .refused => (none, rmdir n.tokenUUID d)
      | .torn => (none, rmdir n.tokenUUID stored)
      | .done =>
        if !n.attributes then (none, rmdir n.tokenUUID (removeFiles n.tokenUUID stored))
        else
          (some ⟨some (TokenObject.created label), TokenObject.created label, n.opened⟩,
            Function.update d n.tokenUUID (some (.holds (TokenObject.created label))))

/-- `createToken` with the constructor of `DBToken`. -/
def DBToken.createToken (n : NewToken) (label : ByteString) (d : Directories) :
    Option (File TokenObject) × Directories :=
  if !n.baseDir then (none, d)
  else if !n.mkdir || (d n.tokenUUID).isSome then (none, d)
  else
    let d := Function.update d n.tokenUUID (some .empty)
    if !n.refresh then (none, d)
    else
      -- a database without its tables or without the row shows no token
      let file := Function.update d n.tokenUUID (some .unreadable)
      match n.object with
      | .refused => (none, rmdir n.tokenUUID d)
      | .torn => (none, rmdir n.tokenUUID file)
      | .done =>
        if !n.attributes then (none, rmdir n.tokenUUID (removeFiles n.tokenUUID file))
        else
          let d := Function.update d n.tokenUUID (some (.holds (TokenObject.created label)))
          if !n.opened then (none, rmdir n.tokenUUID d)
          else (some (settled (TokenObject.created label)), d)

def createTokenObject : Backend → NewToken → ByteString → Directories →
    Option (File TokenObject) × Directories
  | .file => OSToken.createToken
  | .database => DBToken.createToken

/-! ### The object store -/

/-- The directories, and the tokens of this process: a token is its place in `allTokens`, which
has the directories of all that were ever listed. -/
structure ObjectStore where
  directories : Directories
  tokens : List ℕ
  allTokens : List ℕ
  listed : ∀ token ∈ tokens, token < allTokens.length

namespace ObjectStore

/-- The tokens that the constructor finds, in whatever process it runs. -/
def found (s : ObjectStore) (name : ℕ) : Option TokenObject :=
  match s.directories name with
  | some (.holds object) => some object
  | _ => none

def tokenPath (token : ℕ) (s : ObjectStore) : ℕ := s.allTokens.getD token 0

/-- The lists with a new token at their end. -/
def push (name : ℕ) (d : Directories) (s : ObjectStore) : ObjectStore where
  directories := d
  tokens := s.tokens ++ [s.allTokens.length]
  allTokens := s.allTokens ++ [name]
  listed token h := by
    rw [List.length_append, List.length_singleton]
    rcases List.mem_append.1 h with h | h
    · exact Nat.lt_succ_of_lt (s.listed token h)
    · rw [List.mem_singleton.1 h]
      exact Nat.lt_succ_self _

def newToken (b : Backend) (n : NewToken) (label : ByteString) (s : ObjectStore) :
    Option (ℕ × File TokenObject) × ObjectStore :=
  match createTokenObject b n label s.directories with
  | (none, d) => (none, { s with directories := d })
  | (some object, d) => (some (s.allTokens.length, object), s.push n.tokenUUID d)

def destroyToken (token : ℕ) (s : ObjectStore) : ObjectStore :=
  if token ∈ s.tokens then
    { s with
      directories := Function.update s.directories (s.tokenPath token) none
      tokens := s.tokens.erase token
      listed := fun t h => s.listed t (List.mem_of_mem_erase h) }
  else s

/-- What the operations of a token leave in its directory. -/
def stored (token : ℕ) (object : File TokenObject) (s : ObjectStore) : ObjectStore :=
  let content : Directory :=
    match object.disk with
    | some a => .holds a
    | none => .unreadable
  { s with directories := Function.update s.directories (s.tokenPath token) (some content) }

end ObjectStore

open ObjectStore

/-! ### The slot and the calls -/

/-- What is left of `createToken` and of `initTokenExtended` once there are blobs: a token whose
PINs are not stored is destroyed, one whose parameters are not stored is kept. -/
def install (b : Backend) (n : NewToken) (label : ByteString) (pins : Prog Bool)
    (parameters : Prog (CK_RV × Option SecureDataManager)) (s : ObjectStore) :
    CK_RV × Option Token × ObjectStore :=
  match newToken b n label s with
  | (none, s) => (CKR_DEVICE_ERROR, none, s)
  | (some (token, object), s) =>
    let (ok, object) := pins.run object
    let s := s.stored token object
    if !ok then (CKR_DEVICE_ERROR, none, destroyToken token s)
    else
      let ((rv, sdm), object) := parameters.run object
      (rv, some ⟨object, sdm⟩, s.stored token object)

variable (P : Primitives)

def createNew (b : Backend) (n : NewToken) (e : FormatEnv) (newPolicy : PinPolicy)
    (soPIN label : ByteString) (s : ObjectStore) : CK_RV × Option Token × ObjectStore :=
  let (ok, gen) := SecureDataManager.setSOPIN P e.pbe e.draws soPIN (blank e.draws)
  if !ok then (CKR_GENERAL_ERROR, none, s)
  else install b n label (TokenObject.setSOPIN e.soBlob e.soFlags gen.soEncryptedKey)
    (storePolicy e newPolicy soPIN none) s

def initNew (b : Backend) (n : NewToken) (e : FormatEnv) (c : CK_RUTOKEN_INIT_PARAM.Checked)
    (s : ObjectStore) : CK_RV × Option Token × ObjectStore :=
  match freshKey P e c.newSOPIN c.newUserPIN with
  | none => (CKR_GENERAL_ERROR, none, s)
  | some gen => install b n c.label (storePINs e gen) (storeParameters e c none) s

/-- What the two calls look at before they come to the slot, and the text of
`SOFTHSM2_INIT_PIN_POLICY`. -/
structure Process where
  isInitialised : Bool
  fakeRutokenECP : Bool
  haveSession : Bool
  requested : Option ByteString

/-- A call on a slot without token; a label is the 32 bytes behind its pointer. -/
inductive Call
  | C_InitToken (pPin pLabel : Option ByteString)
  | C_EX_InitToken (pPin : Option ByteString) (ulPinLen : ℕ)
      (pInitInfo : Option CK_RUTOKEN_INIT_PARAM)

def createToken (b : Backend) (n : NewToken) (e : FormatEnv) (requested : Option ByteString)
    (soPIN : ByteString) (label : Option ByteString) (s : ObjectStore) :
    CK_RV × Option Token × ObjectStore :=
  match newPolicy requested with
  | none => (CKR_ARGUMENTS_BAD, none, s)
  | some policy =>
    if soPIN.length < policy.minSOLength.toNat || soPIN.length > policy.maxLength.toNat then
      (CKR_PIN_LEN_RANGE, none, s)
    else
      match label with
      | none => (CKR_ARGUMENTS_BAD, none, s)
      | some label => createNew P b n e policy soPIN label s

def C_InitToken (b : Backend) (n : NewToken) (e : FormatEnv) (p : Process)
    (pPin pLabel : Option ByteString) (s : ObjectStore) : CK_RV × Option Token × ObjectStore :=
  if !p.isInitialised then (CKR_CRYPTOKI_NOT_INITIALIZED, none, s)
  else if p.haveSession then (CKR_SESSION_EXISTS, none, s)
  else
    match pPin with
    | none => (CKR_ARGUMENTS_BAD, none, s)
    | some soPIN => createToken P b n e p.requested soPIN pLabel s

def C_EX_InitToken (b : Backend) (n : NewToken) (e : FormatEnv) (p : Process)
    (pPin : Option ByteString) (ulPinLen : ℕ) (pInitInfo : Option CK_RUTOKEN_INIT_PARAM)
    (s : ObjectStore) : CK_RV × Option Token × ObjectStore :=
  if !p.isInitialised then (CKR_CRYPTOKI_NOT_INITIALIZED, none, s)
  else if !p.fakeRutokenECP then (CKR_FUNCTION_NOT_SUPPORTED, none, s)
  else if p.haveSession then (CKR_SESSION_EXISTS, none, s)
  else
    match pInitInfo.bind (·.check) with
    | none => (CKR_ARGUMENTS_BAD, none, s)
    | some c =>
      if pPin.isNone && ulPinLen != 0 then (CKR_ARGUMENTS_BAD, none, s)
      else initNew P b n e c s

def exec (b : Backend) (n : NewToken) (e : FormatEnv) (p : Process) (s : ObjectStore) :
    Call → CK_RV × Option Token × ObjectStore
  | .C_InitToken pPin pLabel => C_InitToken P b n e p pPin pLabel s
  | .C_EX_InitToken pPin ulPinLen pInitInfo => C_EX_InitToken P b n e p pPin ulPinLen pInitInfo s

/-! ### What a creation is to leave -/

/-- **Nothing half-made**: the slot is empty, the lists are the old ones, a process that starts
finds the tokens it would have found, and a name that was free is free. -/
structure Undone (s : ObjectStore) (r : CK_RV × Option Token × ObjectStore) : Prop where
  slot : r.2.1 = none
  tokens : r.2.2.tokens = s.tokens
  found : r.2.2.found = s.found
  free : ∀ name, s.directories name = none → r.2.2.directories name = none

/-- The manager that the constructor of `Token` makes over a token object. -/
def manager (r : Draws) (a : TokenObject) : SecureDataManager :=
  create r (readBlobs.eval a).1.1 (readBlobs.eval a).1.2

/-- Both logins, in a process that has just started and that nothing disturbs. -/
def AcceptsSO (a : TokenObject) (pin : ByteString) : Prop :=
  ∀ r r', ((Token.loginSO P r' .done pin (manager r a)).run (settled a)).1.1 = CKR_OK

def AcceptsUser (a : TokenObject) (pin : ByteString) : Prop :=
  ∀ r r', ((Token.loginUser P r' .done pin (manager r a)).run (settled a)).1.1 = CKR_OK

/-- The PINs of a call for the new token. -/
def Call.soPIN : Call → Option ByteString
  | .C_InitToken pPin _ => pPin
  | .C_EX_InitToken _ _ pInitInfo => pInitInfo.bind (·.newAdminPin)

def Call.userPIN : Call → Option ByteString
  | .C_InitToken _ _ => none
  | .C_EX_InitToken _ _ pInitInfo => pInitInfo.bind (·.newUserPin)

/-- A process that starts finds one more token, with the PINs and with a policy. -/
structure Added (soPIN userPIN : Option ByteString) (s s' : ObjectStore) (name : ℕ)
    (object : TokenObject) : Prop where
  new : s.found name = none
  found : s'.found = Function.update s.found name (some object)
  so : ∀ pin, soPIN = some pin → AcceptsSO P object pin
  user : ∀ pin, userPIN = some pin → AcceptsUser P object pin
  policy : (policyOf object).isSome = true

/-- What a creation is to leave, by its answer. -/
def Whole (soPIN userPIN : Option ByteString) (s : ObjectStore)
    (r : CK_RV × Option Token × ObjectStore) : Prop :=
  (r.1 ≠ CKR_OK → Undone s r) ∧
    (r.1 = CKR_OK → ∃ name object, Added P soPIN userPIN s r.2.2 name object)

/-! ### The making of a token object -/

/-- The token object is not made, and the directory stays: it was not listed again, its first
file is there, or a whole database was not looked at. -/
def NewToken.Spoiled (b : Backend) (n : NewToken) (d : Directories) : Prop :=
  n.baseDir = true ∧ n.mkdir = true ∧ d n.tokenUUID = none ∧
    (n.refresh = false ∨ n.object = .torn ∨
      n.object = .done ∧ n.attributes = true ∧ b = .database ∧ n.opened = false)

/-- Every step is done. -/
structure NewToken.Complete (n : NewToken) (d : Directories) : Prop where
  baseDir : n.baseDir = true
  mkdir : n.mkdir = true
  free : d n.tokenUUID = none
  refresh : n.refresh = true
  object : n.object = .done
  attributes : n.attributes = true
  opened : n.opened = true

section steps

variable {b : Backend} {n : NewToken} {label : ByteString} {d : Directories}

lemma rmdir_empty {name : ℕ} (h : d name = none) :
    rmdir name (Function.update d name (some .empty)) = d := by
  unfold rmdir
  rw [Function.update_self]
  dsimp only
  rw [Function.update_idem, ← h, Function.update_eq_self]

lemma rmdir_removeFiles {name : ℕ} (h : d name = none) (x : Option Directory) :
    rmdir name (removeFiles name (Function.update d name x)) = d := by
  rw [removeFiles, Function.update_idem, rmdir_empty h]

/-- A directory with files in it stays. -/
lemma rmdir_update {name : ℕ} {x : Directory} (h : x ≠ .empty) :
    rmdir name (Function.update d name (some x)) = Function.update d name (some x) := by
  unfold rmdir
  rw [Function.update_self]
  cases x with
  | empty => exact absurd rfl h
  | unreadable => rfl
  | holds object => rfl

/-- **The making of a token object**: it leaves its directory without a token, it leaves
everything as it was, or there is the new object, which may yet be unreadable to its token. -/
lemma createTokenObject_cases (b : Backend) (n : NewToken) (label : ByteString)
    (d : Directories) :
    (n.Spoiled b d ∧ ∃ d', createTokenObject b n label d = (none, d') ∧ d' n.tokenUUID ≠ none) ∨
    ¬ n.Spoiled b d ∧ ¬ n.Complete d ∧ createTokenObject b n label d = (none, d) ∨
    ¬ n.Spoiled b d ∧ (n.Complete d ↔ n.opened = true) ∧ d n.tokenUUID = none ∧
      createTokenObject b n label d =
        (some ⟨some (TokenObject.created label), TokenObject.created label, n.opened⟩,
          Function.update d n.tokenUUID (some (.holds (TokenObject.created label)))) := by
  rcases hbase : n.baseDir with _ | _
  · refine .inr (.inl ⟨fun h => ?_, fun h => ?_, ?_⟩)
    · exact Bool.false_ne_true (hbase.symm.trans h.1)
    · exact Bool.false_ne_true (hbase.symm.trans h.baseDir)
    · cases b <;> simp [createTokenObject, OSToken.createToken, DBToken.createToken, hbase]
  by_cases hdir : n.mkdir = true ∧ d n.tokenUUID = none
  swap
  · refine .inr (.inl ⟨fun h => hdir ⟨h.2.1, h.2.2.1⟩, fun h => hdir ⟨h.mkdir, h.free⟩, ?_⟩)
    have hstop : (!n.mkdir || (d n.tokenUUID).isSome) = true := by
      rw [Bool.or_eq_true, Bool.not_eq_true', Option.isSome_iff_ne_none]
      by_contra hn
      rw [not_or, Bool.not_eq_false, not_not] at hn
      exact hdir hn
    cases b <;> simp [createTokenObject, OSToken.createToken, DBToken.createToken, hbase, hstop]
  obtain ⟨hmkdir, hfree⟩ := hdir
  have hgo : (!n.mkdir || (d n.tokenUUID).isSome) = false := by simp [hmkdir, hfree]
  rcases hrefresh : n.refresh with _ | _
  · refine .inl ⟨⟨hbase, hmkdir, hfree, .inl hrefresh⟩, Function.update d n.tokenUUID (some .empty),
      ?_, by simp⟩
    cases b <;> simp [createTokenObject, OSToken.createToken, DBToken.createToken, hbase, hgo,
      hrefresh]
  have hspoiled : n.Spoiled b d ↔ n.object = .torn ∨
      n.object = .done ∧ n.attributes = true ∧ b = .database ∧ n.opened = false := by
    simp [NewToken.Spoiled, hbase, hmkdir, hfree, hrefresh]
  rcases hobject : n.object with _ | _ | _
  case refused =>
    refine .inr (.inl ⟨?_, fun h => ?_, ?_⟩)
    · simp [hspoiled, hobject]
    · exact Write.noConfusion (hobject.symm.trans h.object)
    · cases b <;> simp [createTokenObject, OSToken.createToken, DBToken.createToken, hbase, hgo,
        hrefresh, hobject, rmdir_empty hfree]
  case torn =>
    refine .inl ⟨hspoiled.2 (.inl hobject), ?_⟩
    cases b with
    | file =>
      refine ⟨Function.update d n.tokenUUID (some (.holds {})), ?_, by simp⟩
      simp [createTokenObject, OSToken.createToken, hbase, hgo, hrefresh, hobject, rmdir_update]
    | database =>
      refine ⟨Function.update d n.tokenUUID (some .unreadable), ?_, by simp⟩
      simp [createTokenObject, DBToken.createToken, hbase, hgo, hrefresh, hobject, rmdir_update]
  case done =>
    rcases hattr : n.attributes with _ | _
    · refine .inr (.inl ⟨?_, fun h => ?_, ?_⟩)
      · simp [hspoiled, hobject, hattr]
      · exact Bool.false_ne_true (hattr.symm.trans h.attributes)
      · cases b <;> simp [createTokenObject, OSToken.createToken, DBToken.createToken, hbase, hgo,
          hrefresh, hobject, hattr, rmdir_removeFiles hfree]
    have hcomplete : n.Complete d ↔ n.opened = true :=
      ⟨fun h => h.opened, fun h => ⟨hbase, hmkdir, hfree, hrefresh, hobject, hattr, h⟩⟩
    cases b with
    | file =>
      refine .inr (.inr ⟨?_, hcomplete, hfree, ?_⟩)
      · simp [hspoiled, hobject]
      · simp [createTokenObject, OSToken.createToken, hbase, hgo, hrefresh, hobject, hattr]
    | database =>
      rcases hopened : n.opened with _ | _
      · -- the database is complete, and nobody takes it away
        refine .inl ⟨hspoiled.2 (.inr ⟨hobject, hattr, rfl, hopened⟩),
          Function.update d n.tokenUUID (some (.holds (TokenObject.created label))), ?_, by simp⟩
        simp [createTokenObject, DBToken.createToken, hbase, hgo, hrefresh, hobject, hattr,
          hopened, rmdir_update]
      · refine .inr (.inr ⟨?_, by rw [hcomplete, hopened], hfree, ?_⟩)
        · simp [hspoiled, hobject, hopened]
        · simp [createTokenObject, DBToken.createToken, hbase, hgo, hrefresh, hobject, hattr,
            hopened, settled]

end steps

/-! ### The object store -/

section store

variable {s : ObjectStore} {name : ℕ} {d : Directories} {o : File TokenObject}

@[simp] lemma tokenPath_push : (s.push name d).tokenPath s.allTokens.length = name := by
  simp [tokenPath, push]

@[simp] lemma tokenPath_stored (t u : ℕ) : (s.stored t o).tokenPath u = s.tokenPath u := rfl

/-- What is stored for a new token, when the old directories have none of its name. -/
lemma directories_stored_push (x : Option Directory) :
    ((s.push name (Function.update s.directories name x)).stored s.allTokens.length o).directories =
      Function.update s.directories name
        (some (match o.disk with | some a => .holds a | none => .unreadable)) := by
  change Function.update (Function.update s.directories name x)
    ((s.push name _).tokenPath s.allTokens.length) _ = _
  rw [tokenPath_push, Function.update_idem]

/-- A new token that is destroyed leaves the lists and the directories as they were. -/
lemma undone_destroyToken (hfree : s.directories name = none) (x : Option Directory) (rv : CK_RV) :
    Undone s (rv, none, destroyToken s.allTokens.length
      ((s.push name (Function.update s.directories name x)).stored s.allTokens.length o)) := by
  have hmem : s.allTokens.length ∈
      ((s.push name (Function.update s.directories name x)).stored s.allTokens.length o).tokens :=
    List.mem_append_right _ (List.mem_singleton_self _)
  have hnew : s.allTokens.length ∉ s.tokens := fun h => Nat.lt_irrefl _ (s.listed _ h)
  have htokens : (s.tokens ++ [s.allTokens.length]).erase s.allTokens.length = s.tokens := by
    rw [List.erase_append_right _ hnew, List.erase_cons_head, List.append_nil]
  have hdirectories : (destroyToken s.allTokens.length ((s.push name
      (Function.update s.directories name x)).stored s.allTokens.length o)).directories =
      s.directories := by
    unfold destroyToken
    rw [if_pos hmem]
    dsimp only
    rw [tokenPath_stored, tokenPath_push, directories_stored_push, Function.update_idem, ← hfree,
      Function.update_eq_self]
  refine ⟨rfl, ?_, ?_, fun name' h => ?_⟩
  · unfold destroyToken
    rw [if_pos hmem]
    exact htokens
  · funext name'
    unfold found
    rw [hdirectories]
  · rw [hdirectories]
    exact h

lemma undone_same (s : ObjectStore) (rv : CK_RV) : Undone s (rv, none, s) :=
  ⟨rfl, rfl, rfl, fun _ h => h⟩

end store

/-! ### The two functions of the slot -/

section install

variable {b : Backend} {n : NewToken} {label : ByteString} {pins : Prog Bool}
  {parameters : Prog (CK_RV × Option SecureDataManager)} {s : ObjectStore}

/-- The new token object, as the PINs leave it. -/
def withPins (label : ByteString) (pins : Prog Bool) : File TokenObject :=
  (pins.run (settled (TokenObject.created label))).2

/-- **The three ends of a creation**: spoiled in the making of the object, undone, or come to
the parameters with a token that has its PINs. -/
lemma install_cases (b : Backend) (n : NewToken) (label : ByteString)
    (hinvalid : ∀ a, (pins.run ⟨some a, a, false⟩).1 = false)
    (parameters : Prog (CK_RV × Option SecureDataManager)) (s : ObjectStore) :
    let r := install b n label pins parameters s
    let ok := (pins.run (settled (TokenObject.created label))).1
    n.Spoiled b s.directories ∧ r.1 ≠ CKR_OK ∧ ¬ Undone s r ∨
    ¬ n.Spoiled b s.directories ∧ ¬ (n.Complete s.directories ∧ ok = true) ∧ r.1 ≠ CKR_OK ∧
      Undone s r ∨
    ¬ n.Spoiled b s.directories ∧ n.Complete s.directories ∧ ok = true ∧
      r.1 = (parameters.run (withPins label pins)).1.1 ∧ r.2.1.isSome = true ∧
      r.2.2.directories = Function.update s.directories n.tokenUUID
        (some (match (parameters.run (withPins label pins)).2.disk with
          | some a => .holds a
          | none => .unreadable)) := by
  intro r ok
  obtain ⟨hs, d', hd, hne⟩ | ⟨hs, hc, hd⟩ | ⟨hs, hc, hfree, hd⟩ :=
    createTokenObject_cases b n label s.directories
  · have hr : r = (CKR_DEVICE_ERROR, none, { s with directories := d' }) := by
      simp only [r, install, newToken, hd]
    refine .inl ⟨hs, ?_, fun hu => hne ?_⟩
    · rw [hr]
      exact CK_RV.noConfusion
    · have hfree := hu.free n.tokenUUID hs.2.2.1
      rw [hr] at hfree
      exact hfree
  · have hr : r = (CKR_DEVICE_ERROR, none, s) := by simp only [r, install, newToken, hd]
    rw [hr]
    exact .inr (.inl ⟨hs, fun h => hc h.1, CK_RV.noConfusion, undone_same s _⟩)
  · rcases hopened : n.opened with _ | _
    · rw [hopened] at hd
      have hr : r = (CKR_DEVICE_ERROR, none, destroyToken s.allTokens.length ((s.push n.tokenUUID
          (Function.update s.directories n.tokenUUID (some (.holds (TokenObject.created label))))).stored
          s.allTokens.length (pins.run ⟨some (TokenObject.created label), TokenObject.created label,
            false⟩).2)) := by
        simp only [r, install, newToken, hd, hinvalid, Bool.not_false, if_true]
      rw [hr]
      refine .inr (.inl ⟨hs, fun h => ?_, CK_RV.noConfusion, undone_destroyToken hfree _ _⟩)
      exact Bool.false_ne_true (hopened.symm.trans h.1.opened)
    · rw [hopened] at hd
      rcases hok : ok with _ | _
      · have hr : r = (CKR_DEVICE_ERROR, none, destroyToken s.allTokens.length ((s.push n.tokenUUID
            (Function.update s.directories n.tokenUUID
              (some (.holds (TokenObject.created label))))).stored
            s.allTokens.length (withPins label pins))) := by
          have hfalse : (pins.run (settled (TokenObject.created label))).1 = false := hok
          simp only [settled] at hfalse
          simp only [r, install, newToken, hd, hfalse, Bool.not_false, if_true]
          rfl
        rw [hr]
        exact .inr (.inl ⟨hs, fun h => Bool.false_ne_true h.2, CK_RV.noConfusion,
          undone_destroyToken hfree _ _⟩)
      · have htrue : (pins.run (settled (TokenObject.created label))).1 = true := hok
        simp only [settled] at htrue
        refine .inr (.inr ⟨hs, hc.2 hopened, rfl, ?_⟩)
        simp only [r, install, newToken, hd, htrue, Bool.not_true, Bool.false_eq_true, if_false]
        refine ⟨rfl, rfl, ?_⟩
        change Function.update ((s.push n.tokenUUID _).stored s.allTokens.length _).directories
          (((s.push n.tokenUUID _).stored s.allTokens.length _).tokenPath s.allTokens.length) _ = _
        rw [tokenPath_stored, tokenPath_push, directories_stored_push, Function.update_idem]
        rfl

/-- The tokens that are found when a directory has a new object in it. -/
lemma found_update {s s' : ObjectStore} {name : ℕ} {a : TokenObject}
    (h : s'.directories = Function.update s.directories name (some (.holds a))) :
    s'.found = Function.update s.found name (some a) := by
  funext name'
  unfold found
  rw [h]
  rcases eq_or_ne name' name with rfl | hne
  · rw [Function.update_self, Function.update_self]
  · rw [Function.update_of_ne hne, Function.update_of_ne hne]

/-- **A creation is whole iff** its object is not spoiled, and a token that has its PINs gets
its parameters too; what the parameters leave when all is done is given. -/
lemma whole_install {P : Primitives} {soPIN userPIN : Option ByteString}
    (hinvalid : ∀ a, (pins.run ⟨some a, a, false⟩).1 = false) {a : TokenObject} {stored : Prop}
    (hstored : (pins.run (settled (TokenObject.created label))).1 = true →
      (stored → ∃ sdm, parameters.run (withPins label pins) = ((CKR_OK, sdm), settled a)) ∧
      (¬ stored → (parameters.run (withPins label pins)).1.1 ≠ CKR_OK))
    (hpins : (pins.run (settled (TokenObject.created label))).1 = true → stored →
      (∀ pin, soPIN = some pin → AcceptsSO P a pin) ∧
      (∀ pin, userPIN = some pin → AcceptsUser P a pin) ∧ (policyOf a).isSome = true) :
    Whole P soPIN userPIN s (install b n label pins parameters s) ↔
      ¬ n.Spoiled b s.directories ∧ (n.Complete s.directories →
        (pins.run (settled (TokenObject.created label))).1 = true → stored) := by
  obtain ⟨hs, hrv, hu⟩ | ⟨hs, hc, hrv, hu⟩ | ⟨hs, hc, hok, hrv, hslot, hd⟩ :=
    install_cases b n label hinvalid parameters s
  · exact iff_of_false (fun h => hu (h.1 hrv)) fun h => h.1 hs
  · refine iff_of_true ⟨fun _ => hu, fun h => absurd h hrv⟩ ⟨hs, fun h h' => ?_⟩
    exact absurd ⟨h, h'⟩ hc
  obtain ⟨hdone, hfailed⟩ := hstored hok
  by_cases h : stored
  · obtain ⟨sdm, hrun⟩ := hdone h
    obtain ⟨hso, huser, hpolicy⟩ := hpins hok h
    rw [hrun] at hrv hd
    refine iff_of_true ⟨fun hn => absurd hrv hn, fun _ => ⟨n.tokenUUID, a, ?_⟩⟩ ⟨hs, fun _ _ => h⟩
    refine ⟨?_, found_update hd, hso, huser, hpolicy⟩
    unfold found
    rw [hc.free]
  · refine iff_of_false (fun hw => ?_) fun hw => h (hw.2 hc hok)
    have hnone := (hw.1 (hrv ▸ hfailed h)).slot
    rw [hnone] at hslot
    exact Bool.false_ne_true hslot

end install

end SoftHSM.Creation

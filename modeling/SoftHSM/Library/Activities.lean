import SoftHSM.Lib.Transition
import SoftHSM.Library.OperationCalls

/-!
What a session can be at: one thing at a time, with just the objects that it needs. The states of a
session that calls lead to are those of an activity, so the objects that a session keeps always fit
each other.
-/

namespace SoftHSM.Operation

open CK_RV Create Transition

variable {B : Backend}

/-- The object, key and mechanism of an asymmetric operation. -/
structure AsymWork (B : Backend) (Key : Type) where
  algorithm : B.Asym
  key : Key
  mechanism : AsymMech
  param : Option B.MechanismParam

/-- One that takes its text in parts has no raw mechanism. -/
structure SignWork (B : Backend) (Key : Type) extends AsymWork B Key where
  multiPart : Bool
  singlePart : Bool
  parts_ne : multiPart = true → mechanism ∉ [.RSA, .GOST, .GOST_512]

/-- A search that has failed is still on. -/
inductive Activity (B : Backend)
  | idle
  | finding (found : Option (List ℕ))
  | digesting (hash : B.Hash) (algo : HashAlgo)
  | macSigning (mac : B.Mac) (key : ByteString) (singlePart : Bool)
  | macVerifying (mac : B.Mac) (key : ByteString) (singlePart : Bool)
  | signing (work : SignWork B B.PrivateKey)
  | verifying (work : SignWork B B.PublicKey)
  | encrypting (cipher : B.Cipher) (key : ByteString)
  | decrypting (cipher : B.Cipher) (key : ByteString)
  | asymEncrypting (work : AsymWork B B.PublicKey)
  | asymDecrypting (work : AsymWork B B.PrivateKey)

/-- What an operation that has ended leaves behind. -/
structure Traces where
  hashAlgo : HashAlgo
  mechanism : AsymMech
  allowMultiPartOp : Bool
  allowSinglePartOp : Bool

/-- A session at nothing. -/
def Traces.session (t : Traces) (locked : Bool) : Session B :=
  { Session.create with
    hashAlgo := t.hashAlgo
    mechanism := t.mechanism
    allowMultiPartOp := t.allowMultiPartOp
    allowSinglePartOp := t.allowSinglePartOp
    reAuthentication := locked }

/-- A session at an activity, which waits for the PIN or does not. -/
def Activity.session (t : Traces) (locked : Bool) : Activity B → Session B
  | idle => t.session locked
  | finding found => { t.session locked with operation := .FIND, findOp := found }
  | digesting hash algo =>
    { t.session locked with operation := .DIGEST, digestOp := some hash, hashAlgo := algo }
  | macSigning mac key singlePart =>
    { t.session locked with
      operation := .SIGN, macOp := some mac, symmetricKey := some key
      allowMultiPartOp := true, allowSinglePartOp := singlePart }
  | macVerifying mac key singlePart =>
    { t.session locked with
      operation := .VERIFY, macOp := some mac, symmetricKey := some key
      allowMultiPartOp := true, allowSinglePartOp := singlePart }
  | signing work =>
    { t.session locked with
      operation := .SIGN, asymmetricCryptoOp := some work.algorithm
      privateKey := some work.key, mechanism := work.mechanism, mechanismParam := work.param
      allowMultiPartOp := work.multiPart, allowSinglePartOp := work.singlePart }
  | verifying work =>
    { t.session locked with
      operation := .VERIFY, asymmetricCryptoOp := some work.algorithm
      publicKey := some work.key, mechanism := work.mechanism, mechanismParam := work.param
      allowMultiPartOp := work.multiPart, allowSinglePartOp := work.singlePart }
  | encrypting cipher key =>
    { t.session locked with
      operation := .ENCRYPT, symmetricCryptoOp := some cipher, symmetricKey := some key
      allowMultiPartOp := true, allowSinglePartOp := true }
  | decrypting cipher key =>
    { t.session locked with
      operation := .DECRYPT, symmetricCryptoOp := some cipher, symmetricKey := some key
      allowMultiPartOp := true, allowSinglePartOp := true }
  | asymEncrypting work =>
    { t.session locked with
      operation := .ENCRYPT, asymmetricCryptoOp := some work.algorithm
      publicKey := some work.key, mechanism := work.mechanism, mechanismParam := work.param
      allowMultiPartOp := false, allowSinglePartOp := true }
  | asymDecrypting work =>
    { t.session locked with
      operation := .DECRYPT, asymmetricCryptoOp := some work.algorithm
      privateKey := some work.key, mechanism := work.mechanism, mechanismParam := work.param
      allowMultiPartOp := false, allowSinglePartOp := true }

/-- A session is at an activity. -/
def At (s : Session B) (a : Activity B) (locked : Bool) : Prop := ∃ t, s = a.session t locked

namespace Activity

def operation : Activity B → SESSION_OP
  | idle => .NONE
  | finding _ => .FIND
  | digesting _ _ => .DIGEST
  | macSigning _ _ _ => .SIGN
  | macVerifying _ _ _ => .VERIFY
  | signing _ => .SIGN
  | verifying _ => .VERIFY
  | encrypting _ _ => .ENCRYPT
  | decrypting _ _ => .DECRYPT
  | asymEncrypting _ => .ENCRYPT
  | asymDecrypting _ => .DECRYPT

variable {a : Activity B} {t : Traces} {locked : Bool}

@[simp] lemma session_operation : (a.session t locked).operation = a.operation := by
  cases a <;> rfl

@[simp] lemma session_reAuthentication : (a.session t locked).reAuthentication = locked := by
  cases a <;> rfl

lemma of_none (h : a.operation = .NONE) : a = .idle := by
  cases a <;> first | rfl | cases h

lemma of_find (h : a.operation = .FIND) : ∃ found, a = .finding found := by
  cases a <;> first | exact ⟨_, rfl⟩ | cases h

lemma of_digest (h : a.operation = .DIGEST) : ∃ hash algo, a = .digesting hash algo := by
  cases a <;> first | exact ⟨_, _, rfl⟩ | cases h

lemma of_sign (h : a.operation = .SIGN) :
    (∃ mac key singlePart, a = .macSigning mac key singlePart) ∨ ∃ work, a = .signing work := by
  cases a <;> first | exact .inl ⟨_, _, _, rfl⟩ | exact .inr ⟨_, rfl⟩ | cases h

lemma of_verify (h : a.operation = .VERIFY) :
    (∃ mac key singlePart, a = .macVerifying mac key singlePart) ∨ ∃ work, a = .verifying work := by
  cases a <;> first | exact .inl ⟨_, _, _, rfl⟩ | exact .inr ⟨_, rfl⟩ | cases h

lemma of_encrypt (h : a.operation = .ENCRYPT) :
    (∃ cipher key, a = .encrypting cipher key) ∨ ∃ work, a = .asymEncrypting work := by
  cases a <;> first | exact .inl ⟨_, _, rfl⟩ | exact .inr ⟨_, rfl⟩ | cases h

lemma of_decrypt (h : a.operation = .DECRYPT) :
    (∃ cipher key, a = .decrypting cipher key) ∨ ∃ work, a = .asymDecrypting work := by
  cases a <;> first | exact .inl ⟨_, _, rfl⟩ | exact .inr ⟨_, rfl⟩ | cases h

/-- **The reset** lets go of everything that the activity has, though it stops at the first object. -/
lemma at_resetOp : At (a.session t locked).resetOp .idle false := by
  cases a with
  | finding found => cases found <;> exact ⟨⟨_, _, _, _⟩, rfl⟩
  | _ => exact ⟨⟨_, _, _, _⟩, rfl⟩

end Activity

/-! ### The objects of the back end -/

/-- An object of the back end that takes a text in parts. -/
inductive Worker (B : Backend)
  | hash (hash : B.Hash)
  | macSign (mac : B.Mac)
  | macVerify (mac : B.Mac)
  | sign (algorithm : B.Asym)
  | verify (algorithm : B.Asym)
  | encrypt (cipher : B.Cipher)
  | decrypt (cipher : B.Cipher)

/-- A part is taken. Only ciphers give something before the end. -/
def takePart : Worker B → ByteString → Option (ByteString × Worker B)
  | .hash hash, part => (B.hash.hashUpdate hash part).map fun hash => ([], .hash hash)
  | .macSign mac, part => (B.mac.signUpdate mac part).map fun mac => ([], .macSign mac)
  | .macVerify mac, part => (B.mac.verifyUpdate mac part).map fun mac => ([], .macVerify mac)
  | .sign a, part => (B.asym.signUpdate a part).map fun a => ([], .sign a)
  | .verify a, part => (B.asym.verifyUpdate a part).map fun a => ([], .verify a)
  | .encrypt cipher, part =>
    (B.cipher.encryptUpdate cipher part).map fun (given, cipher) => (given, .encrypt cipher)
  | .decrypt cipher, part =>
    (B.cipher.decryptUpdate cipher part).map fun (given, cipher) => (given, .decrypt cipher)

namespace Activity

/-- The object that takes the text, where the text may come in parts. -/
def worker : Activity B → Option (Worker B)
  | digesting hash _ => some (.hash hash)
  | macSigning mac _ _ => some (.macSign mac)
  | macVerifying mac _ _ => some (.macVerify mac)
  | signing work => if work.multiPart then some (.sign work.algorithm) else none
  | verifying work => if work.multiPart then some (.verify work.algorithm) else none
  | encrypting cipher _ => some (.encrypt cipher)
  | decrypting cipher _ => some (.decrypt cipher)
  | _ => none

/-- The activity after a part, with the object after it: from now on a code or a signature comes of
parts only. -/
def carryOn : Activity B → Worker B → Activity B
  | digesting _ algo, .hash hash => .digesting hash algo
  | macSigning _ key _, .macSign mac => .macSigning mac key false
  | macVerifying _ key _, .macVerify mac => .macVerifying mac key false
  | signing work, .sign algorithm =>
    .signing { work with algorithm := algorithm, singlePart := false }
  | verifying work, .verify algorithm =>
    .verifying { work with algorithm := algorithm, singlePart := false }
  | encrypting _ key, .encrypt cipher => .encrypting cipher key
  | decrypting _ key, .decrypt cipher => .decrypting cipher key
  | a, _ => a

end Activity

/-! ### What calls do -/

/-- No mechanism that takes a text in parts is a raw one. -/
lemma parts_ne_of_look {b : Build} {verifying : Bool} {m : CK_MECHANISM_TYPE}
    {v : AsymMech × Bool} (h : look (signMechanisms b verifying) m = some v) :
    v.2 = true → v.1 ∉ [.RSA, .GOST, .GOST_512] := by
  obtain ⟨row, hrow, rfl⟩ := Option.map_eq_some_iff.1 h
  have hall : ∀ row ∈ signMechanisms b verifying,
      row.value.2 = true → row.value.1 ∉ [.RSA, .GOST, .GOST_512] := by
    simp [signMechanisms]
  exact hall row (List.mem_of_find?_eq_some hrow)

/-- The work of a signature that begins with a mechanism. -/
def signWork (b : Build) (verifying : Bool) {Key : Type} (begun : AsymBegin B Key) :
    Option (SignWork B Key) :=
  match h : look (signMechanisms b verifying) begun.mechanism with
  | none => none
  | some v =>
    some ⟨⟨begun.algorithm, begun.key, v.1, begun.param⟩, v.2, true, parts_ne_of_look h⟩

/-- The work of an encryption. -/
def asymWork {Key : Type} (begun : AsymBegin B Key) : Option (AsymWork B Key) :=
  (look encryptMechanisms begun.mechanism).map fun mechanism =>
    ⟨begun.algorithm, begun.key, mechanism, begun.param⟩

/-- The activity that a call begins where it succeeds, and whether it waits for the PIN then. -/
def Call.begins (b : Build) : Call B → Option (Activity B × Bool)
  | .findObjectsInit (.ok found) => some (.finding (some found), false)
  | .symEncryptInit (.ok (cipher, key)) => some (.encrypting cipher key, false)
  | .asymEncryptInit (.ok begun) => (asymWork begun).map fun work => (.asymEncrypting work, false)
  | .symDecryptInit (.ok (cipher, key)) => some (.decrypting cipher key, false)
  | .asymDecryptInit (.ok begun) _ =>
    (asymWork begun).map fun work => (.asymDecrypting work, begun.alwaysAuthenticate)
  | .digestInit (.ok (hash, algo)) => some (.digesting hash algo, false)
  | .macSignInit (.ok (mac, key)) => some (.macSigning mac key true, false)
  | .asymSignInit (.ok begun) =>
    (signWork b false begun).map fun work => (.signing work, begun.alwaysAuthenticate)
  | .macVerifyInit (.ok (mac, key)) => some (.macVerifying mac key true, false)
  | .asymVerifyInit (.ok begun) => (signWork b true begun).map fun work => (.verifying work, false)
  | _ => none

/-- The part of a text that a call has taken, by its answer. -/
def Call.part : Call B → Reply → Option ByteString
  | .encryptUpdate (some data) (some out), r =>
    if r.rv = CKR_OK ∧ out.pointer = true then some data else none
  | .decryptUpdate (some data) (some out), r =>
    if r.rv = CKR_OK ∧ out.pointer = true then some data else none
  | .digestUpdate (some part), r => if r.rv = CKR_OK then some part else none
  | .digestKey (.ok key), r => if r.rv = CKR_OK then key.keybits.toOption else none
  | .signUpdate (some part), r => if r.rv = CKR_OK then some part else none
  | .verifyUpdate (some part), r => if r.rv = CKR_OK then some part else none
  | _, _ => none

/-- What a call, by its answer, can do to the activity of a session and to its waiting for a PIN. -/
inductive Moves (b : Build) (c : Call B) (r : Reply) :
    Activity B → Bool → Activity B → Bool → Prop
  /-- nothing is taken and nothing given -/
  | kept {a : Activity B} {locked : Bool} (taken : c.part r = none) (given : r.output = []) :
      Moves b c r a locked a locked
  | ended {a : Activity B} {locked : Bool} : Moves b c r a locked .idle false
  | carriedOn {a : Activity B} {locked : Bool} {w w' : Worker B} {part : ByteString}
      (worker : a.worker = some w) (taken : c.part r = some part)
      (given : takePart w part = some (r.output, w')) :
      Moves b c r a locked (a.carryOn w') locked
  | began {a : Activity B} {locked always : Bool} (ok : r.rv = CKR_OK)
      (begins : c.begins b = some (a, always)) : Moves b c r .idle locked a (locked || always)
  /-- a search that fails after it has begun -/
  | searching {locked : Bool} (failed : r.rv ≠ CKR_OK) (given : r.output = []) :
      Moves b c r .idle locked (.finding none) locked
  | found {handles left : List ℕ} {locked : Bool} (calls : ∃ n, c = .findObjects n) :
      Moves b c r (.finding (some handles)) locked (.finding (some left)) locked
  /-- a decryption that fails after it has asked for the PIN -/
  | locked {locked : Bool} {begun : AsymBegin B B.PrivateKey} {built : CK_RV}
      (call : c = .asymDecryptInit (.ok begun) built) (always : begun.alwaysAuthenticate = true)
      (oaep : begun.mechanism = CKM_RSA_PKCS_OAEP) (failed : built ≠ CKR_OK) :
      Moves b c r .idle locked .idle true
  | unlocked {a : Activity B} (call : c = .contextLogin CKR_OK) (ok : r.rv = CKR_OK) :
      Moves b c r a true a false

/-- What an answer and a session after a call have to do with the session before it. -/
def Moved (b : Build) (c : Call B) (a : Activity B) (locked : Bool) (x : Reply × Session B) :
    Prop :=
  ∃ a' locked', At x.2 a' locked' ∧ Moves b c x.1 a locked a' locked'

section moved

variable {b : Build} {c : Call B} {a : Activity B} {locked : Bool} {t : Traces} {s : Session B}

lemma moved_keep {rv : CK_RV} (h : c.part { rv := rv } = none) :
    Moved b c a locked ((a.session t locked).keep rv) :=
  ⟨a, locked, ⟨t, rfl⟩, .kept h rfl⟩

lemma moved_close {rv : CK_RV} : Moved b c a locked ((a.session t locked).close rv) :=
  ⟨.idle, false, Activity.at_resetOp, .ended⟩

/-- What ends with an answer, whatever it gives. -/
lemma moved_end {r : Reply} : Moved b c a locked (r, (a.session t locked).resetOp) :=
  ⟨.idle, false, Activity.at_resetOp, .ended⟩

lemma moved_tell {size : UInt64} {out : Buffer} {work : Reply × Session B}
    (htold : out.pointer = false → c.part { rv := CKR_OK, length := some size } = none)
    (hsmall : c.part { rv := CKR_BUFFER_TOO_SMALL, length := some size } = none)
    (hwork : out.pointer = true → Moved b c a locked work) :
    Moved b c a locked ((a.session t locked).tell size out work) := by
  unfold Session.tell
  cases hp : out.pointer with
  | false => exact ⟨a, locked, ⟨t, rfl⟩, .kept (htold hp) rfl⟩
  | true =>
    simp only [Bool.not_true, Bool.false_eq_true, if_false]
    split
    · exact ⟨a, locked, ⟨t, rfl⟩, .kept hsmall rfl⟩
    · exact hwork hp

lemma moved_give {size : UInt64} {result : Option ByteString} :
    Moved b c a locked ((a.session t locked).give size result) := by
  cases result with
  | none => exact moved_close
  | some result =>
    rw [Session.give]
    split
    · exact moved_close
    · exact moved_end

/-- A call that looks first whether its own operation is on. -/
lemma moved_guard {op : SESSION_OP} {x : Reply × Session B}
    (hpart : c.part { rv := CKR_OPERATION_NOT_INITIALIZED } = none)
    (h : a.operation = op → Moved b c a locked x) :
    Moved b c a locked (if (a.session t locked).operation ≠ op then
      (a.session t locked).keep CKR_OPERATION_NOT_INITIALIZED else x) := by
  rw [Activity.session_operation]
  by_cases hop : a.operation = op
  · rw [if_neg (not_not.2 hop)]
    exact h hop
  · rw [if_pos hop]
    exact moved_keep hpart

/-- A call that begins an operation has begun the one that it is for, where it answers `CKR_OK`. -/
def Begun (b : Build) (c : Call B) (a : Activity B) (locked : Bool) (x : Reply × Session B) :
    Prop :=
  Moved b c a locked x ∧
    (x.1.rv = CKR_OK → ∃ a' always, c.begins b = some (a', always) ∧ At x.2 a' (locked || always))

lemma begun_keep {rv : CK_RV} (hrv : rv ≠ CKR_OK) (h : c.part { rv := rv } = none) :
    Begun b c a locked ((a.session t locked).keep rv) :=
  ⟨moved_keep h, fun hok => absurd hok hrv⟩

lemma begun_begin {x : Reply × Session B}
    (hpart : c.part { rv := CKR_OPERATION_ACTIVE } = none)
    (h : a = .idle → Begun b c a locked x) :
    Begun b c a locked (if (a.session t locked).operation ≠ .NONE then
      (a.session t locked).keep CKR_OPERATION_ACTIVE else x) := by
  rw [Activity.session_operation]
  by_cases hop : a.operation = .NONE
  · rw [if_neg (not_not.2 hop)]
    exact h (Activity.of_none hop)
  · rw [if_pos hop]
    exact begun_keep (by simp) hpart

lemma begun_began {a' : Activity B} {always : Bool} (hs : At s a' (locked || always))
    (h : c.begins b = some (a', always)) : Begun b c .idle locked (s.keep CKR_OK) :=
  ⟨⟨a', _, hs, .began rfl h⟩, fun _ => ⟨a', always, h, hs⟩⟩

/-- One that needs no PIN. -/
lemma begun_open {a' : Activity B} (hs : At s a' locked)
    (h : c.begins b = some (a', false)) : Begun b c .idle locked (s.keep CKR_OK) :=
  begun_began ((Bool.or_false locked).symm ▸ hs) h

/-- A call that hands a part on to the object of the activity. -/
lemma moved_carried {r : Reply} {w w' : Worker B} {part : ByteString} (hworker : a.worker = some w)
    (hpart : c.part r = some part) (htake : takePart w part = some (r.output, w'))
    (hs : At s (a.carryOn w') locked) : Moved b c a locked (r, s) :=
  ⟨_, _, hs, .carriedOn hworker hpart htake⟩

/-! ### Searching -/

lemma begun_findObjectsInit {searched : Except Refusal (List ℕ)} :
    Begun b (.findObjectsInit searched) a locked
      (C_FindObjectsInit (a.session t locked) searched) := by
  refine begun_begin (by cases searched <;> rfl) ?_
  rintro rfl
  cases searched with
  | error rv => exact ⟨⟨.finding none, locked, ⟨t, rfl⟩, .searching rv.2 rfl⟩, fun hok => absurd hok rv.2⟩
  | ok found => exact begun_open ⟨t, rfl⟩ rfl

lemma moved_findObjects {n : ℕ} :
    Moved b (.findObjects n) a locked (C_FindObjects (a.session t locked) n) := by
  refine moved_guard rfl fun hop => ?_
  obtain ⟨found, rfl⟩ := Activity.of_find hop
  cases found with
  | none => exact moved_keep rfl
  | some handles =>
    exact ⟨.finding (some (handles.drop n)), locked, ⟨t, rfl⟩, .found ⟨n, rfl⟩⟩

lemma moved_findObjectsFinal :
    Moved b .findObjectsFinal a locked (C_FindObjectsFinal (a.session t locked)) :=
  moved_guard rfl fun _ => moved_close

/-! ### Beginning -/

/-- The four calls that begin with a symmetric key. -/
lemma begun_symInit {α : Type} {op : SESSION_OP} {set : Session B → α → Session B}
    {begun : SymBegun α} (activity : α → ByteString → Activity B) (hpart : ∀ r, c.part r = none)
    (hset : ∀ x key, At ((((set ((t.session locked).setOpType op) x).setAllowMultiPartOp
      true).setAllowSinglePartOp true).setSymmetricKey (some key)) (activity x key) locked)
    (hbegins : ∀ x key, begun = .ok (x, key) → c.begins b = some (activity x key, false)) :
    Begun b c a locked (symInit op set (a.session t locked) begun) := by
  refine begun_begin (hpart _) ?_
  rintro rfl
  rcases begun with rv | ⟨x, key⟩
  · exact begun_keep rv.2 (hpart _)
  · exact begun_open (hset x key) (hbegins x key rfl)

lemma begun_symEncryptInit {begun : SymBegun B.Cipher} :
    Begun b (.symEncryptInit begun) a locked (SymEncryptInit (a.session t locked) begun) :=
  begun_symInit .encrypting (fun _ => by cases begun <;> rfl) (fun _ _ => ⟨t, rfl⟩) (by
    rintro x key rfl
    rfl)

lemma begun_symDecryptInit {begun : SymBegun B.Cipher} :
    Begun b (.symDecryptInit begun) a locked (SymDecryptInit (a.session t locked) begun) :=
  begun_symInit .decrypting (fun _ => by cases begun <;> rfl) (fun _ _ => ⟨t, rfl⟩) (by
    rintro x key rfl
    rfl)

lemma begun_macSignInit {begun : SymBegun B.Mac} :
    Begun b (.macSignInit begun) a locked (MacSignInit (a.session t locked) begun) :=
  begun_symInit (fun mac key => .macSigning mac key true) (fun _ => by cases begun <;> rfl)
    (fun _ _ => ⟨t, rfl⟩) (by
      rintro x key rfl
      rfl)

lemma begun_macVerifyInit {begun : SymBegun B.Mac} :
    Begun b (.macVerifyInit begun) a locked (MacVerifyInit (a.session t locked) begun) :=
  begun_symInit (fun mac key => .macVerifying mac key true) (fun _ => by cases begun <;> rfl)
    (fun _ _ => ⟨t, rfl⟩) (by
      rintro x key rfl
      rfl)

lemma begun_digestInit {begun : Except Refusal (B.Hash × HashAlgo)} :
    Begun b (.digestInit begun) a locked (C_DigestInit (a.session t locked) begun) := by
  refine begun_begin (by cases begun <;> rfl) ?_
  rintro rfl
  cases begun with
  | error rv => exact begun_keep rv.2 rfl
  | ok begun => exact begun_open ⟨t, rfl⟩ rfl

lemma begun_asymEncryptInit {begun : AsymBegun B B.PublicKey} :
    Begun b (.asymEncryptInit begun) a locked (AsymEncryptInit (a.session t locked) begun) := by
  refine begun_begin (by cases begun <;> rfl) ?_
  rintro rfl
  cases begun with
  | error rv => exact begun_keep rv.2 rfl
  | ok begun =>
    dsimp only
    cases hlook : look encryptMechanisms begun.mechanism with
    | none => exact begun_keep (by simp) rfl
    | some mechanism =>
      have hs : At (asymBegins .ENCRYPT Session.setPublicKey (Activity.idle.session t locked) begun
          mechanism false).2 (.asymEncrypting ⟨begun.algorithm, begun.key, mechanism, begun.param⟩)
          locked := ⟨t, by rcases begun with ⟨_, _, _, _ | _, _⟩ <;> rfl⟩
      refine begun_open hs ?_
      rw [Call.begins, asymWork, hlook]
      rfl

/-- The PIN is asked for where the key wants it always. -/
lemma ask_idle (always : Bool) :
    (if always then ((Activity.idle : Activity B).session t locked).setReAuthentication true
      else Activity.idle.session t locked) = Activity.idle.session t (locked || always) := by
  cases always <;> cases locked <;> rfl

lemma begun_asymDecryptInit {begun : AsymBegun B B.PrivateKey} {built : CK_RV} :
    Begun b (.asymDecryptInit begun built) a locked
      (AsymDecryptInit (a.session t locked) begun built) := by
  refine begun_begin (by cases begun <;> rfl) ?_
  rintro rfl
  cases begun with
  | error rv => exact begun_keep rv.2 rfl
  | ok begun =>
    dsimp only
    cases hlook : look encryptMechanisms begun.mechanism with
    | none => exact begun_keep (by simp) rfl
    | some mechanism =>
      dsimp only
      rw [ask_idle]
      by_cases hbuilt : begun.mechanism = CKM_RSA_PKCS_OAEP ∧ built ≠ CKR_OK
      · rw [if_pos hbuilt]
        cases halways : begun.alwaysAuthenticate with
        | false =>
          rw [Bool.or_false]
          exact begun_keep hbuilt.2 rfl
        | true =>
          rw [Bool.or_true]
          exact ⟨⟨.idle, true, ⟨t, rfl⟩, .locked rfl halways hbuilt.1 hbuilt.2⟩,
            fun hok => absurd hok hbuilt.2⟩
      · rw [if_neg hbuilt]
        have hs : At (asymBegins .DECRYPT Session.setPrivateKey
            (Activity.idle.session t (locked || begun.alwaysAuthenticate)) begun mechanism false).2
            (.asymDecrypting ⟨begun.algorithm, begun.key, mechanism, begun.param⟩)
            (locked || begun.alwaysAuthenticate) := ⟨t, by rcases begun with ⟨_, _, _, _ | _, _⟩ <;> rfl⟩
        refine begun_began hs ?_
        rw [Call.begins, asymWork, hlook]
        rfl

lemma signWork_of_look {Key : Type} {verifying : Bool} {begun : AsymBegin B Key}
    {v : AsymMech × Bool} (h : look (signMechanisms b verifying) begun.mechanism = some v) :
    signWork b verifying begun =
      some ⟨⟨begun.algorithm, begun.key, v.1, begun.param⟩, v.2, true, parts_ne_of_look h⟩ := by
  unfold signWork
  split
  · rename_i hnone
    rw [hnone] at h
    cases h
  · rename_i v' h'
    obtain rfl := Option.some.inj (h.symm.trans h')
    rfl

lemma begun_asymSignInit {begun : AsymBegun B B.PrivateKey} :
    Begun b (.asymSignInit begun) a locked (AsymSignInit b (a.session t locked) begun) := by
  refine begun_begin (by cases begun <;> rfl) ?_
  rintro rfl
  cases begun with
  | error rv => exact begun_keep rv.2 rfl
  | ok begun =>
    dsimp only
    cases hlook : look (signMechanisms b false) begun.mechanism with
    | none => exact begun_keep (by simp) rfl
    | some v =>
      dsimp only
      rw [ask_idle]
      have hs : At (asymBegins .SIGN Session.setPrivateKey
          (Activity.idle.session t (locked || begun.alwaysAuthenticate)) begun v.1 v.2).2
          (.signing ⟨⟨begun.algorithm, begun.key, v.1, begun.param⟩, v.2, true,
            parts_ne_of_look hlook⟩)
          (locked || begun.alwaysAuthenticate) := ⟨t, by rcases begun with ⟨_, _, _, _ | _, _⟩ <;> rfl⟩
      refine begun_began hs ?_
      rw [Call.begins, signWork_of_look hlook]
      rfl

lemma begun_asymVerifyInit {begun : AsymBegun B B.PublicKey} :
    Begun b (.asymVerifyInit begun) a locked (AsymVerifyInit b (a.session t locked) begun) := by
  refine begun_begin (by cases begun <;> rfl) ?_
  rintro rfl
  cases begun with
  | error rv => exact begun_keep rv.2 rfl
  | ok begun =>
    dsimp only
    cases hlook : look (signMechanisms b true) begun.mechanism with
    | none => exact begun_keep (by simp) rfl
    | some v =>
      have hs : At (asymBegins .VERIFY Session.setPublicKey (Activity.idle.session t locked) begun
          v.1 v.2).2
          (.verifying ⟨⟨begun.algorithm, begun.key, v.1, begun.param⟩, v.2, true,
            parts_ne_of_look hlook⟩) locked := ⟨t, by rcases begun with ⟨_, _, _, _ | _, _⟩ <;> rfl⟩
      refine begun_open hs ?_
      rw [Call.begins, signWork_of_look hlook]
      rfl

/-! ### Digests -/

/-- The calls for digests, which find a digest wherever they follow the pointer to it. -/
lemma moved_hashUpdate {hash : B.Hash} {algo : HashAlgo} {data : ByteString}
    (hpart : c.part { rv := CKR_OK } = some data) :
    ∃ x, hashUpdate ((Activity.digesting hash algo).session t locked) data = some x ∧
      Moved b c (.digesting hash algo) locked x := by
  refine ⟨_, rfl, ?_⟩
  dsimp only
  cases hupdate : B.hash.hashUpdate hash data with
  | none => exact moved_close
  | some hash' =>
    have htake : takePart (.hash hash) data = some ([], .hash hash') := by
      simp [takePart, hupdate]
    exact moved_carried rfl hpart htake ⟨t, rfl⟩

lemma moved_digestResult {hash : B.Hash} {algo : HashAlgo} {out : Buffer}
    {result : Option ByteString} (hpart : ∀ r, c.part r = none) :
    Moved b c (.digesting hash algo) locked
      (digestResult ((Activity.digesting hash algo).session t locked) hash out result) :=
  moved_tell (fun _ => hpart _) (hpart _) fun _ => moved_give

/-- A call for a digest that looks first whether its own operation is on. -/
lemma answered_guard {op : SESSION_OP} {x : Option (Reply × Session B)}
    (hpart : c.part { rv := CKR_OPERATION_NOT_INITIALIZED } = none)
    (h : a.operation = op → ∃ y, x = some y ∧ Moved b c a locked y) :
    ∃ y, (if (a.session t locked).operation ≠ op then
      some ((a.session t locked).keep CKR_OPERATION_NOT_INITIALIZED) else x) = some y ∧
        Moved b c a locked y := by
  rw [Activity.session_operation]
  by_cases hop : a.operation = op
  · rw [if_neg (not_not.2 hop)]
    exact h hop
  · rw [if_pos hop]
    exact ⟨_, rfl, moved_keep hpart⟩

lemma moved_digest {pData : Option ByteString} {out : Option Buffer} :
    ∃ x, C_Digest (a.session t locked) pData out = some x ∧ Moved b (.digest pData out) a locked x := by
  unfold C_Digest
  split
  · refine answered_guard rfl fun hop => ?_
    obtain ⟨hash, algo, rfl⟩ := Activity.of_digest hop
    exact ⟨_, rfl, moved_digestResult fun _ => rfl⟩
  · exact ⟨_, rfl, moved_keep rfl⟩

lemma moved_digestUpdate {pPart : Option ByteString} :
    ∃ x, C_DigestUpdate (a.session t locked) pPart = some x ∧
      Moved b (.digestUpdate pPart) a locked x := by
  cases pPart with
  | none => exact ⟨_, rfl, moved_keep rfl⟩
  | some part =>
    refine answered_guard rfl fun hop => ?_
    obtain ⟨hash, algo, rfl⟩ := Activity.of_digest hop
    exact moved_hashUpdate rfl

lemma moved_digestKey {key : Except Refusal DigestedKey} :
    ∃ x, C_DigestKey (a.session t locked) key = some x ∧ Moved b (.digestKey key) a locked x := by
  refine answered_guard (by cases key <;> rfl) fun hop => ?_
  obtain ⟨hash, algo, rfl⟩ := Activity.of_digest hop
  cases key with
  | error rv => exact ⟨_, rfl, moved_keep rfl⟩
  | ok key =>
    dsimp only
    split
    · exact ⟨_, rfl, moved_keep rfl⟩
    cases hbits : key.keybits with
    | error rv =>
      exact ⟨_, rfl, moved_keep (if_neg rv.2)⟩
    | ok keybits =>
      refine moved_hashUpdate ?_
      rw [Call.part, if_pos rfl, hbits]
      rfl

lemma moved_digestFinal {out : Option Buffer} :
    ∃ x, C_DigestFinal (a.session t locked) out = some x ∧ Moved b (.digestFinal out) a locked x := by
  cases out with
  | none => exact ⟨_, rfl, moved_keep rfl⟩
  | some out =>
    refine answered_guard rfl fun hop => ?_
    obtain ⟨hash, algo, rfl⟩ := Activity.of_digest hop
    exact ⟨_, rfl, moved_digestResult fun _ => rfl⟩

/-! ### Signing -/

/-- Only the answer is another one. -/
lemma moved_journalled {asked : Bool} {recorded : CK_RV} {out : Buffer} {x : Reply × Session B}
    (hpart : ∀ r, c.part r = none) (hbegins : c.begins b = none)
    (hlogin : c ≠ .contextLogin CKR_OK) (h : Moved b c a locked x) :
    Moved b c a locked (journalled asked recorded out x) := by
  unfold journalled
  split
  · exact h
  rename_i hasked
  obtain ⟨a', locked', hs, hmoves⟩ := h
  refine ⟨a', locked', hs, ?_⟩
  cases hmoves with
  | kept _ given => exact .kept (hpart _) given
  | ended => exact .ended
  | carriedOn _ taken => exact absurd ((hpart _).symm.trans taken) (Option.some_ne_none _).symm
  | began _ begins => exact absurd (hbegins.symm.trans begins) (Option.some_ne_none _).symm
  | searching failed => exact absurd (.inl failed) hasked
  | found calls => exact .found calls
  | locked call always oaep failed => exact .locked call always oaep failed
  | unlocked call => exact absurd call hlogin

lemma moved_MacSign {mac : B.Mac} {key : ByteString} {singlePart : Bool} {data : ByteString}
    {out : Buffer} (hpart : ∀ r, c.part r = none) :
    Moved b c (.macSigning mac key singlePart) locked
      (MacSign ((Activity.macSigning mac key singlePart).session t locked) data out) := by
  cases singlePart with
  | false => exact moved_close
  | true => exact moved_tell (fun _ => hpart _) (hpart _) fun _ => moved_give

lemma moved_AsymSign {work : SignWork B B.PrivateKey} {data : ByteString} {out : Buffer}
    (hpart : ∀ r, c.part r = none) :
    Moved b c (.signing work) locked
      (AsymSign b ((Activity.signing work).session t locked) data out) := by
  change Moved b c _ _ (if (!work.singlePart) = true then _ else if locked = true then _ else _)
  split
  · exact moved_close
  split
  · exact moved_close
  refine moved_tell (fun _ => hpart _) (hpart _) fun _ => ?_
  split
  · exact moved_close
  split
  · exact moved_keep (hpart _)
  · exact moved_give

lemma moved_sign {fakeRutokenECP : Bool} {recorded : CK_RV} {pData : Option ByteString}
    {out : Option Buffer} :
    Moved b (.sign recorded pData out) a locked
      (C_Sign b fakeRutokenECP recorded (a.session t locked) pData out) := by
  unfold C_Sign
  split
  · refine moved_guard rfl fun hop => ?_
    obtain ⟨mac, key, singlePart, rfl⟩ | ⟨work, rfl⟩ := Activity.of_sign hop
    · exact moved_MacSign fun _ => rfl
    · exact moved_journalled (fun _ => rfl) rfl (by simp) (moved_AsymSign fun _ => rfl)
  · exact moved_keep rfl

lemma moved_MacSignUpdate {mac : B.Mac} {key : ByteString} {singlePart : Bool} {part : ByteString}
    (hpart : c.part { rv := CKR_OK } = some part) :
    Moved b c (.macSigning mac key singlePart) locked
      (MacSignUpdate ((Activity.macSigning mac key singlePart).session t locked) part) := by
  unfold MacSignUpdate
  split
  · exact moved_close
  rename_i mac' hmac
  obtain rfl : mac = mac' := Option.some.inj hmac
  split
  · exact moved_close
  cases hupdate : B.mac.signUpdate mac part with
  | none => exact moved_close
  | some mac' =>
    have htake : takePart (.macSign mac) part = some ([], .macSign mac') := by
      simp [takePart, hupdate]
    exact moved_carried rfl hpart htake ⟨t, rfl⟩

lemma moved_AsymSignUpdate {work : SignWork B B.PrivateKey} {part : ByteString}
    (hpart : c.part { rv := CKR_OK } = some part) :
    Moved b c (.signing work) locked
      (AsymSignUpdate ((Activity.signing work).session t locked) part) := by
  change Moved b c _ _ (if (!work.multiPart) = true then _ else if locked = true then _ else _)
  split
  · exact moved_close
  rename_i hmulti
  split
  · exact moved_close
  cases hupdate : B.asym.signUpdate work.algorithm part with
  | none => exact moved_close
  | some algorithm =>
    have hworker : (Activity.signing work).worker = some (.sign work.algorithm) :=
      if_pos (by simpa using hmulti)
    have htake : takePart (.sign work.algorithm) part = some ([], .sign algorithm) := by
      simp [takePart, hupdate]
    exact moved_carried hworker hpart htake ⟨t, rfl⟩

lemma moved_signUpdate {pPart : Option ByteString} :
    Moved b (.signUpdate pPart) a locked (C_SignUpdate (a.session t locked) pPart) := by
  cases pPart with
  | none => exact moved_keep rfl
  | some part =>
    refine moved_guard rfl fun hop => ?_
    obtain ⟨mac, key, singlePart, rfl⟩ | ⟨work, rfl⟩ := Activity.of_sign hop
    · exact moved_MacSignUpdate rfl
    · exact moved_AsymSignUpdate rfl

lemma moved_AsymSignFinal {work : SignWork B B.PrivateKey} {out : Buffer}
    (hpart : ∀ r, c.part r = none) :
    Moved b c (.signing work) locked
      (AsymSignFinal ((Activity.signing work).session t locked) out) := by
  change Moved b c _ _ (if locked = true then _ else _)
  split
  · exact moved_close
  · exact moved_tell (fun _ => hpart _) (hpart _) fun _ => moved_give

/-- The ends of signing and verifying look whether parts are allowed, too. -/
lemma moved_guard_parts {op : SESSION_OP} {x : Reply × Session B}
    (hpart : c.part { rv := CKR_OPERATION_NOT_INITIALIZED } = none)
    (h : a.operation = op → Moved b c a locked x) :
    Moved b c a locked (if (a.session t locked).operation ≠ op ∨
        (!(a.session t locked).allowMultiPartOp) = true then
      (a.session t locked).keep CKR_OPERATION_NOT_INITIALIZED else x) := by
  split
  · exact moved_keep hpart
  · rename_i hop
    rw [Activity.session_operation] at hop
    exact h (not_not.1 fun hne => hop (.inl hne))

lemma moved_signFinal {fakeRutokenECP : Bool} {recorded : CK_RV} {out : Option Buffer} :
    Moved b (.signFinal recorded out) a locked
      (C_SignFinal fakeRutokenECP recorded (a.session t locked) out) := by
  cases out with
  | none => exact moved_keep rfl
  | some out =>
    refine moved_guard_parts rfl fun hop => ?_
    obtain ⟨mac, key, singlePart, rfl⟩ | ⟨work, rfl⟩ := Activity.of_sign hop
    · exact moved_tell (fun _ => rfl) rfl fun _ => moved_give
    · exact moved_journalled (fun _ => rfl) rfl (by simp) (moved_AsymSignFinal fun _ => rfl)

/-! ### Verifying -/

/-- Whatever a verification comes to, it is over. -/
lemma moved_verified {p : Prop} [Decidable p] {x y : CK_RV} :
    Moved b c a locked (if p then (a.session t locked).close x else (a.session t locked).close y) := by
  split
  · exact moved_close
  · exact moved_close

lemma moved_MacVerify {mac : B.Mac} {key : ByteString} {singlePart : Bool}
    {data signature : ByteString} :
    Moved b c (.macVerifying mac key singlePart) locked
      (MacVerify ((Activity.macVerifying mac key singlePart).session t locked) data signature) := by
  cases singlePart with
  | false => exact moved_close
  | true =>
    change Moved b c _ _ (if signature.length ≠ (B.mac.getMacSize mac).toNat then _ else _)
    split
    · exact moved_close
    split
    · exact moved_close
    · exact moved_verified

lemma moved_AsymVerify {work : SignWork B B.PublicKey} {data signature : ByteString}
    (hpart : ∀ r, c.part r = none) :
    Moved b c (.verifying work) locked
      (AsymVerify ((Activity.verifying work).session t locked) data signature) := by
  change Moved b c _ _ (if (!work.singlePart) = true then _ else _)
  split
  · exact moved_close
  split
  · exact moved_close
  split
  · exact moved_keep (hpart _)
  · exact moved_verified

lemma moved_verify {pData pSignature : Option ByteString} :
    Moved b (.verify pData pSignature) a locked
      (C_Verify (a.session t locked) pData pSignature) := by
  unfold C_Verify
  split
  · refine moved_guard rfl fun hop => ?_
    obtain ⟨mac, key, singlePart, rfl⟩ | ⟨work, rfl⟩ := Activity.of_verify hop
    · exact moved_MacVerify
    · exact moved_AsymVerify fun _ => rfl
  · exact moved_keep rfl

lemma moved_MacVerifyUpdate {mac : B.Mac} {key : ByteString} {singlePart : Bool}
    {part : ByteString} (hpart : c.part { rv := CKR_OK } = some part) :
    Moved b c (.macVerifying mac key singlePart) locked
      (MacVerifyUpdate ((Activity.macVerifying mac key singlePart).session t locked) part) := by
  unfold MacVerifyUpdate
  split
  · exact moved_close
  rename_i mac' hmac
  obtain rfl : mac = mac' := Option.some.inj hmac
  split
  · exact moved_close
  cases hupdate : B.mac.verifyUpdate mac part with
  | none => exact moved_close
  | some mac' =>
    have htake : takePart (.macVerify mac) part = some ([], .macVerify mac') := by
      simp [takePart, hupdate]
    exact moved_carried rfl hpart htake ⟨t, rfl⟩

lemma moved_AsymVerifyUpdate {work : SignWork B B.PublicKey} {part : ByteString}
    (hpart : c.part { rv := CKR_OK } = some part) :
    Moved b c (.verifying work) locked
      (AsymVerifyUpdate ((Activity.verifying work).session t locked) part) := by
  change Moved b c _ _ (if (!work.multiPart) = true then _ else _)
  split
  · exact moved_close
  rename_i hmulti
  cases hupdate : B.asym.verifyUpdate work.algorithm part with
  | none => exact moved_close
  | some algorithm =>
    have hworker : (Activity.verifying work).worker = some (.verify work.algorithm) :=
      if_pos (by simpa using hmulti)
    have htake : takePart (.verify work.algorithm) part = some ([], .verify algorithm) := by
      simp [takePart, hupdate]
    exact moved_carried hworker hpart htake ⟨t, rfl⟩

lemma moved_verifyUpdate {pPart : Option ByteString} :
    Moved b (.verifyUpdate pPart) a locked (C_VerifyUpdate (a.session t locked) pPart) := by
  cases pPart with
  | none => exact moved_keep rfl
  | some part =>
    refine moved_guard rfl fun hop => ?_
    obtain ⟨mac, key, singlePart, rfl⟩ | ⟨work, rfl⟩ := Activity.of_verify hop
    · exact moved_MacVerifyUpdate rfl
    · exact moved_AsymVerifyUpdate rfl

lemma moved_verifyFinal {pSignature : Option ByteString} :
    Moved b (.verifyFinal pSignature) a locked (C_VerifyFinal (a.session t locked) pSignature) := by
  cases pSignature with
  | none => exact moved_keep rfl
  | some signature =>
    refine moved_guard_parts rfl fun hop => ?_
    obtain ⟨mac, key, singlePart, rfl⟩ | ⟨work, rfl⟩ := Activity.of_verify hop
    · change Moved b _ _ _ (if signature.length ≠ (B.mac.getMacSize mac).toNat then _ else _)
      split
      · exact moved_close
      · exact moved_verified
    · change Moved b _ _ _ (if signature.length ≠ (B.publicLength work.key).toNat then _ else _)
      split
      · exact moved_close
      · exact moved_verified

/-! ### Encrypting and decrypting -/

/-- The activity of a cipher, in one direction or the other. -/
def Activity.ciphering (decrypting : Bool) (cipher : B.Cipher) (key : ByteString) : Activity B :=
  if decrypting then .decrypting cipher key else .encrypting cipher key

lemma moved_cipherCall (decrypting : Bool) {cipher : B.Cipher} {key : ByteString}
    {size : Crypt.SymmetricAlgorithm → Except CK_RV UInt64} {out : Buffer}
    {work : B.Cipher → UInt64 → Reply × Session B}
    (hpart : ∀ r, out.pointer = false ∨ r.rv ≠ CKR_OK → c.part r = none)
    (hwork : ∀ maxSize, out.pointer = true →
      Moved b c (.ciphering decrypting cipher key) locked (work cipher maxSize)) :
    Moved b c (.ciphering decrypting cipher key) locked
      (cipherCall ((Activity.ciphering decrypting cipher key).session t locked) true size out
        work) := by
  have hcipher : ((Activity.ciphering decrypting cipher key).session t locked).symmetricCryptoOp =
      some cipher := by cases decrypting <;> rfl
  unfold cipherCall
  rw [hcipher]
  simp only [Bool.not_true, Bool.false_eq_true, if_false]
  split
  · exact moved_close
  · exact moved_tell (fun hp => hpart _ (.inl hp)) (hpart _ (.inr (by simp))) (hwork _)

lemma moved_cipherUpdated (decrypting : Bool) {cipher : B.Cipher} {key data : ByteString}
    {out : Buffer} {failed tooMuch : CK_RV} {given : Option (ByteString × B.Cipher)}
    (hgiven : takePart (if decrypting then .decrypt cipher else .encrypt cipher) data =
      given.map fun (given, cipher) =>
        (given, if decrypting then .decrypt cipher else .encrypt cipher))
    (hpart : ∀ r, r.rv = CKR_OK → c.part r = some data) :
    Moved b c (.ciphering decrypting cipher key) locked
      (cipherUpdated ((Activity.ciphering decrypting cipher key).session t locked) out failed
        tooMuch given) := by
  cases given with
  | none => exact moved_close
  | some given =>
    rw [cipherUpdated]
    split
    · exact moved_close
    cases decrypting with
    | false => exact moved_carried rfl (hpart _ rfl) hgiven ⟨t, rfl⟩
    | true => exact moved_carried rfl (hpart _ rfl) hgiven ⟨t, rfl⟩

lemma moved_cipherFinished {out : Buffer} {failed tooMuch : CK_RV} {given : Option ByteString} :
    Moved b c a locked
      (cipherFinished (a.session t locked) out failed tooMuch given) := by
  cases given with
  | none => exact moved_close
  | some given =>
    rw [cipherFinished]
    split
    · exact moved_close
    · exact moved_end

lemma moved_SymEncrypt {cipher : B.Cipher} {key data : ByteString} {out : Buffer}
    (hpart : ∀ r, c.part r = none) :
    Moved b c (.encrypting cipher key) locked
      (SymEncrypt ((Activity.encrypting cipher key).session t locked) data out) := by
  refine moved_cipherCall false (fun _ _ => hpart _) fun maxSize _ => ?_
  split
  · exact moved_close
  · exact moved_end

lemma moved_AsymEncrypt {work : AsymWork B B.PublicKey} {data : ByteString} {out : Buffer}
    (hpart : ∀ r, c.part r = none) :
    Moved b c (.asymEncrypting work) locked
      (AsymEncrypt ((Activity.asymEncrypting work).session t locked) data out) := by
  refine moved_tell (fun _ => hpart _) (hpart _) fun _ => ?_
  split
  · exact moved_keep (hpart _)
  · exact moved_give

lemma moved_encrypt {pData : Option ByteString} {out : Option Buffer} :
    Moved b (.encrypt pData out) a locked (C_Encrypt (a.session t locked) pData out) := by
  unfold C_Encrypt
  split
  · refine moved_guard rfl fun hop => ?_
    obtain ⟨cipher, key, rfl⟩ | ⟨work, rfl⟩ := Activity.of_encrypt hop
    · exact moved_SymEncrypt fun _ => rfl
    · exact moved_AsymEncrypt fun _ => rfl
  · exact moved_close

lemma part_of_told {data : ByteString} {out : Buffer} {r : Reply}
    (h : out.pointer = false ∨ r.rv ≠ CKR_OK) :
    (Call.encryptUpdate (some data) (some out) : Call B).part r = none ∧
      (Call.decryptUpdate (some data) (some out) : Call B).part r = none := by
  have hnot : ¬(r.rv = CKR_OK ∧ out.pointer = true) := by
    rintro ⟨hok, hp⟩
    rcases h with h | h
    · exact absurd (h.symm.trans hp) (by decide)
    · exact h hok
  exact ⟨if_neg hnot, if_neg hnot⟩

lemma moved_SymEncryptUpdate {cipher : B.Cipher} {key data : ByteString} {out : Buffer}
    (htold : ∀ r, out.pointer = false ∨ r.rv ≠ CKR_OK → c.part r = none)
    (hpart : ∀ r, r.rv = CKR_OK → out.pointer = true → c.part r = some data) :
    Moved b c (.encrypting cipher key) locked
      (SymEncryptUpdate ((Activity.encrypting cipher key).session t locked) data out) := by
  refine moved_cipherCall false htold fun _ hp => ?_
  exact moved_cipherUpdated false rfl fun r hr => hpart r hr hp

lemma moved_SymEncryptFinal {cipher : B.Cipher} {key : ByteString} {out : Buffer}
    (hpart : ∀ r, c.part r = none) :
    Moved b c (.encrypting cipher key) locked
      (SymEncryptFinal ((Activity.encrypting cipher key).session t locked) out) := by
  refine moved_cipherCall false (fun _ _ => hpart _) fun _ _ => ?_
  exact moved_cipherFinished

lemma moved_encryptUpdate {pData : Option ByteString} {out : Option Buffer} :
    Moved b (.encryptUpdate pData out) a locked
      (C_EncryptUpdate (a.session t locked) pData out) := by
  unfold C_EncryptUpdate
  split
  · refine moved_guard (part_of_told (.inr (by simp))).1 fun hop => ?_
    obtain ⟨cipher, key, rfl⟩ | ⟨work, rfl⟩ := Activity.of_encrypt hop
    · exact moved_SymEncryptUpdate (fun _ h => (part_of_told h).1) fun r hr hp => if_pos ⟨hr, hp⟩
    · exact moved_keep (part_of_told (.inr (by simp))).1
  · exact moved_close

lemma moved_encryptFinal {out : Option Buffer} :
    Moved b (.encryptFinal out) a locked (C_EncryptFinal (a.session t locked) out) := by
  cases out with
  | none => exact moved_close
  | some out =>
    refine moved_guard rfl fun hop => ?_
    obtain ⟨cipher, key, rfl⟩ | ⟨work, rfl⟩ := Activity.of_encrypt hop
    · exact moved_SymEncryptFinal fun _ => rfl
    · exact moved_keep rfl

lemma moved_SymDecrypt {cipher : B.Cipher} {key data : ByteString} {out : Buffer}
    (hpart : ∀ r, c.part r = none) :
    Moved b c (.decrypting cipher key) locked
      (SymDecrypt ((Activity.decrypting cipher key).session t locked) data out) := by
  refine moved_cipherCall true (fun _ _ => hpart _) fun maxSize _ => ?_
  split
  · exact moved_close
  · exact moved_end

lemma moved_AsymDecrypt {work : AsymWork B B.PrivateKey} {data : ByteString} {out : Buffer}
    (hpart : ∀ r, c.part r = none) :
    Moved b c (.asymDecrypting work) locked
      (AsymDecrypt ((Activity.asymDecrypting work).session t locked) data out) := by
  change Moved b c _ _ (if locked = true then _ else _)
  split
  · exact moved_close
  refine moved_tell (fun _ => hpart _) (hpart _) fun _ => ?_
  split
  · exact moved_close
  split
  · exact moved_close
  · exact moved_end

lemma moved_decrypt {pEncryptedData : Option ByteString} {out : Option Buffer} :
    Moved b (.decrypt pEncryptedData out) a locked
      (C_Decrypt (a.session t locked) pEncryptedData out) := by
  unfold C_Decrypt
  split
  · refine moved_guard rfl fun hop => ?_
    obtain ⟨cipher, key, rfl⟩ | ⟨work, rfl⟩ := Activity.of_decrypt hop
    · exact moved_SymDecrypt fun _ => rfl
    · exact moved_AsymDecrypt fun _ => rfl
  · exact moved_close

lemma moved_SymDecryptUpdate {cipher : B.Cipher} {key data : ByteString} {out : Buffer}
    (htold : ∀ r, out.pointer = false ∨ r.rv ≠ CKR_OK → c.part r = none)
    (hpart : ∀ r, r.rv = CKR_OK → out.pointer = true → c.part r = some data) :
    Moved b c (.decrypting cipher key) locked
      (SymDecryptUpdate ((Activity.decrypting cipher key).session t locked) data out) := by
  refine moved_cipherCall true htold fun _ hp => ?_
  exact moved_cipherUpdated true rfl fun r hr => hpart r hr hp

lemma moved_SymDecryptFinal {cipher : B.Cipher} {key : ByteString} {out : Buffer}
    (hpart : ∀ r, c.part r = none) :
    Moved b c (.decrypting cipher key) locked
      (SymDecryptFinal ((Activity.decrypting cipher key).session t locked) out) := by
  refine moved_cipherCall true (fun _ _ => hpart _) fun _ _ => ?_
  exact moved_cipherFinished

lemma moved_decryptUpdate {pEncryptedData : Option ByteString} {out : Option Buffer} :
    Moved b (.decryptUpdate pEncryptedData out) a locked
      (C_DecryptUpdate (a.session t locked) pEncryptedData out) := by
  unfold C_DecryptUpdate
  split
  · refine moved_guard (part_of_told (.inr (by simp))).2 fun hop => ?_
    obtain ⟨cipher, key, rfl⟩ | ⟨work, rfl⟩ := Activity.of_decrypt hop
    · exact moved_SymDecryptUpdate (fun _ h => (part_of_told h).2) fun r hr hp => if_pos ⟨hr, hp⟩
    · exact moved_keep (part_of_told (.inr (by simp))).2
  · exact moved_close

lemma moved_decryptFinal {out : Option Buffer} :
    Moved b (.decryptFinal out) a locked (C_DecryptFinal (a.session t locked) out) := by
  cases out with
  | none => exact moved_close
  | some out =>
    refine moved_guard rfl fun hop => ?_
    obtain ⟨cipher, key, rfl⟩ | ⟨work, rfl⟩ := Activity.of_decrypt hop
    · exact moved_SymDecryptFinal fun _ => rfl
    · exact moved_keep rfl

lemma moved_contextLogin {reAuthenticated : CK_RV} :
    Moved b (.contextLogin reAuthenticated) a locked
      (contextLogin (a.session t locked) reAuthenticated) := by
  unfold contextLogin
  rw [Activity.session_reAuthentication]
  cases locked with
  | false => exact moved_keep rfl
  | true =>
    simp only [Bool.not_true, Bool.false_eq_true, if_false]
    split
    · rename_i hok
      subst hok
      have hs : (a.session t true).setReAuthentication false = a.session t false := by
        cases a <;> rfl
      exact ⟨a, false, ⟨t, hs⟩, .unlocked rfl rfl⟩
    · exact moved_keep rfl

lemma moved_recoverInit : Moved b .recoverInit a locked (recoverInit (a.session t locked)) := by
  unfold recoverInit
  split
  · exact moved_keep rfl
  · exact moved_keep rfl

/-- **Each call in a session** has an answer and does one of these things. -/
theorem moves (hs : At s a locked) (fakeRutokenECP : Bool) (c : Call B) :
    ∃ x, exec b fakeRutokenECP s c = some x ∧ Moved b c a locked x := by
  obtain ⟨t, rfl⟩ := hs
  cases c with
  | findObjectsInit searched => exact ⟨_, rfl, begun_findObjectsInit.1⟩
  | findObjects n => exact ⟨_, rfl, moved_findObjects⟩
  | findObjectsFinal => exact ⟨_, rfl, moved_findObjectsFinal⟩
  | symEncryptInit begun => exact ⟨_, rfl, begun_symEncryptInit.1⟩
  | asymEncryptInit begun => exact ⟨_, rfl, begun_asymEncryptInit.1⟩
  | encrypt pData out => exact ⟨_, rfl, moved_encrypt⟩
  | encryptUpdate pData out => exact ⟨_, rfl, moved_encryptUpdate⟩
  | encryptFinal out => exact ⟨_, rfl, moved_encryptFinal⟩
  | symDecryptInit begun => exact ⟨_, rfl, begun_symDecryptInit.1⟩
  | asymDecryptInit begun built => exact ⟨_, rfl, begun_asymDecryptInit.1⟩
  | decrypt pEncryptedData out => exact ⟨_, rfl, moved_decrypt⟩
  | decryptUpdate pEncryptedData out => exact ⟨_, rfl, moved_decryptUpdate⟩
  | decryptFinal out => exact ⟨_, rfl, moved_decryptFinal⟩
  | digestInit begun => exact ⟨_, rfl, begun_digestInit.1⟩
  | digest pData out => exact moved_digest
  | digestUpdate pPart => exact moved_digestUpdate
  | digestKey key => exact moved_digestKey
  | digestFinal out => exact moved_digestFinal
  | macSignInit begun => exact ⟨_, rfl, begun_macSignInit.1⟩
  | asymSignInit begun => exact ⟨_, rfl, begun_asymSignInit.1⟩
  | sign recorded pData out => exact ⟨_, rfl, moved_sign⟩
  | signUpdate pPart => exact ⟨_, rfl, moved_signUpdate⟩
  | signFinal recorded out => exact ⟨_, rfl, moved_signFinal⟩
  | macVerifyInit begun => exact ⟨_, rfl, begun_macVerifyInit.1⟩
  | asymVerifyInit begun => exact ⟨_, rfl, begun_asymVerifyInit.1⟩
  | verify pData pSignature => exact ⟨_, rfl, moved_verify⟩
  | verifyUpdate pPart => exact ⟨_, rfl, moved_verifyUpdate⟩
  | verifyFinal pSignature => exact ⟨_, rfl, moved_verifyFinal⟩
  | contextLogin reAuthenticated => exact ⟨_, rfl, moved_contextLogin⟩
  | recoverInit => exact ⟨_, rfl, moved_recoverInit⟩

lemma moves_of_answers {fakeRutokenECP : Bool} {r : Reply} {s' : Session B} (hs : At s a locked)
    (h : Answers b fakeRutokenECP s (c, r) s') :
    ∃ a' locked', At s' a' locked' ∧ Moves b c r a locked a' locked' := by
  obtain ⟨x, hx, hmoved⟩ := moves hs fakeRutokenECP c
  obtain rfl := Option.some.inj (hx.symm.trans h)
  exact hmoved

/-- **A call that has begun an operation** leaves the session at the activity of that. -/
lemma at_of_begins {fakeRutokenECP always : Bool} {r : Reply} {s' : Session B} {a' : Activity B}
    (hs : At s a locked) (h : Answers b fakeRutokenECP s (c, r) s') (hok : r.rv = CKR_OK)
    (hbegins : c.begins b = some (a', always)) : At s' a' (locked || always) := by
  obtain ⟨t, rfl⟩ := hs
  have hbegun : Begun b c a locked (r, s') := by
    cases c with
    | findObjectsInit searched => exact Option.some.inj h ▸ begun_findObjectsInit
    | symEncryptInit begun => exact Option.some.inj h ▸ begun_symEncryptInit
    | asymEncryptInit begun => exact Option.some.inj h ▸ begun_asymEncryptInit
    | symDecryptInit begun => exact Option.some.inj h ▸ begun_symDecryptInit
    | asymDecryptInit begun built => exact Option.some.inj h ▸ begun_asymDecryptInit
    | digestInit begun => exact Option.some.inj h ▸ begun_digestInit
    | macSignInit begun => exact Option.some.inj h ▸ begun_macSignInit
    | asymSignInit begun => exact Option.some.inj h ▸ begun_asymSignInit
    | macVerifyInit begun => exact Option.some.inj h ▸ begun_macVerifyInit
    | asymVerifyInit begun => exact Option.some.inj h ▸ begun_asymVerifyInit
    | _ => cases hbegins
  obtain ⟨a'', always', heq, hs'⟩ := hbegun.2 hok
  obtain ⟨rfl, rfl⟩ := Prod.mk.inj (Option.some.inj (hbegins.symm.trans heq))
  exact hs'

end moved

/-! ### Runs -/

/-- An activity that works with a private key. -/
def Activity.keyed : Activity B → Bool
  | signing _ => true
  | asymDecrypting _ => true
  | _ => false

/-- A decryption that asks for the PIN and then fails. -/
def Call.AsksInVain (c : Call B) : Prop :=
  ∃ begun built, c = .asymDecryptInit (.ok begun) built ∧ begun.alwaysAuthenticate = true ∧
    begun.mechanism = CKM_RSA_PKCS_OAEP ∧ built ≠ CKR_OK

lemma at_create : At (Session.create : Session B) .idle false :=
  ⟨⟨.Unknown, .Unknown, false, false⟩, rfl⟩

/-- Only an activity with a private key begins with a question for the PIN. -/
lemma keyed_of_begins {b : Build} {c : Call B} {a : Activity B}
    (h : c.begins b = some (a, true)) : a.keyed = true := by
  unfold Call.begins at h
  split at h
  all_goals first
    | cases h
    | (obtain ⟨work, -, heq⟩ := Option.map_eq_some_iff.1 h
       obtain ⟨rfl, -⟩ := Prod.ext_iff.1 heq
       first | rfl | cases congrArg Prod.snd heq)

lemma Moves.waits {b : Build} {c : Call B} {r : Reply} {a a' : Activity B} {locked locked' : Bool}
    (h : Moves b c r a locked a' locked') (hc : ¬c.AsksInVain) (hold : locked = true → a.keyed = true) :
    locked' = true → a'.keyed = true := by
  cases h with
  | kept => exact hold
  | ended => exact fun h => absurd h Bool.false_ne_true
  | @carriedOn _ _ w w' part worker taken given =>
    intro hlocked
    have hkeyed := hold hlocked
    cases a with
    | signing work => cases w' <;> rfl
    | asymDecrypting work => cases worker
    | _ => cases hkeyed
  | @began _ _ always ok begins =>
    intro h
    cases always with
    | true => exact keyed_of_begins begins
    | false => exact absurd (hold ((Bool.or_false locked).symm.trans h)) Bool.false_ne_true
  | searching => exact fun h => absurd (hold h) Bool.false_ne_true
  | found => exact fun h => absurd (hold h) Bool.false_ne_true
  | @locked _ begun built call always oaep failed =>
    exact absurd ⟨begun, built, call, always, oaep, failed⟩ hc
  | unlocked => exact fun h => absurd h Bool.false_ne_true

/-- **One operation at a time.** Wherever calls lead a session, it is at one activity, with just the
objects of that; no call finds a pointer that leads nowhere; and the session waits for the PIN only
while it is at something with a private key, unless a decryption has asked for the PIN in vain. -/
theorem one_at_a_time {b : Build} {fakeRutokenECP : Bool} {s : Session B}
    {calls : List (Call B × Reply)} (hr : Run (Answers b fakeRutokenECP) Session.create calls s) :
    (∃ a locked, At s a locked ∧
      ((∀ x ∈ calls, ¬x.1.AsksInVain) → locked = true → a.keyed = true)) ∧
    ∀ c, exec b fakeRutokenECP s c ≠ none := by
  have hat : ∃ a locked, At s a locked ∧
      ((∀ x ∈ calls, ¬x.1.AsksInVain) → locked = true → a.keyed = true) := by
    refine hr.history (P := fun calls s => ∃ a locked, At s a locked ∧
      ((∀ x ∈ calls, ¬x.1.AsksInVain) → locked = true → a.keyed = true))
      ⟨.idle, false, at_create, fun _ h => absurd h Bool.false_ne_true⟩ ?_
    rintro calls s ⟨c, r⟩ s' ⟨a, locked, hs, hwaits⟩ hstep
    obtain ⟨a', locked', hs', hmoves⟩ := moves_of_answers hs hstep
    refine ⟨a', locked', hs', fun hvain => ?_⟩
    refine hmoves.waits (hvain _ (List.mem_append_right _ (List.mem_singleton_self _))) ?_
    exact hwaits fun x hx => hvain x (List.mem_append_left _ hx)
  refine ⟨hat, fun c hnone => ?_⟩
  obtain ⟨a, locked, hs, -⟩ := hat
  obtain ⟨x, hx, -⟩ := moves hs fakeRutokenECP c
  rw [hnone] at hx
  cases hx

/-! ### Bare keys for RSA -/

/-- A number of as many bytes as are asked for, the highest one first. -/
def bigEndian (size n : ℕ) : ByteString :=
  (List.range size).reverse.map fun i => UInt8.ofNat (n / 256 ^ i)

/-- Powers of a text that is a number, under a modulus of two bytes. -/
def power (key : ℕ × ℕ) (text : ByteString) : ByteString :=
  bigEndian 2 (text.foldl (fun n x => 256 * n + x.toNat) 0 ^ key.2 % key.1)

/-- A back end that has keys for RSA without padding, and nothing else. -/
def bareRSA : Backend where
  Hash := Empty
  Mac := Empty
  Asym := Unit
  Cipher := Empty
  PublicKey := ℕ × ℕ
  PrivateKey := ℕ × ℕ
  MechanismParam := Empty
  hash := ⟨Empty.elim, Empty.elim, Empty.elim⟩
  mac := ⟨Empty.elim, Empty.elim, Empty.elim, Empty.elim, Empty.elim⟩
  asym :=
    { sign := fun _ key text mechanism _ => if mechanism = .RSA then some (power key text) else none
      signUpdate := fun _ _ => none
      signFinal := fun _ => none
      verify := fun _ key text signature mechanism _ =>
        decide (mechanism = .RSA ∧ power key signature = text)
      verifyUpdate := fun _ _ => none
      verifyFinal := fun _ _ => false
      encrypt := fun _ key text mechanism _ =>
        if mechanism = .RSA then some (power key text) else none
      decrypt := fun _ key text mechanism _ =>
        if mechanism = .RSA then some (power key text) else none }
  cipher := ⟨Empty.elim, Empty.elim, Empty.elim, Empty.elim, Empty.elim⟩
  publicLength _ := 2
  privateLength _ := 2

/-- A key that wants the PIN for every signature. -/
def bareBegin : AsymBegin bareRSA (ℕ × ℕ) := ⟨(), (3233, 2753), CKM_RSA_X_509, none, true⟩

/-- A session that signs with it. -/
def bareSigning (locked : Bool) : Session bareRSA :=
  { Session.create with
    operation := .SIGN, asymmetricCryptoOp := some (), privateKey := some (3233, 2753)
    mechanism := .RSA, allowSinglePartOp := true, reAuthentication := locked }

/-- The calls from the beginning to the PIN. -/
def bareCalls : List (Call bareRSA × Reply) :=
  [(.asymSignInit (.ok bareBegin), { rv := CKR_OK }), (.contextLogin CKR_OK, { rv := CKR_OK })]

lemma run_bareCalls (b : Build) (fakeRutokenECP : Bool) :
    Run (Answers b fakeRutokenECP) Session.create bareCalls (bareSigning false) := by
  have hbegin : Answers b fakeRutokenECP Session.create
      (.asymSignInit (.ok bareBegin), { rv := CKR_OK }) (bareSigning true) := rfl
  have hlogin : Answers b fakeRutokenECP (bareSigning true)
      (.contextLogin CKR_OK, { rv := CKR_OK }) (bareSigning false) := rfl
  exact (Run.single hbegin).trans (Run.single hlogin)

theorem one_at_a_time_signing :
    ∃ a locked, At (bareSigning false) a locked ∧
      ((∀ x ∈ bareCalls, ¬x.1.AsksInVain) → locked = true → a.keyed = true) :=
  (one_at_a_time (run_bareCalls plainBuild true)).1

end SoftHSM.Operation

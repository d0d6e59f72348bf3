import Mathlib.Algebra.Group.Nat.Defs
import Mathlib.Data.Finset.Basic
import Mathlib.Data.Nat.Notation

/-!
The list of objects of a file-backed token. Every process that has the token open keeps the
objects it knows and the value of the generation file that it saw last; `index` reads the
directory again only when the value on disk is another one.

An object in the list of a process is known by the name of its file. The attributes of the
objects, and the mark of an object that was found deleted, are not part of this model; the
directory, the generation file and the token object can be read and written.
-/

namespace SoftHSM

abbrev FileName := List Char

/-- The token directory: its files, and the value in the generation file, unless that is
missing or empty. -/
structure Directory where
  files : Finset FileName
  generation : Option UInt64
  deriving DecidableEq

/-- What one process keeps of the token. -/
structure OSToken where
  currentValue : UInt64
  currentFiles : Finset FileName
  objects : Finset FileName
  deriving DecidableEq

namespace OSToken

def dotObject : FileName := ['.', 'o', 'b', 'j', 'e', 'c', 't']
def dotLock : FileName := ['.', 'l', 'o', 'c', 'k']
def tokenObject : FileName := ['t', 'o', 'k', 'e', 'n'] ++ dotObject

/-- The files that `index` takes for objects. -/
def isObjectFile (f : FileName) : Bool :=
  decide (f.length > 7) && f.drop (f.length - 7) == dotObject && f != tokenObject

/-- The name with everything from its last dot replaced. -/
def lockName (f : FileName) : FileName :=
  (f.reverse.dropWhile (· != '.')).tail.reverse ++ dotLock

/-- The next generation; 0 is left out. -/
def bump (value : UInt64) : UInt64 :=
  if value + 1 = 0 then value + 1 + 1 else value + 1

/-- `Generation::commit`, with or without a pending update: the value that is written is
taken for seen. -/
def commit (pendingUpdate : Bool) (d : Directory) (t : OSToken) : Directory × OSToken :=
  match d.generation with
  | none =>
    let value := bump t.currentValue
    ({ d with generation := some value }, { t with currentValue := value })
  | some onDisk =>
    let value := if pendingUpdate then bump onDisk else onDisk
    ({ d with generation := some value }, { t with currentValue := value })

/-- `Generation::wasUpdated`, which also takes the value on disk for seen. -/
def wasUpdated (d : Directory) (t : OSToken) : Bool × OSToken :=
  match d.generation with
  | none => (true, t)
  | some onDisk =>
    if onDisk != t.currentValue then (true, { t with currentValue := onDisk }) else (false, t)

/-- The object files in the directory. -/
def listing (d : Directory) : Finset FileName := d.files.filter (fun f => isObjectFile f)

def index (isFirstTime : Bool) (d : Directory) (t : OSToken) : OSToken :=
  let (updated, t) := if isFirstTime then (true, t) else wasUpdated d t
  if !updated then t
  else
    let newSet := listing d
    let addedFiles := if isFirstTime then newSet else newSet \ t.currentFiles
    let removedFiles := if isFirstTime then ∅ else t.currentFiles \ newSet
    { t with
      currentFiles := newSet
      objects := (t.objects ∪ addedFiles).filter (fun f => f ∉ removedFiles) }

/-- The constructor: the generation file is made if there is none, and the directory is
read. -/
def openToken (d : Directory) : Directory × OSToken :=
  let (d, t) := commit false d ⟨0, ∅, ∅⟩
  (d, index true d t)

def getObjects (d : Directory) (t : OSToken) : OSToken × Finset FileName :=
  let t := index false d t
  (t, t.objects)

def createObject (objectUUID : FileName) (d : Directory) (t : OSToken) : Directory × OSToken :=
  let objectPath := objectUUID ++ dotObject
  let lockPath := objectUUID ++ dotLock
  let d := { d with files := insert objectPath (insert lockPath d.files) }
  let t := { t with
    objects := insert objectPath t.objects
    currentFiles := insert objectPath t.currentFiles }
  commit true d t

/-- `deleteObject`: it fails on an object that the process does not have, and where one of
the two files is gone. -/
def deleteObject (object : FileName) (d : Directory) (t : OSToken) :
    Bool × Directory × OSToken :=
  if object ∉ t.objects then (false, d, t)
  else if object ∉ d.files then (false, d, t)
  else
    let d := { d with files := d.files.erase object }
    if lockName object ∉ d.files then (false, d, t)
    else
      let d := { d with files := d.files.erase (lockName object) }
      (true, commit true d { t with objects := t.objects.erase object })

/-! ### Names -/

lemma isObjectFile_iff {f : FileName} :
    isObjectFile f = true ↔ ∃ x, x ≠ [] ∧ f = x ++ dotObject ∧ f ≠ tokenObject := by
  unfold isObjectFile
  simp only [Bool.and_eq_true, decide_eq_true_eq, beq_iff_eq, bne_iff_ne, and_assoc]
  constructor
  · rintro ⟨hlen, hd, hne⟩
    have hsplit := List.take_append_drop (f.length - 7) f
    rw [hd] at hsplit
    refine ⟨f.take (f.length - 7), ?_, hsplit.symm, hne⟩
    intro hnil
    have h0 : (f.take (f.length - 7)).length = 0 := by rw [hnil]; rfl
    rw [List.length_take] at h0
    omega
  · rintro ⟨x, hx, rfl, hne⟩
    have h7 : dotObject.length = 7 := rfl
    have hpos : 0 < x.length := List.length_pos_of_ne_nil hx
    refine ⟨?_, ?_, hne⟩
    · rw [List.length_append, h7]
      omega
    · rw [List.length_append, h7, Nat.add_sub_cancel, List.drop_left]

lemma lockName_append (x : FileName) : lockName (x ++ dotObject) = x ++ dotLock := by
  unfold lockName dotObject
  simp [List.reverse_append]

lemma not_isObjectFile_lock (x : FileName) : isObjectFile (x ++ dotLock) = false := by
  rw [Bool.eq_false_iff]
  intro h
  obtain ⟨y, -, hy, -⟩ := isObjectFile_iff.1 h
  have hl := congrArg List.getLast? hy
  simp [dotLock, dotObject] at hl

lemma lockName_inj {f g : FileName} (hf : isObjectFile f = true) (hg : isObjectFile g = true)
    (h : lockName f = lockName g) : f = g := by
  obtain ⟨x, -, rfl, -⟩ := isObjectFile_iff.1 hf
  obtain ⟨y, -, rfl, -⟩ := isObjectFile_iff.1 hg
  rw [lockName_append, lockName_append] at h
  rw [List.append_cancel_right h]

lemma lockName_not_object {f : FileName} (hf : isObjectFile f = true) :
    isObjectFile (lockName f) = false := by
  obtain ⟨x, -, rfl, -⟩ := isObjectFile_iff.1 hf
  rw [lockName_append]
  exact not_isObjectFile_lock x

end OSToken

end SoftHSM

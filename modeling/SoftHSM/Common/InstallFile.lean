import SoftHSM.Common.SimpleConfigLoader
import SoftHSM.Lib.RelyGuarantee

/-!
The first configuration of a user: any number of processes write one each under a name of their own,
and link it to the path of the configuration. They meet in the file system only, call by call; any
call may fail, and any process may die between two calls.
-/

namespace SoftHSM.SimpleConfigLoader

open RelyGuarantee (Program Safe)

/-! ### The file system -/

/-- The path of the configuration, and the names behind it that the processes make up. -/
inductive Name
  | path
  | temporary (pid attempt : ℕ)
  deriving DecidableEq

inductive Node
  | file (inode : ℕ)
  | other
  deriving DecidableEq

def Node.isRegular : Node → Bool
  | file _ => true
  | other => false

/-- A regular file, with the process that made it and those that may read it. -/
structure RegularFile (ι : Type) where
  contents : ByteString
  creator : Option ι
  readers : ι → Bool

structure FileSystem (ι : Type) where
  names : Name → Option Node
  inodes : ℕ → Option (RegularFile ι)
  directories : Set ByteString

inductive Errno
  | EEXIST
  | other

inductive SystemCall
  | stat (name : Name)
  | statDirectory (path : ByteString)
  | mkdir (path : ByteString)
  | create (name : Name)
  | write (descriptor : ℕ) (data : ByteString)
  | close (descriptor : ℕ)
  | link (old new : Name)
  | unlink (name : Name)
  | fopen (name : Name)

/-- The answers: `stat` says of what is there whether it is a regular file, `create` gives the file. -/
abbrev SystemCall.Result : SystemCall → Type
  | stat _ => Option Bool
  | mkdir _ => Except Errno Unit
  | create _ => Except Errno ℕ
  | write _ _ => Option ℕ
  | _ => Bool

variable {ι : Type}

/-- **The calls.** Each of them may fail, and then it does nothing; a file is made only where there
is nothing, of any data a part may be written, and a link is made only to a name that is free. -/
def exec (i : ι) : (c : SystemCall) → FileSystem ι → c.Result → FileSystem ι → Prop
  | .stat name, s, r, s' =>
    s' = s ∧ (r = none ∨ ∃ node, s.names name = some node ∧ r = some node.isRegular)
  | .statDirectory path, s, r, s' => s' = s ∧ (r = true → path ∈ s.directories)
  | .mkdir path, s, r, s' => (∃ e, r = .error e ∧ s' = s) ∨
    (r = .ok () ∧ path ∉ s.directories ∧ s' = { s with directories := insert path s.directories })
  | .create name, s, r, s' => (∃ e, r = .error e ∧ s' = s) ∨
    ∃ inode file, r = .ok inode ∧ s.names name = none ∧ s.inodes inode = none ∧
      (∀ other, s.names other ≠ some (.file inode)) ∧
      file.contents = [] ∧ file.creator = some i ∧ file.readers i = true ∧
      s' = ⟨Function.update s.names name (some (.file inode)),
        Function.update s.inodes inode (some file), s.directories⟩
  | .write descriptor data, s, r, s' => (r = none ∧ s' = s) ∨
    ∃ file written, r = some written ∧ written ≤ data.length ∧ s.inodes descriptor = some file ∧
      s' = ⟨s.names, Function.update s.inodes descriptor
        (some { file with contents := file.contents ++ data.take written }), s.directories⟩
  | .close _, s, _, s' => s' = s
  | .link old new, s, r, s' => (r = false ∧ s' = s) ∨
    ∃ inode, r = true ∧ s.names old = some (.file inode) ∧ s.names new = none ∧
      s' = { s with names := Function.update s.names new (some (.file inode)) }
  | .unlink name, s, r, s' => (r = false ∧ s' = s) ∨
    (r = true ∧ s' = { s with names := Function.update s.names name none })
  | .fopen name, s, r, s' => s' = s ∧
    (r = true → ∃ node, s.names name = some node ∧ ∀ inode, node = .file inode →
      ∃ file, s.inodes inode = some file ∧ file.readers i = true)

/-! ### The programs -/

abbrev Calls (α : Type) := Program SystemCall.Result α

def perform (c : SystemCall) : Calls c.Result := Program.perform c

def isReadableFile (name : Name) : Calls Bool := do
  match (← perform (.stat name) : Option Bool) with
  | some true => perform (.fopen name)
  | _ => pure false

def isDirectory (path : ByteString) : Calls Bool := perform (.statDirectory path)

def parentDirectory (path : ByteString) : ByteString :=
  let behind := path.reverse.takeWhile (!isPathSeparator ·)
  if behind.length = path.length then bytesOf "."
  else if behind.length + 1 = path.length then path.take 1
  else path.take (path.length - behind.length - 1)

lemma length_parentDirectory {path : ByteString} (hself : parentDirectory path ≠ path)
    (hdot : parentDirectory path ≠ bytesOf ".") : (parentDirectory path).length < path.length := by
  revert hself hdot
  rw [parentDirectory]
  split_ifs with h1 h2
  · exact fun _ hdot => absurd rfl hdot
  · intro hself _
    by_contra hlen
    exact hself (List.take_of_length_le (by rw [List.length_take] at hlen; omega))
  · intro _ _
    have hle := (List.takeWhile_prefix (l := path.reverse) (!isPathSeparator ·)).length_le
    rw [List.length_reverse] at hle
    rw [List.length_take]
    omega

/-- The call at the end of `createDirectory`. -/
def makeDirectory (path : ByteString) : Calls Bool := do
  match (← perform (.mkdir path) : Except Errno Unit) with
  | .ok () => pure true
  | .error .EEXIST => isDirectory path
  | .error .other => pure false

def createDirectory (path : ByteString) : Calls Bool := do
  if ← isDirectory path then pure true
  else
    let created : Bool ← (if _ : parentDirectory path ≠ path ∧ parentDirectory path ≠ bytesOf "." then
      isDirectory (parentDirectory path) >>= fun there =>
        if there then pure true else createDirectory (parentDirectory path)
      else pure true)
    if created then makeDirectory path else pure false
termination_by path.length
decreasing_by
  rename_i h
  exact length_parentDirectory h.1 h.2

def writeAll (descriptor : ℕ) (data : ByteString) : Calls Bool :=
  if _ : data = [] then pure true
  else do
    match (← perform (.write descriptor data) : Option ℕ) with
    | none => pure false
    | some written =>
      if _ : written = 0 then pure false else writeAll descriptor (data.drop written)
termination_by data.length
decreasing_by
  rename_i h _
  have := List.length_pos_of_ne_nil h
  rw [List.length_drop]
  omega

/-- What is done with a file of one's own. -/
def installTemporary (temporary : Name) (descriptor : ℕ) (contents : ByteString) : Calls Bool := do
  let written : Bool ← (if contents = [] then pure true else writeAll descriptor contents)
  let closed : Bool ← perform (.close descriptor)
  let installed : Bool ← (if written && closed then perform (.link temporary .path) else pure false)
  let _ ← perform (.unlink temporary)
  if installed then pure true else isReadableFile .path

/-- The loop of `installFileAtomically`, from an attempt on. -/
def attempts (pid : ℕ) (contents : ByteString) : ℕ → ℕ → Calls Bool
  | 0, _ => isReadableFile .path
  | left + 1, attempt => do
    match (← perform (.create (.temporary pid attempt)) : Except Errno ℕ) with
    | .error .EEXIST => attempts pid contents left (attempt + 1)
    | .error .other => isReadableFile .path
    | .ok descriptor => installTemporary (.temporary pid attempt) descriptor contents

def installFileAtomically (pid : ℕ) (path contents : ByteString) : Calls Bool := do
  if ← isReadableFile .path then return true
  if !(← createDirectory (parentDirectory path)) then return false
  attempts pid contents 100 0

/-! ### What the processes do to the files -/

section changes

variable (contents : ι → ByteString) (A : ι → Prop)

/-- What some of the processes may do to the files: the path of the configuration stays what it is
once it is there, it becomes a file with all the contents of the one of them that made it, and they
leave the files alone that others made. -/
structure Changes (s s' : FileSystem ι) : Prop where
  kept {node : Node} (h : s.names .path = some node) : s'.names .path = some node
  unchanged {inode : ℕ} (h : s.names .path = some (.file inode)) : s'.inodes inode = s.inodes inode
  made (h : s.names .path = none) : s'.names .path = none ∨ ∃ inode file i, A i ∧
    s'.names .path = some (.file inode) ∧ s'.inodes inode = some file ∧ file.creator = some i ∧
      file.contents = contents i ∧ file.readers i = true
  others {inode : ℕ} {file : RegularFile ι} {j : ι} (h : s.inodes inode = some file)
    (hj : file.creator = some j) (hA : ¬ A j) : s'.inodes inode = some file
  named {name : Name} {inode : ℕ} {file : RegularFile ι} {j : ι}
    (hname : s.names name = some (.file inode)) (h : s.inodes inode = some file)
    (hj : file.creator = some j) (hA : ¬ A j) : s'.names name = some (.file inode)

variable {contents A}

lemma Changes.of_eq {s s' : FileSystem ι} (hnames : s'.names = s.names)
    (hinodes : s'.inodes = s.inodes) : Changes contents A s s' where
  kept h := by rw [hnames, h]
  unchanged _ := by rw [hinodes]
  made h := .inl (by rw [hnames, h])
  others h _ _ := by rw [hinodes, h]
  named h _ _ _ := by rw [hnames, h]

lemma Changes.refl (s : FileSystem ι) : Changes contents A s s := .of_eq rfl rfl

lemma Changes.trans {s t u : FileSystem ι} (h : Changes contents A s t)
    (h' : Changes contents A t u) : Changes contents A s u where
  kept hs := h'.kept (h.kept hs)
  unchanged hs := (h'.unchanged (h.kept hs)).trans (h.unchanged hs)
  made hs := by
    rcases h.made hs with ht | ⟨inode, file, i, hA, hname, hfile, hmade⟩
    · exact h'.made ht
    · exact .inr ⟨inode, file, i, hA, h'.kept hname, (h'.unchanged hname).trans hfile, hmade⟩
  others hs hj hA := h'.others (h.others hs hj hA) hj hA
  named hname hs hj hA := h'.named (h.named hname hs hj hA) (h.others hs hj hA) hj hA

lemma Changes.mono {B : ι → Prop} (hAB : ∀ i, A i → B i) {s s' : FileSystem ι}
    (h : Changes contents A s s') : Changes contents B s s' where
  kept := h.kept
  unchanged := h.unchanged
  made hs := (h.made hs).imp_right fun ⟨inode, file, i, hA, hmade⟩ =>
    ⟨inode, file, i, hAB i hA, hmade⟩
  others hs hj hB := h.others hs hj fun hA => hB (hAB _ hA)
  named hname hs hj hB := h.named hname hs hj fun hA => hB (hAB _ hA)

variable (contents)

/-- What a process relies on. -/
def Rely (i : ι) : FileSystem ι → FileSystem ι → Prop := Changes contents (· ≠ i)

def Guarantee (i : ι) : FileSystem ι → FileSystem ι → Prop := Changes contents (· = i)

/-- There is a regular file at the path, and the process may read it. -/
def Readable (i : ι) (s : FileSystem ι) : Prop :=
  ∃ inode file, s.names .path = some (.file inode) ∧ s.inodes inode = some file ∧
    file.readers i = true

/-- The file that a process writes. -/
structure Mine (i : ι) (temporary : Name) (inode : ℕ) (written : ByteString) (s : FileSystem ι) :
    Prop where
  name : s.names temporary = some (.file inode)
  file : ∃ file, s.inodes inode = some file ∧ file.creator = some i ∧ file.contents = written ∧
    file.readers i = true
  hidden : s.names .path ≠ some (.file inode)

variable {contents}

lemma Readable.changes {i : ι} {s s' : FileSystem ι} (h : Readable i s)
    (hs : Changes contents A s s') : Readable i s' := by
  obtain ⟨inode, file, hname, hfile, hread⟩ := h
  exact ⟨inode, file, hs.kept hname, (hs.unchanged hname).trans hfile, hread⟩

/-- The others leave the file alone, and do not put it at the path. -/
lemma Mine.relied {i : ι} {temporary : Name} {inode : ℕ} {written : ByteString}
    {s s' : FileSystem ι} (h : Mine i temporary inode written s) (hs : Rely contents i s s') :
    Mine i temporary inode written s' := by
  obtain ⟨hname, ⟨file, hfile, hi, hwritten, hread⟩, hhidden⟩ := h
  have hmine : ¬ i ≠ i := not_not.2 rfl
  have hfile' := hs.others hfile hi hmine
  refine ⟨hs.named hname hfile hi hmine, ⟨file, hfile', hi, hwritten, hread⟩, fun hpath => ?_⟩
  cases hold : s.names .path with
  | some node =>
    rw [hs.kept hold] at hpath
    exact hhidden (hold.trans hpath)
  | none =>
    rcases hs.made hold with hnone | ⟨inode', file', j, hj, hname', hmade, hcreator, -, -⟩
    · cases hnone.symm.trans hpath
    · -- what another process made is not the file
      cases hname'.symm.trans hpath
      cases hmade.symm.trans hfile'
      exact hj (Option.some.inj (hcreator.symm.trans hi))

/-- More of the file is written. -/
lemma Mine.write {i : ι} {temporary : Name} {inode : ℕ} {written : ByteString} {s : FileSystem ι}
    (h : Mine i temporary inode written s) {file : RegularFile ι}
    (hfile : s.inodes inode = some file) (more : ByteString) {s' : FileSystem ι}
    (hs' : s' = ⟨s.names, Function.update s.inodes inode
      (some { file with contents := file.contents ++ more }), s.directories⟩) :
    Guarantee contents i s s' ∧ Mine i temporary inode (written ++ more) s' := by
  subst hs'
  obtain ⟨hname, ⟨file', hfile', hi, hwritten, hread⟩, hhidden⟩ := h
  cases hfile.symm.trans hfile'
  refine ⟨⟨fun h => h, fun {inode'} h => ?_, Or.inl, fun {inode' file' j} h hj hA => ?_,
    fun h _ _ _ => h⟩, hname, ⟨_, Function.update_self .., hi, ?_, hread⟩, hhidden⟩
  · have hne : inode' ≠ inode := fun heq => hhidden (heq ▸ h)
    exact Function.update_of_ne hne ..
  · have hne : inode' ≠ inode := by
      rintro rfl
      cases h.symm.trans hfile
      exact hA (Option.some.inj (hj.symm.trans hi))
    exact (Function.update_of_ne hne ..).trans h
  · exact congrArg (· ++ more) hwritten

end changes

/-! ### Each process for itself -/

section processes

variable {contents : ι → ByteString} {i : ι}

/-- What a program of a process does, whatever the others do. -/
abbrev SafeFor {α : Type} (contents : ι → ByteString) (i : ι) (p : Calls α)
    (post : α → FileSystem ι → Prop) (s : FileSystem ι) : Prop :=
  Safe (exec i) (Rely contents i) (Guarantee contents i) p post s

lemma safe_perform {c : SystemCall} {post : c.Result → FileSystem ι → Prop} {s : FileSystem ι}
    (h : ∀ s', Rely contents i s s' → ∀ r s'', exec i c s' r s'' →
      Guarantee contents i s' s'' ∧ ∀ s₃, Rely contents i s'' s₃ → post r s₃) :
    SafeFor contents i (perform c) post s :=
  RelyGuarantee.safe_perform h

lemma safe_bind {α β : Type} {p : Calls α} {f : α → Calls β} {mid : α → FileSystem ι → Prop}
    {post : β → FileSystem ι → Prop} {s : FileSystem ι} (hp : SafeFor contents i p mid s)
    (hf : ∀ a s', mid a s' → SafeFor contents i (f a) post s') :
    SafeFor contents i (p >>= f) post s :=
  hp.bind .refl hf

lemma safe_pure {α : Type} {a : α} {post : α → FileSystem ι → Prop} {s : FileSystem ι}
    (h : ∀ s', post a s') : SafeFor contents i (pure a) post s :=
  RelyGuarantee.safe_done fun s' _ => h s'

/-- **A file that may be read** stays one. -/
lemma isReadableFile_safe (s : FileSystem ι) :
    SafeFor contents i (isReadableFile .path) (fun r s => r = true → Readable i s) s := by
  have hstat : SafeFor contents i (perform (.stat .path))
      (fun r s => r = some true → ∃ inode, s.names .path = some (.file inode)) s := by
    apply safe_perform
    rintro s' - r s'' ⟨rfl, hr⟩
    refine ⟨.refl _, fun s₃ hs hregular => ?_⟩
    rcases hr with rfl | ⟨node, hnode, rfl⟩
    · cases hregular
    · cases node with
      | file inode => exact ⟨inode, hs.kept hnode⟩
      | other => cases hregular
  apply safe_bind hstat
  intro r s' hr
  split
  · obtain ⟨inode, hname⟩ := hr rfl
    apply safe_perform
    rintro s'' hs r s₃ ⟨rfl, hopen⟩
    refine ⟨.refl _, fun s₄ hs' hok => ?_⟩
    obtain ⟨node, hnode, hfile⟩ := hopen hok
    cases (hs.kept hname).symm.trans hnode
    obtain ⟨file, hfile, hread⟩ := hfile inode rfl
    exact Readable.changes ⟨inode, file, hs.kept hname, hfile, hread⟩ hs'
  · exact safe_pure fun _ h => absurd h Bool.false_ne_true

/-- Directories are none of the files. -/
lemma isDirectory_safe (path : ByteString) (s : FileSystem ι) :
    SafeFor contents i (isDirectory path) (fun _ _ => True) s := by
  apply safe_perform
  rintro s' - r s'' ⟨rfl, -⟩
  exact ⟨.refl _, fun _ _ => trivial⟩

lemma makeDirectory_safe (path : ByteString) (s : FileSystem ι) :
    SafeFor contents i (makeDirectory path) (fun _ _ => True) s := by
  have hmkdir : SafeFor contents i (perform (.mkdir path)) (fun _ _ => True) s := by
    apply safe_perform
    rintro s' - r s'' (⟨e, -, rfl⟩ | ⟨-, -, rfl⟩)
    · exact ⟨.refl _, fun _ _ => trivial⟩
    · exact ⟨.of_eq rfl rfl, fun _ _ => trivial⟩
  apply safe_bind hmkdir
  intro r s' _
  split
  · exact safe_pure fun _ => trivial
  · exact isDirectory_safe path s'
  · exact safe_pure fun _ => trivial

lemma createDirectory_safe (path : ByteString) (s : FileSystem ι) :
    SafeFor contents i (createDirectory path) (fun _ _ => True) s := by
  induction path using createDirectory.induct generalizing s with
  | case1 path ih =>
    rw [createDirectory]
    apply safe_bind (isDirectory_safe path s)
    intro there s _
    split
    · exact safe_pure fun _ => trivial
    · have hparent : SafeFor contents i (if _ : parentDirectory path ≠ path ∧
          parentDirectory path ≠ bytesOf "." then
          isDirectory (parentDirectory path) >>= fun there =>
            if there then pure true else createDirectory (parentDirectory path)
          else pure true) (fun _ _ => True) s := by
        split
        · rename_i h
          apply safe_bind (isDirectory_safe _ s)
          intro there s _
          split
          · exact safe_pure fun _ => trivial
          · exact ih h s
        · exact safe_pure fun _ => trivial
      apply safe_bind hparent
      intro created s _
      split
      · exact makeDirectory_safe path s
      · exact safe_pure fun _ => trivial

lemma written_in_part {temporary : Name} {descriptor : ℕ} {written : ByteString} (all : ByteString)
    {s : FileSystem ι} (h : Mine i temporary descriptor written s) :
    SafeFor contents i (pure false) (fun ok s => ∃ w,
      Mine i temporary descriptor w s ∧ (ok = true → w = all)) s :=
  RelyGuarantee.safe_done fun _ hs =>
    ⟨written, h.relied hs, fun hok => absurd hok Bool.false_ne_true⟩

/-- **Writing**: the file has all the data in the end, or some of it. -/
lemma writeAll_safe (temporary : Name) (descriptor : ℕ) (data written : ByteString)
    {s : FileSystem ι} (h : Mine i temporary descriptor written s) :
    SafeFor contents i (writeAll descriptor data) (fun ok s => ∃ w,
      Mine i temporary descriptor w s ∧ (ok = true → w = written ++ data)) s := by
  induction data using writeAll.induct generalizing written s with
  | case1 =>
    rw [writeAll]
    refine RelyGuarantee.safe_done fun s' hs => ⟨written, h.relied hs, fun _ => ?_⟩
    rw [List.append_nil]
  | case2 data hdata ih =>
    have hwrite : SafeFor contents i (perform (.write descriptor data)) (fun r s =>
        Mine i temporary descriptor (written ++ data.take (Option.getD r 0)) s) s := by
      apply safe_perform
      intro s' hs r s'' hexec
      have hmine := h.relied hs
      rcases hexec with ⟨rfl, rfl⟩ | ⟨file, count, rfl, -, hfile, hs''⟩
      · refine ⟨.refl _, fun s₃ hs₃ => ?_⟩
        rw [Option.getD_none, List.take_zero, List.append_nil]
        exact hmine.relied hs₃
      · obtain ⟨hguarantee, hmore⟩ := hmine.write hfile (data.take count) hs''
        exact ⟨hguarantee, fun s₃ hs₃ => hmore.relied hs₃⟩
    rw [writeAll, dif_neg hdata]
    apply safe_bind hwrite
    intro r s' hmine
    split
    · exact written_in_part _ hmine
    · rename_i count
      split
      · exact written_in_part _ hmine
      · rename_i hpos
        refine (ih count hpos (written ++ data.take count) hmine).imp ?_
        rintro ok s'' ⟨w, hw, hall⟩
        refine ⟨w, hw, fun hok => ?_⟩
        rw [hall hok, List.append_assoc, List.take_append_drop]

/-- The name of the file is taken away, and what is at the path is not. -/
lemma unlink_safe {temporary : Name} (hne : temporary ≠ .path) {post : FileSystem ι → Prop}
    (hpost : ∀ s s', Changes contents (fun _ => True) s s' → post s → post s') {s : FileSystem ι}
    (hname : ∃ inode file, s.names temporary = some (.file inode) ∧ s.inodes inode = some file ∧
      file.creator = some i) (h : post s) :
    SafeFor contents i (perform (.unlink temporary)) (fun _ => post) s := by
  apply safe_perform
  intro s' hs r s'' hexec
  have hany {A : ι → Prop} {s s' : FileSystem ι} (h : Changes contents A s s') :
      Changes contents (fun _ => True) s s' := h.mono fun _ _ => trivial
  have hs' := hpost s s' (hany hs) h
  obtain ⟨inode, file, hname, hfile, hi⟩ := hname
  have hname' := hs.named hname hfile hi (not_not.2 rfl)
  have hfile' := hs.others hfile hi (not_not.2 rfl)
  have hguarantee : Guarantee contents i s' s'' := by
    rcases hexec with ⟨-, rfl⟩ | ⟨-, rfl⟩
    · exact .refl _
    · have hpath : Function.update s'.names temporary none .path = s'.names .path :=
        Function.update_of_ne hne.symm ..
      refine ⟨fun h => hpath.trans h, fun _ => rfl, fun h => .inl (hpath.trans h), fun h _ _ => h,
        fun {name inode' file' j} h hf hj hA => ?_⟩
      have hother : name ≠ temporary := by
        rintro rfl
        cases h.symm.trans hname'
        cases hf.symm.trans hfile'
        exact hA (Option.some.inj (hj.symm.trans hi))
      exact (Function.update_of_ne hother ..).trans h
  exact ⟨hguarantee, fun s₃ hs₃ => hpost _ _ (hany hs₃) (hpost _ _ (hany hguarantee) hs')⟩

/-- A file with all the contents may be linked to the path, where it stays; the link is not made if
there is something. -/
lemma link_safe {temporary : Name} {descriptor : ℕ} (hne : temporary ≠ .path) {s : FileSystem ι}
    (h : Mine i temporary descriptor (contents i) s) :
    SafeFor contents i (perform (.link temporary .path)) (fun r s =>
      (∃ inode file, s.names temporary = some (.file inode) ∧ s.inodes inode = some file ∧
        file.creator = some i) ∧ (r = true → Readable i s)) s := by
  apply safe_perform
  intro s' hs r s'' hexec
  obtain ⟨hname, ⟨file, hfile, hi, hwritten, hread⟩, hhidden⟩ := h.relied hs
  have hmine : ¬ i ≠ i := not_not.2 rfl
  rcases hexec with ⟨rfl, rfl⟩ | ⟨inode, rfl, hold, hnew, rfl⟩
  · refine ⟨.refl _, fun s₃ hs₃ => ⟨⟨descriptor, file, hs₃.named hname hfile hi hmine,
      hs₃.others hfile hi hmine, hi⟩, fun hr => absurd hr Bool.false_ne_true⟩⟩
  · cases hold.symm.trans hname
    have hother {name : Name} {node : Node} (h : s'.names name = some node) : name ≠ .path := by
      rintro rfl
      cases h.symm.trans hnew
    have hname' : Function.update s'.names .path (some (.file descriptor)) temporary =
        some (.file descriptor) := (Function.update_of_ne hne ..).trans hname
    have hpath : Function.update s'.names .path (some (.file descriptor)) .path =
        some (.file descriptor) := Function.update_self ..
    refine ⟨⟨fun h => absurd rfl (hother h), fun h => absurd rfl (hother h), fun _ => .inr ⟨descriptor,
      file, i, rfl, hpath, hfile, hi, hwritten, hread⟩, fun h _ _ => h,
      fun h _ _ _ => (Function.update_of_ne (hother h) ..).trans h⟩, fun s₃ hs₃ => ⟨⟨descriptor, file,
      hs₃.named hname' hfile hi hmine, hs₃.others hfile hi hmine, hi⟩, fun _ => ?_⟩⟩
    have hmade : Readable i ⟨Function.update s'.names .path (some (.file descriptor)), s'.inodes,
        s'.directories⟩ := ⟨descriptor, file, hpath, hfile, hread⟩
    exact hmade.changes hs₃

/-- **A file of one's own** is linked with all the contents or not at all. -/
lemma installTemporary_safe {temporary : Name} {descriptor : ℕ} (hne : temporary ≠ .path)
    {s : FileSystem ι} (h : Mine i temporary descriptor [] s) :
    SafeFor contents i (installTemporary temporary descriptor (contents i))
      (fun r s => r = true → Readable i s) s := by
  have hwritten : SafeFor contents i
      (if contents i = [] then pure true else writeAll descriptor (contents i))
      (fun ok s => ∃ w, Mine i temporary descriptor w s ∧ (ok = true → w = contents i)) s := by
    split
    · rename_i hnil
      exact RelyGuarantee.safe_done fun s' hs => ⟨[], h.relied hs, fun _ => hnil.symm⟩
    · exact writeAll_safe temporary descriptor (contents i) [] h
  have howned {w : ByteString} {s : FileSystem ι} (h : Mine i temporary descriptor w s) :
      ∃ inode file, s.names temporary = some (.file inode) ∧ s.inodes inode = some file ∧
        file.creator = some i := by
    obtain ⟨file, hfile, hi, -⟩ := h.file
    exact ⟨descriptor, file, h.name, hfile, hi⟩
  rw [installTemporary]
  apply safe_bind hwritten
  rintro written s ⟨w, hmine, hall⟩
  have hclose : SafeFor contents i (perform (.close descriptor))
      (fun _ s => Mine i temporary descriptor w s) s := by
    apply safe_perform
    rintro s' hs r s'' rfl
    exact ⟨.refl _, fun s₃ hs₃ => (hmine.relied hs).relied hs₃⟩
  apply safe_bind hclose
  intro closed s hmine
  have hlink : SafeFor contents i
      (if written && closed then perform (.link temporary .path) else pure false)
      (fun r s => (∃ inode file, s.names temporary = some (.file inode) ∧
        s.inodes inode = some file ∧ file.creator = some i) ∧ (r = true → Readable i s)) s := by
    split
    · rename_i hboth
      rw [hall (Bool.and_eq_true_iff.1 hboth).1] at hmine
      exact link_safe hne hmine
    · exact RelyGuarantee.safe_done fun s' hs =>
        ⟨howned (hmine.relied hs), fun hr => absurd hr Bool.false_ne_true⟩
  apply safe_bind hlink
  rintro installed s ⟨hname, hreadable⟩
  -- the name is taken away whether there is a link or not
  have hunlink : SafeFor contents i (perform (.unlink temporary))
      (fun _ s => installed = true → Readable i s) s :=
    @unlink_safe ι contents i temporary hne (fun s => installed = true → Readable i s)
      (fun s s' hs h hr => (h hr).changes hs) s hname hreadable
  apply safe_bind hunlink
  intro _ s hreadable
  split
  · rename_i hinstalled
    exact RelyGuarantee.safe_done fun s' hs _ => (hreadable hinstalled).changes hs
  · exact isReadableFile_safe s

/-- **The attempts**: whatever stands under the names that are tried, only a file of one's own is
written and linked. -/
lemma attempts_safe (pid left attempt : ℕ) (s : FileSystem ι) :
    SafeFor contents i (attempts pid (contents i) left attempt)
      (fun r s => r = true → Readable i s) s := by
  induction left generalizing attempt s with
  | zero => exact isReadableFile_safe s
  | succ left ih =>
    have hne : Name.temporary pid attempt ≠ .path := fun h => by cases h
    have hcreate : SafeFor contents i (perform (.create (.temporary pid attempt)))
        (fun r s => ∀ descriptor, r = .ok descriptor →
          Mine i (.temporary pid attempt) descriptor [] s) s := by
      apply safe_perform
      intro s' hs r s'' hexec
      rcases hexec with ⟨e, rfl, rfl⟩ |
        ⟨inode, file, rfl, hfree, hnew, hunnamed, hempty, hi, hread, rfl⟩
      · refine ⟨.refl _, fun s₃ _ descriptor h => ?_⟩
        cases h
      · have hpath : Function.update s'.names (.temporary pid attempt) (some (.file inode)) .path =
            s'.names .path := Function.update_of_ne hne.symm ..
        have hinode {inode' : ℕ} {file' : RegularFile ι} (h : s'.inodes inode' = some file') :
            inode' ≠ inode := by
          rintro rfl
          cases h.symm.trans hnew
        have hname {name : Name} {node : Node} (h : s'.names name = some node) :
            name ≠ .temporary pid attempt := by
          rintro rfl
          cases h.symm.trans hfree
        refine ⟨⟨fun h => hpath.trans h, fun {inode'} h => ?_, fun h => .inl (hpath.trans h),
          fun h _ _ => (Function.update_of_ne (hinode h) ..).trans h,
          fun h _ _ _ => (Function.update_of_ne (hname h) ..).trans h⟩, fun s₃ hs₃ descriptor h => ?_⟩
        · have hother : inode' ≠ inode := fun heq => hunnamed .path (heq ▸ h)
          exact Function.update_of_ne hother ..
        · cases h
          refine Mine.relied ⟨Function.update_self .., ⟨file, Function.update_self .., hi, hempty,
            hread⟩, ?_⟩ hs₃
          exact fun h => hunnamed .path (hpath.symm.trans h)
    rw [attempts]
    apply safe_bind hcreate
    intro r s hmine
    split
    · exact ih (attempt + 1) s
    · exact isReadableFile_safe s
    · exact installTemporary_safe hne (hmine _ rfl)

/-- **A process** that installs its configuration and returns `true` has one that it may read. -/
lemma installFileAtomically_safe (pid : ℕ) (path : ByteString) (s : FileSystem ι) :
    SafeFor contents i (installFileAtomically pid path (contents i))
      (fun r s => r = true → Readable i s) s := by
  rw [installFileAtomically]
  apply safe_bind (isReadableFile_safe s)
  intro readable s hreadable
  split
  · rename_i h
    exact RelyGuarantee.safe_done fun s' hs _ => (hreadable h).changes hs
  · apply safe_bind (createDirectory_safe (parentDirectory path) s)
    intro created s _
    split
    · exact safe_pure fun _ h => absurd h Bool.false_ne_true
    · exact attempts_safe pid 100 0 s

end processes

/-! ### How many calls there are -/

lemma isReadableFile_within (name : Name) : (isReadableFile name).Within 2 := by
  refine Program.Within.bind (n := 1) (m := 1) (Program.within_perform _) fun r => ?_
  split
  · exact Program.within_perform _
  · trivial

lemma makeDirectory_within (path : ByteString) : (makeDirectory path).Within 2 := by
  refine Program.Within.bind (n := 1) (m := 1) (Program.within_perform _) fun r => ?_
  split
  · trivial
  · exact Program.within_perform _
  · trivial

lemma createDirectory_within (path : ByteString) :
    (createDirectory path).Within (4 * path.length + 4) := by
  induction path using createDirectory.induct with
  | case1 path ih =>
    have hrest : 4 * path.length + 4 = 1 + (4 * path.length + 1 + 2) := by omega
    rw [createDirectory, hrest]
    apply Program.Within.bind (Program.within_perform _)
    intro there
    split
    · trivial
    · apply Program.Within.bind
      · split
        · rename_i h
          have hlen := length_parentDirectory h.1 h.2
          rw [Nat.add_comm]
          apply Program.Within.bind (Program.within_perform _)
          intro there
          split
          · trivial
          · exact (ih h).mono (by omega)
        · trivial
      · intro created
        split
        · exact makeDirectory_within path
        · trivial

lemma writeAll_within (descriptor : ℕ) (data : ByteString) :
    (writeAll descriptor data).Within data.length := by
  induction data using writeAll.induct with
  | case1 =>
    rw [writeAll]
    trivial
  | case2 data hdata ih =>
    have hpos := List.length_pos_of_ne_nil hdata
    have hrest : data.length = 1 + (data.length - 1) := by omega
    rw [writeAll, dif_neg hdata, hrest]
    apply Program.Within.bind (Program.within_perform _)
    intro r
    split
    · trivial
    · rename_i count
      split
      · trivial
      · rename_i hcount
        refine (ih count hcount).mono ?_
        rw [List.length_drop]
        omega

lemma installTemporary_within (temporary : Name) (descriptor : ℕ) (contents : ByteString) :
    (installTemporary temporary descriptor contents).Within (contents.length + 5) := by
  apply Program.Within.bind
  · split
    · trivial
    · exact writeAll_within descriptor contents
  · intro written
    refine Program.Within.bind (n := 1) (m := 4) (Program.within_perform _) fun closed => ?_
    refine Program.Within.bind (n := 1) (m := 3) ?_ fun installed => ?_
    · split
      · exact Program.within_perform _
      · trivial
    · refine Program.Within.bind (n := 1) (m := 2) (Program.within_perform _) fun _ => ?_
      split
      · trivial
      · exact isReadableFile_within .path

lemma attempts_within (pid left attempt : ℕ) (contents : ByteString) :
    (attempts pid contents left attempt).Within (left + (contents.length + 5)) := by
  induction left generalizing attempt with
  | zero => exact (isReadableFile_within .path).mono (by omega)
  | succ left ih =>
    have hsum : left + 1 + (contents.length + 5) = 1 + (left + (contents.length + 5)) := by omega
    rw [attempts, hsum]
    apply Program.Within.bind (Program.within_perform _)
    intro r
    split
    · exact ih (attempt + 1)
    · exact (isReadableFile_within .path).mono (by omega)
    · exact (installTemporary_within _ _ contents).mono (by omega)

lemma installFileAtomically_within (pid : ℕ) (path contents : ByteString) :
    (installFileAtomically pid path contents).Within
      (4 * (parentDirectory path).length + contents.length + 111) := by
  have hsum : 4 * (parentDirectory path).length + contents.length + 111 =
      2 + (4 * (parentDirectory path).length + 4 + (100 + (contents.length + 5))) := by omega
  rw [hsum]
  apply Program.Within.bind (isReadableFile_within .path)
  intro readable
  split
  · trivial
  · apply Program.Within.bind (createDirectory_within (parentDirectory path))
    intro created
    split
    · trivial
    · exact attempts_within pid 100 0 contents

/-! ### All of them together -/

section together

variable [DecidableEq ι] (pid : ι → ℕ) (path : ByteString) (contents : ι → ByteString)

/-- Every process is about to install its own configuration. -/
def start (s : FileSystem ι) :
    RelyGuarantee.Configuration ι (FileSystem ι) SystemCall.Result Bool :=
  ⟨s, fun i => some (installFileAtomically (pid i) path (contents i))⟩

/-- In every run the processes stay safe, and change the files only as they may. -/
lemma run_safe
    {c c' : RelyGuarantee.Configuration ι (FileSystem ι) SystemCall.Result Bool} {is : List ι}
    (hrun : Transition.Run (RelyGuarantee.Step exec) c is c')
    (h : RelyGuarantee.AllSafe exec (Rely contents) (Guarantee contents)
      (fun i r s => r = true → Readable i s) c) :
    RelyGuarantee.AllSafe exec (Rely contents) (Guarantee contents)
        (fun i r s => r = true → Readable i s) c' ∧
      Changes contents (fun _ => True) c.state c'.state := by
  refine h.run (fun _ => .refl) (fun _ _ _ _ => .trans) ?_ .refl (fun _ _ _ => .trans) ?_ hrun
  · rintro i j hij s t hs
    exact hs.mono fun k hk => hk ▸ hij
  · rintro i s t hs
    exact hs.mono fun _ _ => trivial

end together

/-- A configuration that is there already. -/
def found : FileSystem Unit :=
  ⟨fun name => if name = .path then some (.file 0) else none,
    fun _ => some ⟨[0x0A], none, fun _ => true⟩, ∅⟩

lemma found_run : ∃ c, Transition.Run (RelyGuarantee.Step exec)
    (start (fun _ => 7) (bytesOf "/softhsm2.conf") (fun _ => []) found) [(), ()] c ∧
      c.state = found ∧ c.threads () = some (.done true) := by
  have hnode : found.names .path = some (.file 0) := rfl
  have hstat : exec () (.stat .path) found (some true) found :=
    ⟨rfl, .inr ⟨.file 0, hnode, rfl⟩⟩
  have hfopen : exec () (.fopen .path) found true found :=
    ⟨rfl, fun _ => ⟨.file 0, hnode, fun _ _ => ⟨_, rfl, rfl⟩⟩⟩
  have hrun : Transition.Run (RelyGuarantee.Step exec) (start (fun _ : Unit => 7)
      (bytesOf "/softhsm2.conf") (fun _ => []) found) [] _ := .nil _
  have hrun' := hrun.snoc (RelyGuarantee.Step.call rfl hstat)
  exact ⟨_, hrun'.snoc (RelyGuarantee.Step.call (Function.update_self ..) hfopen), rfl, rfl⟩

end SoftHSM.SimpleConfigLoader

import SoftHSM.Lib.Transition
import SoftHSM.ObjectStore.OSToken
import Mathlib.Logic.Function.Basic

/-!
Several processes on one token directory, each operation one step. A process that commits
the generation file takes the value it wrote for seen, whether or not it had seen the value
before; so its list of objects is that of the directory from then on exactly if it was so
before.
-/

namespace SoftHSM.OSToken

open Transition

set_option linter.unusedSectionVars false

variable {ι : Type*} [DecidableEq ι]

/-- The directory, and what each process that has the token open keeps of it. -/
structure System (ι : Type*) where
  dir : Directory
  tokens : ι → Option OSToken

inductive Op (ι : Type*)
  | openToken (i : ι)
  | createObject (i : ι) (objectUUID : FileName)
  | deleteObject (i : ι) (object : FileName)
  | getObjects (i : ι)

def System.put (s : System ι) (i : ι) (d : Directory) (t : OSToken) : System ι :=
  ⟨d, Function.update s.tokens i (some t)⟩

/-- One operation of one process; without an open token it does nothing. -/
def exec (s : System ι) : Op ι → System ι
  | .openToken i =>
    let (d, t) := openToken s.dir
    s.put i d t
  | .createObject i objectUUID =>
    match s.tokens i with
    | none => s
    | some t =>
      let (d, t) := createObject objectUUID s.dir t
      s.put i d t
  | .deleteObject i object =>
    match s.tokens i with
    | none => s
    | some t =>
      let (_, d, t) := deleteObject object s.dir t
      s.put i d t
  | .getObjects i =>
    match s.tokens i with
    | none => s
    | some t => s.put i s.dir (getObjects s.dir t).1

/-- The generation on disk has not come to its last value. -/
def Unwrapped (d : Directory) : Prop := ∀ v, d.generation = some v → v.toNat + 1 < 2 ^ 64

/-- New objects get names that nobody has met (UUIDs), and the generation does not wrap. -/
def Allowed (s : System ι) : Op ι → Prop
  | .createObject _ objectUUID =>
    isObjectFile (objectUUID ++ dotObject) = true ∧ objectUUID ++ dotObject ∉ s.dir.files ∧
      (∀ j t, s.tokens j = some t → objectUUID ++ dotObject ∉ t.currentFiles) ∧
      Unwrapped s.dir
  | .deleteObject _ _ => Unwrapped s.dir
  | _ => True

/-- `getObjects` returns the objects of the directory, in every process. -/
def Agreement (s : System ι) : Prop :=
  ∀ i t, s.tokens i = some t → (getObjects s.dir t).2 = listing s.dir

/-- A process that creates an object, or deletes one that is there, knows the objects of the
directory before. -/
def UpToDate (s : System ι) : Op ι → Prop
  | .createObject i _ => ∀ t, s.tokens i = some t → t.objects = listing s.dir
  | .deleteObject i object => ∀ t, s.tokens i = some t → object ∈ t.objects →
      object ∈ s.dir.files → t.objects = listing s.dir
  | _ => True

/-- What holds of one process in every run. -/
structure Known (d : Directory) (t : OSToken) : Prop where
  objects : ∀ f ∈ t.objects, isObjectFile f = true ∧ f ∈ t.currentFiles
  files : ∀ f ∈ listing d, f ∈ t.currentFiles → f ∈ t.objects
  seen : ∃ v, d.generation = some v ∧ t.currentValue ≤ v

/-- What holds in every run. -/
structure Inv (s : System ι) : Prop where
  locks : ∀ f ∈ listing s.dir, lockName f ∈ s.dir.files
  known : ∀ i t, s.tokens i = some t → Known s.dir t

lemma mem_listing {d : Directory} {f : FileName} :
    f ∈ listing d ↔ f ∈ d.files ∧ isObjectFile f = true := by
  simp [listing]

/-- Where the directory is read, the list becomes its list. -/
lemma objects_index {d : Directory} {t : OSToken} (h : Known d t) :
    (t.objects ∪ (listing d \ t.currentFiles)).filter (fun f => f ∉ t.currentFiles \ listing d) =
      listing d := by
  ext f
  simp only [Finset.mem_filter, Finset.mem_union, Finset.mem_sdiff, not_and, not_not]
  constructor
  · rintro ⟨hf | hf, hr⟩
    · exact hr (h.objects f hf).2
    · exact hf.1
  · intro hf
    refine ⟨?_, fun _ => hf⟩
    by_cases hc : f ∈ t.currentFiles
    · exact .inl (h.files f hf hc)
    · exact .inr ⟨hf, hc⟩

/-- **What `getObjects` returns.** The list of the directory, unless the process has seen its
generation; then the list it has. -/
theorem getObjects_cases {d : Directory} {t : OSToken} (h : Known d t) :
    d.generation = some t.currentValue ∧ getObjects d t = (t, t.objects) ∨
    d.generation ≠ some t.currentValue ∧ ∃ v, d.generation = some v ∧
      getObjects d t = (⟨v, listing d, listing d⟩, listing d) := by
  obtain ⟨v, hv, -⟩ := h.seen
  have hobj := objects_index h
  by_cases hne : v = t.currentValue
  · left
    subst hne
    exact ⟨hv, by simp [getObjects, index, wasUpdated, hv]⟩
  · right
    refine ⟨by simpa [hv] using hne, v, hv, ?_⟩
    simp only [getObjects, index, wasUpdated, hv, bne_iff_ne, ne_eq, hne, not_false_eq_true,
      if_true, Bool.false_eq_true, if_false, Bool.not_true, hobj]

/-- The processes whose generation is that on disk have the list of the directory. -/
def Coherent (s : System ι) : Prop :=
  ∀ i t, s.tokens i = some t → s.dir.generation = some t.currentValue → t.objects = listing s.dir

lemma agreement_iff_coherent {s : System ι} (h : Inv s) : Agreement s ↔ Coherent s := by
  constructor
  · intro ha i t ht hg
    rcases getObjects_cases (h.known i t ht) with ⟨-, he⟩ | ⟨hne, -⟩
    · have := ha i t ht
      rwa [he] at this
    · exact absurd hg hne
  · intro hc i t ht
    rcases getObjects_cases (h.known i t ht) with ⟨hg, he⟩ | ⟨-, v, -, he⟩
    · rw [he]
      exact hc i t ht hg
    · rw [he]

/-! ### One operation -/

lemma bump_toNat {v : UInt64} (h : v.toNat + 1 < 2 ^ 64) : (bump v).toNat = v.toNat + 1 := by
  have hadd : (v + 1).toNat = v.toNat + 1 := by
    rw [UInt64.toNat_add]
    exact Nat.mod_eq_of_lt h
  have hne : v + 1 ≠ 0 := by
    intro h0
    rw [h0] at hadd
    have : (0 : UInt64).toNat = 0 := rfl
    omega
  rw [bump, if_neg hne, hadd]

lemma lt_bump {v w : UInt64} (h : v.toNat + 1 < 2 ^ 64) (hw : w ≤ v) : w ≠ bump v ∧ w ≤ bump v := by
  have hb := bump_toNat h
  rw [UInt64.le_iff_toNat_le] at hw ⊢
  refine ⟨fun he => ?_, by omega⟩
  rw [he] at hw
  omega

lemma tokens_put (s : System ι) (i j : ι) (d : Directory) (t : OSToken) :
    (s.put i d t).tokens j = if j = i then some t else s.tokens j := by
  simp only [System.put, Function.update_apply]

lemma inv_put {s : System ι} {i : ι} {d : Directory} {t : OSToken}
    (hl : ∀ f ∈ listing d, lockName f ∈ d.files) (ht : Known d t)
    (ho : ∀ j u, s.tokens j = some u → Known d u) : Inv (s.put i d t) where
  locks := hl
  known j u hu := by
    rw [tokens_put] at hu
    split at hu
    · exact Option.some.inj hu ▸ ht
    · exact ho j u hu

/-- An operation in which nobody but the process itself can have seen the new generation is
coherent exactly if its own list is that of the directory. -/
lemma coherent_put_iff {s : System ι} {i : ι} {d : Directory} {t : OSToken}
    (hg : d.generation = some t.currentValue)
    (ho : ∀ j u, j ≠ i → s.tokens j = some u → d.generation = some u.currentValue →
      u.objects = listing d) :
    Coherent (s.put i d t) ↔ t.objects = listing d := by
  constructor
  · intro h
    exact h i t (by rw [tokens_put, if_pos rfl]) hg
  · intro h j u hu hgu
    rw [tokens_put] at hu
    split at hu
    · exact Option.some.inj hu ▸ h
    · rename_i hne
      exact ho j u hne hu hgu

lemma known_current {d : Directory} {v : UInt64} (hg : d.generation = some v) :
    Known d ⟨v, listing d, listing d⟩ :=
  ⟨fun _ hf => ⟨(mem_listing.1 hf).2, hf⟩, fun _ _ hf => hf, v, hg, UInt64.le_refl _⟩

lemma inv_getObjects {s : System ι} (h : Inv s) (i : ι) : Inv (exec s (.getObjects i)) := by
  simp only [exec]
  rcases ht : s.tokens i with _ | t <;> simp only
  · exact h
  refine inv_put h.locks ?_ h.known
  rcases getObjects_cases (h.known i t ht) with ⟨-, he⟩ | ⟨-, v, hv, he⟩ <;> rw [he]
  · exact h.known i t ht
  · exact known_current hv

lemma coherent_getObjects {s : System ι} (h : Inv s) (hc : Coherent s) (i : ι) :
    Coherent (exec s (.getObjects i)) := by
  simp only [exec]
  rcases ht : s.tokens i with _ | t <;> simp only
  · exact hc
  rcases getObjects_cases (h.known i t ht) with ⟨hg, he⟩ | ⟨-, v, hv, he⟩ <;> rw [he]
  · exact (coherent_put_iff hg fun j u _ hu => hc j u hu).2 (hc i t ht hg)
  · exact (coherent_put_iff hv fun j u _ hu => hc j u hu).2 rfl

/-- The constructor leaves a generation that is on disk as it is. -/
lemma openToken_cases (d : Directory) :
    ∃ v, openToken d = (⟨d.files, some v⟩, ⟨v, listing d, listing d⟩) ∧
      (d.generation = none ∨ d.generation = some v) := by
  obtain ⟨files, _ | v⟩ := d
  · refine ⟨bump 0, ?_, .inl rfl⟩
    simp [openToken, commit, index, listing]
  · refine ⟨v, ?_, .inr rfl⟩
    simp [openToken, commit, index, listing]

lemma open_step {s : System ι} (h : Inv s) (hc : Coherent s) (i : ι) :
    Inv (exec s (.openToken i)) ∧ Coherent (exec s (.openToken i)) := by
  obtain ⟨v, he, hg⟩ := openToken_cases s.dir
  simp only [exec, he]
  -- a process that has the token open has seen a generation, so there is one
  have hsame : ∀ j u, s.tokens j = some u → s.dir.generation = some v := by
    intro j u hu
    obtain ⟨w, hw, -⟩ := (h.known j u hu).seen
    rcases hg with hg | hg
    · rw [hw] at hg
      cases hg
    · exact hg
  have hdir : ∀ j u, s.tokens j = some u → (⟨s.dir.files, some v⟩ : Directory) = s.dir := by
    intro j u hu
    rw [← hsame j u hu]
  refine ⟨inv_put h.locks (known_current rfl) fun j u hu => ?_, ?_⟩
  · rw [hdir j u hu]
    exact h.known j u hu
  · refine (coherent_put_iff rfl fun j u _ hu hgu => ?_).2 rfl
    rw [hdir j u hu] at hgu ⊢
    exact hc j u hu hgu

lemma listing_create {fs : Finset FileName} {g h : Option UInt64} {o l : FileName}
    (ho : isObjectFile o = true) (hl : isObjectFile l = false) :
    listing ⟨insert o (insert l fs), g⟩ = insert o (listing ⟨fs, h⟩) := by
  ext f
  simp only [mem_listing, Finset.mem_insert]
  constructor
  · rintro ⟨rfl | rfl | hf, hobj⟩
    · exact .inl rfl
    · rw [hl] at hobj
      cases hobj
    · exact .inr ⟨hf, hobj⟩
  · rintro (rfl | ⟨hf, hobj⟩)
    · exact ⟨.inl rfl, ho⟩
    · exact ⟨.inr (.inr hf), hobj⟩

lemma listing_delete {fs : Finset FileName} {g h : Option UInt64} {o l : FileName}
    (hl : isObjectFile l = false) :
    listing ⟨(fs.erase o).erase l, g⟩ = (listing ⟨fs, h⟩).erase o := by
  ext f
  simp only [mem_listing, Finset.mem_erase, and_assoc]
  constructor
  · rintro ⟨-, hfo, hf, hobj⟩
    exact ⟨hfo, hf, hobj⟩
  · rintro ⟨hfo, hf, hobj⟩
    refine ⟨?_, hfo, hf, hobj⟩
    rintro rfl
    rw [hl] at hobj
    cases hobj

lemma createObject_eq {d : Directory} {t : OSToken} {v : UInt64} (hv : d.generation = some v)
    (u : FileName) :
    createObject u d t =
      (⟨insert (u ++ dotObject) (insert (u ++ dotLock) d.files), some (bump v)⟩,
        ⟨bump v, insert (u ++ dotObject) t.currentFiles, insert (u ++ dotObject) t.objects⟩) := by
  simp [createObject, commit, hv]

lemma create_step {s : System ι} (h : Inv s) (hc : Coherent s) {i : ι} {u : FileName}
    (ha : Allowed s (.createObject i u)) :
    Inv (exec s (.createObject i u)) ∧
      (UpToDate s (.createObject i u) ↔ Coherent (exec s (.createObject i u))) := by
  obtain ⟨hobj, hfresh, hunknown, hwrap⟩ := ha
  rcases ht : s.tokens i with _ | t
  · simp [exec, UpToDate, ht, h, hc]
  obtain ⟨v, hv, hle⟩ := (h.known i t ht).seen
  have hlt := hwrap v hv
  simp only [exec, UpToDate, ht, createObject_eq hv, Option.some.injEq, forall_eq']
  have hlist := @listing_create s.dir.files (some (bump v)) s.dir.generation _ _ hobj
    (not_isObjectFile_lock u)
  change listing _ = insert _ (listing s.dir) at hlist
  have hnot : u ++ dotObject ∉ listing s.dir := fun hm => hfresh (mem_listing.1 hm).1
  have hnot' : u ++ dotObject ∉ t.objects := fun hm =>
    hunknown i t ht ((h.known i t ht).objects _ hm).2
  refine ⟨inv_put ?_ ⟨?_, ?_, bump v, rfl, UInt64.le_refl _⟩ fun j w hw => ?_, ?_⟩
  · intro f hf
    rw [hlist] at hf
    rcases Finset.mem_insert.1 hf with rfl | hf
    · rw [lockName_append]
      simp
    · exact Finset.mem_insert_of_mem (Finset.mem_insert_of_mem (h.locks f hf))
  · intro f hf
    rcases Finset.mem_insert.1 hf with rfl | hf
    · exact ⟨hobj, Finset.mem_insert_self _ _⟩
    · obtain ⟨h1, h2⟩ := (h.known i t ht).objects f hf
      exact ⟨h1, Finset.mem_insert_of_mem h2⟩
  · intro f hf hcur
    rw [hlist] at hf
    rcases Finset.mem_insert.1 hf with rfl | hf
    · exact Finset.mem_insert_self _ _
    rcases Finset.mem_insert.1 hcur with rfl | hcur
    · exact absurd hf hnot
    · exact Finset.mem_insert_of_mem ((h.known i t ht).files f hf hcur)
  · obtain ⟨v', hv', hle'⟩ := (h.known j w hw).seen
    obtain rfl : v = v' := Option.some.inj (hv.symm.trans hv')
    refine ⟨(h.known j w hw).objects, fun f hf hcur => ?_, bump v, rfl, (lt_bump hlt hle').2⟩
    rw [hlist] at hf
    rcases Finset.mem_insert.1 hf with rfl | hf
    · exact absurd hcur (hunknown j w hw)
    · exact (h.known j w hw).files f hf hcur
  · rw [coherent_put_iff rfl, hlist]
    · constructor
      · intro he
        rw [he]
      · intro he
        change insert _ t.objects = _ at he
        rw [← Finset.erase_insert hnot', he, Finset.erase_insert hnot]
    · intro j w _ hw hg
      obtain ⟨v', hv', hle'⟩ := (h.known j w hw).seen
      obtain rfl : v = v' := Option.some.inj (hv.symm.trans hv')
      exact absurd (Option.some.inj hg).symm (lt_bump hlt hle').1

/-- A deletion that goes through, and one that does not. -/
lemma deleteObject_cases {s : System ι} (h : Inv s) {i : ι} {t : OSToken}
    (ht : s.tokens i = some t) {v : UInt64} (hv : s.dir.generation = some v) (o : FileName) :
    deleteObject o s.dir t = (false, s.dir, t) ∧ ¬ (o ∈ t.objects ∧ o ∈ s.dir.files) ∨
    (o ∈ t.objects ∧ o ∈ s.dir.files) ∧ isObjectFile o = true ∧ deleteObject o s.dir t =
      (true, ⟨(s.dir.files.erase o).erase (lockName o), some (bump v)⟩,
        ⟨bump v, t.currentFiles, t.objects.erase o⟩) := by
  by_cases ho : o ∈ t.objects
  · by_cases hf : o ∈ s.dir.files
    · right
      have hobj := ((h.known i t ht).objects o ho).1
      have hlock := h.locks o (mem_listing.2 ⟨hf, hobj⟩)
      have hne : lockName o ≠ o := by
        intro he
        have := lockName_not_object hobj
        rw [he, hobj] at this
        cases this
      refine ⟨⟨ho, hf⟩, hobj, ?_⟩
      simp [deleteObject, ho, hf, hlock, hne, commit, hv]
    · left
      simp [deleteObject, ho, hf]
  · left
    simp [deleteObject, ho]

lemma delete_step {s : System ι} (h : Inv s) (hc : Coherent s) {i : ι} {o : FileName}
    (ha : Allowed s (.deleteObject i o)) :
    Inv (exec s (.deleteObject i o)) ∧
      (UpToDate s (.deleteObject i o) ↔ Coherent (exec s (.deleteObject i o))) := by
  rcases ht : s.tokens i with _ | t
  · simp [exec, UpToDate, ht, h, hc]
  obtain ⟨v, hv, hle⟩ := (h.known i t ht).seen
  have hlt := ha v hv
  simp only [exec, UpToDate, ht, Option.some.injEq, forall_eq']
  rcases deleteObject_cases h ht hv o with ⟨he, hn⟩ | ⟨⟨ho, hf⟩, hobj, he⟩ <;> rw [he]
  · -- nothing was deleted, and nothing changes
    have hsame : s.put i s.dir t = s := by
      simp [System.put, ← ht]
    simp only [hsame]
    exact ⟨h, fun _ => hc, fun _ h1 h2 => absurd ⟨h1, h2⟩ hn⟩
  have hlist := @listing_delete s.dir.files (some (bump v)) s.dir.generation o _
    (lockName_not_object hobj)
  change listing _ = (listing s.dir).erase o at hlist
  refine ⟨inv_put ?_ ⟨?_, ?_, bump v, rfl, UInt64.le_refl _⟩ fun j w hw => ?_, ?_⟩
  · intro f hf'
    rw [hlist] at hf'
    obtain ⟨hfo, hfl⟩ := Finset.mem_erase.1 hf'
    have hfobj := (mem_listing.1 hfl).2
    refine Finset.mem_erase.2 ⟨fun he => hfo (lockName_inj hfobj hobj he),
      Finset.mem_erase.2 ⟨?_, h.locks f hfl⟩⟩
    rintro rfl
    have := lockName_not_object hfobj
    rw [hobj] at this
    cases this
  · intro f hf'
    exact (h.known i t ht).objects f (Finset.mem_of_mem_erase hf')
  · intro f hf' hcur
    rw [hlist] at hf'
    obtain ⟨hfo, hfl⟩ := Finset.mem_erase.1 hf'
    exact Finset.mem_erase.2 ⟨hfo, (h.known i t ht).files f hfl hcur⟩
  · obtain ⟨v', hv', hle'⟩ := (h.known j w hw).seen
    obtain rfl : v = v' := Option.some.inj (hv.symm.trans hv')
    refine ⟨(h.known j w hw).objects, fun f hf' hcur => ?_, bump v, rfl, (lt_bump hlt hle').2⟩
    rw [hlist] at hf'
    exact (h.known j w hw).files f (Finset.mem_of_mem_erase hf') hcur
  · have hol : o ∈ listing s.dir := mem_listing.2 ⟨hf, hobj⟩
    rw [coherent_put_iff rfl, hlist]
    · constructor
      · intro hall
        rw [hall ho hf]
      · intro he' _ _
        change t.objects.erase o = _ at he'
        rw [← Finset.insert_erase ho, he', Finset.insert_erase hol]
    · intro j w _ hw hg
      obtain ⟨v', hv', hle'⟩ := (h.known j w hw).seen
      obtain rfl : v = v' := Option.some.inj (hv.symm.trans hv')
      exact absurd (Option.some.inj hg).symm (lt_bump hlt hle').1

/-! ### Runs -/

/-- A directory that nobody has open, in which every object has its lock file. -/
structure Start (s : System ι) : Prop where
  locks : ∀ f ∈ listing s.dir, lockName f ∈ s.dir.files
  closed : ∀ i, s.tokens i = none

lemma Start.inv {s : System ι} (h : Start s) : Inv s :=
  ⟨h.locks, fun i t ht => by rw [h.closed i] at ht; cases ht⟩

/-- **One operation of any process.** -/
theorem exec_step {s : System ι} {op : Op ι} (h : Inv s) (hc : Coherent s) (ha : Allowed s op) :
    Inv (exec s op) ∧ (UpToDate s op ↔ Coherent (exec s op)) := by
  cases op with
  | openToken i =>
    obtain ⟨hi, hci⟩ := open_step h hc i
    exact ⟨hi, fun _ => hci, fun _ => trivial⟩
  | createObject i u => exact create_step h hc ha
  | deleteObject i o => exact delete_step h hc ha
  | getObjects i => exact ⟨inv_getObjects h i, fun _ => coherent_getObjects h hc i, fun _ => trivial⟩

/-- **Agreement between processes.** `getObjects` returns the objects of the directory, in
every process and every state of a run, exactly if every process that creates or deletes an
object knows, before it does so, the objects that the directory has. -/
theorem agreement_iff {s : System ι} (h : Start s) {ops : List (Op ι)}
    (ha : AllAllowed Allowed exec s ops) :
    AllAllowed UpToDate exec s ops ↔ EveryState Agreement exec s ops := by
  refine allAllowed_iff_everyState (I := Inv) (fun s op hi hp hop => ?_) h.inv ?_ ha
  · have hc := (agreement_iff_coherent hi).1 hp
    obtain ⟨hnext, hiff⟩ := exec_step hi hc hop
    exact ⟨hnext, hiff.trans (agreement_iff_coherent hnext).symm⟩
  · intro i t ht
    rw [h.closed i] at ht
    cases ht

/-- A new token, whose directory holds the token object and the generation file. -/
def newToken : System Bool where
  dir := ⟨{tokenObject, ['t', 'o', 'k', 'e', 'n'] ++ dotLock, "generation".toList}, some 1⟩
  tokens _ := none

lemma start_newToken : Start newToken where
  locks f hf := by
    have hnone : listing newToken.dir = ∅ := by decide
    rw [hnone] at hf
    cases hf
  closed _ := rfl

/-- Two processes that create an object each, one after the other. -/
def twoCreates : List (Op Bool) :=
  [.openToken false, .openToken true, .createObject true ['b'], .createObject false ['a']]

lemma allowed_twoCreates : AllAllowed Allowed exec newToken twoCreates := by
  have hwrap : ∀ d : Directory, (∃ v, d.generation = some v ∧ v.toNat < 10) → Unwrapped d := by
    rintro d ⟨v, hv, hlt⟩ w hw
    obtain rfl := Option.some.inj (hv.symm.trans hw)
    omega
  refine ⟨trivial, trivial, ⟨by decide, by decide, ?_, hwrap _ ⟨1, rfl, by decide⟩⟩,
    ⟨by decide, by decide, ?_, hwrap _ ⟨2, rfl, by decide⟩⟩, trivial⟩
  all_goals
    intro j t ht
    cases j <;> cases ht <;> decide

theorem agreement_iff_twoCreates :
    AllAllowed UpToDate exec newToken twoCreates ↔ EveryState Agreement exec newToken twoCreates :=
  agreement_iff start_newToken allowed_twoCreates

/-- The process that creates `a` after another one created `b` does not see `b`. -/
theorem missed_object :
    ¬ ∀ ops : List (Op Bool), AllAllowed Allowed exec newToken ops →
      EveryState Agreement exec newToken ops := by
  intro h
  obtain ⟨-, -, -, -, hlast⟩ := h twoCreates allowed_twoCreates
  have hmine := hlast false _ rfl
  have hsees : ['b'] ++ dotObject ∈
      listing (twoCreates.foldl exec newToken).dir := by decide
  change _ = listing (twoCreates.foldl exec newToken).dir at hmine
  rw [← hmine] at hsees
  revert hsees
  decide

end SoftHSM.OSToken

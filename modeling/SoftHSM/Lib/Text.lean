import Mathlib.Data.List.DropRight
import Mathlib.Data.Nat.Notation
import Mathlib.Algebra.GroupWithZero.Nat
import Mathlib.Data.Nat.Init
import Mathlib.Tactic.Common

/-!
Text as a list of characters: trimming what is blank at both ends, taking tokens between
separators, and reading a stream of lines through a buffer that is shorter than a line can be.
-/

namespace Text

variable {α : Type}

/-! ### Trimming -/

section trim

variable (space : α → Bool) {x y l m : List α}

/-- Nothing but white space. -/
def Blank (l : List α) : Prop := ∀ a ∈ l, space a = true

/-- What is not white space. -/
def solid (l : List α) : List α := l.filter fun a => !space a

/-- What there is without the white space at both ends. -/
def trim (l : List α) : Option (List α) :=
  let trimmed := (l.dropWhile space).rdropWhile space
  if trimmed = [] then none else some trimmed

variable {space}

lemma blank_append : Blank space (x ++ y) ↔ Blank space x ∧ Blank space y := by
  simp [Blank, or_imp, forall_and]

lemma Blank.of_subset (h : Blank space y) (hx : x ⊆ y) : Blank space x := fun a ha => h a (hx ha)

lemma blank_iff_solid : Blank space x ↔ solid space x = [] := by
  simp [Blank, solid, List.filter_eq_nil_iff]

lemma solid_append : solid space (x ++ y) = solid space x ++ solid space y := List.filter_append ..

lemma solid_dropWhile : solid space (l.dropWhile space) = solid space l := by
  induction l with
  | nil => rfl
  | cons a l ih =>
    by_cases ha : space a
    · rw [List.dropWhile_cons_of_pos ha, ih]
      simp [solid, ha]
    · rw [List.dropWhile_cons_of_neg ha]

lemma solid_rdropWhile : solid space (l.rdropWhile space) = solid space l := by
  have h := @solid_dropWhile _ space l.reverse
  rw [List.rdropWhile, solid, List.filter_reverse]
  rw [solid, solid, List.filter_reverse] at h
  rw [h, List.reverse_reverse]
  rfl

/-- **Trimming** keeps what is not white space. -/
lemma solid_trim (h : trim space l = some m) : solid space m = solid space l := by
  rw [trim] at h
  split at h
  · cases h
  · cases h
    rw [solid_rdropWhile, solid_dropWhile]

lemma trim_eq_none : trim space l = none ↔ Blank space l := by
  rw [trim]
  constructor
  · intro h
    split at h
    · rename_i hnil
      rw [blank_iff_solid, ← solid_dropWhile, ← solid_rdropWhile, hnil]
      rfl
    · cases h
  · intro h
    have hnil : l.dropWhile space = [] := List.dropWhile_eq_nil_iff.2 fun a ha => h a ha
    rw [hnil, List.rdropWhile_nil, if_pos rfl]

lemma trim_blank_append (h : Blank space x) : trim space (x ++ y) = trim space y := by
  rw [trim, List.dropWhile_append_of_pos (fun a ha => h a ha)]
  rfl

lemma rdropWhile_append_blank (h : Blank space y) :
    (x ++ y).rdropWhile space = x.rdropWhile space := by
  have hrev : ∀ a ∈ y.reverse, space a = true := fun a ha => h a (List.mem_reverse.1 ha)
  rw [List.rdropWhile, List.reverse_append, List.dropWhile_append_of_pos hrev]
  rfl

lemma trim_append_blank (h : Blank space y) : trim space (x ++ y) = trim space x := by
  by_cases hx : Blank space x
  · rw [trim_eq_none.2 hx, trim_eq_none.2 (blank_append.2 ⟨hx, h⟩)]
  · have hne : x.dropWhile space ≠ [] := fun hnil => hx fun a ha =>
      List.dropWhile_eq_nil_iff.1 hnil a ha
    have happ : (x ++ y).dropWhile space = x.dropWhile space ++ y := by
      rw [List.dropWhile_append, if_neg (by simpa using hne)]
    rw [trim, happ, rdropWhile_append_blank h]
    rfl

/-- What a longer text is trimmed to is in its shorter part only where the rest is blank. -/
lemma blank_of_trim (h : trim space (x ++ y) = some m) (hm : trim space x = some m) :
    Blank space y := by
  have h := solid_trim h
  rw [solid_append, solid_trim hm] at h
  exact blank_iff_solid.2 (List.self_eq_append_right.1 h)

lemma blank_of_trim' (h : trim space (x ++ y) = some m) (hm : trim space y = some m) :
    Blank space x := by
  have h := solid_trim h
  rw [solid_append, solid_trim hm] at h
  exact blank_iff_solid.2 (List.self_eq_append_left.1 h)

/-- A character that is not white space is in what a text is trimmed to as it is in the text. -/
lemma mem_trim {a : α} (h : trim space l = some m) (ha : space a = false) : a ∈ m ↔ a ∈ l := by
  have hs : a ∈ solid space m ↔ a ∈ solid space l := by rw [solid_trim h]
  simpa [solid, ha] using hs

end trim

/-! ### Tokens -/

section tokens

variable [DecidableEq α] (delim : α) {x y l : List α}

/-- The next token, and what is behind the separator that ends it. -/
def strtok (l : List α) : Option (List α × List α) :=
  match l.dropWhile (· = delim) with
  | [] => none
  | a :: l => some ((a :: l).takeWhile (· ≠ delim), ((a :: l).dropWhile (· ≠ delim)).tail)

variable {delim}

lemma ne_delim (h : delim ∉ l) : ∀ a ∈ l, decide (a ≠ delim) = true := by
  intro a ha
  rw [decide_eq_true_eq]
  rintro rfl
  exact h ha

lemma takeWhile_append_cons (h : delim ∉ x) :
    (x ++ delim :: y).takeWhile (· ≠ delim) = x := by
  rw [List.takeWhile_append_of_pos (ne_delim h)]
  simp

lemma dropWhile_append_cons (h : delim ∉ x) :
    (x ++ delim :: y).dropWhile (· ≠ delim) = delim :: y := by
  rw [List.dropWhile_append_of_pos (ne_delim h)]
  simp

lemma takeWhile_eq_self (h : delim ∉ l) : l.takeWhile (· ≠ delim) = l :=
  List.takeWhile_eq_self_iff.2 (ne_delim h)

lemma dropWhile_eq_nil (h : delim ∉ l) : l.dropWhile (· ≠ delim) = [] :=
  List.dropWhile_eq_nil_iff.2 (ne_delim h)

/-- **A token** that was taken stands behind separators, and at the end or before one. -/
lemma of_strtok {token rest : List α} (h : strtok delim l = some (token, rest)) :
    ∃ n, token ≠ [] ∧ delim ∉ token ∧
      (l = List.replicate n delim ++ token ∧ rest = [] ∨
        l = List.replicate n delim ++ (token ++ delim :: rest)) := by
  have hdrop : ∃ n, l = List.replicate n delim ++ l.dropWhile (· = delim) := by
    refine ⟨(l.takeWhile (· = delim)).length, ?_⟩
    have hall : l.takeWhile (· = delim) = List.replicate (l.takeWhile (· = delim)).length delim :=
      List.eq_replicate_of_mem fun a ha => by simpa using List.mem_takeWhile_imp ha
    rw [← hall, List.takeWhile_append_dropWhile]
  obtain ⟨n, hn⟩ := hdrop
  rw [strtok] at h
  split at h
  · cases h
  · rename_i a l' hl
    have ha : a ≠ delim := by
      have hhead := List.head?_dropWhile_not (· = delim) l
      rw [hl] at hhead
      simpa using hhead
    cases h
    refine ⟨n, ?_, ?_, ?_⟩
    · rw [List.takeWhile_cons_of_pos (by simpa using ha)]
      exact List.cons_ne_nil _ _
    · intro hmem
      simpa using List.mem_takeWhile_imp hmem
    · rw [hn, hl]
      by_cases hd : delim ∈ a :: l'
      · obtain ⟨x, y, hxy, hx⟩ := List.eq_append_cons_of_mem hd
        refine .inr ?_
        rw [hxy, takeWhile_append_cons hx, dropWhile_append_cons hx, List.tail_cons]
      · exact .inl ⟨by rw [takeWhile_eq_self hd], by rw [dropWhile_eq_nil hd, List.tail_nil]⟩

lemma strtok_replicate (n : ℕ) : strtok delim (List.replicate n delim ++ l) = strtok delim l := by
  have hall : ∀ a ∈ List.replicate n delim, decide (a = delim) = true := fun a ha => by
    rw [List.eq_of_mem_replicate ha, decide_eq_true rfl]
  rw [strtok, List.dropWhile_append_of_pos hall]
  rfl

/-- A token that a separator ends. -/
lemma strtok_append_cons (hne : x ≠ []) (h : delim ∉ x) :
    strtok delim (x ++ delim :: y) = some (x, y) := by
  obtain ⟨a, x, rfl⟩ := List.exists_cons_of_ne_nil hne
  have ha : a ≠ delim := fun he => h (he ▸ List.mem_cons_self ..)
  have hdrop : (a :: x ++ delim :: y).dropWhile (· = delim) = a :: x ++ delim :: y := by
    rw [List.cons_append, List.dropWhile_cons_of_neg (by simpa using ha)]
  rw [strtok, hdrop]
  dsimp only [List.cons_append]
  rw [← List.cons_append, takeWhile_append_cons h, dropWhile_append_cons h, List.tail_cons]

/-- A token that the text ends with. -/
lemma strtok_of_not_mem (hne : l ≠ []) (h : delim ∉ l) : strtok delim l = some (l, []) := by
  obtain ⟨a, x, rfl⟩ := List.exists_cons_of_ne_nil hne
  have ha : a ≠ delim := fun he => h (he ▸ List.mem_cons_self ..)
  rw [strtok, List.dropWhile_cons_of_neg (by simpa using ha)]
  dsimp only
  rw [takeWhile_eq_self h, dropWhile_eq_nil h, List.tail_nil]

end tokens

/-! ### Lines through a buffer -/

section lines

variable [DecidableEq α] (newline : α) (n : ℕ) [NeZero n] {x y l rest : List α}

/-- How much of what there is place for is taken: up to a newline and with it. -/
def extent (head : List α) : ℕ :=
  if newline ∈ head then (head.takeWhile (· ≠ newline)).length + 1 else head.length

/-- A read takes the characters up to a newline and with it, but no more than so many. -/
def fgets (stream : List α) : Option (List α × List α) :=
  if stream = [] then none
  else
    let len := extent newline (stream.take n)
    some (stream.take len, stream.drop len)

variable {newline n}

lemma fgets_lt {stream piece : List α} (h : fgets newline n stream = some (piece, rest)) :
    rest.length < stream.length := by
  have hn : 0 < n := Nat.pos_of_ne_zero (NeZero.ne n)
  rw [fgets] at h
  split at h
  · cases h
  · rename_i hne
    have hpos := List.length_pos_of_ne_nil hne
    have hlen : 0 < extent newline (stream.take n) := by
      unfold extent
      split
      · omega
      · rw [List.length_take]
        omega
    cases h
    rw [List.length_drop]
    omega

variable (newline n)

/-- What is read until the stream is at its end. -/
def reads (stream : List α) : List (List α) :=
  match h : fgets newline n stream with
  | none => []
  | some (piece, rest) =>
    have := fgets_lt h
    piece :: reads rest
  termination_by stream.length

omit [DecidableEq α] in
lemma drop_lt (h : l ≠ []) : (l.drop n).length < l.length := by
  have hn : 0 < n := Nat.pos_of_ne_zero (NeZero.ne n)
  have hpos := List.length_pos_of_ne_nil h
  rw [List.length_drop]
  omega

/-- A line in pieces of a length. -/
def chunks (n : ℕ) [NeZero n] (l : List α) : List (List α) :=
  if _h : l = [] then []
  else l.take n :: chunks n (l.drop n)
  termination_by l.length
  decreasing_by exact drop_lt n ‹_›

variable {newline n}

omit [DecidableEq α] in
@[simp] lemma chunks_nil : chunks n ([] : List α) = [] := by rw [chunks, dif_pos rfl]

omit [DecidableEq α] in
lemma chunks_of_ne_nil (h : l ≠ []) : chunks n l = l.take n :: chunks n (l.drop n) := by
  rw [chunks, dif_neg h]

omit [DecidableEq α] in
lemma chunks_of_le (h : l ≠ []) (hle : l.length ≤ n) : chunks n l = [l] := by
  rw [chunks_of_ne_nil h, List.take_of_length_le hle, List.drop_of_length_le hle, chunks_nil]

omit [DecidableEq α] in
lemma chunks_append (h : n ∣ x.length) : chunks n (x ++ y) = chunks n x ++ chunks n y := by
  induction hk : x.length using Nat.strong_induction_on generalizing x with
  | _ k ih =>
    by_cases hx : x = []
    · rw [hx, chunks_nil, List.nil_append, List.nil_append]
    · have hle : n ≤ x.length := Nat.le_of_dvd (List.length_pos_of_ne_nil hx) h
      have hdvd : n ∣ (x.drop n).length := by
        rw [List.length_drop]
        exact Nat.dvd_sub h (Nat.dvd_refl n)
      rw [chunks_of_ne_nil (fun hnil => hx (List.append_eq_nil_iff.1 hnil).1),
        chunks_of_ne_nil hx, List.take_append_of_le_length hle, List.drop_append_of_le_length hle,
        ih _ (hk ▸ drop_lt n hx) hdvd rfl, List.cons_append]

omit [DecidableEq α] in
/-- **A piece** of a line has whole pieces before it. -/
lemma mem_chunks {c : List α} (h : c ∈ chunks n l) :
    ∃ x y, l = x ++ y ∧ n ∣ x.length ∧ y ≠ [] ∧ c = y.take n := by
  induction hk : l.length using Nat.strong_induction_on generalizing l with
  | _ k ih =>
    by_cases hl : l = []
    · rw [hl, chunks_nil] at h
      cases h
    · rw [chunks_of_ne_nil hl, List.mem_cons] at h
      rcases h with rfl | h
      · exact ⟨[], l, rfl, Nat.dvd_zero n, hl, rfl⟩
      · obtain ⟨x, y, hxy, hdvd, hy, rfl⟩ := ih _ (hk ▸ drop_lt n hl) h rfl
        have hle : n ≤ l.length := by
          by_contra hgt
          rw [List.drop_of_length_le (by omega)] at hxy
          exact hy (List.append_eq_nil_iff.1 hxy.symm).2
        refine ⟨l.take n ++ x, y, ?_, ?_, hy, rfl⟩
        · rw [List.append_assoc, ← hxy, List.take_append_drop]
        · rw [List.length_append, List.length_take_of_le hle]
          exact Nat.dvd_add (Nat.dvd_refl n) hdvd

omit [DecidableEq α] in
lemma mem_chunks_append (hdvd : n ∣ x.length) (hy : y ≠ []) : y.take n ∈ chunks n (x ++ y) := by
  rw [chunks_append hdvd, chunks_of_ne_nil hy]
  exact List.mem_append_right _ (List.mem_cons_self ..)

/-- **A line in a stream** is read in pieces, the last of them with the newline. -/
lemma reads_append_cons (h : newline ∉ l) :
    reads newline n (l ++ newline :: rest) =
      chunks n (l ++ [newline]) ++ reads newline n rest := by
  induction hk : l.length using Nat.strong_induction_on generalizing l with
  | _ k ih =>
    have hn : 0 < n := Nat.pos_of_ne_zero (NeZero.ne n)
    by_cases hlt : l.length < n
    · have hhead : (l ++ newline :: rest).take n = l ++ newline :: rest.take (n - l.length - 1) := by
        obtain ⟨m, hm⟩ : ∃ m, n - l.length = m + 1 := ⟨n - l.length - 1, by omega⟩
        rw [List.take_append, List.take_of_length_le hlt.le, hm, List.take_succ_cons,
          Nat.add_sub_cancel]
      have hf : fgets newline n (l ++ newline :: rest) = some (l ++ [newline], rest) := by
        have hlen : (l ++ [newline]).length = l.length + 1 := by simp
        have hassoc : l ++ newline :: rest = (l ++ [newline]) ++ rest := by simp
        rw [fgets, if_neg (by simp), hhead, extent, if_pos (by simp), takeWhile_append_cons h]
        dsimp only
        rw [hassoc, List.take_left' hlen, List.drop_left' hlen]
      rw [chunks_of_le (by simp) (by rw [List.length_append, List.length_singleton]; omega), reads]
      split
      · rename_i hs
        rw [hf] at hs
        cases hs
      · rename_i hs
        rw [hf] at hs
        cases hs
        rfl
    · have hle : n ≤ l.length := by omega
      have hhead : (l ++ newline :: rest).take n = l.take n := List.take_append_of_le_length hle
      have hnot : newline ∉ l.take n := fun hmem => h (List.mem_of_mem_take hmem)
      have hf : fgets newline n (l ++ newline :: rest) =
          some (l.take n, l.drop n ++ newline :: rest) := by
        rw [fgets, if_neg (by simp), hhead, extent, if_neg hnot, List.length_take_of_le hle]
        dsimp only
        rw [hhead, List.drop_append_of_le_length hle]
      have hne : l ≠ [] := by
        rintro rfl
        simp at hle
        omega
      have htail : newline ∉ l.drop n := fun hmem => h (List.mem_of_mem_drop hmem)
      have hchunks : chunks n (l ++ [newline]) = l.take n :: chunks n (l.drop n ++ [newline]) := by
        rw [chunks_of_ne_nil (by simp), List.take_append_of_le_length hle,
          List.drop_append_of_le_length hle]
      rw [hchunks, List.cons_append, ← ih _ (hk ▸ drop_lt n hne) htail rfl, reads]
      split
      · rename_i hs
        rw [hf] at hs
        cases hs
      · rename_i hs
        rw [hf] at hs
        cases hs
        rfl

/-- **The last line** is read in pieces. -/
lemma reads_of_not_mem (h : newline ∉ l) : reads newline n l = chunks n l := by
  induction hk : l.length using Nat.strong_induction_on generalizing l with
  | _ k ih =>
    by_cases hl : l = []
    · rw [hl, chunks_nil, reads]
      split
      · rfl
      · rename_i hs
        rw [fgets, if_pos rfl] at hs
        cases hs
    · have hnot : newline ∉ l.take n := fun hmem => h (List.mem_of_mem_take hmem)
      have htail : newline ∉ l.drop n := fun hmem => h (List.mem_of_mem_drop hmem)
      have hf : fgets newline n l = some (l.take n, l.drop n) := by
        rw [fgets, if_neg hl, extent, if_neg hnot, List.length_take]
        dsimp only
        by_cases hle : n ≤ l.length
        · rw [Nat.min_eq_left hle]
        · rw [Nat.min_eq_right (by omega), List.take_length, List.drop_length,
            List.take_of_length_le (by omega), List.drop_of_length_le (by omega)]
      rw [chunks_of_ne_nil hl, ← ih _ (hk ▸ drop_lt n hl) htail rfl, reads]
      split
      · rename_i hs
        rw [hf] at hs
        cases hs
      · rename_i hs
        rw [hf] at hs
        cases hs
        rfl

omit [NeZero n] in
lemma not_mem_of_mem_splitOn {stream : List α} (h : l ∈ stream.splitOn newline) : newline ∉ l := by
  induction hk : stream.length using Nat.strong_induction_on generalizing stream with
  | _ k ih =>
    by_cases hs : newline ∈ stream
    · obtain ⟨x, rest, rfl, hx⟩ := List.eq_append_cons_of_mem hs
      rw [List.splitOn_append_cons_self_of_not_mem hx, List.mem_cons] at h
      rcases h with rfl | h
      · exact hx
      · refine ih _ ?_ h rfl
        rw [← hk, List.length_append, List.length_cons]
        omega
    · rw [List.splitOn_eq_singleton hs, List.mem_singleton] at h
      rwa [h]

variable {β : Type} {f : List α → Option β}

omit [DecidableEq α] in
lemma filterMap_chunks_snoc (hf : ∀ x, f (x ++ [newline]) = f x) (hnil : f [] = none) :
    (chunks n (l ++ [newline])).filterMap f = (chunks n l).filterMap f := by
  have hn : 0 < n := Nat.pos_of_ne_zero (NeZero.ne n)
  induction hk : l.length using Nat.strong_induction_on generalizing l with
  | _ k ih =>
    by_cases hl : l = []
    · have hone : f [newline] = none := (hf []).trans hnil
      rw [hl, chunks_nil, List.nil_append, chunks_of_le (by simp) (by rw [List.length_singleton]; omega)]
      simp [hone]
    · by_cases hlt : l.length < n
      · have hle : (l ++ [newline]).length ≤ n := by
          rw [List.length_append, List.length_singleton]
          omega
        rw [chunks_of_le (by simp) hle, chunks_of_le hl hlt.le]
        rw [List.filterMap_cons, List.filterMap_cons, hf]
      · have hle : n ≤ l.length := by omega
        rw [chunks_of_ne_nil (show l ++ [newline] ≠ [] by simp), chunks_of_ne_nil hl,
          List.take_append_of_le_length hle, List.drop_append_of_le_length hle,
          List.filterMap_cons, List.filterMap_cons, ih _ (hk ▸ drop_lt n hl) rfl]

/-- **What is made of the pieces** of a stream is made of the pieces of its lines, where a newline
does not count. -/
theorem filterMap_reads (hf : ∀ x, f (x ++ [newline]) = f x) (hnil : f [] = none)
    (stream : List α) :
    (reads newline n stream).filterMap f =
      (stream.splitOn newline).flatMap fun l => (chunks n l).filterMap f := by
  induction hk : stream.length using Nat.strong_induction_on generalizing stream with
  | _ k ih =>
    by_cases h : newline ∈ stream
    · obtain ⟨l, rest, rfl, hl⟩ := List.eq_append_cons_of_mem h
      have hlt : rest.length < k := by
        rw [← hk, List.length_append, List.length_cons]
        omega
      rw [reads_append_cons hl, List.filterMap_append, filterMap_chunks_snoc hf hnil,
        ih _ hlt rest rfl, List.splitOn_append_cons_self_of_not_mem hl, List.flatMap_cons]
    · rw [reads_of_not_mem h, List.splitOn_eq_singleton h, List.flatMap_cons, List.flatMap_nil,
        List.append_nil]

end lines

/-! ### Runs of settings -/

/-- **The last one counts**, where each step sets what it has a value for. -/
lemma get_foldl {σ β γ : Type} {g : σ → Option γ} {step : σ → β → σ} {effect : β → Option γ}
    (h : ∀ s b, g (step s b) = (effect b).or (g s)) (l : List β) (s : σ) :
    g (l.foldl step s) = (l.filterMap effect).getLast?.or (g s) := by
  induction l generalizing s with
  | nil => rfl
  | cons b l ih =>
    rw [List.foldl_cons, ih, h, List.filterMap_cons]
    cases effect b with
    | none => rfl
    | some c =>
      rw [List.getLast?_cons]
      cases (l.filterMap effect).getLast? <;> rfl

end Text

import SoftHSM.Common.SimpleConfigLoader

/-!
What a configuration file says, line by line, and which lines the loader reads so. A line that is
longer than the buffer is read in pieces, each as if it were a line; the tokeniser takes no notice
of empty tokens and ends a value at the next equality sign; a zero byte or a carriage return ends
what there is of a piece.
-/

namespace SoftHSM.SimpleConfigLoader

open Text

/-! ### What a line says -/

/-- The line without its comment. -/
def text (line : ByteString) : ByteString := line.takeWhile (· ≠ hash)

/-- The name and the value of a line `name = value`. -/
def lineSetting (line : ByteString) : Option (ByteString × ByteString) := do
  let name ← trimString ((text line).takeWhile (· ≠ equals))
  let value ← trimString ((text line).dropWhile (· ≠ equals)).tail
  return (name, value)

def lines (file : ByteString) : List ByteString := file.splitOn newline

/-- A line is read as it says: its pieces make its setting and no other, and no piece of its
comment makes one. -/
structure ReadsAsLine (line : ByteString) : Prop where
  setting : (chunks pieceLength line).filterMap parse = (lineSetting line).toList
  comment : ∀ x y, line = x ++ y → pieceLength ∣ x.length → hash ∈ x →
    parse (y.take pieceLength) = none

/-- To the tokeniser a piece is an assignment: behind equality signs there is a name, and behind
more of them a value. -/
def Assigns (piece : ByteString) : Prop :=
  ∃ (j m : ℕ) (c d g : ByteString),
    ended piece = List.replicate j equals ++
      (c ++ equals :: (List.replicate m equals ++ (d ++ g))) ∧
    equals ∉ c ∧ equals ∉ d ∧ (g = [] ∨ g.head? = some equals) ∧
    ¬ Blank isspace c ∧ ¬ Blank isspace d

/-- No piece is an assignment where the line is none or has its comment begun; and but for white
space the setting of a line is in one piece, with one equality sign and without a zero byte or a
carriage return. -/
structure Regular (line : ByteString) : Prop where
  silent : ∀ x y, line = x ++ y → pieceLength ∣ x.length → lineSetting line = none ∨ hash ∈ x →
    ¬ Assigns (y.take pieceLength)
  whole : lineSetting line ≠ none → ∃ x u e, text line = x ++ (u ++ e) ∧
    Blank isspace x ∧ Blank isspace e ∧ pieceLength ∣ x.length ∧ u.length ≤ pieceLength ∧
    0 ∉ u ∧ carriageReturn ∉ u ∧ u.count equals = 1

/-! ### Pieces -/

lemma ended_prefix (y : ByteString) (k : ℕ) : ∃ e, text y = ended (y.take k) ++ e := by
  obtain ⟨z, hz⟩ : ∃ z, y.take k = ended (y.take k) ++ z :=
    ⟨_, (List.takeWhile_append_dropWhile ..).symm⟩
  have hy : y = ended (y.take k) ++ (z ++ y.drop k) := by
    rw [← List.append_assoc, ← hz, List.take_append_drop]
  have hall : ∀ a ∈ ended (y.take k), decide (a ≠ hash) = true := by
    intro a ha
    have h := List.mem_takeWhile_imp ha
    simp only [Bool.and_eq_true] at h
    exact h.1.1.2
  refine ⟨text (z ++ y.drop k), ?_⟩
  conv_lhs => rw [hy]
  rw [text, List.takeWhile_append_of_pos hall]
  rfl

lemma mem_ended {piece : ByteString} {a : UInt8} (h : a ∈ ended piece) :
    a ≠ 0 ∧ a ≠ hash ∧ a ≠ newline ∧ a ≠ carriageReturn := by
  have h := List.mem_takeWhile_imp h
  simpa [and_assoc] using h

lemma ended_append {u q : ByteString}
    (h : ∀ a ∈ u, a ≠ 0 ∧ a ≠ hash ∧ a ≠ newline ∧ a ≠ carriageReturn) :
    ended (u ++ q) = u ++ ended q := by
  refine List.takeWhile_append_of_pos fun a ha => ?_
  simpa [and_assoc] using h a ha

lemma parse_snoc_newline (x : ByteString) : parse (x ++ [newline]) = parse x := by
  have h : ended (x ++ [newline]) = ended x := by
    unfold ended
    rw [List.takeWhile_append]
    split
    · rename_i hlen
      have hself : x.takeWhile (fun c => c ≠ 0 && c ≠ hash && c ≠ newline && c ≠ carriageReturn) =
          x := (List.takeWhile_prefix _).eq_of_length hlen
      rw [hself, List.takeWhile_cons_of_neg (by decide), List.append_nil]
    · rfl
  rw [parse, h]
  rfl

lemma space_equals : isspace equals = false := by decide

/-- **A piece that was parsed** is an assignment. -/
lemma of_parse {piece n v : ByteString} (h : parse piece = some (n, v)) :
    ∃ (j m : ℕ) (c d g : ByteString),
      ended piece = List.replicate j equals ++
        (c ++ equals :: (List.replicate m equals ++ (d ++ g))) ∧
      equals ∉ c ∧ equals ∉ d ∧ (g = [] ∨ g.head? = some equals) ∧
      trimString c = some n ∧ trimString d = some v := by
  obtain ⟨⟨c, rest⟩, hc, h⟩ := Option.bind_eq_some_iff.1 h
  obtain ⟨n', hn, h⟩ := Option.bind_eq_some_iff.1 h
  obtain ⟨⟨d, rest'⟩, hd, h⟩ := Option.bind_eq_some_iff.1 h
  obtain ⟨v', hv, h⟩ := Option.bind_eq_some_iff.1 h
  cases h
  obtain ⟨j, -, hcmem, hj⟩ := of_strtok hc
  obtain ⟨m, hdne, hdmem, hm⟩ := of_strtok hd
  rcases hj with ⟨-, rfl⟩ | hj
  · rw [strtok] at hd
    cases hd
  · rcases hm with ⟨hm, -⟩ | hm
    · exact ⟨j, m, c, d, [], by rw [hj, hm, List.append_nil], hcmem, hdmem, .inl rfl, hn, hv⟩
    · exact ⟨j, m, c, d, equals :: rest', by rw [hj, hm], hcmem, hdmem, .inr rfl, hn, hv⟩

/-- And an assignment is parsed. -/
lemma parse_eq_some {piece c d g n v : ByteString} {j m : ℕ}
    (h : ended piece = List.replicate j equals ++
      (c ++ equals :: (List.replicate m equals ++ (d ++ g))))
    (hc : equals ∉ c) (hd : equals ∉ d) (hg : g = [] ∨ g.head? = some equals)
    (hn : trimString c = some n) (hv : trimString d = some v) : parse piece = some (n, v) := by
  have hne : ∀ {l w}, trimString l = some w → l ≠ [] := by
    rintro l w hl rfl
    cases hl
  have hfirst : strtok equals (ended piece) =
      some (c, List.replicate m equals ++ (d ++ g)) := by
    rw [h, strtok_replicate, strtok_append_cons (hne hn) hc]
  have hsecond : ∃ r, strtok equals (List.replicate m equals ++ (d ++ g)) = some (d, r) := by
    rw [strtok_replicate]
    rcases hg with rfl | hg
    · rw [List.append_nil]
      exact ⟨_, strtok_of_not_mem (hne hv) hd⟩
    · obtain ⟨r, rfl⟩ := List.head?_eq_some_iff.1 hg
      exact ⟨r, strtok_append_cons (hne hv) hd⟩
  obtain ⟨r, hr⟩ := hsecond
  simp only [parse, hfirst, hr, hn, hv, Option.bind_eq_bind, Option.bind_some]
  rfl

lemma parse_eq_none (piece : ByteString) : parse piece = none ↔ ¬ Assigns piece := by
  constructor
  · rintro h ⟨j, m, c, d, g, he, hc, hd, hg, hn, hv⟩
    obtain ⟨n, hn⟩ := Option.ne_none_iff_exists'.1 fun h0 => hn (trim_eq_none.1 h0)
    obtain ⟨v, hv⟩ := Option.ne_none_iff_exists'.1 fun h0 => hv (trim_eq_none.1 h0)
    rw [parse_eq_some he hc hd hg hn hv] at h
    cases h
  · intro h
    rcases hp : parse piece with _ | ⟨n, v⟩
    · rfl
    · obtain ⟨j, m, c, d, g, he, hc, hd, hg, hn, hv⟩ := of_parse hp
      refine absurd ⟨j, m, c, d, g, he, hc, hd, hg, fun hb => ?_, fun hb => ?_⟩ h
      · rw [trimString, trim_eq_none.2 hb] at hn
        cases hn
      · rw [trimString, trim_eq_none.2 hb] at hv
        cases hv

/-- A piece of white space is no assignment. -/
lemma parse_of_blank {piece : ByteString} (h : Blank isspace (ended piece)) :
    parse piece = none := by
  rw [parse_eq_none]
  rintro ⟨j, m, c, d, g, he, -, -, -, hn, -⟩
  refine hn (h.of_subset fun a ha => ?_)
  rw [he]
  exact List.mem_append_right _ (List.mem_append_left _ ha)

/-! ### One line -/

section line

variable {line x y u e r n v : ByteString}

lemma lineSetting_append_cons {a b : ByteString} (ht : text line = a ++ equals :: b)
    (ha : equals ∉ a) :
    lineSetting line = (trimString a).bind fun n => (trimString b).map fun v => (n, v) := by
  unfold lineSetting
  rw [ht, takeWhile_append_cons ha, dropWhile_append_cons ha, List.tail_cons]
  cases trimString a with
  | none => rfl
  | some n => cases trimString b <;> rfl

/-- A line of the form has an equality sign behind a name and before a value. -/
lemma of_lineSetting (h : lineSetting line = some (n, v)) :
    ∃ a b, text line = a ++ equals :: b ∧ equals ∉ a ∧ trimString a = some n ∧
      trimString b = some v := by
  by_cases hmem : equals ∈ text line
  · obtain ⟨a, b, ht, ha⟩ := List.eq_append_cons_of_mem hmem
    rw [lineSetting_append_cons ht ha] at h
    obtain ⟨n', hn, h⟩ := Option.bind_eq_some_iff.1 h
    obtain ⟨v', hv, h⟩ := Option.map_eq_some_iff.1 h
    cases h
    exact ⟨a, b, ht, ha, hn, hv⟩
  · obtain ⟨n', -, h⟩ := Option.bind_eq_some_iff.1 h
    obtain ⟨v', hv, -⟩ := Option.bind_eq_some_iff.1 h
    rw [dropWhile_eq_nil hmem] at hv
    cases hv

/-- A text with one equality sign has it between two parts without any. -/
lemma of_count_one (h : u.count equals = 1) :
    ∃ c d, u = c ++ equals :: d ∧ equals ∉ c ∧ equals ∉ d := by
  obtain ⟨c, d, rfl, hc⟩ := List.eq_append_cons_of_mem
    (List.count_pos_iff.1 (by omega : 0 < u.count equals))
  rw [List.count_append, List.count_cons_self, List.count_eq_zero.2 hc] at h
  exact ⟨c, d, rfl, hc, List.count_eq_zero.1 (by omega)⟩

lemma text_append (h : hash ∉ x) : text (x ++ y) = x ++ text y :=
  List.takeWhile_append_of_pos (ne_delim h)

/-- **A setting that is in one piece** is what the tokeniser makes of the piece. -/
lemma parse_whole (hx : hash ∉ x) (ht : text (x ++ y) = x ++ (u ++ e)) (hbx : Blank isspace x)
    (hbe : Blank isspace e) (hu : u.length ≤ pieceLength) (h0 : 0 ∉ u)
    (hcr : carriageReturn ∉ u) (hcount : u.count equals = 1) (hnl : newline ∉ x ++ y)
    (hset : lineSetting (x ++ y) = some (n, v)) :
    parse (y.take pieceLength) = some (n, v) := by
  obtain ⟨c, d, rfl, hc, hd⟩ := of_count_one hcount
  have hexb : equals ∉ x := fun h => by
    have := hbx _ h
    rw [space_equals] at this
    cases this
  have heb : equals ∉ e := fun h => by
    have := hbe _ h
    rw [space_equals] at this
    cases this
  have hty : text y = (c ++ equals :: d) ++ e := by
    rw [text_append hx] at ht
    exact List.append_cancel_left ht
  -- the piece is the setting and some of the white space behind it
  obtain ⟨r, hr⟩ : ∃ r, y = (c ++ equals :: d) ++ (e ++ r) := by
    refine ⟨y.dropWhile (· ≠ hash), ?_⟩
    rw [← List.append_assoc, ← hty, text, List.takeWhile_append_dropWhile]
  have hmem : ∀ a ∈ c ++ equals :: d,
      a ≠ 0 ∧ a ≠ hash ∧ a ≠ newline ∧ a ≠ carriageReturn := by
    intro a ha
    have hay : a ∈ text y := by
      rw [hty]
      exact List.mem_append_left _ ha
    refine ⟨fun h => h0 (h ▸ ha), ?_, fun h => hnl ?_, fun h => hcr (h ▸ ha)⟩
    · simpa using List.mem_takeWhile_imp hay
    · rw [← h]
      exact List.mem_append_right _ ((List.takeWhile_prefix _).subset hay)
  obtain ⟨q, hq⟩ : ∃ q, y.take pieceLength = (c ++ equals :: d) ++ q := by
    rw [hr, List.take_append, List.take_of_length_le hu]
    exact ⟨_, rfl⟩
  have hended : ended (y.take pieceLength) = c ++ equals :: d ++ ended q := by
    rw [hq, ended_append hmem]
  obtain ⟨e', he'⟩ := ended_prefix y pieceLength
  rw [hty, hended, List.append_assoc (c ++ equals :: d) (ended q)] at he'
  have hqe : e = ended q ++ e' := List.append_cancel_left he'
  have hbq : Blank isspace (ended q) := hbe.of_subset (by rw [hqe]; exact List.subset_append_left ..)
  -- its name and its value are those of the line
  have hsplit : text (x ++ y) = (x ++ c) ++ equals :: (d ++ e) := by
    rw [ht]
    simp
  have hnot : equals ∉ x ++ c := by
    rw [List.mem_append]
    rintro (h | h)
    · exact hexb h
    · exact hc h
  rw [lineSetting_append_cons hsplit hnot] at hset
  obtain ⟨n', hn, hset⟩ := Option.bind_eq_some_iff.1 hset
  obtain ⟨v', hv, hset⟩ := Option.map_eq_some_iff.1 hset
  cases hset
  rw [trimString, trim_blank_append hbx] at hn
  rw [trimString, trim_append_blank hbe] at hv
  have hdq : equals ∉ d ++ ended q := by
    rw [List.mem_append]
    rintro (h | h)
    · exact hd h
    · exact heb (by rw [hqe]; exact List.mem_append_left _ h)
  refine parse_eq_some (j := 0) (m := 0) (c := c) (d := d ++ ended q) (g := []) ?_ hc hdq (.inl rfl)
    hn ?_
  · rw [hended]
    simp
  · rw [trimString, trim_append_blank hbq]
    exact hv

/-- **A piece that makes the setting of its line** has all of it, and only white space is before it
or behind it. -/
lemma whole_of_parse (hx : hash ∉ x) (hset : lineSetting (x ++ y) = some (n, v))
    (h : parse (y.take pieceLength) = some (n, v)) :
    ∃ u e, text (x ++ y) = x ++ (u ++ e) ∧ Blank isspace x ∧ Blank isspace e ∧
      u.length ≤ pieceLength ∧ 0 ∉ u ∧ carriageReturn ∉ u ∧ u.count equals = 1 := by
  obtain ⟨j, m, c, d, g, he, hc, hd, hg, hn, hv⟩ := of_parse h
  obtain ⟨e, hty⟩ := ended_prefix y pieceLength
  have ht : text (x ++ y) = x ++ (ended (y.take pieceLength) ++ e) := by rw [text_append hx, hty]
  obtain ⟨a, b, hab, ha, hna, hvb⟩ := of_lineSetting hset
  -- the value has no equality sign, so the text has one
  have hvmem : equals ∉ v := fun hmem => hd ((mem_trim hv space_equals).1 hmem)
  have hb : equals ∉ b := fun hmem => hvmem ((mem_trim hvb space_equals).2 hmem)
  have hone : (text (x ++ y)).count equals = 1 := by
    rw [hab, List.count_append, List.count_cons_self, List.count_eq_zero.2 ha,
      List.count_eq_zero.2 hb]
  have hcounts := hone
  rw [ht, he] at hcounts
  simp only [List.count_append, List.count_cons_self, List.count_replicate_self] at hcounts
  have hx0 : equals ∉ x := List.count_eq_zero.1 (by omega)
  have hj : j = 0 := by omega
  have hm : m = 0 := by omega
  have hg0 : g = [] := by
    rcases hg with rfl | hg
    · rfl
    · obtain ⟨r, rfl⟩ := List.head?_eq_some_iff.1 hg
      rw [List.count_cons_self] at hcounts
      omega
  subst hj hm hg0
  have he : ended (y.take pieceLength) = c ++ equals :: d := by
    rw [he]
    simp
  have hsplit : text (x ++ y) = (x ++ c) ++ equals :: (d ++ e) := by
    rw [ht, he]
    simp
  have hnot : equals ∉ x ++ c := by
    rw [List.mem_append]
    rintro (h | h)
    · exact hx0 h
    · exact hc h
  rw [lineSetting_append_cons hsplit hnot] at hset
  obtain ⟨n', hn', hset⟩ := Option.bind_eq_some_iff.1 hset
  obtain ⟨v', hv', hset⟩ := Option.map_eq_some_iff.1 hset
  cases hset
  refine ⟨_, e, ht, blank_of_trim' hn' hn, blank_of_trim hv' hv, ?_, fun h => (mem_ended h).1 rfl,
    fun h => (mem_ended h).2.2.2 rfl, ?_⟩
  · exact (List.takeWhile_prefix _).length_le.trans (by rw [List.length_take]; omega)
  · rw [he, List.count_append, List.count_cons_self, List.count_eq_zero.2 hc,
      List.count_eq_zero.2 hd]

/-- A piece of a line that is read as it says, behind the setting. -/
lemma parse_behind (hreg : Regular line) (hline : line = x ++ y) (hdvd : pieceLength ∣ x.length)
    (hblank : hash ∉ x → Blank isspace (text y)) : parse (y.take pieceLength) = none := by
  by_cases hx : hash ∈ x
  · exact (parse_eq_none _).2 (hreg.silent x y hline hdvd (.inr hx))
  · obtain ⟨e, he⟩ := ended_prefix y pieceLength
    refine parse_of_blank ((hblank hx).of_subset ?_)
    rw [he]
    exact List.subset_append_left ..

/-- **Which lines** are read as they say. -/
theorem readsAsLine_iff (hnl : newline ∉ line) : ReadsAsLine line ↔ Regular line := by
  constructor
  · intro h
    refine ⟨fun x y hline hdvd hor => ?_, fun hsome => ?_⟩
    · rw [← parse_eq_none]
      rcases hor with hnone | hx
      · by_cases hy : y = []
        · rw [hy]
          rfl
        · have hset := h.setting
          rw [hnone, Option.toList_none, List.filterMap_eq_nil_iff, hline] at hset
          exact hset _ (mem_chunks_append hdvd hy)
      · exact h.comment x y hline hdvd hx
    · obtain ⟨⟨n, v⟩, hset⟩ := Option.ne_none_iff_exists'.1 hsome
      have hmem : (n, v) ∈ (chunks pieceLength line).filterMap parse := by
        rw [h.setting, hset]
        exact List.mem_cons_self ..
      obtain ⟨piece, hpiece, hparse⟩ := List.mem_filterMap.1 hmem
      obtain ⟨x, y, rfl, hdvd, -, rfl⟩ := mem_chunks hpiece
      have hx : hash ∉ x := fun hx => by
        rw [h.comment x y rfl hdvd hx] at hparse
        cases hparse
      obtain ⟨u, e, ht, hbx, hbe, hu, h0, hcr, hone⟩ := whole_of_parse hx hset hparse
      exact ⟨x, u, e, ht, hbx, hbe, hdvd, hu, h0, hcr, hone⟩
  · intro h
    refine ⟨?_, fun x y hline hdvd hx => (parse_eq_none _).2 (h.silent x y hline hdvd (.inr hx))⟩
    rcases hset : lineSetting line with _ | ⟨n, v⟩
    · rw [Option.toList_none, List.filterMap_eq_nil_iff]
      intro piece hpiece
      obtain ⟨x, y, hline, hdvd, -, rfl⟩ := mem_chunks hpiece
      exact (parse_eq_none _).2 (h.silent x y hline hdvd (.inl hset))
    · obtain ⟨x, u, e, ht, hbx, hbe, hdvd, hu, h0, hcr, hone⟩ := h.whole (by rw [hset]; simp)
      obtain ⟨r, hr⟩ : ∃ r, line = text line ++ r :=
        ⟨_, (List.takeWhile_append_dropWhile ..).symm⟩
      have hline : line = x ++ ((u ++ e) ++ r) := by rw [← List.append_assoc, ← ht, ← hr]
      have hx : hash ∉ x := fun hmem => by
        have hin : hash ∈ text line := by
          rw [ht]
          exact List.mem_append_left _ hmem
        have := List.mem_takeWhile_imp hin
        simp at this
      generalize hy : (u ++ e) ++ r = y at hline
      have hyne : y ≠ [] := by
        rintro rfl
        obtain ⟨hue, -⟩ := List.append_eq_nil_iff.1 hy
        obtain ⟨rfl, -⟩ := List.append_eq_nil_iff.1 hue
        cases hone
      have hty : text y = u ++ e := by
        rw [hline, text_append hx] at ht
        exact List.append_cancel_left ht
      have hbefore : (chunks pieceLength x).filterMap parse = [] := by
        rw [List.filterMap_eq_nil_iff]
        intro piece hpiece
        obtain ⟨x₁, y₁, rfl, -, -, rfl⟩ := mem_chunks hpiece
        refine parse_of_blank ((blank_append.1 hbx).2.of_subset ?_)
        exact fun a ha => List.take_subset _ _ ((List.takeWhile_prefix _).subset ha)
      have hbehind : (chunks pieceLength (y.drop pieceLength)).filterMap parse = [] := by
        rw [List.filterMap_eq_nil_iff]
        intro piece hpiece
        obtain ⟨x₂, y₂, hdrop, hdvd₂, hne, rfl⟩ := mem_chunks hpiece
        have hle : pieceLength ≤ y.length := by
          by_contra hgt
          rw [List.drop_of_length_le (by omega)] at hdrop
          exact hne (List.append_eq_nil_iff.1 hdrop.symm).2
        have htake : (y.take pieceLength).length = pieceLength := List.length_take_of_le hle
        have hall : line = (x ++ (y.take pieceLength ++ x₂)) ++ y₂ := by
          rw [hline, List.append_assoc, List.append_assoc, ← hdrop, List.take_append_drop]
        refine parse_behind h hall ?_ fun hnot => ?_
        · rw [List.length_append, List.length_append, htake]
          exact Nat.dvd_add hdvd (Nat.dvd_add (Nat.dvd_refl _) hdvd₂)
        · -- what of the text is there is behind the setting
          have hnot' : hash ∉ y.take pieceLength ++ x₂ := fun hmem =>
            hnot (List.mem_append_right _ hmem)
          have hy₂ : text y = (y.take pieceLength ++ x₂) ++ text y₂ := by
            rw [← text_append hnot', List.append_assoc, ← hdrop, List.take_append_drop]
          rw [hty] at hy₂
          have hsuffix : text y₂ <:+ u ++ e := ⟨_, hy₂.symm⟩
          have hlen : (text y₂).length ≤ e.length := by
            have hsum := congrArg List.length hy₂
            rw [List.length_append, List.length_append, List.length_append, htake] at hsum
            omega
          exact hbe.of_subset
            (List.suffix_of_suffix_length_le hsuffix (List.suffix_append u e) hlen).subset
      have hpiece : parse (y.take pieceLength) = some (n, v) :=
        parse_whole hx (hline ▸ ht) hbx hbe hu h0 hcr hone (hline ▸ hnl) (hline ▸ hset)
      rw [hline, chunks_append hdvd, chunks_of_ne_nil hyne, List.filterMap_append,
        List.filterMap_cons, hbefore, hbehind, hpiece]
      rfl

end line

/-! ### A file -/

/-- The string that a setting is for a name. -/
def stringValue (configDirectory key : ByteString) (setting : ByteString × ByteString) :
    Option ByteString :=
  if setting.1 = key ∧ Configuration.getType key = .CONFIG_TYPE_STRING then
    some (resolved configDirectory key setting.2)
  else none

/-- The number that a setting is for a name. -/
def intValue (key : ByteString) (setting : ByteString × ByteString) : Option Int32 :=
  if setting.1 = key then
    match Configuration.getType key with
    | .CONFIG_TYPE_INT => some (atoi setting.2)
    | .CONFIG_TYPE_INT_OCTAL => some (Int32.ofInt (strtol 8 setting.2))
    | _ => none
  else none

/-- The boolean that a setting is for a name, where its value is one. -/
def boolValue (key : ByteString) (setting : ByteString × ByteString) : Option Bool :=
  if setting.1 = key ∧ Configuration.getType key = .CONFIG_TYPE_BOOL then string2bool setting.2
  else none

section file

variable (configDirectory key : ByteString) (c : Configuration)
  (setting : ByteString × ByteString)

lemma save_string : (save configDirectory c setting).stringConfiguration key =
    (stringValue configDirectory key setting).or (c.stringConfiguration key) := by
  obtain ⟨name, value⟩ := setting
  rw [save, stringValue]
  by_cases hk : name = key
  · subst hk
    cases ht : Configuration.getType name with
    | CONFIG_TYPE_STRING => simp [Configuration.setString]
    | CONFIG_TYPE_BOOL => cases string2bool value <;> simp [Configuration.setBool]
    | _ => simp [Configuration.setInt]
  · cases ht : Configuration.getType name with
    | CONFIG_TYPE_STRING => simp [Configuration.setString, hk, Ne.symm hk]
    | CONFIG_TYPE_BOOL => cases string2bool value <;> simp [Configuration.setBool, hk]
    | _ => simp [Configuration.setInt, hk]

lemma save_int : (save configDirectory c setting).integerConfiguration key =
    (intValue key setting).or (c.integerConfiguration key) := by
  obtain ⟨name, value⟩ := setting
  rw [save, intValue]
  by_cases hk : name = key
  · subst hk
    cases ht : Configuration.getType name with
    | CONFIG_TYPE_BOOL => cases string2bool value <;> simp [Configuration.setBool]
    | _ => simp [Configuration.setInt, Configuration.setString]
  · cases ht : Configuration.getType name with
    | CONFIG_TYPE_BOOL => cases string2bool value <;> simp [Configuration.setBool, hk]
    | _ => simp [Configuration.setInt, Configuration.setString, hk, Ne.symm hk]

lemma save_bool : (save configDirectory c setting).booleanConfiguration key =
    (boolValue key setting).or (c.booleanConfiguration key) := by
  obtain ⟨name, value⟩ := setting
  rw [save, boolValue]
  by_cases hk : name = key
  · subst hk
    cases ht : Configuration.getType name with
    | CONFIG_TYPE_BOOL => cases string2bool value <;> simp [Configuration.setBool]
    | _ => simp [Configuration.setInt, Configuration.setString]
  · cases ht : Configuration.getType name with
    | CONFIG_TYPE_BOOL =>
      cases string2bool value <;> simp [Configuration.setBool, hk, Ne.symm hk]
    | _ => simp [Configuration.setInt, Configuration.setString, hk]

/-- The loop saves what is parsed, piece by piece. -/
lemma loadConfiguration_eq (file : ByteString) : loadConfiguration configDirectory file c =
    ((lines file).flatMap fun line => (chunks pieceLength line).filterMap parse).foldl
      (save configDirectory) c := by
  have hpieces := filterMap_reads (n := pieceLength) (f := parse)
    parse_snoc_newline rfl file
  rw [loadConfiguration, lines, ← hpieces, List.foldl_filterMap]
  refine congrArg (fun f => List.foldl f c _) (funext fun c => funext fun piece => ?_)
  cases parse piece <;> rfl

/-- A file whose lines are read as they say is saved line by line. -/
lemma loadConfiguration_of_lines {file : ByteString} (h : ∀ line ∈ lines file, ReadsAsLine line) :
    loadConfiguration configDirectory file c =
      ((lines file).filterMap lineSetting).foldl (save configDirectory) c := by
  have hlines : ∀ l : List ByteString, (∀ line ∈ l, ReadsAsLine line) →
      (l.flatMap fun line => (chunks pieceLength line).filterMap parse) =
        l.filterMap lineSetting := by
    intro l hl
    induction l with
    | nil => rfl
    | cons line l ih =>
      rw [List.flatMap_cons, (hl line (List.mem_cons_self ..)).setting,
        ih fun line' h' => hl line' (List.mem_cons_of_mem _ h'), List.filterMap_cons]
      cases lineSetting line <;> rfl
  rw [loadConfiguration_eq, hlines _ h]

end file

/-- **Configuration files.** Every line of a file is read as it says exactly where every line is
regular. A file of such lines leaves each name with the value of the last line that sets it, a
boolean with that of the last line whose value is one, and every other name as it was. -/
theorem configuration_file_iff (configDirectory file : ByteString) (c : Configuration) :
    ((∀ line ∈ lines file, ReadsAsLine line) ↔ ∀ line ∈ lines file, Regular line) ∧
    ((∀ line ∈ lines file, Regular line) → ∀ key,
      (loadConfiguration configDirectory file c).stringConfiguration key =
        (((lines file).filterMap lineSetting).filterMap
          (stringValue configDirectory key)).getLast?.or (c.stringConfiguration key) ∧
      (loadConfiguration configDirectory file c).integerConfiguration key =
        (((lines file).filterMap lineSetting).filterMap (intValue key)).getLast?.or
          (c.integerConfiguration key) ∧
      (loadConfiguration configDirectory file c).booleanConfiguration key =
        (((lines file).filterMap lineSetting).filterMap (boolValue key)).getLast?.or
          (c.booleanConfiguration key)) := by
  have hiff : ∀ line ∈ lines file, (ReadsAsLine line ↔ Regular line) := fun line hline =>
    readsAsLine_iff (not_mem_of_mem_splitOn hline)
  refine ⟨forall₂_congr hiff, fun hreg key => ?_⟩
  have hlines : ∀ line ∈ lines file, ReadsAsLine line := fun line hline =>
    (hiff line hline).2 (hreg line hline)
  rw [loadConfiguration_of_lines configDirectory c hlines]
  exact ⟨get_foldl (g := fun c => c.stringConfiguration key) (save_string configDirectory key) _ c,
    get_foldl (g := fun c => c.integerConfiguration key) (save_int configDirectory key) _ c,
    get_foldl (g := fun c => c.booleanConfiguration key) (save_bool configDirectory key) _ c⟩

/-- A line with a comment: the value is what is before it. -/
def commentedLine : ByteString := bytesOf "slots.removable = true # false"

lemma commentedLine_regular : Regular commentedLine := by
  have hlen : commentedLine.length < pieceLength := by decide
  refine ⟨fun x y hline hdvd hor => ?_, fun _ => ?_⟩
  · have hx : x = [] := by
      by_contra hne
      have hle := Nat.le_of_dvd (List.length_pos_of_ne_nil hne) hdvd
      rw [hline, List.length_append] at hlen
      omega
    subst hx
    rcases hor with hnone | hmem
    · exact absurd hnone (by decide)
    · cases hmem
  · exact ⟨[], bytesOf "slots.removable = true", bytesOf " ", by decide, by simp [Blank],
      by simp [Blank, bytesOf, isspace], by decide, by decide, by decide, by decide, by decide⟩

/-- A file of one line leaves what the line says. -/
theorem commented_line_loaded :
    (loadConfiguration [] commentedLine .empty).booleanConfiguration (bytesOf "slots.removable") =
      some true := by
  have hone : lines commentedLine = [commentedLine] := by decide
  have h := (configuration_file_iff [] commentedLine .empty).2
    (by rw [hone]; simpa using commentedLine_regular) (bytesOf "slots.removable")
  rw [h.2.2, hone]
  decide

/-- A comment that fills the buffer, and more of it. -/
def longComment : ByteString :=
  (hash :: List.replicate 1022 120) ++ bytesOf "FAKE_RUTOKEN_ECP = true"

/-- **Text of a comment** behind the end of the buffer is read as a line, and sets a name that no
line of the file sets. -/
theorem long_comment_sets :
    (lines longComment).filterMap lineSetting = [] ∧
    (loadConfiguration [] longComment .empty).booleanConfiguration
      (bytesOf "FAKE_RUTOKEN_ECP") = some true ∧
    ¬ ReadsAsLine longComment := by
  have hfirst : (hash :: List.replicate 1022 (120 : UInt8)).length = pieceLength := by
    rw [List.length_cons, List.length_replicate]
    rfl
  have hnl : newline ∉ longComment := by
    rw [longComment, List.mem_append, List.mem_cons, List.mem_replicate]
    decide
  have hone : lines longComment = [longComment] := List.splitOn_eq_singleton hnl
  have htext : text longComment = [] := by
    rw [longComment, text, List.cons_append, List.takeWhile_cons_of_neg (by simp)]
  have hnone : lineSetting longComment = none := by
    unfold lineSetting
    rw [htext]
    rfl
  have hparse : parse (hash :: List.replicate 1022 120) = none := by
    have hended : ended (hash :: List.replicate 1022 120) = [] := by
      rw [ended, List.takeWhile_cons_of_neg (by decide)]
    rw [parse, hended]
    rfl
  have hchunks : (chunks pieceLength longComment).filterMap parse =
      [(bytesOf "FAKE_RUTOKEN_ECP", bytesOf "true")] := by
    rw [longComment, chunks_append (hfirst.symm ▸ Nat.dvd_refl pieceLength),
      chunks_of_le (List.cons_ne_nil _ _) hfirst.le, chunks_of_le (by decide) (by decide),
      List.filterMap_append, List.filterMap_cons, hparse]
    decide
  refine ⟨by rw [hone, List.filterMap_cons, hnone]; rfl, ?_, fun h => ?_⟩
  · rw [loadConfiguration_eq, hone, List.flatMap_cons, hchunks]
    decide
  · have hset := h.setting
    rw [hchunks, hnone] at hset
    cases hset

end SoftHSM.SimpleConfigLoader

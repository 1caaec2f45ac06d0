import FeedHydration.Distinct
import FeedHydration.DomainName.Punycode
import Mathlib.Data.List.Basic

/-!
# Writing in Punycode

Punycode does not say where a character beyond ASCII stands in the text, but where it is put when
all lesser characters, and its equals on the left, stand already. Put in that order, the characters
end up where they were: what is written is read back.
-/

namespace FeedHydration.Punycode

/-! ### Numbers -/

theorem digit?_digit {n : Nat} (h : n < 36) : digit? (digit n) = some n := by
  have hall : ∀ n ∈ List.range 36, digit? (digit n) = some n := by decide
  exact hall n (List.mem_range.2 h)

theorem number?_number (bias place weight value : Nat) (rest : List Char) :
    number? bias place weight (number bias place value ++ rest) = some (value * weight, rest) := by
  fun_induction number bias place value generalizing weight with
  | case1 place value limit hlast =>
    have hlimit := threshold_bounds bias place
    have hdigit : digit? (digit value) = some value := digit?_digit (by omega)
    simp only [List.singleton_append, number?, hdigit, Option.bind_eq_bind, Option.bind_some]
    rw [if_pos hlast]
  | case2 place value limit hmore ih =>
    have hlimit := threshold_bounds bias place
    have hmod : (value - limit) % (36 - limit) < 36 - limit := Nat.mod_lt _ (by omega)
    have hdigit : digit? (digit (limit + (value - limit) % (36 - limit))) =
        some (limit + (value - limit) % (36 - limit)) := digit?_digit (by omega)
    -- the digit is at least the limit, so that another one follows
    have hvalue : limit + (value - limit) % (36 - limit) +
        (value - limit) / (36 - limit) * (36 - limit) = value := by
      have := Nat.mod_add_div' (value - limit) (36 - limit)
      omega
    simp only [List.cons_append, number?, hdigit, ih, Option.bind_eq_bind, Option.bind_some]
    rw [if_neg (Nat.not_lt.2 (Nat.le_add_right _ _)), ← Nat.mul_assoc, Nat.mul_right_comm,
      ← Nat.add_mul, hvalue]

theorem number_ne_nil (bias place value : Nat) : number bias place value ≠ [] := by
  rw [number]
  split <;> exact List.cons_ne_nil _ _

theorem exists_digit_of_mem_number {bias place value : Nat} {c : Char}
    (h : c ∈ number bias place value) : ∃ n < 36, c = digit n := by
  fun_induction number bias place value with
  | case1 place value limit hlast =>
    have hlimit := threshold_bounds bias place
    exact ⟨value, by omega, List.mem_singleton.1 h⟩
  | case2 place value limit hmore ih =>
    have hlimit := threshold_bounds bias place
    have hmod : (value - limit) % (36 - limit) < 36 - limit := Nat.mod_lt _ (by omega)
    obtain rfl | h := List.mem_cons.1 h
    · exact ⟨_, by omega, rfl⟩
    · exact ih h

/-! ### The order of insertions -/

theorem insertIdx_length_append {α : Type} (left right : List α) (a : α) :
    (left ++ right).insertIdx left.length a = left ++ a :: right := by
  induction left with
  | nil => rfl
  | cons b left ih => simp [ih]

/-- Of two characters with their positions, the first one is inserted first. -/
def Precedes (a b : Char × Nat) : Prop :=
  a.1.toNat < b.1.toNat ∨ a.1.toNat = b.1.toNat ∧ a.2 < b.2

variable {text : List Char} {entry : Char × Nat} {earlier later : List (Char × Nat)}

theorem Precedes.code_le {a b : Char × Nat} (h : Precedes a b) : a.1.toNat ≤ b.1.toNat :=
  h.elim Nat.le_of_lt fun h => Nat.le_of_eq h.1

theorem Precedes.lt_of_code_eq {a b : Char × Nat} (h : Precedes a b)
    (hequal : a.1.toNat = b.1.toNat) : a.2 < b.2 :=
  h.elim (fun hlt => absurd hequal (Nat.ne_of_lt hlt)) And.right

theorem Precedes.irrefl (entry : Char × Nat) : ¬ Precedes entry entry :=
  fun h => Nat.lt_irrefl _ (h.lt_of_code_eq rfl)

theorem goesFirst_iff {a b : Char × Nat} : goesFirst a b = true ↔
    a.1.toNat < b.1.toNat ∨ a.1.toNat = b.1.toNat ∧ a.2 ≤ b.2 := by
  rw [goesFirst, Bool.or_eq_true, Bool.and_eq_true, decide_eq_true_eq, beq_iff_eq,
    decide_eq_true_eq]

@[simp]
theorem code_insertion (text : List Char) (entry : Char × Nat) :
    (insertion text entry).code = entry.1.toNat := rfl

theorem mem_order :
    entry ∈ order text ↔ text[entry.2]? = some entry.1 ∧ 0x80 ≤ entry.1.toNat := by
  rw [order, List.mem_mergeSort, List.mem_filter, List.mem_zipIdx_iff_getElem?, decide_eq_true_eq]

theorem pairwise_order (text : List Char) : (order text).Pairwise Precedes := by
  have hsorted : (order text).Pairwise fun a b => goesFirst a b = true := by
    apply List.pairwise_mergeSort
    · simp only [goesFirst_iff]
      omega
    · simp only [Bool.or_eq_true, goesFirst_iff]
      omega
  have hplaces : (order text).Pairwise fun a b => a.2 ≠ b.2 :=
    pairwise_places_ne List.filter_sublist goesFirst
  refine (hsorted.and hplaces).imp fun {a b} ⟨hfirst, hne⟩ => ?_
  exact (goesFirst_iff.1 hfirst).imp_right fun h => ⟨h.1, Nat.lt_of_le_of_ne h.2 hne⟩

/-- A text without some of its characters. -/
def without (text : List Char) (missing : List (Char × Nat)) : List Char :=
  (text.zipIdx.filter (· ∉ missing)).map Prod.fst

theorem without_nil (text : List Char) : without text [] = text := by
  simp [without]

theorem without_order (text : List Char) :
    without text (order text) = text.filter (·.toNat < 0x80) := by
  have hfilter : text.zipIdx.filter (· ∉ order text) =
      text.zipIdx.filter ((fun c : Char => decide (c.toNat < 0x80)) ∘ Prod.fst) := by
    apply List.filter_congr
    intro entry hmem
    apply decide_eq_decide.2
    rw [mem_order, and_iff_right (List.mem_zipIdx_iff_getElem?.1 hmem), Nat.not_le]
  rw [without, hfilter, ← List.filter_map, List.zipIdx_map_fst]

theorem zipIdx_eq_append (h : text[entry.2]? = some entry.1) : text.zipIdx =
    (text.take entry.2).zipIdx ++ entry :: (text.drop (entry.2 + 1)).zipIdx (entry.2 + 1) := by
  obtain ⟨hlt, hchar⟩ := List.getElem?_eq_some_iff.1 h
  have hlength : (text.take entry.2).length = entry.2 := List.length_take_of_le (Nat.le_of_lt hlt)
  have htext : text = text.take entry.2 ++ entry.1 :: text.drop (entry.2 + 1) := by
    rw [← hchar, ← List.drop_eq_getElem_cons hlt, List.take_append_drop]
  conv_lhs => rw [htext, List.zipIdx_append, List.zipIdx_cons, hlength, Nat.zero_add]

theorem of_mem_zipIdx_take {a : Char × Nat} {n : Nat} (hmem : a ∈ (text.take n).zipIdx) :
    a.2 < n ∧ text[a.2]? = some a.1 := by
  have htake := List.mem_zipIdx_iff_getElem?.1 hmem
  rw [List.getElem?_take] at htake
  split at htake
  · exact ⟨‹_›, htake⟩
  · cases htake

section Suffix

variable (h : order text = earlier ++ entry :: later)

include h

theorem entry_mem_order : entry ∈ order text :=
  h ▸ List.mem_append_right earlier List.mem_cons_self

theorem precedes_of_mem_later {a : Char × Nat} (hmem : a ∈ later) : Precedes entry a := by
  have hpairwise := pairwise_order text
  rw [h, List.pairwise_append] at hpairwise
  exact (List.pairwise_cons.1 hpairwise.2.1).1 a hmem

/-- On the left of a character, what is inserted after it are the greater ones. -/
theorem notMem_later_iff {a : Char × Nat} (hchar : text[a.2]? = some a.1) (hleft : a.2 < entry.2) :
    a ∉ later ↔ a.1.toNat ≤ entry.1.toNat := by
  have hbeyond := (mem_order.1 (entry_mem_order h)).2
  constructor
  · intro hnot
    by_contra hgreater
    have hmem : a ∈ order text := mem_order.2 ⟨hchar, by omega⟩
    have hpairwise := pairwise_order text
    rw [h, List.pairwise_append] at hpairwise
    rw [h, List.mem_append, List.mem_cons] at hmem
    obtain hearlier | rfl | hlater := hmem
    · exact hgreater (hpairwise.2.2 a hearlier entry List.mem_cons_self).code_le
    · exact hgreater (Nat.le_refl _)
    · exact hnot hlater
  · intro hle hmem
    have hprecedes := precedes_of_mem_later h hmem
    have hequal : entry.1.toNat = a.1.toNat := Nat.le_antisymm hprecedes.code_le hle
    exact Nat.lt_asymm hleft (hprecedes.lt_of_code_eq hequal)

/-- When a character is put back, all lesser ones and its equals on the left stand. -/
theorem countP_notMem_later :
    (text.take entry.2).zipIdx.countP (· ∉ later) = (insertion text entry).place := by
  have hplace : (insertion text entry).place =
      (text.take entry.2).zipIdx.countP (·.1.toNat ≤ entry.1.toNat) := by
    conv_lhs => rw [insertion, ← List.zipIdx_map_fst 0 (text.take entry.2), List.countP_map]
    rfl
  rw [hplace]
  apply List.countP_congr
  intro a hmem
  obtain ⟨hleft, hchar⟩ := of_mem_zipIdx_take hmem
  simp [notMem_later_iff h hchar hleft]

theorem without_cons :
    ∃ left right, without text (entry :: later) = left ++ right ∧
      left.length = (insertion text entry).place ∧
      without text later = left ++ entry.1 :: right := by
  obtain ⟨hchar, -⟩ := mem_order.1 (entry_mem_order h)
  have hsplit := zipIdx_eq_append hchar
  let before := (text.take entry.2).zipIdx
  let behind := (text.drop (entry.2 + 1)).zipIdx (entry.2 + 1)
  have hnot : entry ∉ later := fun hmem => Precedes.irrefl _ (precedes_of_mem_later h hmem)
  have hother : ∀ a ∈ before ++ behind, a ≠ entry := by
    rintro a hmem rfl
    obtain hmem | hmem := List.mem_append.1 hmem
    · exact Nat.lt_irrefl _ (of_mem_zipIdx_take hmem).1
    · exact Nat.not_succ_le_self _ (List.le_snd_of_mem_zipIdx hmem)
  have hfilter : (before ++ behind).filter (· ∉ entry :: later) =
      (before ++ behind).filter (· ∉ later) := by
    apply List.filter_congr
    intro a hmem
    simp [hother a hmem]
  refine ⟨(before.filter (· ∉ later)).map Prod.fst, (behind.filter (· ∉ later)).map Prod.fst,
    ?_, ?_, ?_⟩
  · rw [without, hsplit, ← List.map_append, ← List.filter_append, ← hfilter]
    simp [before, behind, List.filter_append]
  · rw [List.length_map, ← List.countP_eq_length_filter, countP_notMem_later h]
  · rw [without, hsplit]
    simp [before, behind, List.filter_append, hnot]

/-- The next place is not passed over yet. -/
theorem place_lt_of_mem_later {next : Char × Nat} (hmem : next ∈ later)
    (hequal : entry.1.toNat = next.1.toNat) :
    (insertion text entry).place < (insertion text next).place := by
  obtain ⟨hchar, -⟩ := mem_order.1 (entry_mem_order h)
  obtain ⟨hlt, hget⟩ := List.getElem?_eq_some_iff.1 hchar
  have hposition : entry.2 < next.2 := (precedes_of_mem_later h hmem).lt_of_code_eq hequal
  have hcount : (text.take (entry.2 + 1)).countP (·.toNat ≤ entry.1.toNat) ≤
      (text.take next.2).countP (·.toNat ≤ entry.1.toNat) :=
    (List.take_sublist_take_left hposition).countP_le
  rw [List.take_succ_eq_append_getElem hlt, hget, List.countP_append] at hcount
  simp only [insertion, ← hequal]
  exact Nat.lt_of_succ_le (by simpa using hcount)

end Suffix

/-! ### Reading what was written -/

theorem insertAll?_of_number? {bias code index delta : Nat} {done text rest : List Char}
    (h : number? bias 36 1 text = some (delta, rest)) {next place : Nat}
    (hplace : place < done.length + 1)
    (hnext : index + delta = (next - code) * (done.length + 1) + place) (hle : code ≤ next)
    (hvalid : next.isValidChar) :
    insertAll? bias code index done text =
      insertAll? (adapt delta (done.length + 1) (index == 0)) next (place + 1)
        (done.insertIdx place (Char.ofNat next)) rest := by
  have hcode : code + (index + delta) / (done.length + 1) = next := by
    rw [hnext, Nat.mul_comm, Nat.mul_add_div (Nat.succ_pos _), Nat.div_eq_of_lt hplace]
    omega
  have hmod : (index + delta) % (done.length + 1) = place := by
    rw [hnext, Nat.mul_comm, Nat.mul_add_mod, Nat.mod_eq_of_lt hplace]
  rw [insertAll?]
  split
  · rename_i hempty
    rw [List.isEmpty_iff.1 hempty] at h
    cases h
  split
  · rename_i hnone
    rw [h] at hnone
    cases hnone
  · rename_i hsome
    rw [h] at hsome
    cases hsome
    simp only [hcode, hmod]
    rw [if_pos (by simpa using hvalid)]

/-- What is left to be inserted does not lie before `code` and `index`. -/
structure GoesOn (text : List Char) (code index length : Nat) (later : List (Char × Nat)) :
    Prop where
  index_le : index ≤ length
  code_le : ∀ next ∈ later, code ≤ next.1.toNat
  place_le : ∀ next ∈ later, code = next.1.toNat → index ≤ (insertion text next).place

theorem GoesOn.next {length : Nat} (h : order text = earlier ++ entry :: later)
    (hplace : (insertion text entry).place < length) :
    GoesOn text entry.1.toNat ((insertion text entry).place + 1) length later where
  index_le := hplace
  code_le := fun _ hmem => (precedes_of_mem_later h hmem).code_le
  place_le := fun _ hmem hequal => place_lt_of_mem_later h hmem hequal

/-- A number tells how far the next place is. -/
theorem GoesOn.add_sub {code index length : Nat}
    (h : GoesOn text code index length (entry :: later)) :
    index + ((entry.1.toNat - code) * length + (insertion text entry).place - index) =
      (entry.1.toNat - code) * length + (insertion text entry).place := by
  apply Nat.add_sub_of_le
  have hcode := h.code_le entry List.mem_cons_self
  by_cases hequal : code = entry.1.toNat
  · exact Nat.le_add_left_of_le (h.place_le entry List.mem_cons_self hequal)
  · have hlength : length ≤ (entry.1.toNat - code) * length :=
      Nat.le_mul_of_pos_left _ (by omega)
    have := h.index_le
    omega

theorem insertAll?_numbers {bias code index : Nat} (h : order text = earlier ++ later)
    (hon : GoesOn text code index ((without text later).length + 1) later) :
    insertAll? bias code index (without text later)
      (numbers bias code index ((without text later).length + 1) (later.map (insertion text))) =
        some text := by
  induction later generalizing earlier bias code index with
  | nil =>
    rw [List.map_nil, numbers, insertAll?, without_nil]
    rfl
  | cons entry later ih =>
    obtain ⟨left, right, hdone, hplace, hnext⟩ := without_cons h
    have hlength : (without text later).length = (without text (entry :: later)).length + 1 := by
      simp only [hdone, hnext, List.length_append, List.length_cons, Nat.add_assoc]
    have hlt : (insertion text entry).place < (without text (entry :: later)).length + 1 := by
      rw [← hplace, hdone, List.length_append]
      omega
    have hnumber := number?_number bias 36 1
      ((entry.1.toNat - code) * ((without text (entry :: later)).length + 1) +
        (insertion text entry).place - index)
    simp only [Nat.mul_one] at hnumber
    have hinserted : (without text (entry :: later)).insertIdx (insertion text entry).place
        (Char.ofNat entry.1.toNat) = without text later := by
      rw [hdone, hnext, ← hplace, insertIdx_length_append, Char.ofNat_toNat]
    rw [List.map_cons, numbers, code_insertion]
    rw [insertAll?_of_number? (hnumber _) hlt hon.add_sub
      (hon.code_le entry List.mem_cons_self) entry.1.valid, hinserted, ← hlength]
    have h' : order text = (earlier ++ [entry]) ++ later := by simpa using h
    exact ih h' (.next h (by omega))

theorem exists_digit_of_mem_numbers {bias code index length : Nat} {rest : List Insertion}
    {c : Char} (h : c ∈ numbers bias code index length rest) : ∃ n < 36, c = digit n := by
  induction rest generalizing bias code index length with
  | nil => cases h
  | cons next rest ih =>
    obtain h | h := List.mem_append.1 h
    · exact exists_digit_of_mem_number h
    · exact ih h

theorem digit_isPlain {n : Nat} (h : n < 36) : (digit n).toNat < 0x80 ∧ digit n ≠ '-' := by
  have hall : ∀ n ∈ List.range 36, (digit n).toNat < 0x80 ∧ digit n ≠ '-' := by decide
  exact hall n (List.mem_range.2 h)

theorem goesOn_order (text : List Char) (length : Nat) :
    GoesOn text 0x80 0 length (order text) where
  index_le := Nat.zero_le _
  code_le := fun _ hmem => (mem_order.1 hmem).2
  place_le := fun _ _ _ => Nat.zero_le _

theorem decode?_of_notMem {numbers : List Char} (h : '-' ∉ numbers) :
    decode? numbers = insertAll? 72 0x80 0 [] numbers := by
  rw [decode?, Text.cut_of_notMem _ _ (by simpa using h)]
  dsimp only
  rw [List.reverse_reverse]

/-- The last hyphen is told by none behind it. -/
theorem decode?_append {plain numbers : List Char} (hplain : plain ≠ []) (h : '-' ∉ numbers) :
    decode? (plain ++ '-' :: numbers) = insertAll? 72 0x80 0 plain numbers := by
  have hreverse : (plain ++ '-' :: numbers).reverse = numbers.reverse ++ '-' :: plain.reverse := by
    simp
  rw [decode?, hreverse, Text.cut_append _ _ _ (by simpa using h)]
  cases hrest : plain.reverse with
  | nil => exact absurd (List.reverse_eq_nil_iff.1 hrest) hplain
  | cons c rest =>
    dsimp only
    rw [← hrest, List.reverse_reverse, List.reverse_reverse]

/-- **What is written in Punycode is read back**, whatever the text. -/
theorem decode?_encode (text : List Char) : decode? (encode text) = some text := by
  have hread : insertAll? 72 0x80 0 (without text (order text)) (numbers 72 0x80 0
      ((without text (order text)).length + 1) ((order text).map (insertion text))) = some text :=
    insertAll?_numbers (List.nil_append _).symm (goesOn_order text _)
  rw [without_order] at hread
  have hhyphen : '-' ∉ numbers 72 0x80 0 ((text.filter (·.toNat < 0x80)).length + 1)
      ((order text).map (insertion text)) := by
    intro hmem
    obtain ⟨n, hn, hdigit⟩ := exists_digit_of_mem_numbers hmem
    exact (digit_isPlain hn).2 hdigit.symm
  unfold encode
  dsimp only
  split
  · rename_i hempty
    rw [List.isEmpty_iff.1 hempty] at hread hhyphen ⊢
    rw [List.nil_append, decode?_of_notMem hhyphen, hread]
  · rename_i hne
    rw [List.append_assoc, List.singleton_append,
      decode?_append (fun hnil => hne (List.isEmpty_iff.2 hnil)) hhyphen, hread]

example : encode "bücher".toList = "bcher-kva".toList := by decide +kernel

/-- A text with characters beyond ASCII ends in a number. -/
theorem getLast?_encode {c : Char} (hmem : c ∈ text) (hbeyond : 0x80 ≤ c.toNat) :
    ∃ n < 36, (encode text).getLast? = some (digit n) := by
  obtain ⟨position, hlt, hget⟩ := List.getElem_of_mem hmem
  have hentry : (c, position) ∈ order text :=
    mem_order.2 ⟨List.getElem?_eq_some_iff.2 ⟨hlt, hget⟩, hbeyond⟩
  obtain ⟨entry, later, horder⟩ := List.exists_cons_of_ne_nil (List.ne_nil_of_mem hentry)
  have hne : numbers 72 0x80 0 ((text.filter (·.toNat < 0x80)).length + 1)
      ((order text).map (insertion text)) ≠ [] := by
    rw [horder, List.map_cons, numbers]
    exact List.append_ne_nil_of_left_ne_nil (number_ne_nil _ _ _) _
  obtain ⟨n, hn, hdigit⟩ := exists_digit_of_mem_numbers (List.getLast_mem hne)
  refine ⟨n, hn, ?_⟩
  rw [encode, List.getLast?_append_of_ne_nil _ hne, List.getLast?_eq_some_getLast hne, hdigit]

theorem isAscii_of_mem_encode {c : Char} (h : c ∈ encode text) : c.toNat < 0x80 := by
  obtain h | h := List.mem_append.1 h
  · split at h
    · cases h
    · obtain h | h := List.mem_append.1 h
      · exact of_decide_eq_true (List.mem_filter.1 h).2
      · rw [List.mem_singleton.1 h]
        decide
  · obtain ⟨n, hn, rfl⟩ := exists_digit_of_mem_numbers h
    exact (digit_isPlain hn).1

end FeedHydration.Punycode

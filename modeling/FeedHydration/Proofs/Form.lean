import FeedHydration.Proofs.Grammar
import FeedHydration.Proofs.Utf8
import FeedHydration.Url.Basic
import FeedHydration.Url.Form

/-!
# Forms are read back

Every list of pairs comes back from its form. An escaped byte is written with three characters that
are neither a plus sign nor a separator, so the plus signs of a form all stand for spaces, and the
form is taken apart where it was joined. The characters of a form are plain enough to stand in the
query of any url as they are.
-/

namespace FeedHydration

theorem toNat_lt_of_isAlphanum {c : Char} (h : c.isAlphanum = true) : c.toNat < 0x80 := by
  delta Char.isAlphanum Char.isAlpha Char.isUpper Char.isLower Char.isDigit at h
  simp only [Bool.or_eq_true, Bool.and_eq_true, decide_eq_true_eq,
    UInt32.le_iff_toNat_le] at h
  have hval : c.toNat = c.val.toNat := rfl
  have hupper : 'Z'.val.toNat = 90 := rfl
  have hlower : 'z'.val.toNat = 122 := rfl
  have hdigit : '9'.val.toNat = 57 := rfl
  omega

/-- Pieces that are joined are the first one, and each other one behind a separator. -/
theorem Text.intercalate_cons (sep : Char) (piece : List Char) (pieces : List (List Char)) :
    [sep].intercalate (piece :: pieces) = piece ++ pieces.flatMap (sep :: ·) := by
  induction pieces generalizing piece with
  | nil => simp [List.intercalate]
  | cons next pieces ih =>
    rw [List.intercalate_cons_cons, ih, List.flatMap_cons, List.append_assoc]
    rfl

theorem Text.of_mem_intercalate {sep c : Char} {pieces : List (List Char)}
    (h : c ∈ [sep].intercalate pieces) : c = sep ∨ ∃ piece ∈ pieces, c ∈ piece := by
  cases pieces with
  | nil => cases h
  | cons piece pieces =>
    rw [intercalate_cons, List.mem_append, List.mem_flatMap] at h
    obtain h | ⟨later, hmem, h⟩ := h
    · exact Or.inr ⟨piece, List.mem_cons_self, h⟩
    · obtain rfl | h := List.mem_cons.1 h
      · exact Or.inl rfl
      · exact Or.inr ⟨later, List.mem_cons_of_mem _ hmem, h⟩

theorem Text.intercalate_splitAll (sep : Char) (text : List Char) :
    [sep].intercalate (splitAll sep text) = text := by
  obtain ⟨piece, pieces, hsplit⟩ := List.exists_cons_of_ne_nil (splitAll_ne_nil sep text)
  rw [hsplit, intercalate_cons, ← joined_splitAll hsplit]

/-! ### Escapes -/

namespace Percent

theorem hexValue?_upperHex : ∀ n < 16, hexValue? (upperHex n) = some n := by
  decide

theorem decode_cons_of_ne {c : Char} (h : c ≠ '%') (rest : List Char) :
    decode (c :: rest) = String.utf8EncodeChar c ++ decode rest := by
  rw [decode]
  simp [h]

/-- An escaped byte is read back, whatever follows it. -/
theorem decode_encodeByte (byte : UInt8) (rest : List Char) :
    decode (encodeByte byte ++ rest) = byte :: decode rest := by
  have hbyte : byte.toNat < 256 := byte.toNat_lt
  have hhigh := hexValue?_upperHex (byte.toNat / 16) (by omega)
  have hlow := hexValue?_upperHex (byte.toNat % 16) (by omega)
  have hdigits : byte.toNat / 16 * 16 + byte.toNat % 16 = byte.toNat := by omega
  simp only [encodeByte, List.cons_append, List.nil_append, decode, hhigh, hlow]
  rw [hdigits, UInt8.ofNat_toNat]

theorem decode_flatMap_encodeByte (bytes : Bytes) (rest : List Char) :
    decode (bytes.flatMap encodeByte ++ rest) = bytes ++ decode rest := by
  induction bytes with
  | nil => rfl
  | cons byte bytes ih =>
    rw [List.flatMap_cons, List.append_assoc, decode_encodeByte, ih, List.cons_append]

theorem isAlphanum_upperHex : ∀ n < 16, (upperHex n).isAlphanum = true := by
  decide

/-- An escaped byte is a percent sign with two letters or digits. -/
theorem of_mem_encodeByte {byte : UInt8} {c : Char} (h : c ∈ encodeByte byte) :
    c = '%' ∨ c.isAlphanum = true := by
  have hbyte : byte.toNat < 256 := byte.toNat_lt
  simp only [encodeByte, List.mem_cons, List.not_mem_nil, or_false] at h
  obtain rfl | rfl | rfl := h
  · exact .inl rfl
  · exact .inr (isAlphanum_upperHex _ (by omega))
  · exact .inr (isAlphanum_upperHex _ (by omega))

/-- What is escaped holds characters that need no escape, and escapes. -/
theorem of_mem_encode {set : Set} {text : List Char} {c : Char} (h : c ∈ encode set text) :
    (c ∈ text ∧ c.toNat < 0x80 ∧ set c = false) ∨ c = '%' ∨ c.isAlphanum = true := by
  obtain ⟨d, hd, hc⟩ := List.mem_flatMap.1 h
  unfold encodeChar at hc
  split at hc
  · rename_i hplain
    obtain rfl := List.mem_singleton.1 hc
    rw [Bool.and_eq_true, decide_eq_true_eq, Bool.not_eq_true'] at hplain
    exact .inl ⟨hd, hplain⟩
  · obtain ⟨byte, -, hbyte⟩ := List.mem_flatMap.1 hc
    exact .inr (of_mem_encodeByte hbyte)

/-- Characters that need no escape stand for themselves. -/
theorem encode_eq_self {set : Set} {text : List Char}
    (h : ∀ c ∈ text, c.toNat < 0x80 ∧ set c = false) : encode set text = text := by
  induction text with
  | nil => rfl
  | cons c text ih =>
    obtain ⟨⟨hascii, hset⟩, hrest⟩ := List.forall_mem_cons.1 h
    rw [encode] at ih ⊢
    rw [List.flatMap_cons, ih hrest, encodeChar, if_pos (by simp [hascii, hset])]
    rfl

end Percent

/-! ### Forms -/

namespace Form

/-- The characters of a form: those that stand for themselves, those of escapes and spaces, and the
separators. -/
def isFormChar (c : Char) : Bool :=
  isPlain c || c == '+' || c == '%' || c == '=' || c == '&'

theorem toNat_lt_of_isFormChar {c : Char} (h : isFormChar c = true) : c.toNat < 0x80 := by
  simp only [isFormChar, isPlain, Bool.or_eq_true, beq_iff_eq] at h
  obtain (((((((h | rfl) | rfl) | rfl) | rfl) | rfl) | rfl) | rfl) | rfl := h
  · exact toNat_lt_of_isAlphanum h
  all_goals decide

theorem ne_of_isPlain {c : Char} (h : isPlain c = true) :
    c ≠ '+' ∧ c ≠ '%' ∧ c ≠ '=' ∧ c ≠ '&' := by
  refine ⟨?_, ?_, ?_, ?_⟩ <;>
  · rintro rfl
    exact absurd h (by decide)

theorem isPlain_of_isAlphanum {c : Char} (h : c.isAlphanum = true) : isPlain c = true := by
  simp [isPlain, h]

/-- What a character is written with: plain characters, plus signs and escapes. -/
theorem of_mem_encodeChar {c d : Char} (h : d ∈ encodeChar c) :
    isPlain d = true ∨ d = '+' ∨ d = '%' := by
  unfold encodeChar at h
  split at h
  · exact .inr (.inl (List.mem_singleton.1 h))
  · split at h
    · rename_i hplain
      exact .inl (List.mem_singleton.1 h ▸ hplain)
    · obtain ⟨byte, -, hbyte⟩ := List.mem_flatMap.1 h
      obtain rfl | hdigit := Percent.of_mem_encodeByte hbyte
      · exact .inr (.inr rfl)
      · exact .inl (isPlain_of_isAlphanum hdigit)

theorem of_mem_encodePart {text : String} {d : Char} (h : d ∈ encodePart text) :
    isPlain d = true ∨ d = '+' ∨ d = '%' := by
  obtain ⟨c, -, hc⟩ := List.mem_flatMap.1 h
  exact of_mem_encodeChar hc

theorem separator_notMem_encodePart {text : String} {sep : Char} (h : sep = '=' ∨ sep = '&') :
    sep ∉ encodePart text := by
  intro hmem
  obtain hplain | rfl | rfl := of_mem_encodePart hmem
  · obtain ⟨-, -, hequals, hand⟩ := ne_of_isPlain hplain
    exact h.elim hequals hand
  · simp at h
  · simp at h

/-! ### Reading a form back -/

/-- A plus sign is a space again, and a written one is escaped. -/
theorem decode_encodeChar (c : Char) (rest : List Char) :
    Percent.decode ((encodeChar c).map (fun d => if d = '+' then ' ' else d) ++ rest) =
      String.utf8EncodeChar c ++ Percent.decode rest := by
  unfold encodeChar
  split
  · rename_i hspace
    subst hspace
    exact Percent.decode_cons_of_ne (by decide) rest
  · split
    · rename_i hplain
      obtain ⟨hplus, hpercent, -, -⟩ := ne_of_isPlain hplain
      rw [List.map_singleton, if_neg hplus]
      exact Percent.decode_cons_of_ne hpercent rest
    · have hbytes : ∀ d ∈ (String.utf8EncodeChar c).flatMap Percent.encodeByte,
          (if d = '+' then ' ' else d) = d := by
        intro d hd
        obtain ⟨byte, -, hbyte⟩ := List.mem_flatMap.1 hd
        rw [if_neg]
        rintro rfl
        obtain h | h := Percent.of_mem_encodeByte hbyte <;> exact absurd h (by decide)
      rw [List.map_congr_left hbytes, List.map_id', Percent.decode_flatMap_encodeByte]

theorem decode_encodePart (text : String) :
    Percent.decode ((encodePart text).map fun d => if d = '+' then ' ' else d) =
      Utf8.encode text.toList := by
  rw [encodePart, Utf8.encode]
  induction text.toList with
  | nil => rfl
  | cons c chars ih =>
    rw [List.flatMap_cons, List.map_append, decode_encodeChar, ih, List.flatMap_cons]

theorem decodePart_encodePart (text : String) : decodePart (encodePart text) = text := by
  rw [decodePart, decode_encodePart, Utf8.decodeLossy, Utf8.decode_encode, List.map_map]
  have hback : ((fun o : Option Char => o.getD '\uFFFD') ∘ some) = id := rfl
  rw [hback, List.map_id, String.ofList_toList]

theorem decodePair_encodePair (pair : String × String) : decodePair (encodePair pair) = pair := by
  rw [decodePair, encodePair, Text.cut_append _ _ _ (separator_notMem_encodePart (.inl rfl))]
  dsimp only
  rw [Option.getD_some, decodePart_encodePart, decodePart_encodePart]

theorem and_notMem_encodePair (pair : String × String) : '&' ∉ encodePair pair := by
  have hpart : ∀ text, '&' ∉ encodePart text := fun _ => separator_notMem_encodePart (.inr rfl)
  simp [encodePair, hpart]

theorem encode_cons (pair : String × String) (pairs : List (String × String)) :
    encode (pair :: pairs) = encodePair pair ++ (pairs.map encodePair).flatMap ('&' :: ·) :=
  Text.intercalate_cons '&' (encodePair pair) (pairs.map encodePair)

/-- **Forms are read back.** -/
theorem decode_encode (pairs : List (String × String)) : decode (encode pairs) = pairs := by
  cases pairs with
  | nil => rfl
  | cons pair pairs =>
    have hsplit : Text.splitAll '&' (encode (pair :: pairs)) =
        (pair :: pairs).map encodePair := by
      rw [encode_cons, Text.splitAll_joined, List.map_cons]
      rw [← List.map_cons, List.forall_mem_map]
      exact fun other _ => and_notMem_encodePair other
    have hnonempty : ∀ piece ∈ (pair :: pairs).map encodePair, (!piece.isEmpty) = true := by
      rw [List.forall_mem_map]
      intro other _
      simp [encodePair]
    rw [decode, hsplit, List.filter_eq_self.2 hnonempty, List.map_map]
    exact (List.map_congr_left fun other _ => decodePair_encodePair other).trans (List.map_id _)

theorem encode_ne_nil {pairs : List (String × String)} (h : pairs ≠ []) : encode pairs ≠ [] := by
  obtain ⟨pair, rest, rfl⟩ := List.exists_cons_of_ne_nil h
  simp [encode_cons, encodePair]

/-! ### Forms in urls -/

theorem isFormChar_of_mem_encode {pairs : List (String × String)} {d : Char}
    (h : d ∈ encode pairs) : isFormChar d = true := by
  have hpart : ∀ text : String, d ∈ encodePart text → isFormChar d = true := by
    intro text hmem
    obtain hplain | rfl | rfl := of_mem_encodePart hmem
    · simp [isFormChar, hplain]
    · rfl
    · rfl
  have hpair : ∀ pair : String × String, d ∈ encodePair pair → isFormChar d = true := by
    intro pair hmem
    obtain hmem | rfl | hmem := by simpa [encodePair] using hmem
    · exact hpart _ hmem
    · rfl
    · exact hpart _ hmem
  cases pairs with
  | nil => cases h
  | cons pair pairs =>
    rw [encode_cons, List.mem_append, List.mem_flatMap] at h
    obtain h | ⟨piece, hpiece, h⟩ := h
    · exact hpair pair h
    · obtain ⟨other, -, rfl⟩ := List.mem_map.1 hpiece
      obtain rfl | h := List.mem_cons.1 h
      · rfl
      · exact hpair other h

/-- No character of a form is dropped from a query or escaped in it. -/
theorem isFormChar_kept {c : Char} (h : isFormChar c = true) :
    (c ≠ '\t' ∧ c ≠ '\n' ∧ c ≠ '\r') ∧ Percent.specialQuery c = false ∧
      Percent.query c = false := by
  have hkept : ∀ n < 0x80, isFormChar (Char.ofNat n) = true →
      (Char.ofNat n ≠ '\t' ∧ Char.ofNat n ≠ '\n' ∧ Char.ofNat n ≠ '\r') ∧
        Percent.specialQuery (Char.ofNat n) = false ∧ Percent.query (Char.ofNat n) = false := by
    decide
  have hc := hkept c.toNat (toNat_lt_of_isFormChar h)
  rw [Char.ofNat_toNat] at hc
  exact hc h

/-- The query of a url takes a form as it is. -/
theorem encodeQuery_encode (kind : SchemeKind) (pairs : List (String × String)) :
    Url.encodeQuery kind (encode pairs) = encode pairs := by
  have hkept : ∀ c ∈ encode pairs, (c ≠ '\t' ∧ c ≠ '\n' ∧ c ≠ '\r') ∧
      Percent.specialQuery c = false ∧ Percent.query c = false :=
    fun c hc => isFormChar_kept (isFormChar_of_mem_encode hc)
  have hdrop : Url.dropLineBreaks (encode pairs) = encode pairs := by
    rw [Url.dropLineBreaks, List.filter_eq_self]
    intro c hc
    simp [(hkept c hc).1]
  rw [Url.encodeQuery, hdrop]
  apply Percent.encode_eq_self
  intro c hc
  refine ⟨toNat_lt_of_isFormChar (isFormChar_of_mem_encode hc), ?_⟩
  split
  · exact (hkept c hc).2.1
  · exact (hkept c hc).2.2

end Form

end FeedHydration

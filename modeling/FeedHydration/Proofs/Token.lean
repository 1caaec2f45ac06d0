import FeedHydration.Json.Printer
import FeedHydration.Json.Token
import Mathlib.Algebra.Group.Int.Defs
import Mathlib.Data.List.TakeWhile
import Mathlib.Data.Option.Basic

/-!
# The tokens of a printed value

A printed text is read as the tokens of its value. A string ends at its quote; a word and a number
end only at a character that cannot belong to them, so a value is followed by the end of the text or
by such a character. Numbers are taken as whole ones of 64 bits: others may be rounded.
-/

namespace FeedHydration

/-- A whole number that fits into 64 bits, with or without a sign. -/
def JsonNumber.IsWhole : JsonNumber → Prop
  | .int n => -2 ^ 63 ≤ n ∧ n < 2 ^ 64
  | .real _ => False

namespace Json

/-! ### Values as tokens -/

mutual

def tokensOf : Json → List Token
  | .null => [.null]
  | .bool b => [.bool b]
  | .num n => [.number (some n)]
  | .str s => [.string (some s)]
  | .arr items => .beginArray :: (itemTokens items ++ [.endArray])
  | .obj members => .beginObject :: (memberTokens members ++ [.endObject])

def itemTokens : List Json → List Token
  | [] => []
  | [item] => tokensOf item
  | item :: next :: items => tokensOf item ++ .comma :: itemTokens (next :: items)

def memberTokens : List (String × Json) → List Token
  | [] => []
  | [(name, item)] => .string (some name) :: .colon :: tokensOf item
  | (name, item) :: next :: members =>
    .string (some name) :: .colon :: (tokensOf item ++ .comma :: memberTokens (next :: members))

end

mutual

/-- Every number in a value is whole. -/
def IsWhole : Json → Prop
  | .null | .bool _ | .str _ => True
  | .num n => n.IsWhole
  | .arr items => AreWhole items
  | .obj members => HaveWhole members

def AreWhole : List Json → Prop
  | [] => True
  | item :: items => IsWhole item ∧ AreWhole items

def HaveWhole : List (String × Json) → Prop
  | [] => True
  | (_, value) :: members => IsWhole value ∧ HaveWhole members

end

/-! ### Numbers -/

theorem isWhole_toDigits (n : Nat) : Literal.isWhole (Nat.toDigits 10 n) = true := by
  have hhead : ∀ n, 0 < n → (Nat.toDigits 10 n).head? ≠ some '0' := by
    intro n
    induction n using Nat.strongRecOn with
    | ind n ih =>
      intro hpos
      rw [Nat.toDigits_eq_if (by decide)]
      split
      · rw [List.head?_cons, ne_eq, Option.some.injEq, Nat.digitChar_eq_zero]
        omega
      · have hne : Nat.toDigits 10 (n / 10) ≠ [] := Nat.toDigits_ne_nil
        have hsome : (Nat.toDigits 10 (n / 10)).head? =
            some ((Nat.toDigits 10 (n / 10)).head hne) :=
          List.head?_eq_some_head hne
        rw [List.head?_append, hsome, Option.some_or, ← hsome]
        exact ih (n / 10) (by omega) (by omega)
  obtain rfl | hpos := Nat.eq_zero_or_pos n
  · rfl
  · have hne : Nat.toDigits 10 n ≠ [] := Nat.toDigits_ne_nil
    have hzero := hhead n hpos
    unfold Literal.isWhole
    split
    · contradiction
    · rename_i heq
      rw [heq] at hzero
      exact absurd rfl hzero
    · rfl

theorem natOfDigits_toDigits (n : Nat) : Literal.natOfDigits (Nat.toDigits 10 n) = n := by
  have hfold : Literal.natOfDigits (Nat.toDigits 10 n) =
      Nat.ofDigitChars 10 (Nat.toDigits 10 n) 0 := by
    rw [Nat.ofDigitChars_eq_foldl, Literal.natOfDigits]
    congr
    funext n c
    rw [Nat.mul_comm]
  rw [hfold, Nat.ofDigitChars_ten_toDigits]

theorem isDigit_of_mem_toDigits {n : Nat} : ∀ c ∈ Nat.toDigits 10 n, c.isDigit = true :=
  fun _ => Nat.isDigit_of_mem_toDigits (by decide) (by decide)

theorem takeDigits_toDigits (n : Nat) :
    Literal.takeDigits (Nat.toDigits 10 n) = (Nat.toDigits 10 n, []) := by
  rw [Literal.takeDigits, List.takeWhile_eq_self_iff.2 isDigit_of_mem_toDigits,
    List.dropWhile_eq_nil_iff.2 isDigit_of_mem_toDigits]

theorem guard_isWhole_toDigits (n : Nat) :
    (guard (Literal.isWhole (Nat.toDigits 10 n) = true) : Option Unit) = some () :=
  (Option.guard_eq_some' ()).2 (isWhole_toDigits n)

theorem parse?_toDigits (n : Nat) :
    Literal.parse? (Nat.toDigits 10 n) = some ⟨false, Nat.toDigits 10 n, none, none⟩ := by
  have hsign : ∀ rest, Nat.toDigits 10 n ≠ '-' :: rest := by
    intro rest heq
    have hdigit := isDigit_of_mem_toDigits (n := n) '-' (heq ▸ List.mem_cons_self)
    exact absurd hdigit (by decide)
  unfold Literal.parse?
  split
  · rename_i heq
    split at heq
    · rename_i hneg
      exact absurd hneg (hsign _)
    · cases heq
      simp only [takeDigits_toDigits, guard_isWhole_toDigits]
      rfl

theorem parse?_minus_toDigits (n : Nat) :
    Literal.parse? ('-' :: Nat.toDigits 10 n) = some ⟨true, Nat.toDigits 10 n, none, none⟩ := by
  unfold Literal.parse?
  simp only [takeDigits_toDigits, guard_isWhole_toDigits]
  rfl

theorem render_ofNat (n : Nat) : (JsonNumber.int (.ofNat n)).render = Nat.toDigits 10 n := by
  change (toString n).toList = _
  rw [Nat.toString_eq_ofList_toDigits, String.toList_ofList]

theorem render_negSucc (n : Nat) :
    (JsonNumber.int (.negSucc n)).render = '-' :: Nat.toDigits 10 (n + 1) := by
  change ("-" ++ toString (n + 1)).toList = _
  rw [String.toList_append, Nat.toString_eq_ofList_toDigits, String.toList_ofList,
    String.toList_ofList, List.singleton_append]

/-- A whole number is read from its digits as it is. -/
theorem numberToken?_render {n : JsonNumber} (h : n.IsWhole) :
    Lexer.numberToken? n.render = some (.number (some n)) := by
  match n, h with
  | .int (.ofNat n), h =>
    have hlt : n < Nat.pow 2 64 := by
      have hupper := h.2
      simp only [Int.ofNat_eq_natCast] at hupper
      exact Int.ofNat_lt.1 hupper
    rw [render_ofNat, Lexer.numberToken?, parse?_toDigits, Option.map_some, Literal.value?]
    simp only [natOfDigits_toDigits, Bool.false_eq_true, if_false, if_pos hlt]
    rfl
  | .int (.negSucc n), h =>
    have hlower := h.1
    have hbound : ¬ (n + 1 = 0 ∨ Nat.pow 2 63 < n + 1) := by
      have hpow : Nat.pow 2 63 = 9223372036854775808 := rfl
      rw [Int.negSucc_eq] at hlower
      omega
    rw [render_negSucc, Lexer.numberToken?, parse?_minus_toDigits, Option.map_some,
      Literal.value?]
    simp only [natOfDigits_toDigits, if_true, if_neg hbound]
    rfl

/-! ### Strings -/

/-- A piece of a string that stands for one character, whatever comes next. -/
def Piece.Spells (piece : Piece) (c : Char) : Prop :=
  ∀ pieces, Piece.text? (piece :: pieces) = (Piece.text? pieces).map (c :: ·)

theorem Piece.spells_char (c : Char) : (Piece.char c).Spells c := fun _ => rfl

/-- What is given by its number is no half of a surrogate pair. -/
theorem Piece.spells_unit {n : Nat} (h : n < 0xD800) : (Piece.unit n).Spells (Char.ofNat n) := by
  have hhigh : isHighSurrogate n = false := by
    simp only [isHighSurrogate, Bool.and_eq_false_iff, decide_eq_false_iff_not]
    omega
  have hlow : isLowSurrogate n = false := by
    simp only [isLowSurrogate, Bool.and_eq_false_iff, decide_eq_false_iff_not]
    omega
  intro pieces
  match pieces with
  | [] | .char _ :: _ | .illFormed :: _ | .unit _ :: _ => simp [text?, hhigh, hlow]

namespace Lexer

variable {mode next : Mode} {glyph : Glyph} {rest : List Glyph} {c : Char} {before : List Piece}

theorem tokensFrom?_of_step {tokens : List Token} (h : step? mode glyph = some (tokens, next)) :
    tokensFrom? mode (glyph :: rest) = (tokensFrom? next rest).map (tokens ++ ·) := by
  rw [tokensFrom?, h]
  simp only [Option.bind_eq_bind, Option.bind_some]
  cases tokensFrom? next rest <;> rfl

theorem tokensFrom?_of_silent (next : Mode) (h : step? mode glyph = some ([], next)) :
    tokensFrom? mode (glyph :: rest) = tokensFrom? next rest := by
  rw [tokensFrom?_of_step h]
  exact Option.map_id_apply

theorem tokensFrom?_of_single {token : Token} (h : step? mode glyph = some ([token], next)) :
    tokensFrom? mode (glyph :: rest) = (tokensFrom? next rest).map (token :: ·) :=
  tokensFrom?_of_step h

theorem hexValue?_hexDigit : ∀ n < 16, hexValue? (hexDigit n) = some n := by decide

/-- A character after a backslash. -/
theorem tokensFrom?_short {letter : Char} (hletter : letter ≠ 'u') (h : escaped? letter = some c) :
    tokensFrom? (.string before) (some '\\' :: some letter :: rest) =
      tokensFrom? (.string (.char c :: before)) rest := by
  have hescape : step? (.escape before) (some letter) = some ([], .string (.char c :: before)) := by
    rw [step?, if_neg hletter, h, Option.map_some]
  rw [tokensFrom?_of_silent (.escape before) rfl, tokensFrom?_of_silent _ hescape]

/-- A control character, given by its number. -/
theorem tokensFrom?_unit {n : Nat} (h : n < 0x20) :
    tokensFrom? (.string before) (some '\\' :: some 'u' :: some '0' :: some '0' ::
        some (hexDigit (n / 16)) :: some (hexDigit (n % 16)) :: rest) =
      tokensFrom? (.string (.unit n :: before)) rest := by
  have hhigh : step? (.unit before 2 0) (some (hexDigit (n / 16))) =
      some ([], .unit before 3 (n / 16)) := by
    rw [step?, hexValue?_hexDigit _ (by omega)]
    simp
  have hlow : step? (.unit before 3 (n / 16)) (some (hexDigit (n % 16))) =
      some ([], .string (.unit n :: before)) := by
    have hvalue : n / 16 * 16 + n % 16 = n := by omega
    rw [step?, hexValue?_hexDigit _ (by omega)]
    simp [hvalue]
  rw [tokensFrom?_of_silent (.escape before) rfl, tokensFrom?_of_silent (.unit before 0 0) rfl,
    tokensFrom?_of_silent (.unit before 1 0) rfl, tokensFrom?_of_silent (.unit before 2 0) rfl,
    tokensFrom?_of_silent _ hhigh, tokensFrom?_of_silent _ hlow]

/-- A character is written so that it is read as a piece that spells it. -/
theorem exists_spells (c : Char) : ∃ piece : Piece, piece.Spells c ∧ ∀ before rest,
    tokensFrom? (.string before) ((escapeChar c).map some ++ rest) =
      tokensFrom? (.string (piece :: before)) rest := by
  have hchar := Piece.spells_char c
  unfold escapeChar
  split
  · exact ⟨_, hchar, fun _ _ => tokensFrom?_short (by decide) (by subst c; rfl)⟩
  split
  · exact ⟨_, hchar, fun _ _ => tokensFrom?_short (by decide) (by subst c; rfl)⟩
  split
  · exact ⟨_, hchar, fun _ _ => tokensFrom?_short (by decide) (by subst c; rfl)⟩
  split
  · exact ⟨_, hchar, fun _ _ => tokensFrom?_short (by decide) (by subst c; rfl)⟩
  split
  · exact ⟨_, hchar, fun _ _ => tokensFrom?_short (by decide) (by subst c; rfl)⟩
  split
  · exact ⟨_, hchar, fun _ _ => tokensFrom?_short (by decide) (by subst c; rfl)⟩
  split
  · exact ⟨_, hchar, fun _ _ => tokensFrom?_short (by decide) (by subst c; rfl)⟩
  rename_i hquote hbackslash _ _ _ _ _
  split
  · rename_i hcontrol
    have hunit := Piece.spells_unit (n := c.toNat) (by omega)
    rw [Char.ofNat_toNat] at hunit
    exact ⟨_, hunit, fun _ _ => tokensFrom?_unit hcontrol⟩
  · rename_i hplain
    refine ⟨_, hchar, fun before rest => tokensFrom?_of_silent _ ?_⟩
    rw [step?, if_neg hquote, if_neg hbackslash, if_neg hplain]

theorem exists_pieces (chars : List Char) : ∃ pieces : List Piece,
    Piece.text? pieces = some chars ∧ ∀ before rest,
      tokensFrom? (.string before) ((chars.flatMap escapeChar).map some ++ rest) =
        tokensFrom? (.string (pieces.reverse ++ before)) rest := by
  induction chars with
  | nil => exact ⟨[], rfl, fun _ _ => rfl⟩
  | cons c chars ih =>
    obtain ⟨piece, hspells, hpiece⟩ := exists_spells c
    obtain ⟨pieces, htext, hpieces⟩ := ih
    refine ⟨piece :: pieces, ?_, fun before rest => ?_⟩
    · rw [hspells, htext, Option.map_some]
    · rw [List.flatMap_cons, List.map_append, List.append_assoc, hpiece, hpieces,
        List.reverse_cons, List.append_assoc, List.singleton_append]

/-- A string ends at its quote. -/
theorem tokensFrom?_quote (s : String) : tokensFrom? .between ((quote s.toList).map some ++ rest) =
    (tokensFrom? .between rest).map (.string (some s) :: ·) := by
  obtain ⟨pieces, htext, hpieces⟩ := exists_pieces s.toList
  have htoken : stringToken (pieces.reverse ++ []).reverse = .string (some s) := by
    rw [List.append_nil, List.reverse_reverse, stringToken, htext, Option.map_some,
      String.ofList_toList]
  rw [quote, List.map_cons, List.cons_append, tokensFrom?_of_silent (.string []) rfl,
    List.map_append, List.append_assoc, hpieces]
  exact tokensFrom?_of_single (by rw [step?, if_pos rfl, htoken])

/-! ### Words and numbers -/

/-- No word and no number goes on here. -/
def IsBoundary (rest : List Glyph) : Prop :=
  ∀ glyph ∈ rest.head?, ∃ c, glyph = some c ∧ c.isLower = false ∧ isNumberChar c = false

theorem isBoundary_cons (hlower : c.isLower = false) (hnumber : isNumberChar c = false) :
    IsBoundary (some c :: rest) := by
  intro glyph h
  cases h
  exact ⟨c, rfl, hlower, hnumber⟩

theorem isBoundary_nil : IsBoundary [] := by
  intro glyph h
  cases h

/-- What ends a token is read as if nothing had been before it. -/
theorem tokensFrom?_end {token : Token} (hfinish : finish? mode = some [token])
    (hstep : ∀ c, c.isLower = false → isNumberChar c = false →
      step? mode (some c) = endToken? (some token) c) (hrest : IsBoundary rest) :
    tokensFrom? mode rest = (tokensFrom? .between rest).map (token :: ·) := by
  cases rest with
  | nil =>
    rw [tokensFrom?, hfinish]
    rfl
  | cons glyph rest =>
    obtain ⟨c, rfl, hlower, hnumber⟩ := hrest glyph rfl
    rw [tokensFrom?, tokensFrom?, hstep c hlower hnumber, endToken?, step?]
    simp only [Option.bind_eq_bind, Option.bind_some]
    cases start? c with
    | none => rfl
    | some started =>
      simp only [Option.bind_some]
      cases tokensFrom? started.2 rest <;> rfl

theorem tokensFrom?_endWord {text : List Char} {token : Token}
    (h : wordToken? text.reverse = some token) (hrest : IsBoundary rest) :
    tokensFrom? (.word text) rest = (tokensFrom? .between rest).map (token :: ·) := by
  refine tokensFrom?_end (by rw [finish?, h]; rfl) (fun c hlower _ => ?_) hrest
  rw [step?, hlower, h]
  rfl

theorem tokensFrom?_endNumber {text : List Char} {token : Token}
    (h : numberToken? text.reverse = some token) (hrest : IsBoundary rest) :
    tokensFrom? (.number text) rest = (tokensFrom? .between rest).map (token :: ·) := by
  refine tokensFrom?_end (by rw [finish?, h]; rfl) (fun c _ hnumber => ?_) hrest
  rw [step?, hnumber, h]
  rfl

/-- Characters that belong to a word or a number are added to it. -/
theorem tokensFrom?_run {mode : List Char → Mode} {chars : List Char}
    (h : ∀ text, ∀ c ∈ chars, step? (mode text) (some c) = some ([], mode (c :: text)))
    (text : List Char) : tokensFrom? (mode text) (chars.map some ++ rest) =
      tokensFrom? (mode (chars.reverse ++ text)) rest := by
  induction chars generalizing text with
  | nil => rfl
  | cons c chars ih =>
    rw [List.map_cons, List.cons_append, tokensFrom?_of_silent _ (h text c List.mem_cons_self),
      ih (fun text d hd => h text d (List.mem_cons_of_mem _ hd)), List.reverse_cons,
      List.append_assoc, List.singleton_append]

theorem tokensFrom?_word {chars : List Char} {token : Token}
    (hstart : step? .between (some c) = some ([], .word [c]))
    (hlower : chars.all Char.isLower = true) (htoken : wordToken? (c :: chars) = some token)
    (hrest : IsBoundary rest) :
    tokensFrom? .between ((c :: chars).map some ++ rest) =
      (tokensFrom? .between rest).map (token :: ·) := by
  have hstep : ∀ text, ∀ d ∈ chars, step? (.word text) (some d) = some ([], .word (d :: text)) :=
    fun text d hd => by rw [step?, if_pos (List.all_eq_true.1 hlower d hd)]
  rw [List.map_cons, List.cons_append, tokensFrom?_of_silent (.word [c]) hstart,
    tokensFrom?_run hstep]
  refine tokensFrom?_endWord ?_ hrest
  rw [List.reverse_append, List.reverse_reverse]
  exact htoken

theorem step?_of_number (h : c.isDigit = true ∨ c = '-') :
    step? .between (some c) = some ([], .number [c]) := by
  have hne : ∀ d : Char, d.isDigit = false → d ≠ '-' → c ≠ d := by
    rintro d hdigit hminus rfl
    rw [hdigit] at h
    exact h.elim Bool.noConfusion hminus
  have hblank : isBlank c = false := by
    simp only [isBlank, Bool.or_eq_false_iff, beq_eq_false_iff_ne]
    exact ⟨⟨⟨hne _ rfl (by decide), hne _ rfl (by decide)⟩, hne _ rfl (by decide)⟩,
      hne _ rfl (by decide)⟩
  rw [step?, start?, hblank, if_neg Bool.false_ne_true, if_neg (hne _ rfl (by decide)),
    if_pos (by simpa using h)]

theorem tokensFrom?_number {n : JsonNumber} (h : n.IsWhole) (hrest : IsBoundary rest) :
    tokensFrom? .between (n.render.map some ++ rest) =
      (tokensFrom? .between rest).map (.number (some n) :: ·) := by
  have hwritten : ∃ c chars, n.render = c :: chars ∧ (c.isDigit = true ∨ c = '-') ∧
      ∀ d ∈ chars, d.isDigit = true := by
    match n, h with
    | .int (.ofNat n), _ =>
      have hne : Nat.toDigits 10 n ≠ [] := Nat.toDigits_ne_nil
      obtain ⟨c, chars, heq⟩ := List.exists_cons_of_ne_nil hne
      have hdigits := isDigit_of_mem_toDigits (n := n)
      rw [heq] at hdigits
      exact ⟨c, chars, by rw [render_ofNat, heq], .inl (hdigits c List.mem_cons_self),
        fun d hd => hdigits d (List.mem_cons_of_mem _ hd)⟩
    | .int (.negSucc n), _ =>
      exact ⟨'-', _, render_negSucc n, .inr rfl, isDigit_of_mem_toDigits⟩
  obtain ⟨c, chars, hrender, hc, hchars⟩ := hwritten
  have hstep : ∀ text, ∀ d ∈ chars,
      step? (.number text) (some d) = some ([], .number (d :: text)) := by
    intro text d hd
    rw [step?, if_pos (by simp [isNumberChar, hchars d hd])]
  rw [hrender, List.map_cons, List.cons_append,
    tokensFrom?_of_silent (.number [c]) (step?_of_number hc), tokensFrom?_run hstep]
  refine tokensFrom?_endNumber ?_ hrest
  rw [List.reverse_append, List.reverse_reverse, List.reverse_singleton, List.singleton_append,
    ← hrender]
  exact numberToken?_render h

end Lexer

/-! ### Values -/

open Lexer

/-- A text between two characters that are tokens by themselves. -/
theorem tokensFrom?_enclosed {first last : Char} {start stop : Token} {inner : List Char}
    {tokens : List Token} {rest : List (Option Char)}
    (hfirst : step? .between (some first) = some ([start], .between))
    (hlast : step? .between (some last) = some ([stop], .between))
    (hinner : tokensFrom? .between (inner.map some ++ some last :: rest) =
      (tokensFrom? .between (some last :: rest)).map (tokens ++ ·)) :
    tokensFrom? .between ((first :: (inner ++ [last])).map some ++ rest) =
      (tokensFrom? .between rest).map (start :: (tokens ++ [stop]) ++ ·) := by
  rw [List.map_cons, List.cons_append, tokensFrom?_of_single hfirst, List.map_append,
    List.append_assoc, List.map_singleton, List.singleton_append, hinner,
    tokensFrom?_of_single hlast, Option.map_map, Option.map_map]
  simp [Function.comp_def]

-- What follows is free in all three statements: the text of a part goes on with that of the whole.
mutual

theorem tokensFrom?_render : ∀ {value : Json}, value.IsWhole → ∀ {rest}, IsBoundary rest →
    tokensFrom? .between (value.render.map some ++ rest) =
      (tokensFrom? .between rest).map (value.tokensOf ++ ·)
  | .null, _, _, hrest => tokensFrom?_word (by rfl) (by rfl) (by rfl) hrest
  | .bool true, _, _, hrest => tokensFrom?_word (by rfl) (by rfl) (by rfl) hrest
  | .bool false, _, _, hrest => tokensFrom?_word (by rfl) (by rfl) (by rfl) hrest
  | .num n, h, _, hrest => tokensFrom?_number h hrest
  | .str s, _, _, _ => tokensFrom?_quote s
  | .arr items, h, rest, _ => by
    rw [render, tokensOf]
    exact tokensFrom?_enclosed (by rfl) (by rfl)
      (tokensFrom?_renderItems h (isBoundary_cons rfl rfl))
  | .obj members, h, rest, _ => by
    rw [render, tokensOf]
    exact tokensFrom?_enclosed (by rfl) (by rfl)
      (tokensFrom?_renderMembers h (isBoundary_cons rfl rfl))

theorem tokensFrom?_renderItems : ∀ {items : List Json}, AreWhole items → ∀ {rest},
    IsBoundary rest → tokensFrom? .between ((renderItems items).map some ++ rest) =
      (tokensFrom? .between rest).map (itemTokens items ++ ·)
  | [], _, _, _ => Option.map_id_apply.symm
  | [item], h, _, hrest => tokensFrom?_render h.1 hrest
  | item :: next :: items, h, rest, hrest => by
    rw [renderItems, List.map_append, List.append_assoc, List.map_cons, List.cons_append,
      tokensFrom?_render h.1 (isBoundary_cons rfl rfl), tokensFrom?_of_single (by rfl),
      tokensFrom?_renderItems h.2 hrest, Option.map_map, Option.map_map, itemTokens]
    simp [Function.comp_def]

theorem tokensFrom?_renderMembers : ∀ {members : List (String × Json)}, HaveWhole members →
    ∀ {rest}, IsBoundary rest →
      tokensFrom? .between ((renderMembers members).map some ++ rest) =
        (tokensFrom? .between rest).map (memberTokens members ++ ·)
  | [], _, _, _ => Option.map_id_apply.symm
  | [(name, item)], h, rest, hrest => by
    rw [renderMembers, List.map_append, List.append_assoc, tokensFrom?_quote, List.map_cons,
      List.cons_append, tokensFrom?_of_single (by rfl), tokensFrom?_render h.1 hrest,
      Option.map_map, Option.map_map, memberTokens]
    simp [Function.comp_def]
  | (name, item) :: next :: members, h, rest, hrest => by
    rw [renderMembers, List.map_append, List.append_assoc, tokensFrom?_quote, List.map_cons,
      List.cons_append, tokensFrom?_of_single (by rfl), List.map_append, List.append_assoc,
      List.map_cons, List.cons_append, tokensFrom?_render h.1 (isBoundary_cons rfl rfl),
      tokensFrom?_of_single (by rfl), tokensFrom?_renderMembers h.2 hrest, Option.map_map,
      Option.map_map, Option.map_map, Option.map_map, memberTokens]
    simp [Function.comp_def]

end

/-- The text of a value with whole numbers has the tokens of the value. -/
theorem tokens?_render {value : Json} (h : value.IsWhole) :
    tokens? (value.render.map some) = some value.tokensOf := by
  have htokens := tokensFrom?_render h isBoundary_nil
  rw [List.append_nil] at htokens
  rw [tokens?, htokens, tokensFrom?, finish?, Option.map_some, List.append_nil]

end Json

end FeedHydration

/-!
Characters and bytes. `encode` writes characters as UTF-8, `decode` reads bytes back and marks each
maximal ill-formed run of bytes by `none`; the strict and the lossy reading are two views of
`decode`. A text with too many bytes is cut at a boundary between characters.
-/

namespace FeedHydration

/-- Bytes of a message body. -/
abbrev Bytes := List UInt8

namespace Utf8

def encode (chars : List Char) : Bytes :=
  chars.flatMap String.utf8EncodeChar

/-- A multi-byte sequence that is not finished: how many bytes are left, where the next one must
lie, and the bits read so far. -/
structure Pending where
  left : Nat
  lower : Nat
  upper : Nat
  value : Nat

/-- The first byte of a sequence settles its length and, for the extreme lead bytes, a narrower
range for the second byte, so that no overlong form, surrogate or value above U+10FFFF passes. -/
def start (byte : Nat) : List (Option Char) × Option Pending :=
  if byte < 0x80 then ([some (Char.ofNat byte)], none)
  else if byte < 0xC2 then ([none], none)
  else if byte < 0xE0 then ([], some ⟨1, 0x80, 0xBF, byte - 0xC0⟩)
  else if byte = 0xE0 then ([], some ⟨2, 0xA0, 0xBF, 0⟩)
  else if byte = 0xED then ([], some ⟨2, 0x80, 0x9F, 0xD⟩)
  else if byte < 0xF0 then ([], some ⟨2, 0x80, 0xBF, byte - 0xE0⟩)
  else if byte = 0xF0 then ([], some ⟨3, 0x90, 0xBF, 0⟩)
  else if byte < 0xF4 then ([], some ⟨3, 0x80, 0xBF, byte - 0xF0⟩)
  else if byte = 0xF4 then ([], some ⟨3, 0x80, 0x8F, 4⟩)
  else ([none], none)

def step : Option Pending → Nat → List (Option Char) × Option Pending
  | none, byte => start byte
  | some pending, byte =>
    if pending.lower ≤ byte ∧ byte ≤ pending.upper then
      let value := pending.value * 64 + (byte - 0x80)
      if pending.left ≤ 1 then ([some (Char.ofNat value)], none)
      else ([], some ⟨pending.left - 1, 0x80, 0xBF, value⟩)
    else
      let next := start byte
      (none :: next.1, next.2)

def decodeFrom : Option Pending → Bytes → List (Option Char)
  | none, [] => []
  | some _, [] => [none]
  | pending, byte :: rest =>
    let next := step pending byte.toNat
    next.1 ++ decodeFrom next.2 rest

/-- The characters of a byte string; `none` stands for a maximal ill-formed run. -/
def decode (bytes : Bytes) : List (Option Char) :=
  decodeFrom none bytes

/-- Ill-formed runs become U+FFFD. -/
def decodeLossy (bytes : Bytes) : String :=
  String.ofList ((decode bytes).map (·.getD '\uFFFD'))

/-- Succeeds only on well-formed bytes. -/
def decode? (bytes : Bytes) : Option String :=
  ((decode bytes).mapM id).map String.ofList

end Utf8

namespace Text

theorem pos?_eq_some_iff {text : String} {place : String.Pos.Raw} {pos : text.Pos} :
    text.pos? place = some pos ↔ pos.offset = place := by
  simp only [String.pos?, String.Slice.pos?]
  split
  · simp [String.Pos.ext_iff, eq_comm]
  · rename_i h
    simp only [Option.map_none, reduceCtorEq, false_iff]
    rintro rfl
    exact h (String.Pos.Raw.isValidForSlice_eq_true_iff.2 pos.isValid.toSlice)

/-- The boundary between characters that is met first on the way back from a byte, byte by byte;
there is none if the way leads past the beginning of the text. -/
def boundaryBack? (text : String) : Nat → Option text.Pos
  | 0 => text.pos? ⟨0⟩
  | place + 1 => text.pos? ⟨place + 1⟩ <|> boundaryBack? text place

/-- The beginning of a text is a boundary, so the way back ends there at the latest. -/
theorem isSome_boundaryBack? (text : String) (place : Nat) :
    (boundaryBack? text place).isSome = true := by
  induction place with
  | zero =>
    have hstart : text.pos? ⟨0⟩ = some text.startPos := pos?_eq_some_iff.2 rfl
    rw [boundaryBack?, hstart, Option.isSome_some]
  | succ place ih =>
    rw [boundaryBack?, Option.orElse_eq_orElse, Option.orElse_eq_or, Option.isSome_or, ih,
      Bool.or_true]

end Text

/-- A text that has more than `limit` bytes is cut there, or at the next boundary before. -/
def truncateText (text : String) (limit : Nat) : String :=
  if text.utf8ByteSize ≤ limit then text
  else
    let cut := (Text.boundaryBack? text limit).get (Text.isSome_boundaryBack? text limit)
    (text.sliceTo cut).copy

end FeedHydration

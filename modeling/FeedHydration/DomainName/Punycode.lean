import FeedHydration.Text.Search

/-!
Punycode, the form in which a label of a domain name keeps characters beyond ASCII. ASCII characters
come first; numbers after the last hyphen tell which characters are inserted, and where. A number is
written least digit first, to base 36, and how many digits it takes depends on the numbers before.
-/

namespace FeedHydration.Punycode

/-- Letters stand for 0 to 25, decimal digits for 26 to 35. -/
def digit? (c : Char) : Option Nat :=
  if c.isLower then some (c.toNat - 'a'.toNat)
  else if c.isUpper then some (c.toNat - 'A'.toNat)
  else if c.isDigit then some (c.toNat - '0'.toNat + 26)
  else none

/-- A digit below the threshold of its place is the last one of its number. -/
def threshold (bias place : Nat) : Nat :=
  min 26 (max 1 (place - bias))

/-- One number, and what follows it. Places grow in steps of 36. -/
def number? (bias place weight : Nat) : List Char → Option (Nat × List Char)
  | [] => none
  | c :: rest => do
    let digit ← digit? c
    let limit := threshold bias place
    if digit < limit then some (digit * weight, rest)
    else
      let (higher, rest) ← number? bias (place + 36) (weight * (36 - limit)) rest
      some (digit * weight + higher, rest)

theorem length_lt_of_number? {bias place weight value : Nat} {text rest : List Char}
    (h : number? bias place weight text = some (value, rest)) : rest.length < text.length := by
  induction text generalizing place weight value with
  | nil => simp [number?] at h
  | cons c text ih =>
    simp only [number?, Option.bind_eq_bind, Option.bind_eq_some_iff] at h
    obtain ⟨digit, _, h⟩ := h
    split at h
    · simp only [Option.some.injEq, Prod.mk.injEq] at h
      simp [h.2]
    · simp only [Option.bind_eq_some_iff] at h
      obtain ⟨⟨higher, after⟩, hnumber, h⟩ := h
      simp only [Option.some.injEq, Prod.mk.injEq] at h
      obtain ⟨_, rfl⟩ := h
      have := ih hnumber
      simp only [List.length_cons]
      omega

def scale (delta : Nat) : Nat :=
  if 455 < delta then 36 + scale (delta / 35) else 36 * delta / (delta + 38)

/-- The bias for the next number, after a number was read that inserts into a text of one character
less than `length`. -/
def adapt (delta length : Nat) (isFirst : Bool) : Nat :=
  let delta := if isFirst then delta / 700 else delta / 2
  scale (delta + delta / length)

/-- Inserts characters in ascending order, and those that are equal from left to right: a number
tells how many places are passed over, the places of lesser characters included. -/
def insertAll? (bias code index : Nat) (done : List Char) (text : List Char) :
    Option (List Char) :=
  if text.isEmpty then some done
  else
    match h : number? bias 36 1 text with
    | none => none
    | some (delta, rest) =>
      let length := done.length + 1
      let code := code + (index + delta) / length
      let place := (index + delta) % length
      have := length_lt_of_number? h
      if code.isValidChar then
        insertAll? (adapt delta length (index == 0)) code (place + 1)
          (done.insertIdx place (Char.ofNat code)) rest
      else none
termination_by text.length

/-- What stands before the last hyphen is taken as it is. -/
def decode? (text : List Char) : Option (List Char) :=
  match Text.cut '-' text.reverse with
  | (numbers, none) => insertAll? 72 0x80 0 [] numbers.reverse
  | (_, some []) => none
  | (numbers, some plain) => insertAll? 72 0x80 0 plain.reverse numbers.reverse

def digit (n : Nat) : Char :=
  if n < 26 then Char.ofNat ('a'.toNat + n) else Char.ofNat ('0'.toNat + (n - 26))

theorem threshold_bounds (bias place : Nat) :
    1 ≤ threshold bias place ∧ threshold bias place ≤ 26 := by
  unfold threshold
  omega

/-- The digits of a number that `number?` reads. -/
def number (bias place value : Nat) : List Char :=
  let limit := threshold bias place
  if value < limit then [digit value]
  else
    digit (limit + (value - limit) % (36 - limit)) ::
      number bias (place + 36) ((value - limit) / (36 - limit))
termination_by value
decreasing_by
  have hlimit := threshold_bounds bias place
  have := Nat.div_le_self (value - threshold bias place) (36 - threshold bias place)
  omega

/-- A character that is inserted, and the place that it is given. -/
structure Insertion where
  code : Nat
  place : Nat
deriving DecidableEq

/-- Of two characters with their positions, whether the first is inserted first: the lesser one, and
of equal ones the left one. -/
def goesFirst (a b : Char × Nat) : Bool :=
  a.1.toNat < b.1.toNat || (a.1.toNat == b.1.toNat && a.2 ≤ b.2)

/-- The characters beyond ASCII with their positions, in the order in which they are inserted. -/
def order (text : List Char) : List (Char × Nat) :=
  (text.zipIdx.filter (0x80 ≤ ·.1.toNat)).mergeSort goesFirst

/-- When a character is inserted, no greater ones stand on its left. -/
def insertion (text : List Char) (entry : Char × Nat) : Insertion :=
  ⟨entry.1.toNat, (text.take entry.2).countP (·.toNat ≤ entry.1.toNat)⟩

/-- The numbers from which `insertAll?` makes some insertions; `length` is that of the text once the
next one is made. -/
def numbers (bias code index length : Nat) : List Insertion → List Char
  | [] => []
  | next :: rest =>
    let delta := (next.code - code) * length + next.place - index
    number bias 36 delta ++
      numbers (adapt delta length (index == 0)) next.code (next.place + 1) (length + 1) rest

/-- No hyphen stands before the numbers if nothing else does. -/
def encode (text : List Char) : List Char :=
  let plain := text.filter (·.toNat < 0x80)
  let start := if plain.isEmpty then [] else plain ++ ['-']
  start ++ numbers 72 0x80 0 (plain.length + 1) ((order text).map (insertion text))

end FeedHydration.Punycode

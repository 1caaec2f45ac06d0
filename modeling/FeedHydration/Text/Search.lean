/-!
Searching and splitting texts as lists of characters.
-/

namespace FeedHydration.Text

/-- The rest of a text after a given beginning. -/
def stripStart? : List Char → List Char → Option (List Char)
  | [], text => some text
  | _ :: _, [] => none
  | p :: start, c :: text => if p = c then stripStart? start text else none

theorem stripStart?_append (start text : List Char) :
    stripStart? start (start ++ text) = some text := by
  induction start with
  | nil => rfl
  | cons p start ih => simp [stripStart?, ih]

theorem eq_append_of_stripStart? {start text rest : List Char}
    (h : stripStart? start text = some rest) : text = start ++ rest := by
  induction start generalizing text with
  | nil => simpa [stripStart?] using h
  | cons p start ih =>
    cases text with
    | nil => simp [stripStart?] at h
    | cons c text =>
      by_cases hpc : p = c
      · subst hpc
        simp only [stripStart?, if_true] at h
        simp [ih h]
      · simp [stripStart?, hpc] at h

/-- What stands before the first separator, and what stands after it, if there is one. -/
def cut (sep : Char) : List Char → List Char × Option (List Char)
  | [] => ([], none)
  | c :: rest =>
    if c = sep then ([], some rest)
    else
      let tail := cut sep rest
      (c :: tail.1, tail.2)

theorem cut_append (sep : Char) (left right : List Char) (h : sep ∉ left) :
    cut sep (left ++ sep :: right) = (left, some right) := by
  induction left with
  | nil => simp [cut]
  | cons c left ih =>
    simp only [List.mem_cons, not_or] at h
    simp [cut, Ne.symm h.1, ih h.2]

theorem cut_of_notMem (sep : Char) (text : List Char) (h : sep ∉ text) :
    cut sep text = (text, none) := by
  induction text with
  | nil => rfl
  | cons c text ih =>
    simp only [List.mem_cons, not_or] at h
    simp [cut, Ne.symm h.1, ih h.2]

theorem cut_eq (sep : Char) (text : List Char) : sep ∉ (cut sep text).1 ∧
    text = (cut sep text).1 ++ (cut sep text).2.elim [] (sep :: ·) := by
  induction text with
  | nil => simp [cut]
  | cons c text ih =>
    rw [cut]
    split
    · rename_i hc
      simp [hc]
    · rename_i hc
      exact ⟨List.not_mem_cons_of_ne_of_not_mem (Ne.symm hc) ih.1, congrArg (c :: ·) ih.2⟩

theorem eq_append_of_cut {sep : Char} {text left right : List Char}
    (h : cut sep text = (left, some right)) : sep ∉ left ∧ text = left ++ sep :: right := by
  have hcut := cut_eq sep text
  rw [h] at hcut
  exact hcut

theorem append_sep_inj {sep : Char} {left left' right right' : List Char} (h : sep ∉ left)
    (h' : sep ∉ left') (heq : left ++ sep :: right = left' ++ sep :: right') :
    left = left' ∧ right = right' := by
  have hcut := cut_append sep left right h
  rw [heq, cut_append sep left' right' h'] at hcut
  simp only [Prod.mk.injEq, Option.some.injEq] at hcut
  exact ⟨hcut.1.symm, hcut.2.symm⟩

/-- The pieces between separators; there is always at least one. -/
def splitAll (sep : Char) : List Char → List (List Char)
  | [] => [[]]
  | c :: rest =>
    if c = sep then [] :: splitAll sep rest
    else
      match splitAll sep rest with
      | [] => [[c]]
      | piece :: pieces => (c :: piece) :: pieces

/-- Size of a text in bytes of UTF-8. -/
def byteSize : List Char → Nat
  | [] => 0
  | c :: rest => c.utf8Size + byteSize rest

theorem byteSize_append (left right : List Char) :
    byteSize (left ++ right) = byteSize left + byteSize right := by
  induction left with
  | nil => simp [byteSize]
  | cons c left ih => simp [byteSize, ih, Nat.add_assoc]

theorem utf8ByteSize_ofList (text : List Char) :
    (String.ofList text).utf8ByteSize = byteSize text := by
  induction text with
  | nil => rfl
  | cons c text ih => simp [String.ofList_cons, byteSize, ih]

theorem byteSize_toList (s : String) : byteSize s.toList = s.utf8ByteSize := by
  rw [← utf8ByteSize_ofList, String.ofList_toList]

/-- Byte offset at which `part` occurs first. -/
def find? (part : List Char) : List Char → Option Nat
  | [] => if part.isEmpty then some 0 else none
  | c :: rest =>
    if part.isPrefixOf (c :: rest) then some 0
    else (find? part rest).map (c.utf8Size + ·)

/-- Byte offset at which `part` occurs last. -/
def findLast? (part : List Char) : List Char → Option Nat
  | [] => if part.isEmpty then some 0 else none
  | c :: rest =>
    match findLast? part rest with
    | some offset => some (c.utf8Size + offset)
    | none => if part.isPrefixOf (c :: rest) then some 0 else none

/-- A text without the run of `c` at its end. -/
def trimEnd (c : Char) (text : List Char) : List Char :=
  (text.reverse.dropWhile (· == c)).reverse

end FeedHydration.Text

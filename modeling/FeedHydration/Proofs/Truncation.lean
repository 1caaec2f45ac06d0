import FeedHydration.Text.Utf8

/-!
# Texts that are cut

A text with too many bytes is cut at the boundary that is met first on the way back from the limit.
A boundary is where a text falls into two texts, so what is kept is made of whole characters; and if
one more character would fit, the boundary behind it would have been met before. Every other
beginning that fits is a beginning of what is kept. This tells the cut text from all others, so to
cut it again is to cut the whole text to the smaller limit.
-/

namespace FeedHydration

/-- The longest beginning of a text that fits into a number of bytes: the whole text, or one that
cannot have the next character too. -/
structure IsLongestFit (text : String) (limit : Nat) (kept : String) : Prop where
  fits : kept.utf8ByteSize ≤ limit
  begins : ∃ rest, text = kept ++ rest
  stops : kept = text ∨ ∃ c rest, text = kept.push c ++ rest ∧ limit < (kept.push c).utf8ByteSize

namespace Text

variable {text : String} {place : Nat} {pos : text.Pos}

/-! ### The way back -/

/-- The way back from a byte leads to a boundary, and past none. -/
structure IsMetFirst (text : String) (place : Nat) (pos : text.Pos) : Prop where
  reached : pos.offset.byteIdx ≤ place
  passed : ∀ between, pos.offset.byteIdx < between → between ≤ place →
    ¬ String.Pos.Raw.IsValid text ⟨between⟩

theorem isMetFirst_of_pos? (h : text.pos? ⟨place⟩ = some pos) : IsMetFirst text place pos := by
  have hplace : pos.offset.byteIdx = place := congrArg String.Pos.Raw.byteIdx (pos?_eq_some_iff.1 h)
  exact ⟨Nat.le_of_eq hplace, fun between hlow hhigh => absurd hhigh (by omega)⟩

/-- A byte within a character is passed. -/
theorem IsMetFirst.succ (h : IsMetFirst text place pos)
    (hinner : ¬ String.Pos.Raw.IsValid text ⟨place + 1⟩) : IsMetFirst text (place + 1) pos where
  reached := Nat.le_succ_of_le h.reached
  passed between hlow hhigh := by
    obtain hlt | rfl := Nat.lt_or_eq_of_le hhigh
    · exact h.passed between hlow (Nat.le_of_lt_succ hlt)
    · exact hinner

theorem not_isValid_of_pos? {place : String.Pos.Raw} (h : text.pos? place = none) :
    ¬ place.IsValid text := by
  intro hvalid
  have hfound : text.pos? place = some ⟨place, hvalid⟩ := pos?_eq_some_iff.2 rfl
  rw [h] at hfound
  cases hfound

theorem isMetFirst_of_boundaryBack? (h : boundaryBack? text place = some pos) :
    IsMetFirst text place pos := by
  induction place with
  | zero => exact isMetFirst_of_pos? h
  | succ place ih =>
    rw [boundaryBack?] at h
    cases hhere : text.pos? ⟨place + 1⟩ with
    | some here =>
      rw [hhere] at h
      exact isMetFirst_of_pos? (hhere.trans h)
    | none =>
      rw [hhere] at h
      exact (ih h).succ (not_isValid_of_pos? hhere)

theorem exists_boundaryBack? (text : String) (place : Nat) :
    ∃ pos, boundaryBack? text place = some pos ∧ IsMetFirst text place pos := by
  obtain ⟨pos, hpos⟩ := Option.isSome_iff_exists.1 (isSome_boundaryBack? text place)
  exact ⟨pos, hpos, isMetFirst_of_boundaryBack? hpos⟩

/-! ### What stands before the boundary -/

/-- The place behind a beginning is a boundary. -/
theorem isValid_of_eq_append {start rest : String} (h : text = start ++ rest) :
    String.Pos.Raw.IsValid text ⟨start.utf8ByteSize⟩ :=
  String.Pos.Raw.isValid_iff_exists_append.2 ⟨start, rest, h, rfl⟩

theorem IsMetFirst.isLongestFit {limit : Nat} (h : IsMetFirst text limit pos) :
    IsLongestFit text limit (text.sliceTo pos).copy := by
  have hsplits := pos.splits
  have hfits : (text.sliceTo pos).copy.utf8ByteSize ≤ limit := by
    rw [String.Slice.utf8ByteSize_copy, String.utf8ByteSize_sliceTo]
    exact h.reached
  refine ⟨hfits, ⟨_, hsplits.eq_append⟩, ?_⟩
  by_cases hend : pos = text.endPos
  · refine .inl ?_
    rw [hend, String.sliceTo_endPos, String.copy_toSlice]
  · obtain ⟨rest, hrest⟩ := hsplits.exists_eq_singleton_append hend
    have htext : text = (text.sliceTo pos).copy.push (pos.get hend) ++ rest := by
      rw [← String.append_singleton, String.append_assoc, ← hrest]
      exact hsplits.eq_append
    refine .inr ⟨_, rest, htext, Nat.lt_of_not_le fun hnext => ?_⟩
    -- The place behind the next character would have been met on the way.
    refine h.passed _ ?_ hnext (isValid_of_eq_append htext)
    rw [String.utf8ByteSize_push, String.Slice.utf8ByteSize_copy, String.utf8ByteSize_sliceTo]
    exact Nat.lt_add_of_pos_right (Char.utf8Size_pos _)

end Text

/-! ### What is kept -/

namespace IsLongestFit

variable {text kept kept' cut : String} {limit limit' : Nat}

/-- Every beginning that fits is a beginning of the longest. -/
theorem begins_with (h : IsLongestFit text limit kept) {other rest : String}
    (htext : text = other ++ rest) (hfits : other.utf8ByteSize ≤ limit) :
    ∃ more, kept = other ++ more := by
  obtain rfl | ⟨c, rest', hstop, hlimit⟩ := h.stops
  · exact ⟨rest, htext⟩
  have hchars : kept.toList ++ c :: rest'.toList = other.toList ++ rest.toList := by
    rw [← String.toList_append, ← htext, hstop, String.toList_append, String.toList_push,
      List.append_assoc, List.singleton_append]
  obtain ⟨more, hother, hmore⟩ | ⟨more, hkept, -⟩ := List.append_eq_append_iff.1 hchars
  · cases more with
    | nil =>
      refine ⟨"", ?_⟩
      rw [String.append_empty, ← String.toList_inj, hother, List.append_nil]
    | cons d more =>
      -- The other beginning holds the character that does not fit.
      obtain ⟨rfl, -⟩ := List.cons.inj hmore
      have hpush : other = kept.push c ++ String.ofList more := by
        rw [← String.toList_inj, hother, String.toList_append, String.toList_push,
          String.toList_ofList, List.append_assoc, List.singleton_append]
      rw [hpush, String.utf8ByteSize_append] at hfits
      omega
  · refine ⟨String.ofList more, ?_⟩
    rw [← String.toList_inj, hkept, String.toList_append, String.toList_ofList]

theorem unique (h : IsLongestFit text limit kept) (h' : IsLongestFit text limit kept') :
    kept = kept' := by
  obtain ⟨rest, htext⟩ := h.begins
  obtain ⟨rest', htext'⟩ := h'.begins
  obtain ⟨more, hkept'⟩ := h'.begins_with htext h.fits
  obtain ⟨more', hkept⟩ := h.begins_with htext' h'.fits
  have hsize : kept'.utf8ByteSize = kept.utf8ByteSize + more.utf8ByteSize := by
    rw [hkept', String.utf8ByteSize_append]
  have hsize' : kept.utf8ByteSize = kept'.utf8ByteSize + more'.utf8ByteSize := by
    rw [hkept, String.utf8ByteSize_append]
  have hmore : more = "" := String.utf8ByteSize_eq_zero_iff.1 (by omega)
  rw [hkept', hmore, String.append_empty]

theorem of_fits (h : text.utf8ByteSize ≤ limit) : IsLongestFit text limit text :=
  ⟨h, ⟨"", String.append_empty.symm⟩, .inl rfl⟩

/-- The longest fit of a longest fit is that of the whole text for the smaller limit. -/
theorem trans (h : IsLongestFit text limit kept) (hcut : IsLongestFit kept limit' cut) :
    IsLongestFit text (min limit limit') cut := by
  obtain ⟨rest, htext⟩ := h.begins
  obtain ⟨more, hkept⟩ := hcut.begins
  have hsize : kept.utf8ByteSize = cut.utf8ByteSize + more.utf8ByteSize := by
    rw [hkept, String.utf8ByteSize_append]
  refine ⟨?_, ⟨more ++ rest, by rw [htext, hkept, String.append_assoc]⟩, ?_⟩
  · have hfits := h.fits
    have hfits' := hcut.fits
    omega
  · obtain rfl | ⟨c, rest', hstop, hlimit⟩ := hcut.stops
    · obtain hwhole | ⟨c, rest', hstop, hlimit⟩ := h.stops
      · exact .inl hwhole
      · exact .inr ⟨c, rest', hstop, Nat.lt_of_le_of_lt (Nat.min_le_left _ _) hlimit⟩
    · refine .inr ⟨c, rest' ++ rest, ?_, Nat.lt_of_le_of_lt (Nat.min_le_right _ _) hlimit⟩
      rw [htext, hstop, String.append_assoc]

end IsLongestFit

variable {text : String} {limit : Nat}

theorem truncateText_of_boundaryBack? {pos : text.Pos} (hlong : limit < text.utf8ByteSize)
    (h : Text.boundaryBack? text limit = some pos) :
    truncateText text limit = (text.sliceTo pos).copy := by
  simp only [truncateText, if_neg (Nat.not_le_of_lt hlong), h, Option.get_some]

theorem isLongestFit_truncateText (text : String) (limit : Nat) :
    IsLongestFit text limit (truncateText text limit) := by
  by_cases hfits : text.utf8ByteSize ≤ limit
  · rw [truncateText, if_pos hfits]
    exact .of_fits hfits
  · obtain ⟨pos, hpos, hmet⟩ := Text.exists_boundaryBack? text limit
    rw [truncateText_of_boundaryBack? (Nat.lt_of_not_le hfits) hpos]
    exact hmet.isLongestFit

/-- **What is kept of a text is the longest beginning that fits.** It is made of whole characters,
fits into the limit, and is the whole text or cannot have the next character too; every beginning
that fits is a beginning of it. The way back from the limit, along which a text that is too long is
cut, ends at a boundary of the text, at its beginning at the latest, after passing none. To cut what
is kept once more is to cut the text to the smaller of both limits. -/
theorem truncateText_keeps_longest_fit (text : String) (limit : Nat) :
    IsLongestFit text limit (truncateText text limit) ∧
    (∀ other rest, text = other ++ rest → other.utf8ByteSize ≤ limit →
      ∃ more, truncateText text limit = other ++ more) ∧
    (∃ pos, Text.boundaryBack? text limit = some pos ∧ Text.IsMetFirst text limit pos ∧
      (limit < text.utf8ByteSize → truncateText text limit = (text.sliceTo pos).copy)) ∧
    ∀ limit', truncateText (truncateText text limit) limit' =
      truncateText text (min limit limit') := by
  have hkept := isLongestFit_truncateText text limit
  obtain ⟨pos, hpos, hmet⟩ := Text.exists_boundaryBack? text limit
  refine ⟨hkept, fun _ _ => hkept.begins_with,
    ⟨pos, hpos, hmet, fun hlong => truncateText_of_boundaryBack? hlong hpos⟩, fun limit' => ?_⟩
  have hagain := hkept.trans (isLongestFit_truncateText (truncateText text limit) limit')
  exact hagain.unique (isLongestFit_truncateText text (min limit limit'))

/-- Of two characters of four bytes one fits into seven. -/
theorem truncateText_keeps_crab : 7 < "🦀🦀".utf8ByteSize ∧ IsLongestFit "🦀🦀" 7 "🦀" ∧
    ∃ pos, Text.boundaryBack? "🦀🦀" 7 = some pos ∧ pos.offset.byteIdx = 4 ∧
      "🦀" = ("🦀🦀".sliceTo pos).copy := by
  have hlong : 7 < "🦀🦀".utf8ByteSize := by decide +kernel
  have hkept : truncateText "🦀🦀" 7 = "🦀" := by decide +kernel
  obtain ⟨hfit, -, ⟨pos, hpos, -, hcut⟩, -⟩ := truncateText_keeps_longest_fit "🦀🦀" 7
  rw [hkept] at hfit hcut
  have hsize := congrArg String.utf8ByteSize (hcut hlong)
  rw [String.Slice.utf8ByteSize_copy, String.utf8ByteSize_sliceTo] at hsize
  exact ⟨hlong, hfit, pos, hpos, hsize.symm, hcut hlong⟩

end FeedHydration

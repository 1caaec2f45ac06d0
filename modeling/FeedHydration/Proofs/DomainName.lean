import FeedHydration.Proofs.Address
import FeedHydration.Proofs.Punycode

/-!
# Names of hosts

A host may be named in any script; what is sent is its name in ASCII. A label that is written in
Punycode is read as the one that it was written for, and a name of ASCII characters without codes is
only put in lower case.
-/

namespace FeedHydration.DomainName

variable {name label : List Char} {c : Char}

/-! ### Labels -/

theorem isAscii_of_mem_writeLabel (h : c ∈ writeLabel label) : isAscii c = true := by
  unfold writeLabel at h
  split at h
  · rename_i hascii
    exact List.all_eq_true.1 hascii c h
  · obtain h | h := List.mem_append.1 h
    · have hmark : codeMark.all isAscii = true := by decide +kernel
      exact List.all_eq_true.1 hmark c h
    · exact decide_eq_true (Punycode.isAscii_of_mem_encode h)

theorem isWellFormed_of_readLabel? (h : readLabel? label = some label)
    (hbeyond : label.all isAscii = false) : isWellFormed label = true := by
  unfold readLabel? at h
  split at h
  · simpa [hbeyond] using h
  · simp only [Option.bind_eq_bind, Option.bind_eq_some_iff, guard, failure,
      Option.ite_none_right_eq_some, Option.some.injEq] at h
    obtain ⟨-, -, _, -, -, ⟨hformed, -⟩, rfl⟩ := h
    exact hformed

/-- **What is written for a label is read as that label**, unless its code is too long to be
read. -/
theorem readLabel?_writeLabel (h : readLabel? label = some label)
    (hlength : (Punycode.encode label).length ≤ maxCodeLength) :
    readLabel? (writeLabel label) = some label := by
  unfold writeLabel
  split
  · exact h
  · rename_i hbeyond
    have hformed := isWellFormed_of_readLabel? h (Bool.eq_false_iff.2 hbeyond)
    have hascii : (Punycode.encode label).all isAscii = true :=
      List.all_eq_true.2 fun _ hmem => decide_eq_true (Punycode.isAscii_of_mem_encode hmem)
    obtain ⟨c, hmem, hc⟩ : ∃ c ∈ label, 0x80 ≤ c.toNat := by
      simpa [isAscii] using hbeyond
    obtain ⟨n, hn, hlast⟩ := Punycode.getLast?_encode hmem hc
    have hne : (Punycode.encode label).isEmpty = false := by
      cases hcode : Punycode.encode label with
      | nil => simp [hcode] at hlast
      | cons c code => rfl
    have hhyphen : (some (Punycode.digit n) != some '-') = true := by
      simpa using (Punycode.digit_isPlain hn).2
    rw [readLabel?, Text.stripStart?_append]
    simp [hascii, hne, hlast, hhyphen, hlength, Punycode.decode?_encode, hformed]

/-! ### Names -/

/-- **A name is written in ASCII**, in whatever script it was given. -/
theorem isAscii_of_mem_toAscii? {written : List Char} (h : toAscii? name = some written)
    (hc : c ∈ written) : isAscii c = true := by
  simp only [toAscii?, Option.bind_eq_bind, Option.bind_eq_some_iff, Option.some.injEq] at h
  obtain ⟨mapped, -, read, -, -, -, rfl⟩ := h
  obtain rfl | ⟨piece, hpiece, hc⟩ := Text.of_mem_intercalate hc
  · rfl
  · obtain ⟨label, -, rfl⟩ := List.mem_map.1 hpiece
    exact isAscii_of_mem_writeLabel hc

theorem isAscii_toLower (h : isAscii c = true) : isAscii c.toLower = true := by
  have hall : ∀ n ∈ List.range 0x80, isAscii (Char.ofNat n).toLower = true := by
    decide +kernel
  rw [← Char.ofNat_toNat c]
  exact hall c.toNat (List.mem_range.2 (of_decide_eq_true h))

theorem mapM_eq_some_map {α β : Type} {f : α → Option β} {g : α → β} {items : List α}
    (h : ∀ a ∈ items, f a = some (g a)) : items.mapM f = some (items.map g) := by
  induction items with
  | nil => rfl
  | cons a items ih =>
    rw [List.forall_mem_cons] at h
    rw [List.mapM_cons, h.1, ih h.2]
    rfl

theorem map?_of_isAscii (h : ∀ c ∈ name, isAscii c = true) :
    map? name = some (name.map Char.toLower) := by
  have hmapped : name.mapM mapChar? = some (name.map fun c => [c.toLower]) :=
    mapM_eq_some_map fun c hmem => by rw [mapChar?, if_pos (h c hmem)]
  rw [map?, hmapped, Option.map_some, ← List.flatMap_def, ← List.map_eq_flatMap]

/-- ASCII is not written from right to left. -/
theorem areUniform_of_isAscii {labels : List (List Char)}
    (h : ∀ label ∈ labels, ∀ c ∈ label, isAscii c = true) :
    Direction.areUniform labels = true := by
  have hturned : ∀ c, isAscii c = true → (Direction.ofChar c).isTurned = false := by
    intro c hc
    rw [Direction.ofChar, if_pos (of_decide_eq_true hc), Direction.ofAscii]
    split
    · rfl
    · split <;> rfl
  have hnone : (labels.map (·.map Direction.ofChar)).any (·.any Direction.isTurned) = false := by
    rw [List.any_eq_false]
    rintro _ hmem
    obtain ⟨label, hlabel, rfl⟩ := List.mem_map.1 hmem
    simpa using fun c hc => hturned c (h label hlabel c hc)
  rw [Direction.areUniform, hnone]
  rfl

/-- A name of ASCII characters without codes is put in lower case. -/
theorem toAscii?_of_isAscii (hascii : ∀ c ∈ name, isAscii c = true)
    (hplain : ∀ label ∈ Text.splitAll '.' (name.map Char.toLower),
      Text.stripStart? codeMark label = none) :
    toAscii? name = some (name.map Char.toLower) := by
  have hlower : ∀ c ∈ name.map Char.toLower, isAscii c = true := by
    rw [List.forall_mem_map]
    exact fun c hmem => isAscii_toLower (hascii c hmem)
  rw [toAscii?, map?_of_isAscii hascii, Option.bind_eq_bind, Option.bind_some]
  generalize name.map Char.toLower = lower at hlower hplain ⊢
  have hlabels : ∀ label ∈ Text.splitAll '.' lower, ∀ c ∈ label, isAscii c = true :=
    fun label hmem c hc => hlower c ((Text.of_mem_splitAll hmem).2 c hc)
  have hread : (Text.splitAll '.' lower).mapM readLabel? = some (Text.splitAll '.' lower) := by
    refine (mapM_eq_some_map fun label hmem => ?_).trans (congrArg some (List.map_id _))
    rw [readLabel?, hplain label hmem]
    simp [List.all_eq_true.2 (hlabels label hmem)]
  have hwritten : (Text.splitAll '.' lower).map writeLabel = Text.splitAll '.' lower := by
    refine (List.map_congr_left fun label hmem => ?_).trans (List.map_id _)
    exact if_pos (List.all_eq_true.2 (hlabels label hmem))
  have hnormal : normalize lower = lower := if_pos (List.all_eq_true.2 hlower)
  simp only [hnormal, hread, hwritten, Text.intercalate_splitAll, Option.bind_eq_bind,
    Option.bind_some]
  rw [areUniform_of_isAscii hlabels]
  rfl

/-- The name of a host in a url is in ASCII. -/
theorem isAscii_of_ofDomain? {text : List Char} {name : String}
    (h : UrlHost.ofDomain? text = some (.name name)) : ∀ c ∈ name.toList, isAscii c = true := by
  obtain ⟨_, -, hwritten, -⟩ := Url.toAscii?_of_ofDomain? h
  exact fun c hc => isAscii_of_mem_toAscii? hwritten hc

end FeedHydration.DomainName

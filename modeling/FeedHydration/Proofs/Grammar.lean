import FeedHydration.Identifier.AtUri

/-!
# The grammar of record uris

A record uri is `at://`, a did, a collection and a record key with slashes between them, and perhaps
a query or fragment. What the parts are made of is said here by their texts alone, and the readers
take exactly these texts. No part holds a slash, and only what follows the key can hold a question
mark or a number sign, so a text has at most one set of parts.
-/

namespace FeedHydration

/-! ### Parts -/

/-- `did:`, a method in lower case, a colon, and an identifier. -/
inductive Did.IsWritten : List Char → Prop
  | mk {method id : List Char} {last : Char} : method ≠ [] → (∀ c ∈ method, c.isLower = true) →
      (∀ c ∈ id, isIdChar c = true) → isIdChar last = true → last ≠ ':' → last ≠ '%' →
      IsWritten ("did:".toList ++ (method ++ ':' :: (id ++ [last])))

namespace Nsid

/-- A label of at most 63 characters, the first of which is of some class. A hyphen stands neither
first nor last. -/
inductive IsLabelText (isFirst : Char → Bool) : List Char → Prop
  | one {c : Char} : isFirst c = true → IsLabelText isFirst [c]
  | more {c last : Char} {inner : List Char} : isFirst c = true → inner.length ≤ 61 →
      (∀ d ∈ inner, d.isAlphanum = true ∨ d = '-') → last.isAlphanum = true →
      IsLabelText isFirst (c :: (inner ++ [last]))

inductive IsNameText : List Char → Prop
  | mk {c : Char} {rest : List Char} : c.isAlpha = true → rest.length ≤ 62 →
      (∀ d ∈ rest, d.isAlphanum = true) → IsNameText (c :: rest)

/-- A label that starts with a letter, one or more other labels, and a name, with dots between. -/
inductive IsWritten : List Char → Prop
  | mk {top name : List Char} {middle : List (List Char)} : IsLabelText Char.isAlpha top →
      middle ≠ [] → (∀ label ∈ middle, IsLabelText Char.isAlphanum label) → IsNameText name →
      IsWritten (top ++ (middle ++ [name]).flatMap ('.' :: ·))

end Nsid

structure RecordKey.IsWritten (text : List Char) : Prop where
  nonempty : 1 ≤ text.length
  short : text.length ≤ 512
  chars : ∀ c ∈ text, isKeyChar c = true

namespace Did

theorem exists_method_of_isMethodAndId {text : List Char} (h : isMethodAndId text = true) :
    ∃ method id, text = method ++ ':' :: id ∧ method ≠ [] ∧ (∀ c ∈ method, c.isLower = true) ∧
      (∀ c ∈ id, isIdChar c = true) ∧ ∃ last, id.getLast? = some last ∧ isIdEnd last = true := by
  have hsplit := List.takeWhile_append_dropWhile (p := Char.isLower) (l := text)
  have hlower : ∀ c ∈ text.takeWhile Char.isLower, c.isLower = true :=
    List.all_eq_true.1 List.all_takeWhile
  unfold isMethodAndId at h
  split at h
  · rename_i c method id htake hdrop
    rw [Bool.and_eq_true, List.all_eq_true, Option.any_eq_true] at h
    refine ⟨text.takeWhile Char.isLower, id, ?_, by simp [htake], hlower, h.1, h.2⟩
    rw [← hdrop, hsplit]
  · cases h

theorem isMethodAndId_append {method id : List Char} {last : Char} (hmethod : method ≠ [])
    (hlower : ∀ c ∈ method, c.isLower = true) (hid : ∀ c ∈ id, isIdChar c = true)
    (hlast : id.getLast? = some last) (hend : isIdEnd last = true) :
    isMethodAndId (method ++ ':' :: id) = true := by
  have htake : (method ++ ':' :: id).takeWhile Char.isLower = method := by
    rw [List.takeWhile_append_of_pos hlower, List.takeWhile_cons_of_neg (by decide),
      List.append_nil]
  have hdrop : (method ++ ':' :: id).dropWhile Char.isLower = ':' :: id := by
    rw [List.dropWhile_append_of_pos hlower, List.dropWhile_cons_of_neg (by decide)]
  obtain ⟨c, method, rfl⟩ := List.exists_cons_of_ne_nil hmethod
  simp only [isMethodAndId, htake, hdrop, Bool.and_eq_true, List.all_eq_true]
  exact ⟨hid, by rw [hlast, Option.any_some, hend]⟩

theorem isIdEnd_iff {c : Char} : isIdEnd c = true ↔ isIdChar c = true ∧ c ≠ ':' ∧ c ≠ '%' := by
  simp [isIdEnd, and_assoc]

theorem isDid_iff {text : List Char} : isDid text = true ↔ IsWritten text := by
  constructor
  · intro h
    unfold isDid at h
    split at h
    · rename_i rest hrest
      obtain ⟨method, id, rfl, hmethod, hlower, hid, last, hlast, hend⟩ :=
        exists_method_of_isMethodAndId h
      obtain ⟨init, rfl⟩ := List.getLast?_eq_some_iff.1 hlast
      obtain ⟨hlastChar, hcolon, hpercent⟩ := isIdEnd_iff.1 hend
      rw [Text.eq_append_of_stripStart? hrest]
      exact .mk hmethod hlower (fun c hc => hid c (List.mem_append_left _ hc)) hlastChar hcolon
        hpercent
    · cases h
  · rintro ⟨hmethod, hlower, hid, hlastChar, hcolon, hpercent⟩
    rename_i method id last
    have hall : ∀ c ∈ id ++ [last], isIdChar c = true := by
      intro c hc
      obtain hc | hc := List.mem_append.1 hc
      · exact hid c hc
      · rwa [List.mem_singleton.1 hc]
    rw [isDid, Text.stripStart?_append]
    exact isMethodAndId_append hmethod hlower hall List.getLast?_concat
      (isIdEnd_iff.2 ⟨hlastChar, hcolon, hpercent⟩)

theorem parse_eq_ok_iff {text : List Char} {did : Did} (hslash : '/' ∉ text) :
    parse (String.ofList text) = .ok did ↔
      did.text = String.ofList text ∧ (String.ofList text).utf8ByteSize ≤ maxBytes ∧
        IsWritten text := by
  constructor
  · intro h
    have htext := text_of_parse hslash h
    have hgrammar := did.grammatical
    rw [htext, String.toList_ofList, isDid_iff] at hgrammar
    exact ⟨htext, htext ▸ did.fits, hgrammar⟩
  · rintro ⟨htext, hfits, hwritten⟩
    have hgrammar : isDid (String.ofList text).toList = true := by
      rw [String.toList_ofList]
      exact isDid_iff.2 hwritten
    rw [parse, normalize_of_slash_notMem hslash, check, dif_pos hfits, dif_pos hgrammar,
      Except.ok.injEq]
    exact ext htext.symm

end Did

namespace Text

theorem splitAll_of_notMem {sep : Char} {text : List Char} (h : sep ∉ text) :
    splitAll sep text = [text] := by
  induction text with
  | nil => rfl
  | cons c text ih =>
    simp only [List.mem_cons, not_or] at h
    simp [splitAll, Ne.symm h.1, ih h.2]

theorem splitAll_append {sep : Char} {piece text : List Char} (h : sep ∉ piece) :
    splitAll sep (piece ++ sep :: text) = piece :: splitAll sep text := by
  induction piece with
  | nil => simp [splitAll]
  | cons c piece ih =>
    simp only [List.mem_cons, not_or] at h
    simp [splitAll, Ne.symm h.1, ih h.2]

/-- Pieces that are joined by separators are found again. -/
theorem splitAll_joined {sep : Char} {piece : List Char} {pieces : List (List Char)}
    (h : ∀ p ∈ piece :: pieces, sep ∉ p) :
    splitAll sep (piece ++ pieces.flatMap (sep :: ·)) = piece :: pieces := by
  induction pieces generalizing piece with
  | nil => simpa using splitAll_of_notMem (h piece List.mem_cons_self)
  | cons next pieces ih =>
    rw [List.flatMap_cons, List.cons_append, splitAll_append (h piece List.mem_cons_self),
      ih fun p hp => h p (List.mem_cons_of_mem _ hp)]

theorem splitAll_ne_nil (sep : Char) (text : List Char) : splitAll sep text ≠ [] := by
  cases text with
  | nil => simp [splitAll]
  | cons c text =>
    unfold splitAll
    split
    · simp
    · split <;> simp

theorem joined_splitAll {sep : Char} {text piece : List Char} {pieces : List (List Char)}
    (h : splitAll sep text = piece :: pieces) :
    text = piece ++ pieces.flatMap (sep :: ·) := by
  induction text generalizing piece pieces with
  | nil =>
    cases h
    rfl
  | cons c text ih =>
    obtain ⟨first, rest, hsplit⟩ := List.exists_cons_of_ne_nil (splitAll_ne_nil sep text)
    simp only [splitAll, hsplit] at h
    split at h
    · rename_i hc
      cases h
      rw [hc, List.flatMap_cons, List.nil_append, List.cons_append, ← ih hsplit]
    · cases h
      rw [List.cons_append, ← ih hsplit]

end Text

namespace Nsid

theorem isAlphanum_of_isAlpha {c : Char} (h : c.isAlpha = true) : c.isAlphanum = true := by
  simp [Char.isAlphanum, h]

theorem ne_hyphen_of_isAlphanum {c : Char} (h : c.isAlphanum = true) : c ≠ '-' := by
  rintro rfl
  exact absurd h (by decide)

theorem isLabelText_of_isLabel {isFirst : Char → Bool} {label : List Char}
    (h : isLabel label = true) (hhead : label.head?.any isFirst = true) :
    IsLabelText isFirst label := by
  simp only [isLabel, Bool.and_eq_true, decide_eq_true_eq, List.all_eq_true, Bool.or_eq_true,
    beq_iff_eq] at h
  obtain ⟨⟨⟨hlength, hall⟩, -⟩, hlast⟩ := h
  cases label with
  | nil => cases hhead
  | cons c rest =>
    obtain rfl | ⟨inner, last, rfl⟩ := List.eq_nil_or_concat rest
    · exact .one hhead
    · rw [List.concat_eq_append] at hlength hall hlast ⊢
      rw [← List.cons_append, List.getLast?_concat, Option.any_some, bne_iff_ne] at hlast
      refine .more hhead ?_ (fun d hd => hall d (by simp [hd])) ?_
      · simp only [List.length_cons, List.length_append, List.length_nil] at hlength
        omega
      · exact (hall last (by simp)).resolve_right hlast

theorem IsLabelText.isLabel {isFirst : Char → Bool} {label : List Char}
    (h : IsLabelText isFirst label) (hfirst : ∀ c, isFirst c = true → c.isAlphanum = true) :
    isLabel label = true := by
  simp only [Nsid.isLabel, Bool.and_eq_true, decide_eq_true_eq, List.all_eq_true, Bool.or_eq_true,
    beq_iff_eq]
  cases h with
  | one hc =>
    have hne := ne_hyphen_of_isAlphanum (hfirst _ hc)
    simp [hfirst _ hc, hne]
  | more hc hlength hinner hlast =>
    have hne := ne_hyphen_of_isAlphanum (hfirst _ hc)
    have hlastNe := ne_hyphen_of_isAlphanum hlast
    refine ⟨⟨⟨?_, ?_⟩, by simpa using hne⟩, ?_⟩
    · simp only [List.length_cons, List.length_append, List.length_nil]
      omega
    · intro d hd
      simp only [List.mem_cons, List.mem_append, List.not_mem_nil, or_false] at hd
      obtain rfl | hd | rfl := hd
      · exact .inl (hfirst _ hc)
      · exact hinner d hd
      · exact .inl hlast
    · rw [← List.cons_append, List.getLast?_concat, Option.any_some, bne_iff_ne]
      exact hlastNe

/-- A label whose first character is of some class, as the reader checks it. -/
theorem isLabelText_iff {isFirst : Char → Bool} {label : List Char}
    (hfirst : ∀ c, isFirst c = true → c.isAlphanum = true) :
    isLabel label = true ∧ label.head?.any isFirst = true ↔ IsLabelText isFirst label := by
  refine ⟨fun h => isLabelText_of_isLabel h.1 h.2, fun h => ⟨h.isLabel hfirst, ?_⟩⟩
  cases h with
  | one hc => exact hc
  | more hc => exact hc

theorem isTopLabel_iff {label : List Char} :
    isTopLabel label = true ↔ IsLabelText Char.isAlpha label := by
  rw [isTopLabel, Bool.and_eq_true]
  exact isLabelText_iff fun _ => isAlphanum_of_isAlpha

theorem isLabel_iff {label : List Char} :
    isLabel label = true ↔ IsLabelText Char.isAlphanum label := by
  rw [← isLabelText_iff fun _ => id, iff_self_and]
  intro h
  simp only [isLabel, Bool.and_eq_true, decide_eq_true_eq, List.all_eq_true, Bool.or_eq_true,
    beq_iff_eq] at h
  obtain ⟨⟨⟨-, hall⟩, hhead⟩, -⟩ := h
  cases label with
  | nil => cases hhead
  | cons c rest =>
    rw [List.head?_cons, Option.any_some, bne_iff_ne] at hhead
    exact (hall c List.mem_cons_self).resolve_right hhead

theorem isName_iff {name : List Char} : isName name = true ↔ IsNameText name := by
  simp only [isName, Bool.and_eq_true, decide_eq_true_eq, List.all_eq_true]
  constructor
  · rintro ⟨⟨hlength, hall⟩, hhead⟩
    cases name with
    | nil => cases hhead
    | cons c rest =>
      exact .mk hhead (Nat.le_of_succ_le_succ hlength) fun d hd =>
        hall d (List.mem_cons_of_mem _ hd)
  · rintro ⟨hc, hlength, hall⟩
    refine ⟨⟨Nat.succ_le_succ hlength, ?_⟩, hc⟩
    intro d hd
    obtain rfl | hd := List.mem_cons.1 hd
    · exact isAlphanum_of_isAlpha hc
    · exact hall d hd

theorem IsLabelText.chars {isFirst : Char → Bool} {label : List Char}
    (h : IsLabelText isFirst label) (hfirst : ∀ c, isFirst c = true → c.isAlphanum = true) :
    ∀ c ∈ label, c.isAlphanum = true ∨ c = '-' := by
  have hlabel := h.isLabel hfirst
  simp only [Nsid.isLabel, Bool.and_eq_true, List.all_eq_true, Bool.or_eq_true,
    beq_iff_eq] at hlabel
  exact hlabel.1.1.2

theorem IsNameText.chars {name : List Char} (h : IsNameText name) :
    ∀ c ∈ name, c.isAlphanum = true := by
  have hname := isName_iff.2 h
  simp only [isName, Bool.and_eq_true, List.all_eq_true] at hname
  exact hname.1.2

theorem dot_notMem_of_isLabelText {isFirst : Char → Bool} {label : List Char}
    (h : IsLabelText isFirst label) (hfirst : ∀ c, isFirst c = true → c.isAlphanum = true) :
    '.' ∉ label :=
  fun hmem => absurd (h.chars hfirst _ hmem) (by decide)

theorem isNsid_iff {text : List Char} : isNsid text = true ↔ IsWritten text := by
  constructor
  · intro h
    unfold isNsid at h
    split at h
    · rename_i top second rest hsplit
      split at h
      · rename_i name hname
        simp only [Bool.and_eq_true, List.all_eq_true] at h
        obtain ⟨⟨htop, hmiddle⟩, hname'⟩ := h
        have hrest := AtUri.dropLast_append_of_getLast? hname
        rw [Text.joined_splitAll hsplit, ← hrest, ← List.cons_append]
        exact .mk (isTopLabel_iff.1 htop) (by simp) (fun label hlabel =>
          isLabel_iff.1 (hmiddle label hlabel)) (isName_iff.1 hname')
      · cases h
    · cases h
  · rintro ⟨htop, hne, hmiddle, hname⟩
    rename_i top name middle
    obtain ⟨second, rest, rfl⟩ := List.exists_cons_of_ne_nil hne
    have hdot : ∀ piece ∈ top :: (second :: rest ++ [name]), '.' ∉ piece := by
      intro piece hpiece
      rw [← List.cons_append, List.mem_append, List.mem_cons, List.mem_singleton] at hpiece
      obtain (rfl | hpiece) | rfl := hpiece
      · exact dot_notMem_of_isLabelText htop fun _ => isAlphanum_of_isAlpha
      · exact dot_notMem_of_isLabelText (hmiddle piece hpiece) fun _ => id
      · exact fun hmem => absurd (hname.chars _ hmem) (by decide)
    unfold isNsid
    rw [Text.splitAll_joined hdot, List.cons_append]
    simp only [List.getLast?_concat, List.dropLast_concat, Bool.and_eq_true, List.all_eq_true]
    exact ⟨⟨isTopLabel_iff.2 htop, fun label hlabel => isLabel_iff.2 (hmiddle label hlabel)⟩,
      isName_iff.2 hname⟩

end Nsid

theorem RecordKey.isRecordKey_iff {text : List Char} :
    isRecordKey text = true ↔ IsWritten text := by
  simp only [isRecordKey, Bool.and_eq_true, decide_eq_true_eq, List.all_eq_true]
  exact ⟨fun h => ⟨h.1.1, h.1.2, h.2⟩, fun h => ⟨⟨h.nonempty, h.short⟩, h.chars⟩⟩

/-! ### Uris -/

namespace AtUri

/-- A query or a fragment starts with one of these. -/
def isTailStart (c : Char) : Bool := c == '?' || c == '#'

/-- A text is a uri with these parts, and with what stands behind them. -/
structure IsWritten (s : String) (authority collection rkey tail : List Char) : Prop where
  text : s.toList =
    "at://".toList ++ (authority ++ '/' :: (collection ++ '/' :: (rkey ++ tail)))
  is_did : Did.IsWritten authority
  did_fits : (String.ofList authority).utf8ByteSize ≤ Did.maxBytes
  is_nsid : Nsid.IsWritten collection
  is_key : RecordKey.IsWritten rkey
  is_tail : ∀ c ∈ tail.head?, isTailStart c = true

end AtUri

/-- Separates the parts of a uri or ends them. -/
def AtUri.isSeparator (c : Char) : Bool := c == '/' || isTailStart c

theorem AtUri.not_isSeparator_of {p : Char → Prop} (hslash : ¬ p '/') (hquery : ¬ p '?')
    (hfragment : ¬ p '#') {c : Char} (hc : p c) : isSeparator c = false := by
  simp only [isSeparator, isTailStart, Bool.or_eq_false_iff, beq_eq_false_iff_ne]
  refine ⟨?_, ?_, ?_⟩ <;> rintro rfl <;> contradiction

theorem Did.IsWritten.not_isSeparator {text : List Char} (h : IsWritten text) :
    ∀ c ∈ text, AtUri.isSeparator c = false := by
  have hscheme : ∀ c ∈ "did:".toList, isIdChar c = true := List.all_eq_true.1 (by decide)
  obtain ⟨-, hlower, hid, hlast, -, -⟩ := h
  intro c hc
  apply AtUri.not_isSeparator_of (p := fun c => isIdChar c = true) (by decide) (by decide)
    (by decide)
  simp only [List.mem_append, List.mem_cons, List.not_mem_nil, or_false] at hc
  obtain hc | hc | rfl | hc | rfl := hc
  · exact hscheme c hc
  · have halpha : c.isAlpha = true := by
      change (c.isUpper || c.isLower) = true
      rw [hlower c hc, Bool.or_true]
    simp [isIdChar, Nsid.isAlphanum_of_isAlpha halpha]
  · decide
  · exact hid c hc
  · exact hlast

theorem Nsid.IsWritten.not_isSeparator {text : List Char} (h : IsWritten text) :
    ∀ c ∈ text, AtUri.isSeparator c = false := by
  obtain ⟨htop, -, hmiddle, hname⟩ := h
  intro c hc
  apply AtUri.not_isSeparator_of (p := fun c => (c.isAlphanum = true ∨ c = '-') ∨ c = '.')
    (by decide) (by decide) (by decide)
  simp only [List.mem_append, List.mem_flatMap, List.mem_cons, List.not_mem_nil, or_false] at hc
  obtain hc | ⟨piece, hpiece, rfl | hc⟩ := hc
  · exact .inl (htop.chars (fun _ => isAlphanum_of_isAlpha) c hc)
  · exact .inr rfl
  · obtain hpiece | rfl := hpiece
    · exact .inl ((hmiddle piece hpiece).chars (fun _ => id) c hc)
    · exact .inl (.inl (hname.chars c hc))

theorem RecordKey.IsWritten.not_isSeparator {text : List Char} (h : IsWritten text) :
    ∀ c ∈ text, AtUri.isSeparator c = false := fun c hc =>
  AtUri.not_isSeparator_of (p := fun c => isKeyChar c = true) (by decide) (by decide) (by decide)
    (h.chars c hc)

namespace AtUri

variable {s : String} {rest authority collection rkey tail : List Char}

theorem slash_notMem {text : List Char} (h : ∀ c ∈ text, isSeparator c = false) : '/' ∉ text :=
  fun hmem => absurd (h _ hmem) (by decide)

theorem not_isTailStart {c : Char} (h : isSeparator c = false) : isTailStart c = false :=
  (Bool.or_eq_false_iff.1 h).2

theorem not_isTailStart_eq :
    (fun c => c != '?' && c != '#') = fun c : Char => !isTailStart c := by
  funext c
  simp [isTailStart, bne]

theorem components_eq_iff :
    components rest = (authority, some collection, some rkey) ↔
      '/' ∉ authority ∧ '/' ∉ collection ∧
        rest.takeWhile (fun c => !isTailStart c) =
          authority ++ '/' :: (collection ++ '/' :: rkey) := by
  unfold components
  rw [not_isTailStart_eq]
  constructor
  · intro h
    split at h
    · cases h
    · rename_i hcut
      split at h
      · cases h
      · rename_i hcut'
        cases h
        obtain ⟨hauthority, hrest⟩ := Text.eq_append_of_cut hcut
        obtain ⟨hcollection, rfl⟩ := Text.eq_append_of_cut hcut'
        exact ⟨hauthority, hcollection, hrest⟩
  · rintro ⟨hauthority, hcollection, hrest⟩
    rw [hrest, Text.cut_append _ _ _ hauthority]
    simp only [Text.cut_append _ _ _ hcollection]

theorem ne_nil_of_isNsid {text : List Char} (h : Nsid.isNsid text = true) : text ≠ [] := by
  rintro rfl
  exact absurd h (by decide)

theorem ne_nil_of_isRecordKey {text : List Char} (h : RecordKey.isRecordKey text = true) :
    text ≠ [] := by
  rintro rfl
  exact absurd h (by decide)

theorem of_parse {uri : AtUri} (h : parse s = .ok uri) :
    s.utf8ByteSize ≤ maxBytes ∧ ∃ rest authority,
      Text.stripStart? "at://".toList s.toList = some rest ∧
      components rest = (authority, some uri.collection.toList, some uri.rkey.toList) ∧
      Did.parse (String.ofList authority) = .ok uri.authority := by
  -- The checks are made one after the other; a text that fails one of them gives no uri.
  unfold parse at h
  split at h
  · cases h
  rename_i hfits
  split at h
  · cases h
  rename_i rest hstart
  split at h
  rename_i authority _ _ _
  split at h
  · cases h
  rename_i hdid
  split at h
  · cases h
  · cases h
  split at h
  · split at h
    · cases h
    · cases h
    · split at h
      · rename_i hparts _
        cases h
        refine ⟨Nat.le_of_not_lt hfits, rest, authority, hstart, ?_, hdid⟩
        simpa only [String.toList_ofList] using hparts
      · cases h
  · cases h

theorem parse_of_components {uri : AtUri} (hfits : s.utf8ByteSize ≤ maxBytes)
    (hstart : Text.stripStart? "at://".toList s.toList = some rest)
    (hparts : components rest = (authority, some uri.collection.toList, some uri.rkey.toList))
    (hdid : Did.parse (String.ofList authority) = .ok uri.authority) : parse s = .ok uri := by
  obtain ⟨did, collection, rkey, hcollection, hkey, hjoined⟩ := uri
  -- An empty part counts as a missing one, so the parts have to be seen to have a first character.
  obtain ⟨c, collection', hc⟩ := List.exists_cons_of_ne_nil (ne_nil_of_isNsid hcollection)
  obtain ⟨k, rkey', hk⟩ := List.exists_cons_of_ne_nil (ne_nil_of_isRecordKey hkey)
  dsimp only at hparts hdid
  rw [hc, hk] at hparts
  unfold parse
  rw [dif_neg (Nat.not_lt.2 hfits)]
  split
  · rename_i hnone
    cases hstart.symm.trans hnone
  rename_i hstart'
  cases hstart.symm.trans hstart'
  split
  rename_i hparts'
  cases hparts.symm.trans hparts'
  split
  · rename_i hnone
    cases hdid.symm.trans hnone
  rename_i hdid'
  cases hdid.symm.trans hdid'
  dsimp only
  rw [dif_pos (hc ▸ hcollection)]
  rw [dif_pos (hk ▸ hkey)]
  simp only [← hc, ← hk, String.ofList_toList]

theorem takeWhile_path {path : List Char} (hpath : ∀ c ∈ path, isTailStart c = false)
    (htail : ∀ c ∈ tail.head?, isTailStart c = true) :
    (path ++ tail).takeWhile (fun c => !isTailStart c) = path := by
  rw [List.takeWhile_append_of_pos fun c hc => by rw [hpath c hc]; rfl]
  cases tail with
  | nil => exact List.append_nil path
  | cons c tail =>
    rw [List.takeWhile_cons_of_neg (by rw [htail c rfl]; decide), List.append_nil]

theorem IsWritten.components (h : IsWritten s authority collection rkey tail) :
    Text.stripStart? "at://".toList s.toList =
        some (authority ++ '/' :: (collection ++ '/' :: (rkey ++ tail))) ∧
      AtUri.components (authority ++ '/' :: (collection ++ '/' :: (rkey ++ tail))) =
        (authority, some collection, some rkey) := by
  refine ⟨by rw [h.text, Text.stripStart?_append], components_eq_iff.2
    ⟨slash_notMem h.is_did.not_isSeparator, slash_notMem h.is_nsid.not_isSeparator, ?_⟩⟩
  have hpath : ∀ c ∈ authority ++ '/' :: (collection ++ '/' :: rkey), isTailStart c = false := by
    intro c hc
    simp only [List.mem_append, List.mem_cons] at hc
    obtain hc | rfl | hc | rfl | hc := hc
    · exact not_isTailStart (h.is_did.not_isSeparator c hc)
    · decide
    · exact not_isTailStart (h.is_nsid.not_isSeparator c hc)
    · decide
    · exact not_isTailStart (h.is_key.not_isSeparator c hc)
  rw [← takeWhile_path hpath h.is_tail]
  simp only [List.append_assoc, List.cons_append]

/-- A text has at most one set of parts. -/
theorem IsWritten.unique {authority' collection' rkey' tail' : List Char}
    (h : IsWritten s authority collection rkey tail)
    (h' : IsWritten s authority' collection' rkey' tail') :
    authority = authority' ∧ collection = collection' ∧ rkey = rkey' ∧ tail = tail' := by
  obtain ⟨hstart, hparts⟩ := h.components
  obtain ⟨hstart', hparts'⟩ := h'.components
  have hrest := Option.some.inj (hstart.symm.trans hstart')
  rw [← hrest, hparts] at hparts'
  cases hparts'
  refine ⟨rfl, rfl, rfl, ?_⟩
  simpa using hrest

theorem parse_of_isWritten (hfits : s.utf8ByteSize ≤ maxBytes)
    (h : IsWritten s authority collection rkey tail) :
    ∃ uri, parse s = .ok uri ∧ uri.authority.text = String.ofList authority ∧
      uri.collection = String.ofList collection ∧ uri.rkey = String.ofList rkey := by
  obtain ⟨hstart, hparts⟩ := h.components
  have hgrammar : Did.isDid (String.ofList authority).toList = true := by
    rw [String.toList_ofList]
    exact Did.isDid_iff.2 h.is_did
  have hdid : Did.parse (String.ofList authority) =
      .ok ⟨String.ofList authority, hgrammar, h.did_fits⟩ :=
    (Did.parse_eq_ok_iff (slash_notMem h.is_did.not_isSeparator)).2 ⟨rfl, h.did_fits, h.is_did⟩
  have hcollection : Nsid.isNsid (String.ofList collection).toList = true := by
    rw [String.toList_ofList]
    exact Nsid.isNsid_iff.2 h.is_nsid
  have hkey : RecordKey.isRecordKey (String.ofList rkey).toList = true := by
    rw [String.toList_ofList]
    exact RecordKey.isRecordKey_iff.2 h.is_key
  refine ⟨⟨_, _, _, hcollection, hkey,
    Nat.le_trans (byteSize_joinParts_le hstart hparts hdid) hfits⟩,
    parse_of_components hfits hstart ?_ hdid, rfl, rfl, rfl⟩
  simpa only [String.toList_ofList] using hparts

theorem isWritten_append (uri : AtUri)
    (htext : s.toList = "at://".toList ++ (uri.authority.text.toList ++
      '/' :: (uri.collection.toList ++ '/' :: (uri.rkey.toList ++ tail))))
    (htail : ∀ c ∈ tail.head?, isTailStart c = true) :
    IsWritten s uri.authority.text.toList uri.collection.toList uri.rkey.toList tail where
  text := htext
  is_did := Did.isDid_iff.1 uri.authority.grammatical
  did_fits := by
    rw [String.ofList_toList]
    exact uri.authority.fits
  is_nsid := Nsid.isNsid_iff.1 uri.collection_grammatical
  is_key := RecordKey.isRecordKey_iff.1 uri.rkey_grammatical
  is_tail := htail

theorem exists_isWritten_of_parse {uri : AtUri} (h : parse s = .ok uri) :
    ∃ tail, IsWritten s uri.authority.text.toList uri.collection.toList uri.rkey.toList tail := by
  obtain ⟨-, rest, authority, hstart, hparts, hdid⟩ := of_parse h
  obtain ⟨hslash, -, hpath⟩ := components_eq_iff.1 hparts
  have hauthority : uri.authority.text.toList = authority := by
    rw [Did.text_of_parse hslash hdid, String.toList_ofList]
  have hrest := List.takeWhile_append_dropWhile (p := fun c => !isTailStart c) (l := rest)
  rw [hpath, ← hauthority] at hrest
  simp only [List.append_assoc, List.cons_append] at hrest
  refine ⟨rest.dropWhile fun c => !isTailStart c, isWritten_append uri ?_ ?_⟩
  · rw [Text.eq_append_of_stripStart? hstart, hrest]
  · intro c hc
    have hhead := List.head?_dropWhile_not (fun c => !isTailStart c) rest
    rw [Option.mem_def.1 hc] at hhead
    simpa using hhead

theorem isWritten_text (uri : AtUri) :
    IsWritten uri.text uri.authority.text.toList uri.collection.toList uri.rkey.toList [] :=
  isWritten_append uri (by rw [toList_text, List.append_nil]) (by simp)

theorem parse_text (uri : AtUri) : parse uri.text = .ok uri := by
  obtain ⟨uri', hparse, hauthority, hcollection, hkey⟩ :=
    parse_of_isWritten (s := uri.text) uri.fits uri.isWritten_text
  rw [String.ofList_toList] at hauthority hcollection hkey
  rw [hparse, Except.ok.injEq]
  exact ext (Did.ext hauthority) hcollection hkey

/-- **Record uris have one form.** A text is a record uri exactly if the grammar gives it parts and
it is not too long. The parts are the only ones, and those of the uri that is read. The text of the
uri is `at://` and the parts, without what stood behind them, and reads as the same uri. Uris of the
same text have the same parts, so they may be compared and ordered as texts. -/
theorem parse_follows_grammar (s : String) :
    ((∃ uri, parse s = .ok uri) ↔ s.utf8ByteSize ≤ maxBytes ∧
      ∃ authority collection rkey tail, IsWritten s authority collection rkey tail) ∧
    (∀ authority collection rkey tail authority' collection' rkey' tail',
      IsWritten s authority collection rkey tail →
      IsWritten s authority' collection' rkey' tail' →
      authority = authority' ∧ collection = collection' ∧ rkey = rkey' ∧ tail = tail') ∧
    (∀ uri, parse s = .ok uri →
      (∃ tail, IsWritten s uri.authority.text.toList uri.collection.toList uri.rkey.toList tail) ∧
      uri.text = "at://" ++ uri.authority.text ++ "/" ++ uri.collection ++ "/" ++ uri.rkey ∧
      parse uri.text = .ok uri) ∧
    ∀ a b : AtUri,
      (a.text = b.text ↔
        a.authority = b.authority ∧ a.collection = b.collection ∧ a.rkey = b.rkey) ∧
      compare a b = compare a.text b.text ∧ (compare a b = .eq ↔ a = b) := by
  refine ⟨⟨?_, ?_⟩, fun _ _ _ _ _ _ _ _ => IsWritten.unique, ?_, fun a b => ⟨⟨?_, ?_⟩, rfl, ?_⟩⟩
  · rintro ⟨uri, hparse⟩
    obtain ⟨tail, hwritten⟩ := exists_isWritten_of_parse hparse
    exact ⟨(of_parse hparse).1, _, _, _, tail, hwritten⟩
  · rintro ⟨hfits, authority, collection, rkey, tail, hwritten⟩
    obtain ⟨uri, hparse, -⟩ := parse_of_isWritten hfits hwritten
    exact ⟨uri, hparse⟩
  · intro uri hparse
    exact ⟨exists_isWritten_of_parse hparse, rfl, parse_text uri⟩
  · intro htext
    cases text_injective htext
    exact ⟨rfl, rfl, rfl⟩
  · rintro ⟨hauthority, hcollection, hkey⟩
    rw [ext hauthority hcollection hkey]
  · exact Std.LawfulEqCmp.compare_eq_iff_eq

/-- A uri with a fragment, written with the shortest labels there are. -/
theorem isWritten_sample :
    IsWritten "at://did:m:v/a.b.c/~#at://" "did:m:v".toList "a.b.c".toList "~".toList
      "#at://".toList := by
  refine ⟨by decide, ?_, by decide, ?_, ⟨by decide, by decide, List.all_eq_true.1 (by decide)⟩, ?_⟩
  · exact Did.isDid_iff.1 (by decide)
  · exact Nsid.isNsid_iff.1 (by decide)
  · intro c hc
    have hhead : "#at://".toList.head? = some '#' := by decide
    cases hhead.symm.trans hc
    rfl

theorem parse_follows_grammar_sample :
    ∃ uri, parse "at://did:m:v/a.b.c/~#at://" = .ok uri ∧ uri.text = "at://did:m:v/a.b.c/~" ∧
      parse "at://did:m:v/a.b.c/~" = .ok uri := by
  obtain ⟨haccepts, hunique, hparts, -⟩ := parse_follows_grammar "at://did:m:v/a.b.c/~#at://"
  obtain ⟨uri, hparse⟩ := haccepts.2 ⟨by decide, _, _, _, _, isWritten_sample⟩
  obtain ⟨⟨tail, hwritten⟩, htext, hagain⟩ := hparts uri hparse
  obtain ⟨hauthority, hcollection, hkey, -⟩ := hunique _ _ _ _ _ _ _ _ hwritten isWritten_sample
  rw [String.toList_inj.1 hauthority, String.toList_inj.1 hcollection,
    String.toList_inj.1 hkey] at htext
  have hjoined : "at://" ++ "did:m:v" ++ "/" ++ "a.b.c" ++ "/" ++ "~" = "at://did:m:v/a.b.c/~" := by
    decide
  rw [hjoined] at htext
  exact ⟨uri, hparse, htext, htext ▸ hagain⟩

end AtUri

end FeedHydration

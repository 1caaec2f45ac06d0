import FeedHydration.Proofs.Grammar

/-!
# Uris made of parts

The parts of a uri are joined to a text, and the text is read. A slash too many is never taken for
one of the two that divide the parts, since neither a collection nor a key may hold one. A question
mark or a number sign, however, ends the uri wherever it stands, so what is made of parts with one
of them is the uri that the text names up to there.
-/

namespace FeedHydration.AtUri

variable {authority : Did} {collection rkey s : String} {uri : AtUri}

theorem toList_joinParts (authority collection rkey : String) :
    (joinParts authority collection rkey).toList = "at://".toList ++
      (authority.toList ++ '/' :: (collection.toList ++ '/' :: rkey.toList)) := by
  simp [joinParts, String.toList_append]

/-- A text is read as a uri exactly if it is the text of the uri, up to a query or fragment. -/
theorem parse_eq_ok_iff : parse s = .ok uri ↔ s.utf8ByteSize ≤ maxBytes ∧
    ∃ tail, s.toList = uri.text.toList ++ tail ∧ ∀ c ∈ tail.head?, isTailStart c = true := by
  constructor
  · intro h
    obtain ⟨tail, hwritten⟩ := exists_isWritten_of_parse h
    refine ⟨(of_parse h).1, tail, ?_, hwritten.is_tail⟩
    rw [hwritten.text, toList_text]
    simp only [List.append_assoc, List.cons_append]
  · rintro ⟨hfits, tail, htext, htail⟩
    rw [toList_text] at htext
    simp only [List.append_assoc, List.cons_append] at htext
    obtain ⟨read, hread, hauthority, hcollection, hkey⟩ :=
      parse_of_isWritten hfits (uri.isWritten_append htext htail)
    rw [String.ofList_toList] at hauthority hcollection hkey
    rw [hread, ext (Did.ext hauthority) hcollection hkey]

/-- No query or fragment starts in parts without its signs. -/
theorem not_isTailStart_joinParts (authority : Did)
    (h : ∀ c ∈ collection.toList ++ rkey.toList, isTailStart c = false) :
    ∀ c ∈ (joinParts authority.text collection rkey).toList, isTailStart c = false := by
  have hscheme : ∀ c ∈ "at://".toList, isTailStart c = false := by simp [isTailStart]
  have hdid := (Did.isDid_iff.1 authority.grammatical).not_isSeparator
  intro c hc
  simp only [toList_joinParts, List.mem_append, List.mem_cons] at hc
  obtain hc | hc | rfl | hc | rfl | hc := hc
  · exact hscheme c hc
  · exact not_isTailStart (hdid c hc)
  · decide
  · exact h c (List.mem_append_left _ hc)
  · decide
  · exact h c (List.mem_append_right _ hc)

theorem not_isSeparator_collection (uri : AtUri) :
    ∀ c ∈ uri.collection.toList, isSeparator c = false :=
  (Nsid.isNsid_iff.1 uri.collection_grammatical).not_isSeparator

theorem not_isSeparator_rkey (uri : AtUri) : ∀ c ∈ uri.rkey.toList, isSeparator c = false :=
  (RecordKey.isRecordKey_iff.1 uri.rkey_grammatical).not_isSeparator

theorem not_isTailStart_parts (uri : AtUri) :
    ∀ c ∈ uri.collection.toList ++ uri.rkey.toList, isTailStart c = false := by
  intro c hc
  obtain hc | hc := List.mem_append.1 hc
  · exact not_isTailStart (uri.not_isSeparator_collection c hc)
  · exact not_isTailStart (uri.not_isSeparator_rkey c hc)

theorem toList_text_of_ofParts (h : ofParts authority collection rkey = .ok uri) :
    uri.text.toList = (joinParts authority.text collection rkey).toList.takeWhile
      fun c => !isTailStart c := by
  obtain ⟨-, tail, htext, htail⟩ := parse_eq_ok_iff.1 h
  have hpath : ∀ c ∈ uri.text.toList, isTailStart c = false :=
    not_isTailStart_joinParts uri.authority uri.not_isTailStart_parts
  rw [htext, takeWhile_path hpath htail]

theorem authority_of_ofParts (h : ofParts authority collection rkey = .ok uri) :
    uri.authority = authority := by
  obtain ⟨-, tail, htext, -⟩ := parse_eq_ok_iff.1 h
  rw [toList_joinParts, toList_text, List.append_assoc] at htext
  have hrest := List.append_cancel_left htext
  rw [List.append_assoc, List.cons_append] at hrest
  exact Did.ext (String.toList_inj.1
    (Text.append_sep_inj authority.slash_notMem uri.authority.slash_notMem hrest).1.symm)

/-- A text with one slash is divided in one way, whatever the two texts are that it divides. -/
theorem eq_of_append_slash {left right left' right' : List Char} (hleft : '/' ∉ left)
    (hright : '/' ∉ right) (h : left' ++ '/' :: right' = left ++ '/' :: right) :
    left' = left ∧ right' = right := by
  have hcount := congrArg (List.count '/') h
  simp only [List.count_append, List.count_cons_self, List.count_eq_zero.2 hleft,
    List.count_eq_zero.2 hright] at hcount
  have hleft' : '/' ∉ left' := List.count_eq_zero.1 (by omega)
  exact Text.append_sep_inj hleft' hleft h

theorem parts_of_ofParts (h : ofParts authority collection rkey = .ok uri)
    (hparts : ∀ c ∈ collection.toList ++ rkey.toList, isTailStart c = false) :
    uri.collection = collection ∧ uri.rkey = rkey := by
  have hnil : ∀ c ∈ ([] : List Char).head?, isTailStart c = true := by simp
  have hwhole := takeWhile_path (not_isTailStart_joinParts authority hparts) hnil
  rw [List.append_nil] at hwhole
  have htext := toList_text_of_ofParts h
  rw [hwhole, toList_text, toList_joinParts, authority_of_ofParts h] at htext
  have hrest := List.append_cancel_left (List.append_cancel_left htext)
  obtain ⟨hleft, hright⟩ := eq_of_append_slash (slash_notMem uri.not_isSeparator_collection)
    (slash_notMem uri.not_isSeparator_rkey) (List.cons.inj hrest).2.symm
  exact ⟨String.toList_inj.1 hleft.symm, String.toList_inj.1 hright.symm⟩

theorem exists_ofParts (hcollection : Nsid.IsWritten collection.toList)
    (hkey : RecordKey.IsWritten rkey.toList)
    (hfits : (joinParts authority.text collection rkey).utf8ByteSize ≤ maxBytes) :
    ∃ uri, ofParts authority collection rkey = .ok uri ∧ uri.authority = authority ∧
      uri.collection = collection ∧ uri.rkey = rkey := by
  let uri : AtUri :=
    ⟨authority, collection, rkey, Nsid.isNsid_iff.2 hcollection, RecordKey.isRecordKey_iff.2 hkey,
      hfits⟩
  exact ⟨uri, parse_text uri, rfl, rfl, rfl⟩

/-- **Parts name their record.** A uri that is made of parts is that of the did that was given, and
its text is that of the joined parts up to the first question mark or number sign. So it has the
collection and the key that were given exactly if neither of them holds such a character. Parts that
follow the grammar make a uri if they are not too long together, and it has these parts. -/
theorem ofParts_names_record (authority : Did) (collection rkey : String) :
    (∀ uri, ofParts authority collection rkey = .ok uri →
      uri.authority = authority ∧
      uri.text.toList = ((joinParts authority.text collection rkey).toList.takeWhile
        fun c => !isTailStart c) ∧
      (uri.collection = collection ∧ uri.rkey = rkey ↔
        ∀ c ∈ collection.toList ++ rkey.toList, isTailStart c = false)) ∧
    (Nsid.IsWritten collection.toList → RecordKey.IsWritten rkey.toList →
      (joinParts authority.text collection rkey).utf8ByteSize ≤ maxBytes →
      ∃ uri, ofParts authority collection rkey = .ok uri ∧ uri.authority = authority ∧
        uri.collection = collection ∧ uri.rkey = rkey) := by
  refine ⟨fun uri h => ⟨authority_of_ofParts h, toList_text_of_ofParts h, ?_, parts_of_ofParts h⟩,
    exists_ofParts⟩
  rintro ⟨rfl, rfl⟩
  exact uri.not_isTailStart_parts

/-- A uri with the shortest parts there are. -/
def shortest : AtUri :=
  ⟨⟨"did:m:v", by decide, by decide⟩, "a.b.c", "~", by decide, by decide, by decide⟩

/-- A collection that brings its own key hides the key that is given. -/
theorem ofParts_hidden_key : ofParts shortest.authority "a.b.c/~#" "d" = .ok shortest :=
  parse_eq_ok_iff.2 ⟨by decide, "#/d".toList, by decide, by simp [isTailStart]⟩

theorem ofParts_names_record_shortest :
    (∃ uri, ofParts shortest.authority "a.b.c" "~" = .ok uri ∧ uri.collection = "a.b.c" ∧
      uri.rkey = "~") ∧
    ofParts shortest.authority "a.b.c/~#" "d" = .ok shortest ∧
    ¬ ∀ c ∈ "a.b.c/~#".toList ++ "d".toList, isTailStart c = false := by
  refine ⟨?_, ofParts_hidden_key, ?_⟩
  · obtain ⟨-, hmakes⟩ := ofParts_names_record shortest.authority "a.b.c" "~"
    obtain ⟨uri, huri, -, hcollection, hkey⟩ :=
      hmakes (Nsid.isNsid_iff.1 shortest.collection_grammatical)
        (RecordKey.isRecordKey_iff.1 shortest.rkey_grammatical) shortest.fits
    exact ⟨uri, huri, hcollection, hkey⟩
  · obtain ⟨hnames, -⟩ := ofParts_names_record shortest.authority "a.b.c/~#" "d"
    obtain ⟨-, -, hparts⟩ := hnames shortest ofParts_hidden_key
    rw [← hparts]
    decide

/-- The key of a uri can be another than the one that it was made of. -/
theorem exists_other_key : ∃ uri, ofParts shortest.authority "a.b.c" "~?d" = .ok uri ∧
    uri.rkey ≠ "~?d" :=
  ⟨shortest, parse_eq_ok_iff.2 ⟨by decide, "?d".toList, by decide, by simp [isTailStart]⟩,
    by decide⟩

end FeedHydration.AtUri

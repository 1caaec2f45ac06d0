import FeedHydration.Identifier.Did
import FeedHydration.Identifier.Cid

/-!
Record uris, `at://<did>/<collection>/<record key>`. Only full uris with a did as authority are
accepted. A query or fragment is dropped, so each record has one uri; the text fixes the parts
(`text_injective`), and uris are compared as texts.
-/

namespace FeedHydration

namespace Nsid

/-- One name between dots: 1 to 63 letters, digits and inner hyphens. -/
def isLabel (label : List Char) : Bool :=
  label.length ≤ 63 && label.all (fun c => c.isAlphanum || c == '-')
    && label.head?.any (· != '-') && label.getLast?.any (· != '-')

/-- The authority's first label starts with a letter. -/
def isTopLabel (label : List Char) : Bool :=
  isLabel label && label.head?.any Char.isAlpha

/-- The last label is a name: a letter, then letters and digits. -/
def isName (label : List Char) : Bool :=
  label.length ≤ 63 && label.all Char.isAlphanum && label.head?.any Char.isAlpha

/-- A namespaced identifier has at least three labels. -/
def isNsid (text : List Char) : Bool :=
  match Text.splitAll '.' text with
  | top :: second :: rest =>
    match rest.getLast? with
    | some name => isTopLabel top && (second :: rest.dropLast).all isLabel && isName name
    | none => false
  | _ => false

end Nsid

namespace RecordKey

def isKeyChar (c : Char) : Bool :=
  c.isAlphanum || c == '.' || c == '-' || c == '_' || c == ':' || c == '~'

def isRecordKey (text : List Char) : Bool :=
  1 ≤ text.length && text.length ≤ 512 && text.all isKeyChar

end RecordKey

namespace AtUri

/-- A record uri has at most this many bytes. -/
def maxBytes : Nat := 8192

def joinParts (authority collection rkey : String) : String :=
  "at://" ++ authority ++ "/" ++ collection ++ "/" ++ rkey

end AtUri

structure AtUri where
  authority : Did
  collection : String
  rkey : String
  collection_grammatical : Nsid.isNsid collection.toList = true
  rkey_grammatical : RecordKey.isRecordKey rkey.toList = true
  fits : (AtUri.joinParts authority.text collection rkey).utf8ByteSize ≤ AtUri.maxBytes

namespace AtUri

def text (uri : AtUri) : String :=
  joinParts uri.authority.text uri.collection uri.rkey

instance : ToString AtUri := ⟨text⟩

theorem ext {a b : AtUri} (hauth : a.authority = b.authority)
    (hcoll : a.collection = b.collection) (hkey : a.rkey = b.rkey) : a = b := by
  cases a; cases b
  cases hauth; cases hcoll; cases hkey
  rfl

theorem mem_splitAll_pieces {sep c : Char} (hc : c ≠ sep) :
    ∀ {t : List Char}, c ∈ t → ∃ piece ∈ Text.splitAll sep t, c ∈ piece
  | [], h => by simp at h
  | d :: t, h => by
    unfold Text.splitAll
    by_cases hd : d = sep
    · subst hd
      rcases List.mem_cons.1 h with rfl | h
      · exact absurd rfl hc
      · obtain ⟨piece, hp, hcp⟩ := mem_splitAll_pieces hc h
        exact ⟨piece, by simp [hp], hcp⟩
    · simp only [if_neg hd]
      cases hs : Text.splitAll sep t with
      | nil =>
        rcases List.mem_cons.1 h with rfl | h
        · exact ⟨[c], by simp, by simp⟩
        · obtain ⟨piece, hp, _⟩ := mem_splitAll_pieces hc h
          simp [hs] at hp
      | cons first pieces =>
        rcases List.mem_cons.1 h with rfl | h
        · exact ⟨c :: first, by simp, by simp⟩
        · obtain ⟨piece, hp, hcp⟩ := mem_splitAll_pieces hc h
          rw [hs] at hp
          rcases List.mem_cons.1 hp with rfl | hp
          · exact ⟨d :: piece, by simp, by simp [hcp]⟩
          · exact ⟨piece, by simp [hp], hcp⟩

theorem slash_notMem_isLabel {label : List Char} (h : Nsid.isLabel label = true) :
    '/' ∉ label := by
  intro hmem
  simp only [Nsid.isLabel, Bool.and_eq_true, List.all_eq_true] at h
  exact absurd (h.1.1.2 _ hmem) (by decide)

theorem slash_notMem_isName {label : List Char} (h : Nsid.isName label = true) :
    '/' ∉ label := by
  intro hmem
  simp only [Nsid.isName, Bool.and_eq_true, List.all_eq_true] at h
  exact absurd (h.1.2 _ hmem) (by decide)

theorem dropLast_append_of_getLast? {l : List (List Char)} {last : List Char}
    (h : l.getLast? = some last) : l.dropLast ++ [last] = l := by
  obtain ⟨init, rfl⟩ := List.getLast?_eq_some_iff.1 h
  simp

theorem slash_notMem_collection {t : List Char} (h : Nsid.isNsid t = true) : '/' ∉ t := by
  intro hmem
  obtain ⟨piece, hp, hc⟩ := @mem_splitAll_pieces '.' _ (by decide) _ hmem
  unfold Nsid.isNsid at h
  split at h
  · rename_i top second rest hsplit
    rw [hsplit] at hp
    split at h
    · rename_i name hlast
      simp only [Bool.and_eq_true, List.all_eq_true, Nsid.isTopLabel] at h
      have hrest : piece ∈ top :: second :: (rest.dropLast ++ [name]) := by
        rwa [dropLast_append_of_getLast? hlast]
      simp only [List.mem_cons, List.mem_append, List.not_mem_nil, or_false] at hrest
      rcases hrest with rfl | rfl | hr | rfl
      · exact slash_notMem_isLabel h.1.1.1 hc
      · exact slash_notMem_isLabel (h.1.2 _ (by simp)) hc
      · exact slash_notMem_isLabel (h.1.2 _ (by simp [hr])) hc
      · exact slash_notMem_isName h.2 hc
    · exact absurd h (by decide)
  · exact absurd h (by decide)

theorem toList_text (uri : AtUri) :
    uri.text.toList = "at://".toList ++
      (uri.authority.text.toList ++ '/' :: (uri.collection.toList ++ '/' :: uri.rkey.toList)) := by
  simp [text, joinParts, String.toList_append]

theorem text_injective {a b : AtUri} (h : a.text = b.text) : a = b := by
  have hl : a.text.toList = b.text.toList := by rw [h]
  rw [toList_text, toList_text] at hl
  obtain ⟨hauth, hrest⟩ :=
    Text.append_sep_inj a.authority.slash_notMem b.authority.slash_notMem
      (List.append_cancel_left hl)
  obtain ⟨hcoll, hkey⟩ :=
    Text.append_sep_inj (slash_notMem_collection a.collection_grammatical)
      (slash_notMem_collection b.collection_grammatical) hrest
  exact ext (Did.ext (String.toList_inj.1 hauth)) (String.toList_inj.1 hcoll)
    (String.toList_inj.1 hkey)

/-- No text is a uri and a did. -/
theorem text_ne_text_did (uri : AtUri) (did : Did) : uri.text ≠ did.text := by
  intro htext
  have hslash := did.slash_notMem
  rw [← htext, toList_text] at hslash
  simp at hslash

instance : DecidableEq AtUri := fun a b =>
  if h : a.text = b.text then isTrue (text_injective h)
  else isFalse (fun e => h (congrArg text e))

/-- Uris are ordered as texts. -/
instance : Ord AtUri := ⟨fun a b => compare a.text b.text⟩

instance : Std.TransOrd AtUri where
  eq_swap := Std.OrientedOrd.eq_swap (α := String)
  isLE_trans := Std.TransOrd.isLE_trans (α := String)

instance : Std.LawfulEqOrd AtUri where
  compare_self := Std.ReflOrd.compare_self (α := String)
  eq_of_compare h := text_injective (Std.LawfulEqOrd.eq_of_compare (α := String) h)

/-- The three components as they stand in a text after `at://`, up to the query or fragment: the
authority, then the collection and the record key as far as there are any. -/
def components (rest : List Char) : List Char × Option (List Char) × Option (List Char) :=
  match Text.cut '/' (rest.takeWhile (fun c => c != '?' && c != '#')) with
  | (authority, none) => (authority, none, none)
  | (authority, some path) =>
    match Text.cut '/' path with
    | (collection, none) => (authority, some collection, none)
    | (collection, some rkey) => (authority, some collection, some rkey)

theorem eq_append_of_components {rest authority collection rkey : List Char}
    (h : components rest = (authority, some collection, some rkey)) :
    '/' ∉ authority ∧
      ∃ tail, rest = authority ++ '/' :: (collection ++ '/' :: (rkey ++ tail)) := by
  have hrest := List.takeWhile_append_dropWhile (p := fun c => c != '?' && c != '#') (l := rest)
  unfold components at h
  generalize rest.takeWhile (fun c => c != '?' && c != '#') = path at h hrest
  split at h
  · simp at h
  · rename_i a path' hcut
    split at h
    · simp at h
    · rename_i c k hcut'
      simp only [Prod.mk.injEq, Option.some.injEq] at h
      obtain ⟨rfl, rfl, rfl⟩ := h
      obtain ⟨hslash, rfl⟩ := Text.eq_append_of_cut hcut
      obtain ⟨_, rfl⟩ := Text.eq_append_of_cut hcut'
      exact ⟨hslash, rest.dropWhile (fun c => c != '?' && c != '#'), by
        simpa using hrest.symm⟩

theorem byteSize_joinParts_le {s : String} {rest authority collection rkey : List Char} {did : Did}
    (hstart : Text.stripStart? "at://".toList s.toList = some rest)
    (hparts : components rest = (authority, some collection, some rkey))
    (hdid : Did.parse (String.ofList authority) = .ok did) :
    (joinParts did.text (String.ofList collection) (String.ofList rkey)).utf8ByteSize ≤
      s.utf8ByteSize := by
  obtain ⟨hslash, tail, htail⟩ := eq_append_of_components hparts
  have htext := Did.text_of_parse hslash hdid
  have hs : s = joinParts did.text (String.ofList collection) (String.ofList rkey) ++
      String.ofList tail := by
    apply String.toList_inj.1
    rw [Text.eq_append_of_stripStart? hstart, htail]
    simp [joinParts, htext, String.toList_append]
  rw [hs, String.utf8ByteSize_append]
  omega

/-- The fault of a text that is no record uri, with the bytes at which it lies. -/
def faultOf (s : String) (reason : IdentifierFault) : IdentifierError :=
  ⟨.atUri, s, reason⟩

def malformedAt (s : String) (start : Nat) (part : List Char) (reason : String) :
    IdentifierError :=
  faultOf s (.malformed (some ⟨start, Text.byteSize part⟩) reason)

def missingAt (s : String) (start : Nat) (component : String) : IdentifierError :=
  faultOf s (.missing ⟨start, 0⟩ component)

/-- The components are judged from left to right. A malformed component is reported where its text
occurs in the uri; a missing one, at the end. -/
def parse (s : String) : Except IdentifierError AtUri :=
  if hfits : maxBytes < s.utf8ByteSize then
    .error (faultOf s (.tooLong maxBytes s.utf8ByteSize))
  else
    match hstart : Text.stripStart? "at://".toList s.toList with
    | none => .error (missingAt s 0 "at://")
    | some rest =>
      match hparts : components rest with
      | (authority, collection?, rkey?) =>
        match hdid : Did.parse (String.ofList authority) with
        | .error _ => .error (malformedAt s 5 authority "authority must be a DID")
        | .ok did =>
          match collection?, rkey?, hparts with
          | none, _, _ | some [], _, _ => .error (missingAt s s.utf8ByteSize "collection")
          | some (c :: collection), rkey?, hparts =>
            if hcoll : Nsid.isNsid (c :: collection) = true then
              match rkey?, hparts with
              | none, _ | some [], _ => .error (missingAt s s.utf8ByteSize "record key")
              | some (k :: rkey), hparts =>
                if hkey : RecordKey.isRecordKey (k :: rkey) = true then
                  .ok ⟨did, String.ofList (c :: collection), String.ofList (k :: rkey),
                    by rwa [String.toList_ofList], by rwa [String.toList_ofList],
                    Nat.le_trans (byteSize_joinParts_le hstart hparts hdid)
                      (Nat.le_of_not_lt hfits)⟩
                else
                  .error (malformedAt s ((Text.findLast? (k :: rkey) s.toList).getD 0) (k :: rkey)
                    "invalid record key")
            else
              .error (malformedAt s ((Text.find? (c :: collection) s.toList).getD 0)
                (c :: collection) "collection must be an NSID")

/-- The uri of a record given by its parts. -/
def ofParts (authority : Did) (collection rkey : String) : Except IdentifierError AtUri :=
  parse (joinParts authority.text collection rkey)

end AtUri

/-- A record uri pinned to one version of the record. -/
structure StrongRef where
  uri : AtUri
  cid : Cid
deriving DecidableEq

end FeedHydration

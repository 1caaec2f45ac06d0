import FeedHydration.Identifier.Error
import FeedHydration.Text.Search
import Std.Data.ExtTreeMap

/-!
Decentralized identifiers, `did:<method>:<id>`. The grammar asks for a lower-case method and for
identifier characters of which the last is neither a colon nor a percent sign.
-/

namespace FeedHydration

namespace Did

def isIdChar (c : Char) : Bool :=
  c.isAlphanum || c == '.' || c == '_' || c == ':' || c == '%' || c == '-'

def isIdEnd (c : Char) : Bool :=
  isIdChar c && c != ':' && c != '%'

def isMethodAndId (text : List Char) : Bool :=
  match text.takeWhile Char.isLower, text.dropWhile Char.isLower with
  | _ :: _, ':' :: id => id.all isIdChar && id.getLast?.any isIdEnd
  | _, _ => false

def isDid (text : List Char) : Bool :=
  match Text.stripStart? "did:".toList text with
  | some rest => isMethodAndId rest
  | none => false

/-- A did has at most this many bytes. -/
def maxBytes : Nat := 2048

end Did

structure Did where
  text : String
  grammatical : Did.isDid text.toList = true
  fits : text.utf8ByteSize ≤ Did.maxBytes

namespace Did

instance : DecidableEq Did := fun a b =>
  if h : a.text = b.text then
    isTrue (by cases a; cases b; cases h; rfl)
  else isFalse (fun e => h (congrArg text e))

theorem ext {a b : Did} (h : a.text = b.text) : a = b := by
  cases a; cases b; cases h; rfl

/-- Dids are ordered as texts. -/
instance : Ord Did := ⟨fun a b => compare a.text b.text⟩

instance : Std.TransOrd Did where
  eq_swap := Std.OrientedOrd.eq_swap (α := String)
  isLE_trans := Std.TransOrd.isLE_trans (α := String)

instance : Std.LawfulEqOrd Did where
  compare_self := Std.ReflOrd.compare_self (α := String)
  eq_of_compare h := ext (Std.LawfulEqOrd.eq_of_compare (α := String) h)

instance : ToString Did := ⟨text⟩

/-- An `at://` before the did is dropped: dids often come as the authority of a record uri. -/
def normalize (s : String) : String :=
  match Text.stripStart? "at://".toList s.toList with
  | some rest => String.ofList rest
  | none => s

def check (text : String) : Except IdentifierError Did :=
  if fits : text.utf8ByteSize ≤ maxBytes then
    if grammatical : isDid text.toList = true then .ok ⟨text, grammatical, fits⟩
    else .error ⟨.did, text, .malformed none "invalid"⟩
  else .error ⟨.did, text, .tooLong maxBytes text.utf8ByteSize⟩

def parse (s : String) : Except IdentifierError Did :=
  check (normalize s)

theorem normalize_of_slash_notMem {text : List Char} (h : '/' ∉ text) :
    normalize (String.ofList text) = String.ofList text := by
  unfold normalize
  split
  · rename_i rest hrest
    simp only [String.toList_ofList] at hrest
    rw [Text.eq_append_of_stripStart? hrest] at h
    simp at h
  · rfl

theorem text_of_parse {text : List Char} {d : Did} (h : '/' ∉ text)
    (hd : parse (String.ofList text) = .ok d) : d.text = String.ofList text := by
  rw [parse, normalize_of_slash_notMem h] at hd
  unfold check at hd
  split at hd
  · split at hd
    · cases hd; rfl
    · cases hd
  · cases hd

/-- The method, such as `plc` or `web`. -/
def method (d : Did) : String :=
  String.ofList ((d.text.toList.drop 4).takeWhile (· != ':'))

theorem isIdChar_slash : isIdChar '/' = false := by decide

theorem slash_notMem_of_isMethodAndId {text : List Char} (h : isMethodAndId text = true) :
    '/' ∉ text := by
  intro hmem
  rw [← List.takeWhile_append_dropWhile (p := Char.isLower) (l := text)] at hmem
  unfold isMethodAndId at h
  split at h
  · rename_i id _ hdrop
    rw [List.mem_append, hdrop] at hmem
    rcases hmem with hmem | hmem
    · exact absurd (List.all_eq_true.1 List.all_takeWhile '/' hmem) (by decide)
    · simp only [Bool.and_eq_true, List.all_eq_true] at h
      rcases List.mem_cons.1 hmem with hmem | hmem
      · exact absurd hmem (by decide)
      · have := h.1 _ hmem
        simp [isIdChar_slash] at this
  · exact absurd h (by decide)

theorem slash_notMem (d : Did) : '/' ∉ d.text.toList := by
  have h := d.grammatical
  unfold isDid at h
  split at h
  · rename_i rest hrest
    rw [Text.eq_append_of_stripStart? hrest, List.mem_append, not_or]
    exact ⟨by decide, slash_notMem_of_isMethodAndId h⟩
  · exact absurd h (by decide)

end Did

end FeedHydration

import FeedHydration.Proofs.Grammar

/-!
# Where a text is no uri

A fault of a text that is read as a record uri names the bytes at which it lies. They are always
bytes of whole characters in the text. A component that is missing is missed at an end of the text. A
component that breaks the grammar is measured where it stands, but its start is found by a search for
its text: from the front for a collection, from the back for a key. The start is right exactly if
the search meets the component first, and it need not, since the text may hold the same characters
before the collection or behind the key.
-/

namespace FeedHydration

namespace Text

variable {part text : List Char} {start : Nat}

/-! ### Searches -/

/-- A part of a text, and the byte at which it starts. -/
def OccursAt (part text : List Char) (start : Nat) : Prop :=
  ∃ before after, text = before ++ (part ++ after) ∧ byteSize before = start

theorem occursAt_nil : OccursAt part [] start ↔ part = [] ∧ start = 0 := by
  constructor
  · rintro ⟨before, after, htext, rfl⟩
    obtain ⟨rfl, hrest⟩ := List.append_eq_nil_iff.1 htext.symm
    exact ⟨(List.append_eq_nil_iff.1 hrest).1, rfl⟩
  · rintro ⟨rfl, rfl⟩
    exact ⟨[], [], rfl, rfl⟩

theorem occursAt_cons {c : Char} : OccursAt part (c :: text) start ↔
    start = 0 ∧ part <+: c :: text ∨ ∃ rest, start = c.utf8Size + rest ∧ OccursAt part text rest := by
  constructor
  · rintro ⟨before, after, htext, rfl⟩
    cases before with
    | nil => exact .inl ⟨rfl, after, htext.symm⟩
    | cons d before =>
      obtain ⟨rfl, rfl⟩ := List.cons.inj htext
      exact .inr ⟨byteSize before, rfl, before, after, rfl, rfl⟩
  · rintro (⟨rfl, after, htext⟩ | ⟨rest, rfl, before, after, rfl, rfl⟩)
    · exact ⟨[], after, htext.symm, rfl⟩
    · exact ⟨c :: before, after, rfl, rfl⟩

/-- A search from the front ends where a part occurs first. -/
theorem find?_of_occursAt (h : OccursAt part text start) : ∃ first, find? part text = some first ∧
    OccursAt part text first ∧ ∀ other, OccursAt part text other → first ≤ other := by
  induction text generalizing start with
  | nil =>
    obtain ⟨rfl, rfl⟩ := occursAt_nil.1 h
    exact ⟨0, rfl, h, fun _ _ => Nat.zero_le _⟩
  | cons c text ih =>
    by_cases hprefix : part <+: c :: text
    · have hfind : find? part (c :: text) = some 0 := by
        rw [find?, if_pos (List.isPrefixOf_iff_prefix.2 hprefix)]
      exact ⟨0, hfind, occursAt_cons.2 (.inl ⟨rfl, hprefix⟩), fun _ _ => Nat.zero_le _⟩
    · obtain ⟨_, hhere⟩ | ⟨rest, -, hrest⟩ := occursAt_cons.1 h
      · exact absurd hhere hprefix
      obtain ⟨first, hfind, hoccurs, hfirst⟩ := ih hrest
      refine ⟨c.utf8Size + first, ?_, occursAt_cons.2 (.inr ⟨first, rfl, hoccurs⟩), ?_⟩
      · rw [find?, if_neg (mt List.isPrefixOf_iff_prefix.1 hprefix), hfind, Option.map_some]
      · intro other hother
        obtain ⟨_, hhere⟩ | ⟨rest, rfl, hrest⟩ := occursAt_cons.1 hother
        · exact absurd hhere hprefix
        · exact Nat.add_le_add_left (hfirst rest hrest) _

theorem occursAt_of_findLast? (h : findLast? part text = some start) :
    OccursAt part text start := by
  induction text generalizing start with
  | nil =>
    rw [findLast?] at h
    split at h
    · rename_i hpart
      cases h
      exact occursAt_nil.2 ⟨List.isEmpty_iff.1 hpart, rfl⟩
    · cases h
  | cons c text ih =>
    rw [findLast?] at h
    split at h
    · rename_i rest hrest
      cases h
      exact occursAt_cons.2 (.inr ⟨rest, rfl, ih hrest⟩)
    · split at h
      · rename_i hprefix
        cases h
        exact occursAt_cons.2 (.inl ⟨rfl, List.isPrefixOf_iff_prefix.1 hprefix⟩)
      · cases h

/-- A search from the back ends where a part occurs last. -/
theorem findLast?_of_occursAt (h : OccursAt part text start) :
    ∃ last, findLast? part text = some last ∧ OccursAt part text last ∧
      ∀ other, OccursAt part text other → other ≤ last := by
  induction text generalizing start with
  | nil =>
    obtain ⟨rfl, rfl⟩ := occursAt_nil.1 h
    exact ⟨0, rfl, h, fun _ hother => Nat.le_of_eq (occursAt_nil.1 hother).2⟩
  | cons c text ih =>
    by_cases hlater : ∃ rest, OccursAt part text rest
    · obtain ⟨rest, hrest⟩ := hlater
      obtain ⟨last, hfind, hoccurs, hlast⟩ := ih hrest
      refine ⟨c.utf8Size + last, ?_, occursAt_cons.2 (.inr ⟨last, rfl, hoccurs⟩), ?_⟩
      · rw [findLast?, hfind]
      · intro other hother
        obtain ⟨rfl, -⟩ | ⟨rest, rfl, hrest⟩ := occursAt_cons.1 hother
        · exact Nat.zero_le _
        · exact Nat.add_le_add_left (hlast rest hrest) _
    · -- the part occurs at the front and nowhere behind it
      have hnone : findLast? part text = none := by
        rw [Option.eq_none_iff_forall_ne_some]
        exact fun rest hrest => hlater ⟨rest, occursAt_of_findLast? hrest⟩
      obtain ⟨rfl, hprefix⟩ | ⟨rest, -, hrest⟩ := occursAt_cons.1 h
      · refine ⟨0, ?_, h, fun other hother => ?_⟩
        · rw [findLast?, hnone]
          exact if_pos (List.isPrefixOf_iff_prefix.2 hprefix)
        · obtain ⟨rfl, -⟩ | ⟨rest, -, hrest⟩ := occursAt_cons.1 hother
          · exact Nat.le_refl 0
          · exact absurd ⟨rest, hrest⟩ hlater
      · exact absurd ⟨rest, hrest⟩ hlater

/-- A part that goes on up to the first character of some class. -/
structure IsRun (stops : Char → Bool) (part after : List Char) : Prop where
  inner : ∀ c ∈ part, stops c = false
  stop : ∀ c ∈ after.head?, stops c = true

namespace IsRun

variable {stops : Char → Bool} {after part' after' : List Char}

theorem takeWhile_eq (h : IsRun stops part after) :
    (part ++ after).takeWhile (fun c => !stops c) = part := by
  rw [List.takeWhile_append_of_pos fun c hc => by rw [h.inner c hc]; rfl]
  cases after with
  | nil => exact List.append_nil part
  | cons c after =>
    rw [List.takeWhile_cons_of_neg (by rw [h.stop c rfl]; decide), List.append_nil]

theorem unique (h : IsRun stops part after) (h' : IsRun stops part' after')
    (heq : part ++ after = part' ++ after') : part = part' ∧ after = after' := by
  have hpart : part = part' := by rw [← h.takeWhile_eq, heq, h'.takeWhile_eq]
  subst hpart
  exact ⟨rfl, List.append_cancel_left heq⟩

end IsRun

end Text

namespace AtUri

/-! ### Components -/

inductive Component where
  | authority
  | collection
  | rkey

namespace Component

/-- What is said of a component that breaks the grammar. -/
def reason : Component → String
  | authority => "authority must be a DID"
  | collection => "collection must be an NSID"
  | rkey => "invalid record key"

def IsGrammatical : Component → List Char → Prop
  | authority, part =>
    Did.IsWritten part ∧ (String.ofList part).utf8ByteSize ≤ Did.maxBytes
  | collection, part => Nsid.IsWritten part
  | rkey, part => RecordKey.IsWritten part

end Component

/-- A text has a component, well made or not, that starts at some byte. The authority stands behind
`at://`, the collection behind the slash that ends the authority, and the key behind the slash that
ends the collection. A key may hold slashes, and ends where a query or fragment starts. -/
inductive HasComponent (s : String) : Component → Nat → List Char → Prop
  | authority {part after : List Char} :
      s.toList = "at://".toList ++ (part ++ after) → Text.IsRun isSeparator part after →
      HasComponent s .authority 5 part
  | collection {authority part after : List Char} :
      s.toList = "at://".toList ++ (authority ++ '/' :: (part ++ after)) →
      (∀ c ∈ authority, isSeparator c = false) → Text.IsRun isSeparator part after →
      HasComponent s .collection (5 + Text.byteSize authority + 1) part
  | rkey {authority collection part after : List Char} :
      s.toList = "at://".toList ++ (authority ++ '/' :: (collection ++ '/' :: (part ++ after))) →
      (∀ c ∈ authority, isSeparator c = false) → (∀ c ∈ collection, isSeparator c = false) →
      Text.IsRun isTailStart part after →
      HasComponent s .rkey (5 + Text.byteSize authority + 1 + Text.byteSize collection + 1) part

variable {s : String} {rest part : List Char} {component : Component} {start found : Nat}

theorem isRun_slash {after : List Char} (h : ∀ c ∈ part, isSeparator c = false) :
    Text.IsRun isSeparator part ('/' :: after) :=
  ⟨h, by simp [isSeparator]⟩

namespace HasComponent

/-- A text has each component at most once. -/
theorem unique {start' : Nat} {part' : List Char} (h : HasComponent s component start part)
    (h' : HasComponent s component start' part') : start = start' ∧ part = part' := by
  cases h with
  | authority htext hrun =>
    cases h' with
    | authority htext' hrun' =>
      have hrest := List.append_cancel_left (htext.symm.trans htext')
      exact ⟨rfl, (hrun.unique hrun' hrest).1⟩
  | collection htext hauthority hrun =>
    cases h' with
    | collection htext' hauthority' hrun' =>
      have hrest := List.append_cancel_left (htext.symm.trans htext')
      obtain ⟨rfl, hpath⟩ := (isRun_slash hauthority).unique (isRun_slash hauthority') hrest
      exact ⟨rfl, (hrun.unique hrun' (List.cons.inj hpath).2).1⟩
  | rkey htext hauthority hcollection hrun =>
    cases h' with
    | rkey htext' hauthority' hcollection' hrun' =>
      have hrest := List.append_cancel_left (htext.symm.trans htext')
      obtain ⟨rfl, hpath⟩ := (isRun_slash hauthority).unique (isRun_slash hauthority') hrest
      obtain ⟨rfl, hkey⟩ :=
        (isRun_slash hcollection).unique (isRun_slash hcollection') (List.cons.inj hpath).2
      exact ⟨rfl, (hrun.unique hrun' (List.cons.inj hkey).2).1⟩

theorem occursAt (h : HasComponent s component start part) :
    Text.OccursAt part s.toList start := by
  have hscheme : Text.byteSize "at://".toList = 5 := by decide
  have hslash : Text.byteSize ['/'] = 1 := by decide
  cases h with
  | authority htext _ => exact ⟨_, _, htext, hscheme⟩
  | @collection authority _ after htext _ _ =>
    refine ⟨"at://".toList ++ (authority ++ ['/']), after, by simp [htext], ?_⟩
    simp only [Text.byteSize_append, hscheme, hslash]
    omega
  | @rkey authority collection _ after htext _ _ _ =>
    refine ⟨"at://".toList ++ (authority ++ (['/'] ++ (collection ++ ['/']))), after,
      by simp [htext], ?_⟩
    simp only [Text.byteSize_append, hscheme, hslash]
    omega

end HasComponent

theorem isTailStart_of_dropWhile (rest : List Char) :
    ∀ c ∈ (rest.dropWhile fun c => !isTailStart c).head?, isTailStart c = true := by
  intro c hc
  have hhead := List.head?_dropWhile_not (fun c => !isTailStart c) rest
  rw [Option.mem_def.1 hc] at hhead
  simpa using hhead

section Components

variable {authority : List Char} {collection? rkey? : Option (List Char)}

theorem of_components (h : components rest = (authority, collection?, rkey?)) :
    '/' ∉ authority ∧ (∀ collection ∈ collection?, '/' ∉ collection) ∧
      (collection? = none → rkey? = none) ∧
      rest.takeWhile (fun c => !isTailStart c) =
        authority ++ (collection?.elim [] ('/' :: ·) ++ rkey?.elim [] ('/' :: ·)) := by
  rw [components, not_isTailStart_eq] at h
  generalize rest.takeWhile (fun c => !isTailStart c) = path at h ⊢
  obtain ⟨hslash, hcut⟩ := Text.cut_eq '/' path
  split at h
  · rename_i hfirst
    cases h
    rw [hfirst] at hslash hcut
    exact ⟨hslash, by simp, fun _ => rfl, hcut⟩
  · rename_i path' hfirst
    rw [hfirst] at hslash hcut
    obtain ⟨hslash', hcut'⟩ := Text.cut_eq '/' path'
    split at h
    all_goals
      rename_i hsecond
      cases h
      rw [hsecond] at hslash' hcut'
      refine ⟨hslash, by simpa using hslash', by simp, ?_⟩
      rw [hcut, hcut']
      rfl

/-- The components that the reader takes from a text are those that it has. -/
theorem hasComponent_of_components
    (hstart : Text.stripStart? "at://".toList s.toList = some rest)
    (hparts : components rest = (authority, collection?, rkey?)) :
    HasComponent s .authority 5 authority ∧
    (∀ collection ∈ collection?,
      HasComponent s .collection (5 + Text.byteSize authority + 1) collection ∧
      ∀ rkey ∈ rkey?, HasComponent s .rkey
        (5 + Text.byteSize authority + 1 + Text.byteSize collection + 1) rkey) := by
  obtain ⟨hauthority, hcollection, hnone, hpath⟩ := of_components hparts
  have htail := isTailStart_of_dropWhile rest
  have hinner : ∀ c ∈ rest.takeWhile (fun c => !isTailStart c), isTailStart c = false := by
    simpa using List.all_eq_true.1 (List.all_takeWhile (p := fun c => !isTailStart c) (l := rest))
  have htext := Text.eq_append_of_stripStart? hstart
  rw [← List.takeWhile_append_dropWhile (p := fun c => !isTailStart c) (l := rest)] at htext
  generalize rest.dropWhile (fun c => !isTailStart c) = tail at htail htext
  rw [hpath] at hinner htext
  have hclean (part : List Char) (hslash : '/' ∉ part)
      (hpart : ∀ c ∈ part, c ∈ authority ++
        (collection?.elim [] ('/' :: ·) ++ rkey?.elim [] ('/' :: ·))) :
      ∀ c ∈ part, isSeparator c = false := by
    intro c hc
    have hne : c ≠ '/' := fun heq => hslash (heq ▸ hc)
    simp [isSeparator, hne, hinner c (hpart c hc)]
  have hends (part : List Char) (hpart : ∀ c ∈ part, isSeparator c = false) :
      Text.IsRun isSeparator part tail :=
    ⟨hpart, fun c hc => by simp [isSeparator, htail c hc]⟩
  have hauthority := hclean authority hauthority (by simp +contextual)
  cases collection? with
  | none =>
    obtain rfl := hnone rfl
    have htext : s.toList = "at://".toList ++ (authority ++ tail) := by simpa using htext
    exact ⟨.authority htext (hends authority hauthority), by simp⟩
  | some collection =>
    have hcollection := hclean collection (hcollection collection rfl) (by simp +contextual)
    cases rkey? with
    | none =>
      have htext : s.toList = "at://".toList ++ (authority ++ '/' :: (collection ++ tail)) := by
        simpa using htext
      refine ⟨.authority htext (isRun_slash hauthority), fun part hpart => ?_⟩
      cases hpart
      exact ⟨.collection htext hauthority (hends collection hcollection), by simp⟩
    | some rkey =>
      have htext : s.toList = "at://".toList ++
          (authority ++ '/' :: (collection ++ '/' :: (rkey ++ tail))) := by
        simpa using htext
      have hkey : Text.IsRun isTailStart rkey tail := ⟨fun c hc => hinner c (by simp [hc]), htail⟩
      refine ⟨.authority htext (isRun_slash hauthority), fun part hpart => ?_⟩
      cases hpart
      refine ⟨.collection htext hauthority (isRun_slash hcollection), fun part hpart => ?_⟩
      cases hpart
      exact .rkey htext hauthority hcollection hkey

end Components

/-! ### Faults -/

namespace Component

/-- The byte at which a component is reported: an authority where it starts, a collection where its
text occurs first, a key where its text occurs last. -/
def IsReportedAt (s : String) (start : Nat) (part : List Char) : Component → Nat → Prop
  | authority, found => found = start
  | collection, found => Text.OccursAt part s.toList found ∧
      ∀ other, Text.OccursAt part s.toList other → found ≤ other
  | rkey, found => Text.OccursAt part s.toList found ∧
      ∀ other, Text.OccursAt part s.toList other → other ≤ found

namespace IsReportedAt

variable (h : component.IsReportedAt s start part found)

include h

theorem unique {found' : Nat} (h' : component.IsReportedAt s start part found') :
    found = found' := by
  cases component with
  | authority => exact h.trans h'.symm
  | collection => exact Nat.le_antisymm (h.2 _ h'.1) (h'.2 _ h.1)
  | rkey => exact Nat.le_antisymm (h'.2 _ h.1) (h.2 _ h'.1)

theorem occursAt (hpart : HasComponent s component start part) :
    Text.OccursAt part s.toList found := by
  cases component with
  | authority => exact h ▸ hpart.occursAt
  | collection => exact h.1
  | rkey => exact h.1

end IsReportedAt

theorem isReportedAt_find? (h : Text.OccursAt part s.toList start) :
    collection.IsReportedAt s start part ((Text.find? part s.toList).getD 0) := by
  obtain ⟨first, hfind, hfirst⟩ := Text.find?_of_occursAt h
  rw [hfind]
  exact hfirst

theorem isReportedAt_findLast? (h : Text.OccursAt part s.toList start) :
    rkey.IsReportedAt s start part ((Text.findLast? part s.toList).getD 0) := by
  obtain ⟨last, hfind, hlast⟩ := Text.findLast?_of_occursAt h
  rw [hfind]
  exact hlast

end Component

/-- What is told of a text that is no uri. -/
inductive IsFault (s : String) : IdentifierFault → Prop
  | tooLong : maxBytes < s.utf8ByteSize → IsFault s (.tooLong maxBytes s.utf8ByteSize)
  | missing {start : Nat} {missed : String} : start = 0 ∨ start = s.utf8ByteSize →
      IsFault s (.missing ⟨start, 0⟩ missed)
  | malformed (component : Component) {start found : Nat} {part : List Char} :
      HasComponent s component start part → ¬ component.IsGrammatical part →
      component.IsReportedAt s start part found →
      IsFault s (.malformed (some ⟨found, Text.byteSize part⟩) component.reason)

theorem not_isWritten_of_parse {e : IdentifierError}
    (h : Did.parse (String.ofList part) = .error e) : ¬ Component.authority.IsGrammatical part := by
  rintro ⟨hwritten, hfits⟩
  have hgrammar : Did.isDid (String.ofList part).toList = true := by
    rw [String.toList_ofList]
    exact Did.isDid_iff.2 hwritten
  have hok : Did.parse (String.ofList part) = .ok ⟨String.ofList part, hgrammar, hfits⟩ :=
    (Did.parse_eq_ok_iff (slash_notMem hwritten.not_isSeparator)).2 ⟨rfl, hfits, hwritten⟩
  cases h.symm.trans hok

theorem isFault_of_parse {e : IdentifierError} (h : parse s = .error e) :
    ∃ fault, e = faultOf s fault ∧ IsFault s fault := by
  -- The checks are made one after the other; the first that fails tells the fault.
  unfold parse at h
  split at h
  · rename_i hlong
    cases h
    exact ⟨_, rfl, .tooLong hlong⟩
  split at h
  · cases h
    exact ⟨_, rfl, .missing (.inl rfl)⟩
  rename_i rest hstart
  split at h
  rename_i authority collection? rkey? hparts
  obtain ⟨hauthority, hcollection⟩ := hasComponent_of_components hstart hparts
  split at h
  · rename_i hdid
    cases h
    exact ⟨_, rfl, .malformed .authority hauthority (not_isWritten_of_parse hdid) rfl⟩
  split at h
  · cases h
    exact ⟨_, rfl, .missing (.inr rfl)⟩
  · cases h
    exact ⟨_, rfl, .missing (.inr rfl)⟩
  obtain ⟨hcollection, hkey⟩ := hcollection _ rfl
  split at h
  · split at h
    · cases h
      exact ⟨_, rfl, .missing (.inr rfl)⟩
    · cases h
      exact ⟨_, rfl, .missing (.inr rfl)⟩
    have hkey := hkey _ rfl
    split at h
    · cases h
    · rename_i hgrammar
      cases h
      exact ⟨_, rfl, .malformed .rkey hkey (mt RecordKey.isRecordKey_iff.2 hgrammar)
        (Component.isReportedAt_findLast? hkey.occursAt)⟩
  · rename_i hgrammar
    cases h
    exact ⟨_, rfl, .malformed .collection hcollection (mt Nsid.isNsid_iff.2 hgrammar)
      (Component.isReportedAt_find? hcollection.occursAt)⟩

/-- **A fault lies where its text is found.** The bytes that a fault names are those of whole
characters in the text. If a component is said to break the grammar, the text has this component and
the component does break it; the number of bytes is that of the component. An authority is reported
where it starts, a collection where its text occurs first, and a key where its text occurs last. So
the report points at the component exactly if its text does not occur before a collection, or after
a key. -/
theorem fault_points_at_component {e : IdentifierError} {span : Span} (h : parse s = .error e)
    (hspan : e.fault.span? = some span) :
    (∃ part, Text.OccursAt part s.toList span.start ∧ span.length = Text.byteSize part) ∧
    ∀ reason, e.fault = .malformed (some span) reason → ∃ component : Component,
      reason = component.reason ∧ (∃ start part, HasComponent s component start part) ∧
      ∀ start part, HasComponent s component start part →
        ¬ component.IsGrammatical part ∧ span.length = Text.byteSize part ∧
        component.IsReportedAt s start part span.start ∧
        (span.start = start ↔ component.IsReportedAt s start part start) := by
  obtain ⟨fault, rfl, hfault⟩ := isFault_of_parse h
  dsimp only [faultOf] at hspan ⊢
  cases hfault with
  | tooLong => cases hspan
  | missing hends =>
    cases hspan
    refine ⟨⟨[], ?_, rfl⟩, by simp⟩
    obtain rfl | rfl := hends
    · exact ⟨[], s.toList, rfl, rfl⟩
    · exact ⟨s.toList, [], by simp, Text.byteSize_toList s⟩
  | malformed component hcomponent hgrammar hreported =>
    cases hspan
    refine ⟨⟨_, hreported.occursAt hcomponent, rfl⟩, fun reason hreason => ?_⟩
    cases hreason
    refine ⟨component, rfl, ⟨_, _, hcomponent⟩, fun start part hother => ?_⟩
    obtain ⟨rfl, rfl⟩ := hcomponent.unique hother
    exact ⟨hgrammar, rfl, hreported, fun heq => heq ▸ hreported, hreported.unique⟩

end AtUri

namespace Sample

/-- The collection is a letter of the did as well. -/
def earlyCollection : String := "at://did:m:v/v/~"

theorem hasComponent_earlyCollection :
    AtUri.HasComponent earlyCollection .collection 13 ['v'] := by
  have htext : earlyCollection.toList =
      "at://".toList ++ ("did:m:v".toList ++ '/' :: (['v'] ++ "/~".toList)) := by rfl
  exact .collection htext (by simp [AtUri.isSeparator, AtUri.isTailStart])
    ⟨by simp [AtUri.isSeparator, AtUri.isTailStart], by simp [AtUri.isSeparator]⟩

/-- It stands at byte 13, and is reported in the did. -/
theorem fault_points_at_early_collection : ∃ e span,
    AtUri.parse earlyCollection = .error e ∧ e.fault.span? = some span ∧
    span.start = 11 ∧ span.length = Text.byteSize ['v'] ∧
    ¬ AtUri.Component.collection.IsReportedAt earlyCollection 13 ['v'] 13 := by
  have hparse : AtUri.parse earlyCollection = .error (AtUri.malformedAt earlyCollection 11 ['v']
      "collection must be an NSID") := by
    rfl
  obtain ⟨-, hmalformed⟩ := AtUri.fault_points_at_component hparse rfl
  obtain ⟨component, hreason, -, hpoints⟩ := hmalformed _ rfl
  have hcomponent : component = .collection := by
    cases component with
    | authority => exact absurd hreason (by decide)
    | collection => rfl
    | rkey => exact absurd hreason (by decide)
  subst hcomponent
  obtain ⟨-, hlength, -, hstart⟩ := hpoints 13 ['v'] hasComponent_earlyCollection
  exact ⟨_, _, hparse, rfl, rfl, hlength, fun h => absurd (hstart.2 h) (by decide)⟩

end Sample

end FeedHydration

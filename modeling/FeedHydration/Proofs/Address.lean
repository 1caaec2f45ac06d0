import FeedHydration.Proofs.Form
import FeedHydration.Proofs.Passthrough

/-!
# What a generator is asked

The request for a skeleton is addressed to a method below the endpoint of the service. The path of
an endpoint was normalized when it was read, and it stays as it is when the method is put behind it;
the query is the form of what is asked for, and nothing of the endpoint's own query or fragment is
left. So the generator reads from the request what the client asked for, and a cursor that it has
given comes back to it unchanged.
-/

namespace FeedHydration

theorem Text.of_mem_splitAll {sep : Char} {text piece : List Char}
    (h : piece ∈ Text.splitAll sep text) : sep ∉ piece ∧ ∀ c ∈ piece, c ∈ text := by
  induction text generalizing piece with
  | nil =>
    obtain rfl := List.mem_singleton.1 h
    simp
  | cons first text ih =>
    obtain ⟨next, pieces, hsplit⟩ := List.exists_cons_of_ne_nil (splitAll_ne_nil sep text)
    rw [hsplit] at ih
    simp only [splitAll, hsplit] at h
    have hlater : ∀ {piece}, piece ∈ next :: pieces →
        sep ∉ piece ∧ ∀ c ∈ piece, c ∈ first :: text :=
      fun hmem => ⟨(ih hmem).1, fun c hc => List.mem_cons_of_mem _ ((ih hmem).2 c hc)⟩
    split at h
    · obtain rfl | h := List.mem_cons.1 h
      · simp
      · exact hlater h
    · rename_i hne
      obtain rfl | h := List.mem_cons.1 h
      · obtain ⟨hsep, hchars⟩ := hlater (List.mem_cons_self : next ∈ next :: pieces)
        exact ⟨by simp [Ne.symm hne, hsep], by simpa using hchars⟩
      · exact hlater (List.mem_cons_of_mem _ h)

/-! ### Paths -/

namespace UrlPath

variable {segment : List Char} {segments : List (List Char)}

/-- A segment that a reader of urls of the web leaves as it is. -/
structure IsSettled (segment : List Char) : Prop where
  chars : ∀ c ∈ segment, c.toNat < 0x80 ∧ Percent.path c = false ∧ c ≠ '/' ∧ c ≠ '\\'
  notDouble : isDoubleDot segment = false
  notSingle : isSingleDot segment = false

theorem isSettled_char_of_isAlphanum {c : Char} (h : c.isAlphanum = true) :
    c.toNat < 0x80 ∧ Percent.path c = false ∧ c ≠ '/' ∧ c ≠ '\\' := by
  have hascii : ∀ n < 0x80, (Char.ofNat n).isAlphanum = true →
      Percent.path (Char.ofNat n) = false ∧ Char.ofNat n ≠ '/' ∧ Char.ofNat n ≠ '\\' := by
    decide
  have hc := hascii c.toNat (toNat_lt_of_isAlphanum h)
  rw [Char.ofNat_toNat] at hc
  exact ⟨toNat_lt_of_isAlphanum h, hc h⟩

theorem isSettled_nil : IsSettled [] where
  chars := by simp
  notDouble := by decide
  notSingle := by decide

/-- Names of methods are settled. -/
theorem isSettled_of_all (h : segment.all (fun c => c.isAlphanum || c == '.') = true)
    (hdouble : isDoubleDot segment = false) (hsingle : isSingleDot segment = false) :
    IsSettled segment where
  chars c hc := by
    have hname := List.all_eq_true.1 h c hc
    rw [Bool.or_eq_true, beq_iff_eq] at hname
    obtain hdigit | rfl := hname
    · exact isSettled_char_of_isAlphanum hdigit
    · decide
  notDouble := hdouble
  notSingle := hsingle

/-! #### Settled paths stay as they are -/

theorem addSegments_of_isSettled {done : List (List Char)} (h : ∀ s ∈ segments, IsSettled s) :
    addSegments .web done segments = segments.reverse ++ done := by
  induction segments generalizing done with
  | nil => rfl
  | cons segment rest ih =>
    obtain ⟨hsegment, hrest⟩ := List.forall_mem_cons.1 h
    have hadd : ∀ isLast, addSegment .web done segment isLast = segment :: done := by
      intro isLast
      simp [addSegment, hsegment.notDouble, hsegment.notSingle, normalizeDrive]
    cases rest with
    | nil => simp [addSegments, hadd]
    | cons next rest => rw [addSegments, hadd, ih hrest] <;> simp

/-- The characters of a path, slashes included, that a reader leaves as they are. -/
theorem of_mem_render (h : ∀ s ∈ segments, IsSettled s) {c : Char}
    (hc : c ∈ segments.flatMap ('/' :: ·)) :
    c.toNat < 0x80 ∧ Percent.path c = false ∧ c ≠ '\\' := by
  obtain ⟨segment, hsegment, hc⟩ := List.mem_flatMap.1 hc
  obtain rfl | hc := List.mem_cons.1 hc
  · decide
  · obtain ⟨hascii, hpath, -, hback⟩ := (h segment hsegment).chars c hc
    exact ⟨hascii, hpath, hback⟩

theorem readSegments_of_isSettled {segment : List Char}
    (h : ∀ s ∈ segment :: segments, IsSettled s) :
    readSegments .web (segment ++ segments.flatMap ('/' :: ·)) = segment :: segments := by
  have hslash : ∀ s ∈ segment :: segments, '/' ∉ s :=
    fun s hs hmem => ((h s hs).chars _ hmem).2.2.1 rfl
  have hslashes : ∀ c ∈ segment ++ segments.flatMap ('/' :: ·),
      (if c = '\\' then '/' else c) = c := by
    intro c hc
    exact if_neg (of_mem_render h (List.mem_cons_of_mem '/' hc)).2.2
  have hencode : ∀ s ∈ segment :: segments, Percent.encode Percent.path s = s :=
    fun s hs => Percent.encode_eq_self fun c hc =>
      ⟨((h s hs).chars c hc).1, ((h s hs).chars c hc).2.1⟩
  have hspecial : SchemeKind.web.isSpecial = true := rfl
  simp only [readSegments, hspecial, if_true]
  rw [List.map_congr_left hslashes, List.map_id', Text.splitAll_joined hslash,
    List.map_congr_left hencode, List.map_id', addSegments_of_isSettled h, List.append_nil,
    List.reverse_reverse]

/-- A path of settled segments is read as these segments. -/
theorem ofText_render (hne : segments ≠ []) (h : ∀ s ∈ segments, IsSettled s) :
    ofText .web (segments.flatMap ('/' :: ·)) = .segments segments := by
  obtain ⟨segment, rest, rfl⟩ := List.exists_cons_of_ne_nil hne
  rw [ofText, List.flatMap_cons, if_neg (by simp [SchemeKind.isSpecial]), List.cons_append,
    dropSlash, readSegments_of_isSettled h, ofSegments, if_neg (by decide)]

/-- The line breaks that are dropped from a text are none of its path. -/
theorem dropLineBreaks_render (h : ∀ s ∈ segments, IsSettled s) :
    Url.dropLineBreaks (segments.flatMap ('/' :: ·)) = segments.flatMap ('/' :: ·) := by
  rw [Url.dropLineBreaks, List.filter_eq_self]
  intro c hc
  have hpath := (of_mem_render h hc).2.1
  have hne : c ≠ '\t' ∧ c ≠ '\n' ∧ c ≠ '\r' := by
    refine ⟨?_, ?_, ?_⟩ <;>
    · rintro rfl
      exact absurd hpath (by decide)
  simp [hne]

/-- Without the slashes at its end a path has the same segments but for empty ones at the end. -/
theorem exists_trimEnd_render (h : ∀ s ∈ segments, IsSettled s) :
    ∃ kept : List (List Char),
      Text.trimEnd '/' (segments.flatMap ('/' :: ·)) = kept.flatMap ('/' :: ·) ∧
      ∀ s ∈ kept, IsSettled s := by
  induction segments using List.reverseRecOn with
  | nil => exact ⟨[], rfl, by simp⟩
  | append_singleton segments last ih =>
    rw [List.forall_mem_append] at h
    obtain ⟨kept, hkept, hsettled⟩ := ih h.1
    obtain rfl | ⟨before, c, rfl⟩ := last.eq_nil_or_concat'
    · refine ⟨kept, ?_, hsettled⟩
      rw [← hkept, Text.trimEnd, Text.trimEnd]
      simp
    · refine ⟨segments ++ [before ++ [c]], ?_, List.forall_mem_append.2 h⟩
      have hslash : c ≠ '/' := ((h.2 _ List.mem_cons_self).chars c (by simp)).2.2.1
      rw [Text.trimEnd]
      simp [hslash]

/-! #### What is read is settled -/

theorem mem_parent {done : List (List Char)} (h : segment ∈ parent done) : segment ∈ done := by
  match done, h with
  | last :: done, h =>
    rw [parent] at h
    split at h
    · exact h
    · exact List.mem_cons_of_mem _ h

/-- Dots leave an empty segment at most, and no dots. -/
theorem mem_addSegment {done : List (List Char)} {next : List Char} {isLast : Bool}
    (h : segment ∈ addSegment .web done next isLast) : segment ∈ done ∨ segment = [] ∨
      segment = next ∧ isDoubleDot next = false ∧ isSingleDot next = false := by
  unfold addSegment at h
  split at h
  · split at h
    · obtain rfl | h := List.mem_cons.1 h
      · exact .inr (.inl rfl)
      · exact .inl (mem_parent h)
    · exact .inl (mem_parent h)
  · rename_i hdouble
    split at h
    · split at h
      · exact (List.mem_cons.1 h).elim (fun h => .inr (.inl h)) .inl
      · exact .inl h
    · rename_i hsingle
      obtain rfl | h := List.mem_cons.1 h
      · exact .inr (.inr ⟨rfl, by simpa using hdouble, by simpa using hsingle⟩)
      · exact .inl h

theorem mem_addSegments {done : List (List Char)} (h : segment ∈ addSegments .web done segments) :
    segment ∈ done ∨ segment = [] ∨
      segment ∈ segments ∧ isDoubleDot segment = false ∧ isSingleDot segment = false := by
  induction segments generalizing done with
  | nil => exact .inl h
  | cons next rest ih =>
    have hstep : ∀ isLast, segment ∈ addSegment .web done next isLast →
        segment ∈ done ∨ segment = [] ∨
          segment ∈ next :: rest ∧ isDoubleDot segment = false ∧ isSingleDot segment = false := by
      intro isLast hmem
      obtain hdone | hnil | ⟨rfl, hdots⟩ := mem_addSegment hmem
      · exact .inl hdone
      · exact .inr (.inl hnil)
      · exact .inr (.inr ⟨List.mem_cons_self, hdots⟩)
    cases rest with
    | nil => exact hstep true h
    | cons second rest =>
      obtain hdone | hnil | ⟨hmem, hdots⟩ := ih h
      · exact hstep false hdone
      · exact .inr (.inl hnil)
      · exact .inr (.inr ⟨List.mem_cons_of_mem _ hmem, hdots⟩)

/-- The segments of a path of the web are settled once they are read. -/
theorem isSettled_of_mem_readSegments {text : List Char}
    (h : segment ∈ readSegments .web text) : IsSettled segment := by
  have hspecial : SchemeKind.web.isSpecial = true := rfl
  simp only [readSegments, hspecial, if_true, List.mem_reverse] at h
  obtain h | rfl | ⟨h, hdouble, hsingle⟩ := mem_addSegments h
  · cases h
  · exact isSettled_nil
  · refine ⟨fun c hc => ?_, hdouble, hsingle⟩
    obtain ⟨piece, hpiece, rfl⟩ := List.mem_map.1 h
    obtain ⟨hslash, hchars⟩ := Text.of_mem_splitAll hpiece
    obtain ⟨hmem, hascii, hset⟩ | rfl | hdigit := Percent.of_mem_encode hc
    · obtain ⟨d, -, hd⟩ := List.mem_map.1 (hchars c hmem)
      refine ⟨hascii, hset, fun heq => hslash (heq ▸ hmem), ?_⟩
      rintro rfl
      split at hd
      · exact absurd hd (by decide)
      · contradiction
    · decide
    · exact isSettled_char_of_isAlphanum hdigit

theorem exists_settled_ofText (text : List Char) :
    ∃ segments, ofText .web text = .segments segments ∧ ∀ s ∈ segments, IsSettled s := by
  refine ⟨readSegments .web (dropSlash .web text), ?_, fun _ => isSettled_of_mem_readSegments⟩
  rw [ofText, if_neg (by simp [SchemeKind.isSpecial]), ofSegments, if_neg (by decide)]

end UrlPath

/-! ### Marks -/

namespace Url

variable {c : Char} {text : List Char}

/-- What a query or a fragment stands behind. -/
def isMark (c : Char) : Bool :=
  c == '?' || c == '#'

/-- A character is no mark if a property of both marks does not hold of it. -/
theorem isMark_of_set {set : Percent.Set} (hset : set '?' = true ∧ set '#' = true)
    (h : set c = false) : isMark c = false := by
  rw [Bool.eq_false_iff]
  intro hmark
  obtain rfl | rfl : c = '?' ∨ c = '#' := by simpa [isMark] using hmark
  · exact absurd (hset.1.symm.trans h) (by decide)
  · exact absurd (hset.2.symm.trans h) (by decide)

theorem render_of_query {url : Url} {query : List Char} (hquery : url.query = some query)
    (hfragment : url.fragment = none) : url.render =
      (url.scheme.toList ++ ':' :: (url.renderAuthority ++ url.path.render)) ++ '?' :: query := by
  simp [render, hquery, hfragment]

/-- A text is taken apart at its marks. -/
theorem splitSuffixes_of_query {query : List Char} (htext : ∀ c ∈ text, isMark c = false)
    (hquery : '#' ∉ query) : splitSuffixes (text ++ '?' :: query) = (text, some query, none) := by
  have hmark : ∀ c, isMark c = true → c ∉ text := by
    intro c hc hmem
    rw [htext c hmem] at hc
    cases hc
  have hsharp : '#' ∉ text ++ '?' :: query := by
    simp [hmark '#' rfl, hquery]
  rw [splitSuffixes, Text.cut_of_notMem '#' _ hsharp]
  dsimp only
  rw [Text.cut_append '?' _ _ (hmark '?' rfl)]

theorem isMark_of_mem_encode {set : Percent.Set} (hset : set '?' = true ∧ set '#' = true)
    (h : c ∈ Percent.encode set text) : isMark c = false := by
  obtain ⟨-, -, hplain⟩ | rfl | hdigit := Percent.of_mem_encode h
  · exact isMark_of_set hset hplain
  · rfl
  · exact @isMark_of_set c (fun d => !d.isAlphanum) (by decide) (by simp [hdigit])

theorem isMark_of_mem_encodeUserinfo (h : c ∈ encodeUserinfo text) : isMark c = false := by
  have hpart : ∀ part, c ∈ Percent.encode Percent.userinfo part → isMark c = false :=
    fun _ => isMark_of_mem_encode (by decide)
  unfold encodeUserinfo at h
  split at h
  · obtain h | h := List.mem_append.1 h
    · exact hpart _ h
    · obtain rfl | h := List.mem_cons.1 h
      · rfl
      · exact hpart _ h
  · exact hpart _ h

theorem isMark_of_mem_toDigits {base n : Nat} (hbase : 1 < base) (hdigits : base ≤ 16)
    (h : c ∈ Nat.toDigits base n) : isMark c = false := by
  have hdigit : ∀ d < 16, isMark (Nat.digitChar d) = false := by decide
  induction n using Nat.strongRecOn with
  | ind n ih =>
    rw [Nat.toDigits_eq_if hbase] at h
    split at h
    · rename_i hn
      rw [List.mem_singleton.1 h]
      exact hdigit n (by omega)
    · rename_i hn
      obtain h | h := List.mem_append.1 h
      · exact ih (n / base) (Nat.div_lt_self (by omega) hbase) h
      · have hmod : n % base < base := Nat.mod_lt n (by omega)
        rw [List.mem_singleton.1 h]
        exact hdigit _ (by omega)

theorem isMark_of_mem_renderIpv4 {address : Nat} (h : c ∈ UrlHost.renderIpv4 address) :
    isMark c = false := by
  have hbyte : ∀ n, c ∈ Nat.toDigits 10 n → isMark c = false :=
    fun _ => isMark_of_mem_toDigits (by decide) (by decide)
  simp only [UrlHost.renderIpv4, List.mem_append, List.mem_cons] at h
  obtain h | rfl | h | rfl | h | rfl | h := h
  all_goals first | rfl | exact hbyte _ h

theorem isMark_of_mem_renderWords {words : List Nat} (h : c ∈ UrlHost.renderWords words) :
    isMark c = false := by
  have hword : ∀ n, c ∈ Nat.toDigits 16 n → isMark c = false :=
    fun _ => isMark_of_mem_toDigits (by decide) (by decide)
  obtain rfl | ⟨digits, hdigits, h⟩ := Text.of_mem_intercalate h
  · rfl
  · obtain ⟨word, -, rfl⟩ := List.mem_map.1 hdigits
    exact hword word h

theorem isMark_of_mem_renderIpv6 {words : List Nat} (h : c ∈ UrlHost.renderIpv6 words) :
    isMark c = false := by
  unfold UrlHost.renderIpv6 at h
  dsimp only at h
  split at h
  · exact isMark_of_mem_renderWords h
  · simp only [List.mem_append, List.mem_cons, List.not_mem_nil, or_false] at h
    obtain (h | rfl | rfl) | h := h
    · exact isMark_of_mem_renderWords h
    · rfl
    · rfl
    · exact isMark_of_mem_renderWords h

theorem ne_name_of_bracketed? {host : UrlHost} {name : String}
    (h : UrlHost.bracketed? text = some host) : host ≠ .name name := by
  rintro rfl
  unfold UrlHost.bracketed? at h
  split at h
  · unfold UrlHost.ipv6? at h
    split at h <;> simp [Option.bind_eq_some_iff, guard, failure] at h
  · cases h

theorem ne_name_of_ipv4? {host : UrlHost} {name : String}
    (h : UrlHost.ipv4? text = some host) : host ≠ .name name := by
  rintro rfl
  simp [UrlHost.ipv4?, Option.bind_eq_some_iff, guard, failure] at h

/-- A name is a written one without forbidden characters. -/
theorem toAscii?_of_ofDomain? {name : String} (h : UrlHost.ofDomain? text = some (.name name)) :
    ∃ decoded, Utf8.decode? (Percent.decode text) = some decoded ∧
      DomainName.toAscii? decoded.toList = some name.toList ∧
      ∀ d ∈ name.toList, UrlHost.isForbiddenInName d = false := by
  unfold UrlHost.ofDomain? at h
  split at h
  · exact absurd rfl (ne_name_of_bracketed? h)
  · obtain ⟨decoded, hdecoded, h⟩ := Option.bind_eq_some_iff.1 h
    obtain ⟨written, hwritten, h⟩ := Option.bind_eq_some_iff.1 h
    obtain ⟨_, hguard, h⟩ := Option.bind_eq_some_iff.1 h
    split at h
    · exact absurd rfl (ne_name_of_ipv4? h)
    · cases h
      simp only [guard, failure, Option.ite_none_right_eq_some, Bool.and_eq_true,
        Bool.not_eq_true', List.any_eq_false, Bool.not_eq_true] at hguard
      rw [String.toList_ofList]
      exact ⟨decoded, hdecoded, hwritten, hguard.1.2⟩

theorem isMark_of_mem_host {host : UrlHost} (h : UrlHost.ofDomain? text = some host)
    (hc : c ∈ host.render) : isMark c = false := by
  cases host with
  | ipv4 address => exact isMark_of_mem_renderIpv4 hc
  | ipv6 words =>
    simp only [UrlHost.render, List.mem_cons, List.mem_append, List.not_mem_nil, or_false] at hc
    obtain rfl | hc | rfl := hc
    · rfl
    · exact isMark_of_mem_renderIpv6 hc
    · rfl
  | name name =>
    obtain ⟨-, -, -, hplain⟩ := toAscii?_of_ofDomain? h
    exact isMark_of_set (by decide) (hplain c hc)

end Url

theorem UrlPath.isMark_of_mem_render {segments : List (List Char)} {c : Char}
    (h : ∀ s ∈ segments, IsSettled s) (hc : c ∈ segments.flatMap ('/' :: ·)) :
    Url.isMark c = false :=
  Url.isMark_of_set (by decide) (of_mem_render h hc).2.1

/-! ### Endpoints -/

namespace Url

variable {url : Url} {scheme : String} {text : List Char}

/-- A url of the web with marks before its query and its fragment only, and a settled path. -/
structure IsSettled (url : Url) : Prop where
  kind : url.kind = .web
  authority : ∀ c ∈ url.renderAuthority, isMark c = false
  path : ∃ segments, url.path = .segments segments ∧ ∀ s ∈ segments, UrlPath.IsSettled s

theorem isMark_of_mem_authority {authority : Authority} {rest : List Char} {c : Char}
    (hkind : SchemeKind.ofScheme scheme = .web)
    (h : authority? scheme text = some (authority, rest))
    (hc : c ∈ authority.userinfo ∨ c ∈ authority.host.render) : isMark c = false := by
  have hspecial : SchemeKind.web.isSpecial = true := rfl
  unfold authority? at h
  simp only [hkind, hspecial, if_true] at h
  obtain ⟨-, -, h⟩ := Option.bind_eq_some_iff.1 h
  obtain ⟨-, -, h⟩ := Option.bind_eq_some_iff.1 h
  obtain ⟨host, hhost, h⟩ := Option.bind_eq_some_iff.1 h
  obtain ⟨⟨port, path⟩, -, h⟩ := Option.bind_eq_some_iff.1 h
  cases h
  exact hc.elim isMark_of_mem_encodeUserinfo (isMark_of_mem_host hhost)

theorem of_mem_renderAuthority {host : UrlHost} {c : Char} (hhost : url.host = some host)
    (h : c ∈ url.renderAuthority) : c ∈ ['/', '@', ':'] ∨ c ∈ url.userinfo ∨ c ∈ host.render ∨
      ∃ port, c ∈ Nat.toDigits 10 port := by
  rw [renderAuthority, hhost] at h
  simp only [List.mem_cons, List.mem_append] at h
  obtain rfl | rfl | (h | h) | h := h
  · exact .inl (by simp)
  · exact .inl (by simp)
  · split at h
    · cases h
    · obtain h | h := List.mem_append.1 h
      · exact .inr (.inl h)
      · exact .inl (List.mem_singleton.1 h ▸ by simp)
  · exact .inr (.inr (.inl h))
  · cases hport : url.port with
    | none =>
      rw [hport] at h
      cases h
    | some port =>
      rw [hport, Option.elim_some] at h
      obtain rfl | h := List.mem_cons.1 h
      · exact .inl (by simp)
      · exact .inr (.inr (.inr ⟨port, h⟩))

theorem isSettled_of_withAuthority? (hkind : SchemeKind.ofScheme scheme = .web)
    (h : withAuthority? scheme text = some url) : url.IsSettled := by
  obtain ⟨⟨authority, rest⟩, hauthority, h⟩ := Option.bind_eq_some_iff.1 h
  cases h
  refine ⟨hkind, fun c hc => ?_, by rw [build, hkind]; exact UrlPath.exists_settled_ofText _⟩
  obtain hc | hc | hc | ⟨port, hc⟩ := of_mem_renderAuthority rfl hc
  · have hplain : ∀ d ∈ ['/', '@', ':'], isMark d = false := by simp [isMark]
    exact hplain c hc
  · exact isMark_of_mem_authority hkind hauthority (.inl hc)
  · exact isMark_of_mem_authority hkind hauthority (.inr hc)
  · exact isMark_of_mem_toDigits (by decide) (by decide) hc

theorem scheme_of_withAuthority? (h : withAuthority? scheme text = some url) :
    url.scheme = scheme := by
  obtain ⟨_, -, h⟩ := Option.bind_eq_some_iff.1 h
  cases h
  rfl

theorem scheme_withoutAuthority (scheme : String) (text : List Char) :
    (withoutAuthority scheme text).scheme = scheme := by
  unfold withoutAuthority
  dsimp only
  split <;> rfl

theorem scheme_of_file? (h : file? text = some url) : url.scheme = "file" := by
  unfold file? at h
  split at h
  · unfold fileWithHost? at h
    dsimp only at h
    split at h
    · cases h
      rfl
    · split at h
      · cases h
        rfl
      · obtain ⟨host, -, h⟩ := Option.bind_eq_some_iff.1 h
        split at h <;> cases h <;> rfl
  · cases h
    rfl

/-- A url of the web has the scheme and the authority of one, so what is read as one is settled. -/
theorem isSettled_of_parse? {s : String} (h : parse? s = some url) (hkind : url.kind = .web) :
    url.IsSettled := by
  obtain ⟨⟨scheme, rest⟩, -, h⟩ := Option.bind_eq_some_iff.1 h
  dsimp only at h
  cases hscheme : SchemeKind.ofScheme scheme with
  | web =>
    simp only [hscheme] at h
    exact isSettled_of_withAuthority? hscheme h
  | file =>
    simp only [hscheme] at h
    rw [kind, scheme_of_file? h] at hkind
    exact absurd hkind (by decide)
  | other =>
    simp only [hscheme] at h
    have hsame : url.scheme = scheme := by
      split at h
      · exact scheme_of_withAuthority? h
      · cases h
        exact scheme_withoutAuthority _ _
    rw [kind, hsame, hscheme] at hkind
    cases hkind

theorem isMark_of_mem_scheme {c : Char} (hkind : SchemeKind.ofScheme scheme = .web)
    (hc : c ∈ scheme.toList) : isMark c = false := by
  have hweb : ∀ name ∈ ["http", "https", "ws", "wss", "ftp"], ∀ c ∈ name.toList,
      isMark c = false := by
    simp [isMark]
  unfold SchemeKind.ofScheme at hkind
  split at hkind
  · cases hkind
  · split at hkind
    · rename_i hmem
      exact hweb scheme (List.contains_iff_mem.1 hmem) c hc
    · cases hkind

end Url

theorem Service.isSettled_of_url? {service : Service} {url : Url} (h : service.url? = some url) :
    url.IsSettled := by
  obtain ⟨⟨text, -, hparse⟩, hweb⟩ := url?_eq_some_iff.1 h
  apply Url.isSettled_of_parse? hparse
  obtain hscheme | hscheme := hweb.scheme <;> rw [Url.kind, hscheme] <;> decide

/-! ### Calls -/

/-- The path of a method below a url; slashes at the end of the url's own path are not doubled. -/
def Xrpc.methodPath (base : Url) (method : String) : List Char :=
  Text.trimEnd '/' base.path.render ++ "/xrpc/".toList ++ method.toList

/-- A url that calls a method below another one: its path is the method's, its query is a form of
the given pairs, and it has no fragment. Its text is taken apart so, too. -/
structure Url.Calls (url base : Url) (method : String) (pairs : List (String × String)) : Prop where
  server : url.SameServer base
  path : url.path.render = Xrpc.methodPath base method
  query : ∃ query, url.query = some query ∧ Form.decode query = pairs ∧
    Url.splitSuffixes url.render = (base.scheme.toList ++ ':' ::
      (base.renderAuthority ++ Xrpc.methodPath base method), some query, none)
  fragment : url.fragment = none

namespace Xrpc

variable {base : Url} {method : String} {pairs : List (String × String)}

/-- The path of a method is written in segments that are settled. -/
theorem exists_settled_methodPath (hbase : base.IsSettled)
    (hmethod : UrlPath.IsSettled method.toList) :
    ∃ segments, segments ≠ [] ∧ methodPath base method = segments.flatMap ('/' :: ·) ∧
      ∀ s ∈ segments, UrlPath.IsSettled s := by
  obtain ⟨segments, hpath, hsettled⟩ := hbase.path
  obtain ⟨kept, hkept, hkeptSettled⟩ := UrlPath.exists_trimEnd_render hsettled
  have hxrpc : UrlPath.IsSettled "xrpc".toList :=
    UrlPath.isSettled_of_all (by decide) (by decide) (by decide)
  refine ⟨kept ++ ["xrpc".toList, method.toList], by simp, ?_, ?_⟩
  · rw [methodPath, hpath, UrlPath.render, hkept, List.flatMap_append]
    simp
  · exact List.forall_mem_append.2
      ⟨hkeptSettled, List.forall_mem_cons.2 ⟨hxrpc, List.forall_mem_singleton.2 hmethod⟩⟩

/-- Nothing of a settled path, a method or a form is escaped or dropped on the way into a url. -/
theorem endpointUrl_of_isSettled (hbase : base.IsSettled)
    (hmethod : UrlPath.IsSettled method.toList) (hpairs : pairs ≠ []) :
    ∃ segments, methodPath base method = segments.flatMap ('/' :: ·) ∧
      (∀ s ∈ segments, UrlPath.IsSettled s) ∧
      endpointUrl base method (some (Form.encode pairs)) =
        { base with path := .segments segments, query := some (Form.encode pairs) } := by
  obtain ⟨segments, hne, hpath, hsettled⟩ := exists_settled_methodPath hbase hmethod
  obtain ⟨list, hlist, -⟩ := hbase.path
  have hwithPath : base.withPath (methodPath base method) =
      { base with path := .segments segments } := by
    unfold Url.withPath
    rw [hlist, hpath, UrlPath.dropLineBreaks_render hsettled, hbase.kind]
    dsimp only
    rw [UrlPath.ofText_render hne hsettled]
  have hquery : (some (Form.encode pairs)).filter (fun text => !text.isEmpty) =
      some (Form.encode pairs) := by
    simp [Form.encode_ne_nil hpairs]
  refine ⟨segments, hpath, hsettled, ?_⟩
  rw [endpointUrl, hquery]
  change (base.withPath (methodPath base method)).withQuery _ = _
  rw [hwithPath, Url.withQuery, Option.map_some, Form.encodeQuery_encode]
  rfl

theorem calls_endpointUrl (hbase : base.IsSettled) (hmethod : UrlPath.IsSettled method.toList)
    (hpairs : pairs ≠ []) :
    (endpointUrl base method (some (Form.encode pairs))).withoutFragment.Calls base method
      pairs := by
  obtain ⟨segments, hpath, hsettled, hurl⟩ := endpointUrl_of_isSettled hbase hmethod hpairs
  rw [hurl]
  set query := Form.encode pairs with hform
  have hfront : ∀ c ∈ base.scheme.toList ++ ':' :: (base.renderAuthority ++ methodPath base method),
      Url.isMark c = false := by
    intro c hc
    simp only [List.mem_append, List.mem_cons] at hc
    obtain hc | rfl | hc | hc := hc
    · exact Url.isMark_of_mem_scheme hbase.kind hc
    · rfl
    · exact hbase.authority c hc
    · rw [hpath] at hc
      exact UrlPath.isMark_of_mem_render hsettled hc
  have hsharp : '#' ∉ query := by
    intro hmem
    exact absurd (Form.isFormChar_of_mem_encode hmem) (by decide)
  refine ⟨⟨rfl, rfl, rfl, rfl⟩, hpath.symm, ⟨query, rfl, Form.decode_encode pairs, ?_⟩, rfl⟩
  rw [Url.render_of_query rfl rfl, ← Url.splitSuffixes_of_query hfront hsharp, hpath]
  rfl

end Xrpc

/-! ### What is asked -/

namespace Skeleton

theorem isSettled_method : UrlPath.IsSettled method.toList :=
  UrlPath.isSettled_of_all (by decide) (by decide) (by decide)

theorem lookup_query (feed : AtUri) (limit : Nat) (cursor : Option String) :
    (query feed limit cursor).lookup "cursor" = cursor := by
  cases cursor <;> rfl

/-- A request for a skeleton calls the method of generators, wherever the endpoint lies. -/
theorem calls_url {doc : DidDocument} {id type : String} {endpoint : Url}
    (h : doc.Lists id type endpoint) (feed : AtUri) (limit : Nat) (cursor : Option String) :
    (url endpoint feed limit cursor).withoutFragment.Calls endpoint method
      (query feed limit cursor) := by
  obtain ⟨_, _, _, -, -, -, hurl⟩ := h.entry
  exact Xrpc.calls_endpointUrl (Service.isSettled_of_url? hurl) isSettled_method (by simp [query])

end Skeleton

namespace FeedService

variable {service : FeedService} {request : FeedRequest} {s : Surroundings}

theorem calls_of_mem_sent {outgoing : HttpRequest}
    (h : outgoing ∈ ((service.page request).run s).sent) : ∃ row doc endpoint,
      s.index.tables.HasGenerator request.feed row ∧
      s.resolver.Locates row.serviceDid service.options.serviceId service.options.serviceType
        doc endpoint ∧
      outgoing.url.Calls endpoint Skeleton.method (Skeleton.query request.feed
        (service.options.clampLimit request.limit) request.cursor) := by
  obtain hnil | ⟨sent, row, doc, endpoint, hsent, -, hrow, hlocates, hurl⟩ :=
    sent_page_cases service request s
  · rw [hnil] at h
    cases h
  · rw [hsent, List.mem_singleton] at h
    rw [h, hurl]
    exact ⟨row, doc, endpoint, hrow, hlocates, Skeleton.calls_url hlocates.service _ _ _⟩

/-- **Generators receive what was asked for.** What is sent for a page calls the method below the
endpoint of the generator's service, with nothing of the endpoint's query or fragment. The form in
it has the feed, the limit after it was clamped, and the cursor if one was given, whatever text it
is. So the cursor of a page is that of the one skeleton that was received for it, and a request that
gives it back, with any service and anywhere, has the generator receive it again. -/
theorem generator_receives_what_was_asked (service : FeedService) (request : FeedRequest)
    (s : Surroundings) :
    (∀ outgoing ∈ ((service.page request).run s).sent, ∃ row doc endpoint,
      s.index.tables.HasGenerator request.feed row ∧
      s.resolver.Locates row.serviceDid service.options.serviceId service.options.serviceType
        doc endpoint ∧
      outgoing.url.Calls endpoint "app.bsky.feed.getFeedSkeleton"
        ([("feed", request.feed.text),
          ("limit", toString (service.options.clampLimit request.limit))] ++
            (request.cursor.map fun cursor => ("cursor", cursor)).toList)) ∧
    ∀ outcome, (service.page request).Gives s outcome → ∃ reply skeleton,
      (∀ other, service.Receives request s other ↔ other = reply) ∧
      Skeleton.ofReply reply = .ok skeleton ∧
      outcome.page.cursor = skeleton.cursor ∧
      ∀ (service' : FeedService) (request' : FeedRequest) (s' : Surroundings),
        request'.cursor = outcome.page.cursor →
        ∀ outgoing ∈ ((service'.page request').run s').sent, ∃ query,
          outgoing.url.query = some query ∧
          (Form.decode query).lookup "cursor" = skeleton.cursor := by
  refine ⟨fun outgoing hmem => calls_of_mem_sent hmem, ?_⟩
  intro outcome hgives
  obtain ⟨reply, skeleton, hreceives, hread, -, hcursor⟩ := exists_reply_of_gives_page hgives
  refine ⟨reply, skeleton, hreceives, hread, hcursor, ?_⟩
  intro service' request' s' hback outgoing hmem
  obtain ⟨_, _, _, -, -, hcalls⟩ := calls_of_mem_sent hmem
  obtain ⟨query, hquery, hdecode, -⟩ := hcalls.query
  refine ⟨query, hquery, ?_⟩
  rw [hdecode, Skeleton.lookup_query, hback, hcursor]

end FeedService

namespace Sample

/-- The endpoint has slashes at its end, a query and a fragment; the generator has more to show. -/
def winding : Surroundings :=
  { surroundings with
    resolver := fun did => .ok ⟨did, none, some [
      ⟨"#bsky_fg", "BskyFeedGenerator", some (.str "https://feed.test/base//?a=b#c"), []⟩], []⟩
    generator := fun _ => ⟨0, .ok countedReply⟩ }

/-- A cursor of separators, escapes, blanks, a control character and letters beyond ASCII. -/
def tangled : String := "a&cursor=b +%2B%#?/\t\x01é…"

def asking (cursor : String) : FeedRequest :=
  { request with cursor := some cursor }

theorem exists_mem_sent_winding (cursor : String) (h : cursor ∈ [tangled, "next"]) :
    ∃ outgoing, outgoing ∈ ((service.page (asking cursor)).run winding).sent := by
  have hlength : ∀ cursor ∈ [tangled, "next"],
      ((service.skeleton (asking cursor)).run winding).sent.length = 1 := by
    decide +kernel
  rw [FeedService.sent_page]
  exact List.exists_mem_of_length_pos (by rw [hlength cursor h]; exact Nat.one_pos)

theorem any_winding : ((service.page (asking tangled)).run winding).result.toOption.any
    (fun outcome => outcome.page.cursor == some "next") = true := by
  decide +kernel

theorem path_of_locates_winding {doc : DidDocument} {endpoint : Url}
    (h : winding.resolver.Locates friend "#bsky_fg" "BskyFeedGenerator" doc endpoint) :
    endpoint.path.render = "/base//".toList := by
  have hpath : (winding.resolver.serviceEndpoint friend "#bsky_fg"
      "BskyFeedGenerator").toOption.map (·.path.render) = some "/base//".toList := by
    decide +kernel
  rw [IdentityResolver.serviceEndpoint_eq_ok_iff.2 ⟨doc, h⟩] at hpath
  exact Option.some.inj hpath

/-- A tangled cursor reaches the generator, and so does the cursor of the page that comes back. -/
theorem generator_receives_tangled :
    (∃ outgoing ∈ ((service.page (asking tangled)).run winding).sent, ∃ query,
      outgoing.url.path.render = "/base/xrpc/app.bsky.feed.getFeedSkeleton".toList ∧
      outgoing.url.query = some query ∧
      Form.decode query =
        [("feed", friendGenerator.text), ("limit", "50"), ("cursor", tangled)]) ∧
    ∃ outcome, (service.page (asking tangled)).Gives winding outcome ∧
      outcome.page.cursor = some "next" ∧
      ∃ outgoing ∈ ((service.page (asking "next")).run winding).sent, ∃ query,
        outgoing.url.query = some query ∧ (Form.decode query).lookup "cursor" = some "next" := by
  obtain ⟨hsent, hgiven⟩ :=
    FeedService.generator_receives_what_was_asked service (asking tangled) winding
  constructor
  · obtain ⟨outgoing, hmem⟩ := exists_mem_sent_winding tangled (by simp)
    obtain ⟨row, doc, endpoint, hrow, hlocates, hcalls⟩ := hsent outgoing hmem
    obtain rfl : row = generatorRow := Option.some.inj (hrow.stored.symm.trans hasGenerator.stored)
    obtain ⟨query, hquery, hdecode, -⟩ := hcalls.query
    refine ⟨outgoing, hmem, query, ?_, hquery, hdecode⟩
    rw [hcalls.path, Xrpc.methodPath, path_of_locates_winding hlocates]
    decide
  · obtain ⟨outcome, hgives, hnext⟩ := Serve.exists_gives any_winding
    have hcursor : outcome.page.cursor = some "next" := beq_iff_eq.1 hnext
    obtain ⟨_, skeleton, -, -, hsame, hback⟩ := hgiven outcome hgives
    obtain ⟨outgoing, hmem⟩ := exists_mem_sent_winding "next" (by simp)
    obtain ⟨query, hquery, hlookup⟩ := hback service (asking "next") winding hcursor.symm outgoing
      hmem
    exact ⟨outcome, hgives, hcursor, outgoing, hmem, query, hquery,
      hlookup.trans (hsame.symm.trans hcursor)⟩

end Sample

end FeedHydration

import FeedHydration.Proofs.Page

/-!
# Settlement

Labels are settled in one pass over a list that shrinks and grows. What comes out can be said
without the pass: of the labels of a subject those stand that no later negation takes back, where
later means created later or, of two created at one time, listed later.
-/

namespace FeedHydration

open Std (ExtTreeMap ExtTreeSet)

theorem Instant.le_trans {a b c : Instant} (h : a ≤ b) (h' : b ≤ c) : a ≤ c :=
  Int.le_trans (b := b.rank) h h'

theorem Instant.le_total (a b : Instant) : a ≤ b ∨ b ≤ a :=
  Int.le_total a.rank b.rank

namespace Label

/-! ### Labels in effect -/

/-- Of two labels with their places in a list, the one created first; of two created at one time,
the one listed first. -/
def ComesBefore (entry entry' : Label × Nat) : Prop :=
  entry.1.cts ≤ entry'.1.cts ∧ (entry'.1.cts ≤ entry.1.cts → entry.2 < entry'.2)

/-- A label at its place in a list that has an effect: an unexpired label that is no negation, and
that no unexpired negation after it takes back. A negation speaks of a labeler and a value, and of
no cid. -/
structure IsInEffect (labels : List Label) (now : Instant) (entry : Label × Nat) : Prop where
  listed : entry ∈ labels.zipIdx
  positive : entry.1.neg = false
  current : entry.1.isExpired now = false
  stands : ∀ other ∈ labels.zipIdx, ComesBefore entry other → other.1.neg = true →
    other.1.isExpired now = false → ¬(other.1.src = entry.1.src ∧ other.1.val = entry.1.val)

/-- The labels in effect, each as often as it has an effect, in their order. -/
def IsSettled (labels : List Label) (now : Instant) (settled : List Label) : Prop :=
  ∃ entries : List (Label × Nat), entries.Pairwise ComesBefore ∧
    (∀ entry, entry ∈ entries ↔ IsInEffect labels now entry) ∧ entries.map (·.1) = settled

variable {labels : List Label} {now : Instant} {entry entry' : Label × Nat}

theorem ComesBefore.asymm (h : ComesBefore entry entry') : ¬ComesBefore entry' entry :=
  fun h' => Nat.lt_asymm (h.2 h'.1) (h'.2 h.1)

theorem ComesBefore.ne (h : ComesBefore entry entry') : entry ≠ entry' := by
  rintro rfl
  exact h.asymm h

/-- Entries in their order are told by which they are. -/
theorem eq_of_pairwise_comesBefore {entries entries' : List (Label × Nat)}
    (h : entries.Pairwise ComesBefore) (h' : entries'.Pairwise ComesBefore)
    (hmem : ∀ entry, entry ∈ entries ↔ entry ∈ entries') : entries = entries' := by
  have hnodup : entries.Nodup := h.imp ComesBefore.ne
  have hnodup' : entries'.Nodup := h'.imp ComesBefore.ne
  have hperm : entries.Perm entries' := (List.perm_ext_iff_of_nodup hnodup hnodup').2 hmem
  exact hperm.eq_of_pairwise (fun _ _ _ _ hab hba => absurd hba hab.asymm) h h'

theorem IsSettled.unique {settled settled' : List Label} (h : IsSettled labels now settled)
    (h' : IsSettled labels now settled') : settled = settled' := by
  obtain ⟨entries, hpairwise, hmem, rfl⟩ := h
  obtain ⟨entries', hpairwise', hmem', rfl⟩ := h'
  rw [eq_of_pairwise_comesBefore hpairwise hpairwise' fun entry =>
    (hmem entry).trans (hmem' entry).symm]

/-! ### The pass -/

/-- Whether some of the entries is a negation that takes a label back. -/
def isTakenBack (label : Label) (later : List (Label × Nat)) : Bool :=
  later.any fun other => other.1.neg && label.isNegatedBy other.1

/-- The entries that are no negations and that no entry after them takes back. -/
def survivors : List (Label × Nat) → List (Label × Nat)
  | [] => []
  | entry :: later =>
    if entry.1.neg || entry.1.isTakenBack later then survivors later
    else entry :: survivors later

theorem isTakenBack_cons (label : Label) (later : List (Label × Nat)) :
    label.isTakenBack (entry :: later) =
      (entry.1.neg && label.isNegatedBy entry.1 || label.isTakenBack later) :=
  List.any_cons

/-- One step keeps what the entry does not take back, and what comes of the entry itself. -/
theorem settleStep_eq (kept : List Label) (entry : Label × Nat) :
    settleStep kept entry.1 =
      (kept.filter fun label => !(entry.1.neg && label.isNegatedBy entry.1)) ++
        if entry.1.neg then [] else [entry.1] := by
  unfold settleStep
  cases entry.1.neg <;> simp

/-- The whole pass: a label kept so far stays unless an entry to come takes it back. -/
theorem foldl_settleStep (entries : List (Label × Nat)) (kept : List Label) :
    (entries.map (·.1)).foldl settleStep kept =
      (kept.filter fun label => !label.isTakenBack entries) ++ (survivors entries).map (·.1) := by
  induction entries generalizing kept with
  | nil => simp [isTakenBack, survivors]
  | cons entry later ih =>
    have hkept : (kept.filter fun label => !label.isTakenBack (entry :: later)) =
        (kept.filter fun label => !(entry.1.neg && label.isNegatedBy entry.1)).filter
          fun label => !label.isTakenBack later := by
      simp only [isTakenBack_cons, List.filter_filter, Bool.not_or, Bool.and_comm]
    have hentry : (survivors (entry :: later)).map (·.1) =
        ((if entry.1.neg then [] else [entry.1]).filter fun label => !label.isTakenBack later) ++
          (survivors later).map (·.1) := by
      rw [survivors]
      cases entry.1.neg <;> cases htaken : entry.1.isTakenBack later <;> simp [htaken]
    rw [List.map_cons, List.foldl_cons, ih, settleStep_eq, List.filter_append, hkept, hentry,
      List.append_assoc]

theorem survivors_sublist (entries : List (Label × Nat)) :
    (survivors entries).Sublist entries := by
  induction entries with
  | nil => exact List.Sublist.slnil
  | cons entry later ih =>
    rw [survivors]
    split
    · exact ih.cons entry
    · exact ih.cons_cons entry

/-- No negation that comes after an entry takes it back. -/
def Stands (entries : List (Label × Nat)) (entry : Label × Nat) : Prop :=
  ∀ other ∈ entries, ComesBefore entry other → other.1.neg = true →
    ¬(other.1.src = entry.1.src ∧ other.1.val = entry.1.val)

section Stands

variable {later : List (Label × Nat)}

/-- All that is left comes after the entry. -/
theorem stands_cons_self (h : ∀ other ∈ later, ComesBefore entry other) :
    Stands (entry :: later) entry ↔ entry.1.isTakenBack later = false := by
  have htakes (other : Label) : entry.1.isNegatedBy other = true ↔
      other.src = entry.1.src ∧ other.val = entry.1.val := by
    rw [isNegatedBy, Bool.and_eq_true, beq_iff_eq, beq_iff_eq, and_comm, eq_comm,
      eq_comm (a := entry.1.val)]
  simp only [isTakenBack, List.any_eq_false, Bool.and_eq_true, htakes, not_and]
  constructor
  · intro hstands other hmem hneg
    exact not_and.1 (hstands other (List.mem_cons_of_mem _ hmem) (h other hmem) hneg)
  · intro hnone other hmem hbefore hneg
    obtain rfl | hmem := List.mem_cons.1 hmem
    · exact absurd rfl hbefore.ne
    · exact not_and.2 (hnone other hmem hneg)

/-- What comes before an entry does not take it back. -/
theorem stands_cons (h : ComesBefore entry' entry) :
    Stands (entry' :: later) entry ↔ Stands later entry := by
  simp only [Stands, List.forall_mem_cons, and_iff_right_iff_imp]
  exact fun _ hbefore => absurd hbefore h.asymm

end Stands

theorem mem_survivors {entries : List (Label × Nat)} (h : entries.Pairwise ComesBefore) :
    entry ∈ survivors entries ↔
      entry ∈ entries ∧ entry.1.neg = false ∧ Stands entries entry := by
  induction entries with
  | nil => simp [survivors]
  | cons first later ih =>
    obtain ⟨hfirst, hlater⟩ := List.pairwise_cons.1 h
    by_cases heq : entry = first
    · -- all that is left comes after the entry
      subst heq
      have hgone : entry ∉ survivors later :=
        fun hmem => (hfirst entry ((survivors_sublist later).mem hmem)).ne rfl
      rw [stands_cons_self hfirst, survivors]
      cases entry.1.neg <;> cases entry.1.isTakenBack later <;> simp [hgone]
    · -- the first entry comes before this one, so it does not count
      have hrest : entry ∈ survivors (first :: later) ↔ entry ∈ survivors later := by
        rw [survivors]
        split
        · rfl
        · rw [List.mem_cons, or_iff_right heq]
      rw [hrest, ih hlater, List.mem_cons, or_iff_right heq]
      exact and_congr_right fun hmem => by rw [stands_cons (hfirst entry hmem)]

/-! ### The order -/

theorem pairwise_mergeSort_zipIdx (labels : List Label) :
    (labels.zipIdx.mergeSort (List.zipIdxLE (·.cts ≤ ·.cts))).Pairwise ComesBefore := by
  have hsorted : (labels.zipIdx.mergeSort (List.zipIdxLE (·.cts ≤ ·.cts))).Pairwise fun a b =>
      List.zipIdxLE (fun l l' : Label => l.cts ≤ l'.cts) a b = true := by
    apply List.pairwise_mergeSort
    · apply List.zipIdxLE_trans
      simp only [decide_eq_true_eq]
      exact fun _ _ _ => Instant.le_trans
    · apply List.zipIdxLE_total
      simp only [Bool.or_eq_true, decide_eq_true_eq]
      exact fun _ _ => Instant.le_total _ _
  have hplaces := pairwise_places_ne (List.Sublist.refl labels.zipIdx)
    (List.zipIdxLE (·.cts ≤ ·.cts))
  refine (hsorted.and hplaces).imp fun {a b} ⟨hle, hne⟩ => ?_
  simp only [List.zipIdxLE, decide_eq_true_eq] at hle
  split at hle
  · rename_i hcts
    refine ⟨hcts, fun hcts' => ?_⟩
    rw [if_pos hcts', decide_eq_true_eq] at hle
    exact Nat.lt_of_le_of_ne hle hne
  · cases hle

theorem isSettled_settle (labels : List Label) (now : Instant) :
    IsSettled labels now (settle labels now) := by
  let sorted := labels.zipIdx.mergeSort (List.zipIdxLE (·.cts ≤ ·.cts))
  let current := sorted.filter (!·.1.isExpired now)
  have hpairwise : current.Pairwise ComesBefore := (pairwise_mergeSort_zipIdx labels).filter _
  have hcurrent (entry : Label × Nat) :
      entry ∈ current ↔ entry ∈ labels.zipIdx ∧ entry.1.isExpired now = false := by
    rw [List.mem_filter, List.mem_mergeSort, Bool.not_eq_true']
  refine ⟨survivors current, hpairwise.sublist (survivors_sublist current), fun entry => ?_, ?_⟩
  · rw [mem_survivors hpairwise, hcurrent]
    constructor
    · rintro ⟨⟨hlisted, hexpired⟩, hneg, hstands⟩
      exact ⟨hlisted, hneg, hexpired, fun other hmem hbefore hneg hexpired =>
        hstands other ((hcurrent other).2 ⟨hmem, hexpired⟩) hbefore hneg⟩
    · intro h
      refine ⟨⟨h.listed, h.current⟩, h.positive, fun other hmem hbefore hneg => ?_⟩
      obtain ⟨hlisted, hexpired⟩ := (hcurrent other).1 hmem
      exact h.stands other hlisted hbefore hneg hexpired
  · have hlabels : current.map (·.1) =
        (labels.mergeSort (·.cts ≤ ·.cts)).filter (!·.isExpired now) := by
      rw [← List.mergeSort_zipIdx, List.filter_map]
      rfl
    rw [settle, ← hlabels, foldl_settleStep]
    rfl

theorem settle_eq_iff {settled : List Label} :
    settle labels now = settled ↔ IsSettled labels now settled := by
  constructor
  · rintro rfl
    exact isSettled_settle labels now
  · exact (isSettled_settle labels now).unique

end Label

namespace LabelSet

variable (raw : ExtTreeMap String (List Label)) (fetched : ExtTreeSet String) (now : Instant)

theorem getElem?_ofRaw (subject : String) : (ofRaw raw fetched now).labels[subject]? =
    if subject ∈ fetched ∧ Label.settle (raw[subject]?.getD []) now ≠ [] then
      some (Label.settle (raw[subject]?.getD []) now)
    else none := by
  rw [ofRaw, ExtTreeMap.getElem?_filterMap']
  by_cases hmem : subject ∈ fetched
  · cases hraw : raw[subject]? with
    | none => simp [Label.settle]
    | some labels => simp [hmem, Option.filter_some]
  · cases raw[subject]? <;> simp [hmem]

theorem get_ofRaw (subject : String) : (ofRaw raw fetched now).get subject =
    if subject ∈ fetched then Label.settle (raw[subject]?.getD []) now else [] := by
  rw [get, getElem?_ofRaw]
  by_cases hmem : subject ∈ fetched
  · by_cases hnone : Label.settle (raw[subject]?.getD []) now = [] <;> simp [hmem, hnone]
  · simp [hmem]

/-- No subject without labels has an entry. -/
theorem mem_keys_ofRaw {subject : String} : subject ∈ (ofRaw raw fetched now).labels.keys ↔
    subject ∈ fetched ∧ (ofRaw raw fetched now).get subject ≠ [] := by
  rw [ExtTreeMap.mem_keys, ExtTreeMap.mem_iff_isSome_getElem?, getElem?_ofRaw, get_ofRaw]
  by_cases hmem : subject ∈ fetched <;> simp [hmem]

theorem size_ofRaw : (ofRaw raw fetched now).size =
    (fetched.toList.filter fun subject => (ofRaw raw fetched now).get subject ≠ []).length := by
  have hfetched : fetched.toList.Nodup :=
    ExtTreeSet.distinct_toList.imp fun {subject subject'} hne heq => by
      subst heq
      exact hne Std.ReflCmp.compare_self
  have hperm : (ofRaw raw fetched now).labels.keys.Perm
      (fetched.toList.filter fun subject => (ofRaw raw fetched now).get subject ≠ []) := by
    rw [List.perm_ext_iff_of_nodup ExtTreeMap.nodup_keys (hfetched.filter _)]
    intro subject
    rw [mem_keys_ofRaw, List.mem_filter, ExtTreeSet.mem_toList, decide_eq_true_eq]
  rw [size, ← ExtTreeMap.length_keys, hperm.length_eq]

/-- **What settled labels are.** A subject that was asked for has the labels in effect, in the order
of their creation and else of the input, each as often as it was given and not taken back after; no
other subject has any. The size is the number of the subjects asked for that have labels. -/
theorem get_ofRaw_isSettled :
    (∀ subject settled, subject ∈ fetched → ((ofRaw raw fetched now).get subject = settled ↔
      Label.IsSettled (raw[subject]?.getD []) now settled)) ∧
    (∀ subject, subject ∉ fetched → (ofRaw raw fetched now).get subject = []) ∧
    (∀ subject, (ofRaw raw fetched now).covers subject = true ↔ subject ∈ fetched) ∧
    (ofRaw raw fetched now).size = (fetched.toList.filter fun subject =>
      (ofRaw raw fetched now).get subject ≠ []).length := by
  refine ⟨fun subject settled hmem => ?_, fun subject hmem => ?_, fun subject => ?_,
    size_ofRaw raw fetched now⟩
  · rw [get_ofRaw, if_pos hmem, Label.settle_eq_iff]
  · rw [get_ofRaw, if_neg hmem]
  · rw [covers, ExtTreeSet.contains_iff_mem]
    rfl

end LabelSet

namespace Sample

def mark : Label := ⟨foe, friend.text, none, "spam", false, noon, none⟩

/-- At one time the foe labels the friend, takes the label back and labels it again, and the viewer
labels it too; the negation of the viewer has expired. -/
def history : List Label :=
  [mark, { mark with neg := true, cid := some cid }, mark, { mark with src := viewer },
    { mark with src := viewer, neg := true, exp := some noon }]

theorem settle_history : Label.settle history noon = [mark, { mark with src := viewer }] := by
  have hsorted : history.mergeSort (·.cts ≤ ·.cts) = history :=
    List.mergeSort_of_pairwise (by decide +kernel)
  rw [Label.settle, hsorted]
  decide +kernel

theorem get_ofRaw_isSettled_history :
    Label.IsSettled history noon [mark, { mark with src := viewer }] ∧
    (LabelSet.ofRaw (ExtTreeMap.ofList [(friend.text, history), (foe.text, history)])
      (ExtTreeSet.ofList [friend.text, viewer.text]) noon).get foe.text = [] := by
  obtain ⟨hget, hnone, -, -⟩ := LabelSet.get_ofRaw_isSettled
    (ExtTreeMap.ofList [(friend.text, history), (foe.text, history)])
    (ExtTreeSet.ofList [friend.text, viewer.text]) noon
  have hraw : (ExtTreeMap.ofList [(friend.text, history), (foe.text, history)])[friend.text]?.getD
      [] = history := by
    decide +kernel
  have hfetched : friend.text ∈ ExtTreeSet.ofList [friend.text, viewer.text] := by decide +kernel
  refine ⟨?_, hnone foe.text (by decide +kernel)⟩
  rw [← hraw, ← hget friend.text _ hfetched, LabelSet.get_ofRaw, if_pos hfetched, hraw]
  exact settle_history

end Sample

end FeedHydration

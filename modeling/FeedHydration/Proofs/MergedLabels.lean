import FeedHydration.Proofs.EmbedOutage
import FeedHydration.Proofs.Settlement

/-!
# Merged label sets

A label set is read from the index or merged from others, and it has entries only for subjects that
were asked for and that have labels. A subject found clean is therefore known only by its name. When
sets are merged it has no entry to set against that of another set, and takes over the labels that
the other set has.

Which set comes first counts, but not how the merges are grouped. Sets are merged one after the other
while a page is built, and each time only those subjects are asked for that no set covers yet; so
what is missing from all of them is found one set at a time.
-/

namespace FeedHydration

open Std (ExtTreeMap ExtTreeSet)

namespace LabelSet

/-- The sets that come from reads, and from merging what came before. -/
inductive IsBuilt : LabelSet → Prop
  | ofRaw (raw : ExtTreeMap String (List Label)) (fetched : ExtTreeSet String) (now : Instant) :
      IsBuilt (ofRaw raw fetched now)
  | merged {set other : LabelSet} (h : IsBuilt set) (h' : IsBuilt other) :
      IsBuilt (set.merged other)

/-- A set without idle entries: each is of a subject that was asked for, and has labels. -/
structure IsTrim (set : LabelSet) : Prop where
  covers : ∀ (subject : String) (labels : List Label), set.labels[subject]? = some labels →
    set.covers subject = true
  ne_nil : ∀ (subject : String) (labels : List Label), set.labels[subject]? = some labels →
    labels ≠ []

theorem isTrim_ofRaw (raw : ExtTreeMap String (List Label)) (fetched : ExtTreeSet String)
    (now : Instant) : (ofRaw raw fetched now).IsTrim := by
  have hentry (subject : String) (labels : List Label)
      (h : (ofRaw raw fetched now).labels[subject]? = some labels) :
      subject ∈ fetched ∧ labels ≠ [] := by
    rw [getElem?_ofRaw] at h
    split at h
    · rename_i hsettled
      cases h
      exact hsettled
    · cases h
  exact {
    covers := fun subject labels h => ExtTreeSet.contains_iff_mem.2 (hentry subject labels h).1
    ne_nil := fun subject labels h => (hentry subject labels h).2 }

section Merged

variable {set other : LabelSet} {subject : String}

theorem covers_merged :
    (set.merged other).covers subject = (set.covers subject || other.covers subject) :=
  ExtTreeSet.contains_union

theorem getElem?_merged :
    (set.merged other).labels[subject]? = set.labels[subject]?.or other.labels[subject]? :=
  ExtTreeMap.getElem?_union

theorem IsTrim.merged (h : set.IsTrim) (h' : other.IsTrim) : (set.merged other).IsTrim where
  covers subject labels hentry := by
    rw [getElem?_merged, Option.or_eq_some_iff] at hentry
    rw [covers_merged, Bool.or_eq_true]
    obtain hentry | ⟨-, hentry⟩ := hentry
    · exact Or.inl (h.covers subject labels hentry)
    · exact Or.inr (h'.covers subject labels hentry)
  ne_nil subject labels hentry := by
    rw [getElem?_merged, Option.or_eq_some_iff] at hentry
    obtain hentry | ⟨-, hentry⟩ := hentry
    · exact h.ne_nil subject labels hentry
    · exact h'.ne_nil subject labels hentry

theorem IsBuilt.isTrim (h : set.IsBuilt) : set.IsTrim := by
  induction h with
  | ofRaw raw fetched now => exact isTrim_ofRaw raw fetched now
  | merged _ _ ih ih' => exact ih.merged ih'

namespace IsTrim

variable (h : set.IsTrim)

include h

theorem get_eq_nil_iff : set.get subject = [] ↔ set.labels[subject]? = none := by
  rw [get]
  cases hentry : set.labels[subject]? with
  | none => simp
  | some labels => simpa using h.ne_nil subject labels hentry

theorem get_eq_nil_of_not_covers (hcovers : set.covers subject = false) :
    set.get subject = [] := by
  rw [h.get_eq_nil_iff, Option.eq_none_iff_forall_ne_some]
  intro labels hentry
  rw [h.covers subject labels hentry] at hcovers
  cases hcovers

/-- The first set that has labels of a subject counts. -/
theorem get_merged_eq (other : LabelSet) (subject : String) : (set.merged other).get subject =
    if set.get subject = [] then other.get subject else set.get subject := by
  split
  · rename_i hnil
    rw [get_merged, h.get_eq_nil_iff.1 hnil, Option.getD_none]
  · rename_i hlabels
    rw [h.get_eq_nil_iff] at hlabels
    obtain ⟨labels, hentry⟩ := Option.ne_none_iff_exists'.1 hlabels
    rw [get_merged, hentry, Option.getD_some, get, hentry, Option.getD_some]

end IsTrim

/-- **Labels that were found first are kept.** A subject that the first set does not cover has the
labels of the second. A subject that it covers keeps what the first set says of it, except that one
found clean there takes over the labels of the second. -/
theorem get_merged_of_isBuilt (h : set.IsBuilt) (other : LabelSet) (subject : String) :
    (set.covers subject = false → (set.merged other).get subject = other.get subject) ∧
    (set.covers subject = true → ((set.merged other).get subject = set.get subject ↔
      (set.get subject = [] → other.get subject = []))) ∧
    (set.covers subject = true → set.get subject = [] →
      (set.merged other).get subject = other.get subject) := by
  rw [h.isTrim.get_merged_eq other subject]
  refine ⟨fun hcovers => ?_, fun _ => ?_, fun _ hnil => if_pos hnil⟩
  · exact if_pos (h.isTrim.get_eq_nil_of_not_covers hcovers)
  · by_cases hnil : set.get subject = []
    · rw [if_pos hnil, hnil]
      exact ⟨fun h _ => h, fun h => h rfl⟩
    · rw [if_neg hnil]
      exact ⟨fun _ h => absurd h hnil, fun _ => rfl⟩

end Merged

section Laws

/-- A set is told by its entries and by the subjects that it covers. -/
theorem eq_iff {set other : LabelSet} : set = other ↔
    (∀ subject : String, set.labels[subject]? = other.labels[subject]?) ∧
      ∀ subject, set.covers subject = other.covers subject := by
  constructor
  · rintro rfl
    exact ⟨fun _ => rfl, fun _ => rfl⟩
  · rintro ⟨hlabels, hcovers⟩
    obtain ⟨labels, fetched⟩ := set
    obtain ⟨labels', fetched'⟩ := other
    have hfetched : fetched = fetched' := by
      apply ExtTreeSet.ext_mem
      intro subject
      rw [← ExtTreeSet.contains_iff_mem, ← ExtTreeSet.contains_iff_mem]
      exact Bool.eq_iff_iff.1 (hcovers subject)
    exact congrArg₂ LabelSet.mk (ExtTreeMap.ext_getElem? hlabels) hfetched

theorem getElem?_empty (subject : String) : empty.labels[subject]? = none :=
  ExtTreeMap.getElem?_empty

theorem covers_empty (subject : String) : empty.covers subject = false :=
  ExtTreeSet.contains_empty

theorem merged_assoc (a b c : LabelSet) : (a.merged b).merged c = a.merged (b.merged c) := by
  rw [eq_iff]
  refine ⟨fun subject => ?_, fun subject => ?_⟩
  · rw [getElem?_merged, getElem?_merged, getElem?_merged, getElem?_merged, Option.or_assoc]
  · rw [covers_merged, covers_merged, covers_merged, covers_merged, Bool.or_assoc]

theorem empty_merged (a : LabelSet) : empty.merged a = a := by
  rw [eq_iff]
  refine ⟨fun subject => ?_, fun subject => ?_⟩
  · rw [getElem?_merged, getElem?_empty, Option.none_or]
  · rw [covers_merged, covers_empty, Bool.false_or]

theorem merged_empty (a : LabelSet) : a.merged empty = a := by
  rw [eq_iff]
  refine ⟨fun subject => ?_, fun subject => ?_⟩
  · rw [getElem?_merged, getElem?_empty, Option.or_none]
  · rw [covers_merged, covers_empty, Bool.or_false]

theorem merged_self (a : LabelSet) : a.merged a = a := by
  rw [eq_iff]
  refine ⟨fun subject => ?_, fun subject => ?_⟩
  · rw [getElem?_merged, Option.or_self]
  · rw [covers_merged, Bool.or_self]

theorem pairwise_missing (a : LabelSet) (candidates : List String) :
    (a.missing candidates).Pairwise (· < ·) :=
  (pairwise_distinct _).imp fun hlt => compareOfLessAndEq_eq_lt.1 hlt

theorem missing_merged (a b : LabelSet) (candidates : List String) :
    (a.merged b).missing candidates = b.missing (a.missing candidates) := by
  rw [missing, missing]
  refine distinct_congr fun subject => ?_
  rw [List.mem_filter, List.mem_filter, mem_missing, covers_merged]
  simp [and_assoc]

/-- What is missing from all sets is found one set at a time. -/
theorem missing_foldl_merged (sets : List LabelSet) (a : LabelSet) (candidates : List String) :
    (sets.foldl merged a).missing candidates =
      sets.foldl (fun rest set => set.missing rest) (a.missing candidates) := by
  induction sets generalizing a with
  | nil => rfl
  | cons set sets ih => rw [List.foldl_cons, ih, missing_merged, List.foldl_cons]

/-- **How merges are grouped does not count.** Merging is associative, a set without entries changes
nothing on either side, and a set merged with itself is that set. What is merged covers what either
set covers. What is missing from it, in order and without repeats, is what the second set misses of
what the first one misses, and so on for any number of sets. -/
theorem merged_forms_monoid (a b c : LabelSet) :
    (a.merged b).merged c = a.merged (b.merged c) ∧
    empty.merged a = a ∧ a.merged empty = a ∧ a.merged a = a ∧
    (∀ subject, (a.merged b).covers subject = true ↔
      a.covers subject = true ∨ b.covers subject = true) ∧
    ∀ candidates,
      (a.merged b).missing candidates = b.missing (a.missing candidates) ∧
      ((a.merged b).missing candidates).Pairwise (· < ·) ∧
      (∀ subject, subject ∈ (a.merged b).missing candidates ↔
        subject ∈ candidates ∧ a.covers subject = false ∧ b.covers subject = false) ∧
      ∀ sets : List LabelSet, (sets.foldl merged a).missing candidates =
        sets.foldl (fun rest set => set.missing rest) (a.missing candidates) := by
  refine ⟨merged_assoc a b c, empty_merged a, merged_empty a, merged_self a, fun subject => ?_,
    fun candidates => ⟨missing_merged a b candidates, pairwise_missing _ candidates,
      fun subject => ?_, fun sets => missing_foldl_merged sets a candidates⟩⟩
  · rw [covers_merged, Bool.or_eq_true]
  · rw [mem_missing, covers_merged, Bool.or_eq_false_iff]

end Laws

end LabelSet

namespace Sample

/-- The friend was asked for, and has no labels. -/
def cleanSet : LabelSet :=
  LabelSet.ofRaw ∅ (ExtTreeSet.ofList [friend.text]) noon

def markedSet : LabelSet :=
  LabelSet.ofRaw (ExtTreeMap.ofList [(friend.text, [mark])]) (ExtTreeSet.ofList [friend.text]) noon

/-- What the first set found clean is labelled after all. -/
theorem get_merged_clean :
    cleanSet.IsBuilt ∧ cleanSet.covers friend.text = true ∧ cleanSet.get friend.text = [] ∧
      (cleanSet.merged markedSet).get friend.text = [mark] := by
  have hbuilt : cleanSet.IsBuilt := .ofRaw _ _ _
  have hcovers : cleanSet.covers friend.text = true := by decide +kernel
  have hnil : cleanSet.get friend.text = [] := by decide +kernel
  obtain ⟨-, -, hclean⟩ := LabelSet.get_merged_of_isBuilt hbuilt markedSet friend.text
  exact ⟨hbuilt, hcovers, hnil, (hclean hcovers hnil).trans (by decide +kernel)⟩

end Sample

end FeedHydration

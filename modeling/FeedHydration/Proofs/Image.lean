import FeedHydration.Proofs.Grammar
import FeedHydration.Url.Image

/-!
# Addresses of images

An address is the base of a service and five parts behind slashes. None of these parts holds a
slash, for neither a did nor a content identifier has one among its characters. So the pieces
between the slashes of an address are those of the base and the five parts, whatever slashes the
base has, and the last five pieces tell the rendition, the did and the content identifier.
-/

namespace FeedHydration

namespace Text

/-- Pieces that are joined to any text are found behind the pieces of the text. -/
theorem splitAll_append_joined {sep : Char} {pieces : List (List Char)} (text : List Char)
    (h : ∀ piece ∈ pieces, sep ∉ piece) :
    splitAll sep (text ++ pieces.flatMap (sep :: ·)) = splitAll sep text ++ pieces := by
  induction text with
  | nil =>
    cases pieces with
    | nil => rfl
    | cons piece pieces =>
      rw [List.flatMap_cons, List.cons_append, splitAll_append List.not_mem_nil, splitAll_joined h]
      rfl
  | cons c text ih =>
    obtain ⟨first, rest, hsplit⟩ := List.exists_cons_of_ne_nil (splitAll_ne_nil sep text)
    rw [List.cons_append, splitAll, splitAll, ih, hsplit]
    split <;> rfl

theorem splitAll_inj {sep : Char} {text text' : List Char} :
    splitAll sep text = splitAll sep text' ↔ text = text' := by
  constructor
  · intro h
    obtain ⟨first, rest, hsplit⟩ := List.exists_cons_of_ne_nil (splitAll_ne_nil sep text)
    rw [joined_splitAll hsplit, joined_splitAll (h.symm.trans hsplit)]
  · exact congrArg (splitAll sep)

end Text

namespace Cid

theorem slash_notMem (cid : Cid) : '/' ∉ cid.text.toList := by
  have h := cid.grammatical
  unfold isCid at h
  split at h
  · rename_i digits htext
    rw [Bool.and_eq_true, List.all_eq_true] at h
    rw [htext, List.mem_cons, not_or]
    exact ⟨by decide, fun hmem => absurd (h.2 _ hmem) (by decide)⟩
  · rename_i digits htext
    rw [Bool.and_eq_true, List.all_eq_true] at h
    rw [htext, List.mem_cons, List.mem_cons, not_or, not_or]
    exact ⟨by decide, by decide, fun hmem => absurd (h.2 _ hmem) (by decide)⟩
  · cases h

end Cid

namespace ImagePreset

theorem slash_notMem_name (preset : ImagePreset) : '/' ∉ preset.name.toList := by
  cases preset <;> decide

theorem name_inj {preset preset' : ImagePreset} :
    preset.name = preset'.name ↔ preset = preset' := by
  cases preset <;> cases preset' <;> decide

end ImagePreset

namespace ImageService

variable {service : ImageService} {preset preset' : ImagePreset} {did did' : Did} {cid cid' : Cid}

/-- What stands behind the base of an address, each part behind a slash. -/
def parts (preset : ImagePreset) (did : Did) (cid : Cid) : List (List Char) :=
  ["img".toList, preset.name.toList, "plain".toList, did.text.toList,
    cid.text.toList ++ "@jpeg".toList]

theorem slash_notMem_parts : ∀ part ∈ parts preset did cid, '/' ∉ part := by
  have hlast : '/' ∉ cid.text.toList ++ "@jpeg".toList :=
    List.not_mem_append cid.slash_notMem (by decide)
  simp only [parts, List.forall_mem_cons]
  exact ⟨by decide, preset.slash_notMem_name, by decide, did.slash_notMem, hlast, by simp⟩

theorem toList_address :
    (service.address preset did cid).toList =
      service.base.toList ++ (parts preset did cid).flatMap ('/' :: ·) := by
  simp [address, parts, String.toList_append]

theorem parts_inj : parts preset did cid = parts preset' did' cid' ↔
    preset = preset' ∧ did = did' ∧ cid = cid' := by
  constructor
  · intro h
    simp only [parts, List.cons.injEq, List.append_left_inj, String.toList_inj, and_true,
      true_and] at h
    obtain ⟨hpreset, hdid, hcid⟩ := h
    exact ⟨ImagePreset.name_inj.1 hpreset, Did.ext hdid, Cid.ext hcid⟩
  · rintro ⟨rfl, rfl, rfl⟩
    rfl

/-- **An address belongs to one image.** Two addresses are the same only if they are those of the
same rendition of what the same account has uploaded under the same content identifier, and then
they are also addresses at the same service. -/
theorem address_belongs_to_one_image (service service' : ImageService)
    (preset preset' : ImagePreset) (did did' : Did) (cid cid' : Cid) :
    service.address preset did cid = service'.address preset' did' cid' ↔
      service = service' ∧ preset = preset' ∧ did = did' ∧ cid = cid' := by
  constructor
  · intro h
    have hpieces := congrArg (fun address => Text.splitAll '/' address.toList) h
    simp only [toList_address, Text.splitAll_append_joined _ slash_notMem_parts] at hpieces
    obtain ⟨hbase, hparts⟩ := List.append_inj' hpieces rfl
    have hservice : service.base = service'.base := String.toList_inj.1 (Text.splitAll_inj.1 hbase)
    exact ⟨congrArg ImageService.mk hservice, parts_inj.1 hparts⟩
  · rintro ⟨rfl, rfl, rfl, rfl⟩
    rfl

end ImageService

end FeedHydration

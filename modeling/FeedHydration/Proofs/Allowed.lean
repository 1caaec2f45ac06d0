import FeedHydration.Proofs.Slot
import FeedHydration.Skeleton.Basic

/-!
# Allowed pages

What a client gets to see of a page: the posts, the records they embed, and the accounts and lists
named along with them. A page is allowed if the rules let its entries pass and they hold nothing but
what the index says; what is on such a page is then read off entry by entry.
-/

namespace FeedHydration

/-! ### What is on a page -/

def ReplySlot.post? : ReplySlot → Option PostView
  | .post view => some view
  | .missing _ | .blocked _ => none

def ReplySlot.hidden? : ReplySlot → Option BlockedAuthor
  | .blocked view => some view.author
  | .post _ | .missing _ => none

namespace RecordSlot

def hidden? : RecordSlot → Option BlockedAuthor
  | blocked view => some view.author
  | quote _ | missing _ | generator _ | list _ => none

/-- The owner of a record that is shown. -/
def owner? : RecordSlot → Option ProfileView
  | quote view => some view.author
  | generator view => some view.creator
  | list view => some view.creator
  | missing _ | blocked _ => none

end RecordSlot

def PostView.slot? (view : PostView) : Option RecordSlot :=
  view.embed.bind EmbedView.slot?

namespace FeedEntry

def replySlots (entry : FeedEntry) : List ReplySlot :=
  entry.reply.elim [] fun reply => [reply.root, reply.parent]

/-- The post of an entry and those that it replies to. -/
def posts (entry : FeedEntry) : List PostView :=
  entry.post :: entry.replySlots.filterMap ReplySlot.post?

end FeedEntry

namespace FeedPage

variable (page : FeedPage)

def posts : List PostView :=
  page.feed.flatMap FeedEntry.posts

def slots : List RecordSlot :=
  page.posts.filterMap PostView.slot?

def reposters : List ProfileView :=
  (page.feed.filterMap (·.reason)).map (·.reposter)

/-- All accounts shown with a profile. -/
def profiles : List ProfileView :=
  page.posts.map (·.author) ++ page.slots.filterMap RecordSlot.owner? ++ page.reposters

/-- The authors of what is hidden. -/
def hiddenAuthors : List BlockedAuthor :=
  (page.feed.flatMap FeedEntry.replySlots).filterMap ReplySlot.hidden? ++
    page.slots.filterMap RecordSlot.hidden?

/-- The lists through which accounts on the page are muted. -/
def mutingLists : List ListSummary :=
  (page.profiles.filterMap (·.viewer) ++ page.hiddenAuthors.filterMap (·.viewer)).filterMap
    (·.mutedByList)

end FeedPage

/-! ### What may be on a page -/

section Allowed

variable (index : Index) (nameBytes : Nat) (viewer : Option Did) (d : Display)

/-- A view of a post that the index allows. -/
structure IsPostOf (uri : AtUri) (author : Actor) (view : PostView) : Prop where
  post : ∃ post embed, index.tables.post? viewer uri = some post ∧
    d.postView? post author embed = some view
  owner : index.actor? nameBytes viewer .withoutLabels uri.authority = some author
  slot : ∀ slot, view.slot? = some slot →
    ∃ d target, EmbedContext.IsSlotOf index nameBytes viewer d target slot

/-- What may stand in the place of a post that is replied to. -/
inductive IsReplySlotOf (uri : AtUri) : ReplySlot → Prop where
  | missing : IsReplySlotOf uri (.missing { uri := uri })
  | blocked {post : Post} {author : Actor} (hpost : index.tables.post? viewer uri = some post)
      (hauthor : index.actor? nameBytes viewer .withoutLabels uri.authority = some author)
      (hblock : author.hasBlock = true) : IsReplySlotOf uri
        (.blocked { uri := uri, author := Display.blockedAuthor uri.authority (some author) })
  | post {author : Actor} {view : PostView}
      (hview : IsPostOf index nameBytes viewer d uri author view)
      (hblock : author.hasBlock = false) : IsReplySlotOf uri (.post view)

/-- An account that the rules let pass. -/
structure IsAdmitted (author : Actor) : Prop where
  block : author.hasBlock = false
  mute : author.isMuted = false

/-- An entry that the rules let pass and the index allows. -/
structure IsEntryOf (item : SkeletonItem) (entry : FeedEntry) : Prop where
  post : ∃ author, IsPostOf index nameBytes viewer d item.post author entry.post ∧
    IsAdmitted author
  reply : ∀ slot ∈ entry.replySlots, ∃ uri, IsReplySlotOf index nameBytes viewer d uri slot
  reason : ∀ reason, entry.reason = some reason →
    ∃ did reposter, index.actor? nameBytes viewer .withoutLabels did = some reposter ∧
      reason.reposter = d.profile reposter ∧ IsAdmitted reposter

/-- A page that has only such entries. -/
def FeedPage.IsAllowed (page : FeedPage) : Prop :=
  ∀ entry ∈ page.feed, ∃ d item, IsEntryOf index nameBytes viewer d item entry

end Allowed

namespace IsPostOf

variable {index : Index} {nameBytes : Nat} {viewer : Option Did} {d : Display} {uri : AtUri}
  {author : Actor} {view : PostView} (h : IsPostOf index nameBytes viewer d uri author view)

include h

theorem uri_eq : view.uri = uri := by
  obtain ⟨post, embed, hpost, hview⟩ := h.post
  exact (Display.fields_of_postView? hview).1.trans (Tables.uri_of_post? hpost)

theorem author_eq : view.author = d.profile author := by
  obtain ⟨post, embed, -, hview⟩ := h.post
  exact (Display.fields_of_postView? hview).2.1

end IsPostOf

namespace FeedPage.IsAllowed

variable {index : Index} {nameBytes : Nat} {viewer : Option Did} {page : FeedPage}
  (h : page.IsAllowed index nameBytes viewer)

include h

theorem replySlot {slot : ReplySlot} (hmem : slot ∈ page.feed.flatMap FeedEntry.replySlots) :
    ∃ d uri, IsReplySlotOf index nameBytes viewer d uri slot := by
  obtain ⟨entry, hentry, hslot⟩ := List.mem_flatMap.1 hmem
  obtain ⟨d, item, hallowed⟩ := h entry hentry
  exact ⟨d, hallowed.reply slot hslot⟩

theorem post {view : PostView} (hmem : view ∈ page.posts) :
    ∃ d uri author, IsPostOf index nameBytes viewer d uri author view ∧
      author.hasBlock = false := by
  obtain ⟨entry, hentry, hview⟩ := List.mem_flatMap.1 hmem
  obtain hview | hview := List.mem_cons.1 hview
  · obtain ⟨d, item, hallowed⟩ := h entry hentry
    obtain ⟨author, hpost, hadmitted⟩ := hallowed.post
    subst hview
    exact ⟨d, item.post, author, hpost, hadmitted.block⟩
  · obtain ⟨slot, hslot, hpost⟩ := List.mem_filterMap.1 hview
    obtain ⟨d, uri, hallowed⟩ := h.replySlot (List.mem_flatMap.2 ⟨entry, hentry, hslot⟩)
    cases hallowed with
    | missing => cases hpost
    | blocked => cases hpost
    | post hallowed hblock =>
      cases hpost
      exact ⟨d, uri, _, hallowed, hblock⟩

theorem slot {slot : RecordSlot} (hmem : slot ∈ page.slots) :
    ∃ d target, EmbedContext.IsSlotOf index nameBytes viewer d target slot := by
  obtain ⟨view, hview, hslot⟩ := List.mem_filterMap.1 hmem
  obtain ⟨d, uri, author, hallowed, -⟩ := h.post hview
  exact hallowed.slot slot hslot

theorem reposter {profile : ProfileView} (hmem : profile ∈ page.reposters) :
    ∃ d did reposter, index.actor? nameBytes viewer .withoutLabels did = some reposter ∧
      profile = Display.profile d reposter ∧ IsAdmitted reposter := by
  obtain ⟨reason, hreason, rfl⟩ := List.mem_map.1 hmem
  obtain ⟨entry, hentry, hreason⟩ := List.mem_filterMap.1 hreason
  obtain ⟨d, item, hallowed⟩ := h entry hentry
  exact ⟨d, hallowed.reason reason hreason⟩

theorem profile {profile : ProfileView} (hmem : profile ∈ page.profiles) :
    ∃ d did actor, index.actor? nameBytes viewer .withoutLabels did = some actor ∧
      profile = Display.profile d actor := by
  rw [profiles, List.mem_append, List.mem_append] at hmem
  obtain (hauthor | howner) | hreposter := hmem
  · obtain ⟨view, hview, rfl⟩ := List.mem_map.1 hauthor
    obtain ⟨d, uri, author, hallowed, -⟩ := h.post hview
    exact ⟨d, uri.authority, author, hallowed.owner, hallowed.author_eq⟩
  · obtain ⟨slot, hslot, howner⟩ := List.mem_filterMap.1 howner
    obtain ⟨d, target, hallowed⟩ := h.slot hslot
    cases hallowed with
    | missing => cases howner
    | blocked => cases howner
    | quote _ hauthor _ hview =>
      cases howner
      exact ⟨d, target.authority, _, hauthor, (Display.fields_of_quoteView? hview).2⟩
    | generator _ _ hcreator =>
      cases howner
      exact ⟨d, target.authority, _, hcreator, rfl⟩
    | list _ _ hcreator =>
      cases howner
      exact ⟨d, target.authority, _, hcreator, rfl⟩
  · obtain ⟨d, did, reposter, hactor, heq, -⟩ := h.reposter hreposter
    exact ⟨d, did, reposter, hactor, heq⟩

theorem hidden {author : BlockedAuthor} (hmem : author ∈ page.hiddenAuthors) :
    ∃ did actor, author = Display.blockedAuthor did actor := by
  rw [hiddenAuthors, List.mem_append] at hmem
  obtain hreply | hrecord := hmem
  · obtain ⟨slot, hslot, hauthor⟩ := List.mem_filterMap.1 hreply
    obtain ⟨d, uri, hallowed⟩ := h.replySlot hslot
    cases hallowed with
    | missing => cases hauthor
    | blocked =>
      cases hauthor
      exact ⟨_, _, rfl⟩
    | post => cases hauthor
  · obtain ⟨slot, hslot, hauthor⟩ := List.mem_filterMap.1 hrecord
    obtain ⟨d, target, hallowed⟩ := h.slot hslot
    cases hallowed with
    | missing => cases hauthor
    | blocked =>
      cases hauthor
      exact ⟨_, _, rfl⟩
    | quote => cases hauthor
    | generator => cases hauthor
    | list => cases hauthor

end FeedPage.IsAllowed

end FeedHydration

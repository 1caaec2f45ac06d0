import FeedHydration.View.Display

/-!
# Displays

A display adds to an entity only the addresses of images and the labels of the subjects it names.
Two displays that agree on these show the same, and the identity of what is shown is never theirs.
-/

namespace FeedHydration

namespace Display

/-- Two displays that show one subject alike. -/
structure Agree (d d' : Display) (subject : String) : Prop where
  images : d.images = d'.images
  labels : d.labels.get subject = d'.labels.get subject

variable {d d' : Display} {actor author creator : Actor} {post : Post}

theorem Agree.symm {subject : String} (h : d.Agree d' subject) : d'.Agree d subject :=
  ⟨h.images.symm, h.labels.symm⟩

/-! ### What a view depends on -/

theorem avatar_congr (himages : d.images = d'.images) : d.avatar = d'.avatar := by
  funext did cid
  rw [avatar, avatar, himages]

theorem listSummary_congr (himages : d.images = d'.images) : d.listSummary = d'.listSummary := by
  funext list
  rw [listSummary, listSummary, avatar_congr himages]

theorem profile_congr (h : d.Agree d' actor.did.text) : d.profile actor = d'.profile actor := by
  rw [profile, profile, profileViewer, profileViewer, listSummary_congr h.images,
    avatar_congr h.images, h.labels]

theorem quoteView?_congr (h : d.Agree d' post.uri.text) (hauthor : d.Agree d' author.did.text) :
    d.quoteView? post author = d'.quoteView? post author := by
  rw [quoteView?, quoteView?, profile_congr hauthor, h.labels]

theorem postView?_congr {embed : Option EmbedView} (h : d.Agree d' post.uri.text)
    (hauthor : d.Agree d' author.did.text) :
    d.postView? post author embed = d'.postView? post author embed := by
  rw [postView?, postView?, profile_congr hauthor, h.labels]

theorem generatorView_congr {generator : Generator} (h : d.Agree d' generator.uri.text)
    (hcreator : d.Agree d' creator.did.text) :
    d.generatorView generator creator = d'.generatorView generator creator := by
  rw [generatorView, generatorView, profile_congr hcreator, avatar_congr h.images, h.labels]

theorem listView_congr {list : AccountList} (h : d.Agree d' list.uri.text)
    (hcreator : d.Agree d' creator.did.text) :
    d.listView list creator = d'.listView list creator := by
  rw [listView, listView, profile_congr hcreator, avatar_congr h.images, h.labels]

theorem image_congr (himages : d.images = d'.images) : d.image = d'.image := by
  funext did posted
  rw [image, image, himages]

theorem link_congr (himages : d.images = d'.images) : d.link = d'.link := by
  funext did posted
  rw [link, link, himages]

theorem media_congr (himages : d.images = d'.images) : d.media = d'.media := by
  funext did posted
  cases posted with
  | images images => rw [media, media, image_congr himages]
  | external link => rw [media, media, link_congr himages]

/-! ### What a view names -/

theorem fields_of_postView? {embed : Option EmbedView} {view : PostView}
    (h : d.postView? post author embed = some view) :
    view.uri = post.uri ∧ view.author = d.profile author ∧ view.embed = embed := by
  obtain ⟨record, -, hview⟩ := Option.bind_eq_some_iff.1 h
  cases hview
  exact ⟨rfl, rfl, rfl⟩

theorem fields_of_quoteView? {view : QuoteView} (h : d.quoteView? post author = some view) :
    view.uri = post.uri ∧ view.author = d.profile author := by
  obtain ⟨value, -, hview⟩ := Option.bind_eq_some_iff.1 h
  cases hview
  exact ⟨rfl, rfl⟩

/-- The only list that a profile names is the one through which the account is muted. -/
theorem mutedByList_of_profile {viewer : ProfileViewer} {summary : ListSummary}
    (hviewer : (d.profile actor).viewer = some viewer) (hlist : viewer.mutedByList = some summary) :
    ∃ list, actor.mutedByList = some list ∧ summary = d.listSummary list := by
  obtain ⟨r, -, rfl⟩ := Option.map_eq_some_iff.1 hviewer
  obtain ⟨list, hlist, hsummary⟩ := Option.map_eq_some_iff.1 hlist
  exact ⟨list, hlist, hsummary.symm⟩

/-- The author of a hidden record names no list. -/
theorem mutedByList_of_blockedAuthor {did : Did} {actor : Option Actor} {viewer : ProfileViewer}
    (hviewer : (blockedAuthor did actor).viewer = some viewer) : viewer.mutedByList = none := by
  obtain ⟨r, -, rfl⟩ := Option.map_eq_some_iff.1 hviewer
  rfl

end Display

end FeedHydration

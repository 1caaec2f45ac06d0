/-!
Header fields of a message. A name may have several values; names are compared without case.
-/

namespace FeedHydration

/-- A header name in lower case. -/
structure HeaderName where
  text : String
deriving DecidableEq

namespace HeaderName

def ofString (s : String) : HeaderName :=
  ⟨s.map Char.toLower⟩

def accept : HeaderName := ⟨"accept"⟩

def acceptLanguage : HeaderName := ⟨"accept-language"⟩

def authorization : HeaderName := ⟨"authorization"⟩

def contentLanguage : HeaderName := ⟨"content-language"⟩

def serverTiming : HeaderName := ⟨"server-timing"⟩

/-- Topics that a client is interested in. -/
def topics : HeaderName := ⟨"x-bsky-topics"⟩

end HeaderName

/-- Header fields in the order in which they were added. -/
structure Headers where
  fields : List (HeaderName × String)
deriving DecidableEq

namespace Headers

def empty : Headers := ⟨[]⟩

/-- The values of a name, in their order. -/
def values (headers : Headers) (name : HeaderName) : List String :=
  (headers.fields.filter (·.1 = name)).map (·.2)

def first? (headers : Headers) (name : HeaderName) : Option String :=
  (headers.values name).head?

def append (headers : Headers) (name : HeaderName) (value : String) : Headers :=
  ⟨headers.fields ++ [(name, value)]⟩

def ofList (fields : List (String × String)) : Headers :=
  ⟨fields.map fun field => (HeaderName.ofString field.1, field.2)⟩

/-- The fields of some names, name by name; a name given twice is taken twice. -/
def select (headers : Headers) (names : List HeaderName) : Headers :=
  ⟨names.flatMap fun name => (headers.values name).map (name, ·)⟩

/-- Adds fields; their names lose the values they had before. -/
def override (headers added : Headers) : Headers :=
  ⟨headers.fields.filter (fun field => !added.fields.any (·.1 = field.1)) ++ added.fields⟩

end Headers

end FeedHydration

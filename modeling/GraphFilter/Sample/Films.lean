import GraphFilter.Graph.Entity

/-!
# `GraphFilter.Sample.Films` — a small graph of films

Two directors, two actors and three films, with who directed what and who acted where.
-/

namespace GraphFilter.Sample

/-- A person with a name and a year of birth. -/
def person (id : EntityId) (labels : List String) (name : String) (born : Int64) : Node where
  id := id
  labels := labels
  properties := .ofList [("name", .string name), ("born", .int born)]

/-- A film with its title, year and rating. -/
def film (id : EntityId) (title : String) (released : Int64) (rating : Float) : Node where
  id := id
  labels := ["Movie"]
  properties :=
    .ofList [("title", .string title), ("released", .int released), ("rating", .float rating)]

/-- A person directed a film. -/
def directed (id source target : EntityId) : Edge :=
  { id := id, type := "DIRECTED", source := source, target := target }

/-- A person acted in a film. -/
def actedIn (id source target : EntityId) (role : String) : Edge :=
  { id := id, type := "ACTED_IN", source := source, target := target,
    properties := .ofList [("role", .string role)] }

/-- The graph of films. -/
def films : Graph where
  nodes :=
    [ person 1 ["Person", "Director"] "Ridley Scott" 1937,
      person 2 ["Person"] "Sigourney Weaver" 1949,
      film 3 "Alien" 1979 8.5,
      film 4 "Blade Runner" 1982 8.1,
      person 5 ["Person"] "Harrison Ford" 1942,
      person 6 ["Person", "Director"] "James Cameron" 1954,
      film 7 "Aliens" 1986 8.4 ]
  edges :=
    [ directed 100 1 3,
      directed 101 1 4,
      actedIn 102 2 3 "Ripley",
      actedIn 103 5 4 "Deckard",
      directed 104 6 7,
      actedIn 105 2 7 "Ripley" ]

end GraphFilter.Sample

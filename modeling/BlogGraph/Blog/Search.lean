import BlogGraph.Store.Basic
import BlogGraph.Text.Lowercase
import BlogGraph.Text.Substring

/-!
# Search

A search text matches a value when it occurs in it, case aside. Users are searched by name,
posts by title and by body. An absent or empty search text finds everything.

This is `matches_query`.
-/

namespace BlogGraph

/-- The search text occurs in the value, case aside. -/
def matchesQuery (value query : String) : Bool :=
  Text.occursIn (Text.lower query.toList) (Text.lower value.toList)

/-- What is searched for: nothing in particular, or a text that is not empty. -/
def searchText : Option String → Option String
  | some "" => none
  | query => query

namespace Store

/-- The users whose name matches, oldest first. -/
def searchUsers (s : Store) (query : Option String) : List User :=
  match searchText query with
  | none => s.users.toList
  | some q => s.users.filter fun u => matchesQuery u.name q

/-- The posts whose title or body matches, published or not, oldest first. -/
def searchPosts (s : Store) (query : Option String) : List Post :=
  match searchText query with
  | none => s.posts.toList
  | some q => s.posts.filter fun p => matchesQuery p.title q || matchesQuery p.body q

end Store
end BlogGraph

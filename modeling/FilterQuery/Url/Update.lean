import FilterQuery.Url.Basic

namespace FilterQuery.Url

/-- Blanks at the end of a path without a root only stand before a query or a fragment. -/
def trimPath (u : Url) : Url :=
  if u.isHierarchical || u.query.isSome || u.fragment.isSome then u
  else { u with path := (u.path.reverse.dropWhile (· == ' ')).reverse }

def removeQuery (u : Url) : Url := trimPath { u with query := none }

def removeFragment (u : Url) : Url := trimPath { u with fragment := none }

def addParameter (u : Url) (name value : String) : Url :=
  let added := formEncode name.toList ++ '=' :: formEncode value.toList
  let query :=
    match u.query with
    | none | some [] => added
    | some before => before ++ '&' :: added
  { u with query := some query }

end FilterQuery.Url

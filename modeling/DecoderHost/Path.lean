/-!
File-system paths as text, with the slash as separator.
-/

namespace DecoderHost.Path

/-- Does the path start at the root? -/
def isAbsolute (path : String) : Bool := path.startsWith "/"

/-- A relative path below a base: an empty base adds nothing, and a base that ends in a slash needs no
further one. -/
def join (base path : String) : String :=
  if isAbsolute path || base.isEmpty then path
  else if base.endsWith "/" then base ++ path
  else base ++ "/" ++ path

/-- The names between the slashes of a path; repeated slashes count once. -/
def components (path : String) : List String :=
  (path.splitOn "/").filter fun name => !name.isEmpty

end DecoderHost.Path

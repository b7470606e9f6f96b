import PullReview.Path
import PullReview.Text.Search

/-!
# Features and services

The feature a file belongs to and the service it implements, read off its path. A file named for
a role such as a service or a handler names its feature itself; otherwise the directory does,
unless it is one of those that hold everything.
-/

namespace PullReview

namespace Feature

def roles : List String := ["Service", "Controller", "Manager", "Handler"]

def generalDirectories : List String := ["src", "com", "org"]

def isJoint (c : Char) : Bool := c == '_' || c == '-'

/-- Joins the parts of a name that hyphens and underscores separate, each with its first character
in upper case. -/
def camel (s : String) : String :=
  let parts := Path.splitAt '_' (Text.replaceChar '-' '_' s).toList
  String.join (parts.map fun p => Text.upperFirst (String.ofList p))

/-- A stem without the role it ends in, or the role itself if nothing is left. -/
def ofRole (stem role : String) : String :=
  let cs := stem.toList
  let rest := Text.trimEndBy isJoint (cs.take (cs.length - role.length))
  if rest.isEmpty then role else camel (String.ofList rest)

/-- The feature that a file belongs to. -/
def ofPath (path : String) : String :=
  let stem := Path.stem path
  let lowered := Text.lower stem
  match roles.find? fun role => lowered.endsWith (Text.lower role) with
  | some role => ofRole stem role
  | none =>
      let parent := Path.parentName path
      if parent != "" && !generalDirectories.contains parent then Text.upperFirst parent
      else if stem == "" then "Unknown"
      else stem

end Feature

/-- The name of the service a file implements: a path that mentions a service names it by its
stem. -/
def serviceName? (path : String) : Option String :=
  if Text.occursIn "service" (Text.lower path) then some (Path.stem path) else none

end PullReview

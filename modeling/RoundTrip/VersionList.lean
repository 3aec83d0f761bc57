import RoundTrip.Failure
import RoundTrip.Text.Blank
import RoundTrip.Text.Search

/-!
# Accepted versions

A list of the versions of a tool that may be used, the most preferred first. An installed tool
shows its version in its name (`namesOf`) or in what it prints about itself, its banner
(`mentions`). A banner mentions a version where the word `version`, a blank and the version stand
in it and no digit follows, so `version 3.81` does not mention `3.8`.
-/

namespace RoundTrip

/-- The accepted versions of a tool, the most preferred first. -/
structure VersionList where
  /-- The versions. -/
  versions : List String
  deriving DecidableEq, Inhabited

namespace VersionList

/-- The list of some versions, of which there is at least one and none is blank. -/
def ofList (versions : List String) : Attempt VersionList :=
  if versions.isEmpty || versions.any (·.toList.all isBlank) then
    .error (.invalidSettings .noVersion)
  else .ok ⟨versions⟩

/-- The names of a tool that show a version, the preferred one first: with a hyphen in front of the
version, and with the version without its points. -/
def namesOf (tool version : String) : List String :=
  [tool ++ "-" ++ version, tool ++ String.ofList (version.toList.filter (· != '.'))]

/-- Whether a banner mentions a version. -/
def mentions (banner version : String) : Bool :=
  (Text.afterEach ("version ".toList ++ version.toList) banner.toList).any fun rest =>
    match rest with
    | c :: _ => !c.isDigit
    | [] => true

/-- The first accepted version that a banner mentions. -/
def mentionedIn (accepted : VersionList) (banner : String) : Option String :=
  accepted.versions.find? (mentions banner)

end VersionList

end RoundTrip

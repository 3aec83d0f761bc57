import RoundTrip.Installed
import RoundTrip.VersionList

/-!
# Finding installed tools

A tool is looked for in a list of directories. The accepted versions are tried in their order: a
program whose name shows the version is taken first, and then a program with the plain name whose
banner mentions the version. Only the first program with the plain name is asked for its banner,
and only once.
-/

namespace RoundTrip

/-- Where tools are looked for. -/
structure Resolver where
  /-- The directories, the first of which wins. -/
  dirs : List Path
  /-- For how many milliseconds a tool may think about its version. -/
  queryLimit : Nat
  deriving DecidableEq, Inhabited

namespace Resolver

/-- The limit of a query if no other is set: ten seconds. -/
def defaultQueryLimit : Nat := 10000

/-- Cuts a search path at its colons. -/
def cutSearchPath : Bytes → List Path
  | [] => [⟨[]⟩]
  | b :: rest =>
    match cutSearchPath rest with
    | [] => []
    | p :: paths => if b = 0x3A then ⟨[]⟩ :: p :: paths else ⟨b :: p.bytes⟩ :: paths

/-- The resolver that settings ask for, where the search path is used if they name no
directories. -/
def ofSettings (s : Settings) (searchPath : Option Bytes) : Resolver where
  dirs :=
    if s.toolDirs.isEmpty then (searchPath.map cutSearchPath).getD [] else s.toolDirs
  queryLimit := (s.timeout?.map (·.toNat * 1000)).getD defaultQueryLimit

/-- The first program of a name. -/
def find? (r : Resolver) (files : FileTree) (name : String) : Option Path :=
  (r.dirs.map (·.join (.ofText name))).find? files.isExecutable

variable {μ : Type}

/-- What the program at a path prints about its version. -/
def banner (r : Resolver) (host : Host μ) (program : Path) : Tool μ (Option String) := do
  match ← host.query program r.queryLimit with
  | .failed => pure none
  | .overran =>
    Act.emit (.queryTimedOut program (r.queryLimit / 1000))
    pure none
  | .printed out err => pure (some (Utf8.lossy out ++ Utf8.lossy err))

/-- The first program with the plain name of a tool and the first accepted version that its banner
mentions, if it mentions one. -/
def plain (r : Resolver) (host : Host μ) (tool : String) (accepted : VersionList) :
    Tool μ (Option (Path × String)) := do
  match r.find? (← Act.see World.files) tool with
  | none => pure none
  | some program =>
    match ← r.banner host program with
    | none => pure none
    | some text => pure ((accepted.mentionedIn text).map fun version => (program, version))

/-- The program to use for some accepted versions, with its version and whether its name shows
it. -/
def choose (r : Resolver) (files : FileTree) (tool : String) (plain : Option (Path × String)) :
    List String → Option (Path × String × Bool)
  | [] => none
  | version :: rest =>
    match (VersionList.namesOf tool version).findSome? (r.find? files) with
    | some path => some (path, version, true)
    | none =>
      match plain with
      | some (path, mentioned) =>
        if mentioned = version then some (path, version, false) else choose r files tool plain rest
      | none => choose r files tool plain rest

/-- The program to use for a tool. -/
def resolve (r : Resolver) (host : Host μ) (tool : String) (accepted : VersionList) :
    Tool μ (Attempt Path) := do
  let plain ← r.plain host tool accepted
  match r.choose (← Act.see World.files) tool plain accepted.versions with
  | some (path, version, byName) =>
    Act.emit (.resolved tool version path byName)
    pure (.ok path)
  | none => pure (.error (.toolNotFound tool accepted.versions))

/-- The installed assembler. -/
def assembler (r : Resolver) (host : Host μ) (accepted : VersionList) (s : Settings) :
    Tool μ (Attempt Installed) := do
  return (← r.resolve host assemblerName accepted).map (Installed.assembler · s)

/-- The installed interpreter. -/
def interpreter (r : Resolver) (host : Host μ) (accepted : VersionList) (s : Settings) :
    Tool μ (Attempt Installed) := do
  return (← r.resolve host interpreterName accepted).map (Installed.interpreter · s)

end Resolver

end RoundTrip

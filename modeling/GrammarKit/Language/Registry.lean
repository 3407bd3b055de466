import GrammarKit.Descriptor.Printer
import GrammarKit.Language.Rao

/-!
# The registry of languages

A language is registered under a name together with the name of the module that describes it. The
module is loaded when it is first needed and is kept until the language is registered again.
-/

namespace GrammarKit

structure LanguageModule where
  isPackage : Bool := false
  header : Header := .empty
  /-- Its descriptor for given modes; missing if the module cannot build one. -/
  build? : Option (Primitives → Except DescriptorError Descriptor) := none

def Rao.languageModule : LanguageModule where
  header := .ofList [("Language".toList, .text "rao".toList)]
  build? := some fun p => (Rao.spec p).build

structure Registry where
  /-- What a module name stands for, latest first. -/
  modules : List (Text × LanguageModule)
  languages : OrderedMap Text Text
  /-- The modules that have been loaded, by language. -/
  loaded : List (Text × LanguageModule)

/-- Why the registry does not answer. -/
inductive RegistryError where
  /-- The language is not registered. -/
  | unknownLanguage (name : Text) (available : List Text)
  /-- There is no such module. -/
  | noModule (name : Text)
  /-- A module cannot stand in one that is no package. -/
  | notInPackage (name outer : Text)
  /-- A module name has more points in front than there are packages to leave. -/
  | beyondTop
  /-- A module name is empty. -/
  | emptyName
  | noBuilder (name : Text)
  | descriptor (cause : DescriptorError)
  deriving DecidableEq, Repr

def RegistryError.message : RegistryError → Text
  | .unknownLanguage name available =>
    "Unknown language '".toList ++ name ++ "'. Available: ".toList ++
      (if available.isEmpty then "(none)".toList else Text.join ", ".toList available)
  | .noModule name => "No module named ".toList ++ Text.quoted name
  | .notInPackage name outer => "No module named ".toList ++ Text.quoted name ++ "; ".toList ++
      Text.quoted outer ++ " is not a package".toList
  | .beyondTop => "attempted relative import beyond top-level package".toList
  | .emptyName => "Empty module name".toList
  | .noBuilder name => "Language module ".toList ++ name ++ " has no build_descriptor()".toList
  | .descriptor cause => cause.message

namespace Registry

/-- The packages around the modules with names that start with one point, the outermost first. -/
def ownPackages : List Text := ["lexdesc".toList, "languages".toList]

def joined (parts : List Text) : Text := Text.join ['.'] parts

/-- A module name in full. Each point in front of it after the first leads out of one package. -/
def fullName (name : Text) : Except RegistryError Text :=
  let level := (name.takeWhile (· = '.')).length
  let inner := name.drop level
  if name.isEmpty then .error .emptyName
  else if level = 0 then .ok name
  else if ownPackages.length < level then .error .beyondTop
  else .ok (joined (ownPackages.take (ownPackages.length + 1 - level) ++
    if inner.isEmpty then [] else [inner]))

/-- The modules that are always there. -/
def ownModules : List (Text × LanguageModule) :=
  [(joined ["lexdesc".toList, "languages".toList, "rao".toList], Rao.languageModule),
    (joined ["lexdesc".toList, "languages".toList], { isPackage := true }),
    (joined ["lexdesc".toList], { isPackage := true })]

/-- The registry as it is at first: with the language rao, which is not loaded. -/
def initial : Registry where
  modules := ownModules
  languages := .ofList [("rao".toList, ".rao".toList)]
  loaded := []

def define (r : Registry) (name : Text) (m : LanguageModule) : Registry :=
  { r with modules := (name, m) :: r.modules }

/-- Registers a language, anew if it is there already. -/
def register (r : Registry) (name module : Text) : Registry :=
  { r with
    languages := r.languages.insert name module
    loaded := r.loaded.filter (·.1 != name) }

/-- The registered languages, sorted. -/
def list (r : Registry) : List Text := Text.sorted r.languages.keys

/-- The module whose name has the given parts, the last one first. What it stands in is looked for
before it is missed. -/
def findParts (r : Registry) : List Text → Except RegistryError LanguageModule
  | [] => .error .emptyName
  | part :: outer =>
    let name := joined (part :: outer).reverse
    match r.modules.lookup name with
    | some m => .ok m
    | none =>
      let outerName := joined outer.reverse
      if outerName.isEmpty then .error (.noModule name)
      else match findParts r outer with
        | .error e => .error e
        | .ok m => .error (if m.isPackage then .noModule name else .notInPackage name outerName)

def find (r : Registry) (name : Text) : Except RegistryError LanguageModule := do
  r.findParts (Text.splitOn '.' (← fullName name)).reverse

/-- The module of a language, and the registry in which it is loaded. -/
def load (r : Registry) (name : Text) : Except RegistryError (LanguageModule × Registry) :=
  match r.loaded.lookup name with
  | some m => .ok (m, r)
  | none =>
    match r.languages.get? name with
    | none => .error (.unknownLanguage name r.list)
    | some module =>
      match r.find module with
      | .error e => .error e
      | .ok m =>
        if m.build?.isSome then .ok (m, { r with loaded := (name, m) :: r.loaded })
        else .error (.noBuilder module)

/-- The header of a language, which at least names it, and the registry afterwards. -/
def header (r : Registry) (name : Text) : Except RegistryError Header × Registry :=
  match r.load name with
  | .ok (m, later) => (.ok (m.header.insertIfNew "Language".toList (.text name)), later)
  | .error e => (.error e, r)

/-- The descriptor of a language, and the registry afterwards: a module whose descriptor cannot be
built stays loaded. -/
def descriptor (r : Registry) (name : Text) (p : Primitives := .engine) :
    Except RegistryError Descriptor × Registry :=
  match r.load name with
  | .error e => (.error e, r)
  | .ok (m, later) =>
    match m.build? with
    | none => (.error (.noBuilder name), later)
    | some build =>
      match build p with
      | .ok d => (.ok d, later)
      | .error e => (.error (.descriptor e), later)

end Registry
end GrammarKit

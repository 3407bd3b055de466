import GrammarKit.CommandLine.Run
import GrammarKit.Proofs.LookUps

/-!
# Requests to a registry

A registry has two memories: with which module each language was registered, and which modules have
been loaded. Every request for a language is answered from one module, the loaded one or the one that
is found now, and leaves this module loaded. No request touches the memories of other languages.
-/

namespace GrammarKit

namespace Registry

/-! ### Requests -/

/-- What a registry is asked for, or asked to remember. -/
inductive Request where
  | define (name : Text) (m : LanguageModule)
  | register (name module : Text)
  /-- The list of languages. -/
  | list
  | header (name : Text)
  | descriptor (name : Text) (primitives : Primitives)
  /-- A language as the source of a grammar or as data. -/
  | written (name : Text) (shorten asData : Bool)

inductive Answer where
  | done
  | languages (names : List Text)
  | header (result : Except RegistryError Header)
  | descriptor (result : Except RegistryError Descriptor)
  | written (result : Except RegistryError Text)

/-- The language that a request asks for, if it asks for one. -/
def Request.asks? : Request → Option Text
  | .header name => some name
  | .descriptor name _ => some name
  | .written name _ _ => some name
  | _ => none

/-- What module names stand for after a request, latest first. -/
def Request.modulesAfter (modules : List (Text × LanguageModule)) :
    Request → List (Text × LanguageModule)
  | .define name m => (name, m) :: modules
  | _ => modules

def Request.run (r : Registry) : Request → Answer × Registry
  | .define name m => (.done, r.define name m)
  | .register name module => (.done, r.register name module)
  | .list => (.languages r.list, r)
  | .header name => ((.header (r.header name).1), (r.header name).2)
  | .descriptor name p => ((.descriptor (r.descriptor name p).1), (r.descriptor name p).2)
  | .written name shorten asData =>
    ((.written (CommandLine.runExport r name shorten asData).2),
      (CommandLine.runExport r name shorten asData).1)

/-! ### Answers from a module -/

def headerFrom (name : Text) (m : LanguageModule) : Header :=
  m.header.insertIfNew "Language".toList (.text name)

def descriptorFrom (name : Text) (p : Primitives) (m : LanguageModule) :
    Except RegistryError Descriptor :=
  match m.build? with
  | none => .error (.noBuilder name)
  | some build => (build p).mapError .descriptor

def writtenFrom (name : Text) (shorten asData : Bool) (m : LanguageModule) :
    Except RegistryError Text :=
  (descriptorFrom name .engine m).map fun d =>
    if asData then (CommandLine.exportReport name (headerFrom name m) d).render
    else d.renderSource (headerFrom name m) (if shorten then some .standard else none)

/-- The answer to a request for a language, if `served` is its module or why there is none. -/
def Request.answerFrom (served : Except RegistryError LanguageModule) : Request → Answer
  | .header name => .header (served.map (headerFrom name))
  | .descriptor name p => .descriptor (served.bind (descriptorFrom name p))
  | .written name shorten asData => .written (served.bind (writtenFrom name shorten asData))
  | _ => .done

/-! ### Modules -/

theorem findParts_congr {r s : Registry} (h : r.modules = s.modules) (parts : List Text) :
    r.findParts parts = s.findParts parts := by
  induction parts with
  | nil => rfl
  | cons part outer ih => rw [findParts, findParts, h, ih]

theorem find_congr {r s : Registry} (h : r.modules = s.modules) (name : Text) :
    r.find name = s.find name := by
  unfold find
  cases fullName name with
  | error e => rfl
  | ok full => exact findParts_congr h _

/-- The module that a name stands for, if it describes a language. -/
def fetch (r : Registry) (module : Text) : Except RegistryError LanguageModule :=
  match r.find module with
  | .error e => .error e
  | .ok m => if m.build?.isSome then .ok m else .error (.noBuilder module)

theorem fetch_congr {r s : Registry} (h : r.modules = s.modules) (module : Text) :
    r.fetch module = s.fetch module := by
  rw [fetch, fetch, find_congr h]

/-! ### Loading -/

/-- The module from which a language is answered now, or why there is none. -/
def served (r : Registry) (name : Text) : Except RegistryError LanguageModule :=
  (r.load name).map (·.1)

/-- The registry once a language has been asked for. -/
def asked (r : Registry) (name : Text) : Registry :=
  match r.load name with
  | .ok (_, later) => later
  | .error _ => r

section

variable {r : Registry} {name : Text}

theorem load_of_loaded {m : LanguageModule} (h : r.loaded.lookup name = some m) :
    r.load name = .ok (m, r) := by
  unfold load
  rw [h]

theorem load_of_unknown (hloaded : r.loaded.lookup name = none)
    (hname : r.languages.get? name = none) :
    r.load name = .error (.unknownLanguage name r.list) := by
  unfold load
  rw [hloaded, hname]

theorem load_of_registered {module : Text} (hloaded : r.loaded.lookup name = none)
    (hname : r.languages.get? name = some module) :
    r.load name = (r.fetch module).map fun m => (m, { r with loaded := (name, m) :: r.loaded }) := by
  unfold load fetch
  rw [hloaded, hname]
  dsimp only
  cases r.find module with
  | error e => rfl
  | ok m =>
    dsimp only
    split <;> rfl

/-- A load changes nothing but the memory of loaded modules, and there only the entry of the
language, which is then what the language is answered from. -/
theorem asked_effect (r : Registry) (name : Text) :
    (r.asked name).modules = r.modules ∧ (r.asked name).languages = r.languages ∧
      (r.asked name).loaded.lookup name = (r.served name).toOption ∧
      ∀ other, other ≠ name → (r.asked name).loaded.lookup other = r.loaded.lookup other := by
  unfold asked served
  cases hloaded : r.loaded.lookup name with
  | some m =>
    rw [load_of_loaded hloaded]
    exact ⟨rfl, rfl, hloaded, fun _ _ => rfl⟩
  | none =>
    cases hname : r.languages.get? name with
    | none =>
      rw [load_of_unknown hloaded hname]
      exact ⟨rfl, rfl, hloaded, fun _ _ => rfl⟩
    | some module =>
      rw [load_of_registered hloaded hname]
      cases r.fetch module with
      | error e => exact ⟨rfl, rfl, hloaded, fun _ _ => rfl⟩
      | ok m =>
        refine ⟨rfl, rfl, List.lookup_cons_self, ?_⟩
        intro other hother
        have hb : (other == name) = false := by simpa using hother
        exact (List.lookup_cons).trans (by rw [hb])

theorem load_eq (r : Registry) (name : Text) :
    r.load name = (r.served name).map fun m => (m, r.asked name) := by
  unfold served asked
  cases r.load name <;> rfl

theorem asked_of_error {e : RegistryError} (h : r.served name = .error e) : r.asked name = r := by
  unfold served at h
  unfold asked
  cases hload : r.load name with
  | error _ => rfl
  | ok found =>
    rw [hload] at h
    cases h

theorem load_asked {m : LanguageModule} (h : r.served name = .ok m) :
    (r.asked name).load name = .ok (m, r.asked name) := by
  apply load_of_loaded
  rw [(r.asked_effect name).2.2.1, h]
  rfl

end

/-! ### What a request does -/

theorem header_eq (r : Registry) (name : Text) :
    r.header name = ((r.served name).map (headerFrom name), r.asked name) := by
  unfold header
  rw [load_eq]
  cases hserved : r.served name with
  | error e =>
    rw [asked_of_error hserved]
    rfl
  | ok m => rfl

theorem descriptor_eq (r : Registry) (name : Text) (p : Primitives) :
    r.descriptor name p = ((r.served name).bind (descriptorFrom name p), r.asked name) := by
  unfold descriptor
  rw [load_eq]
  cases hserved : r.served name with
  | error e =>
    rw [asked_of_error hserved]
    rfl
  | ok m =>
    simp only [Except.map, Except.bind, descriptorFrom]
    cases m.build? with
    | none => rfl
    | some build =>
      dsimp only
      cases build p <;> rfl

/-- The two loads behind a written language give the same module. -/
theorem runExport_eq (r : Registry) (name : Text) (shorten asData : Bool) :
    CommandLine.runExport r name shorten asData =
      (r.asked name, (r.served name).bind (writtenFrom name shorten asData)) := by
  unfold CommandLine.runExport
  rw [descriptor_eq]
  cases hserved : r.served name with
  | error e => rfl
  | ok m =>
    have hagain : (r.asked name).header name = (.ok (headerFrom name m), r.asked name) := by
      unfold header
      rw [load_asked hserved]
      rfl
    simp only [Except.bind, writtenFrom]
    cases descriptorFrom name .engine m with
    | error e => rfl
    | ok d =>
      simp only [hagain, Except.map]

/-- A request for a language is answered from its module, and loads it. -/
theorem run_of_asks {q : Request} {name : Text} (h : q.asks? = some name) (r : Registry) :
    q.run r = (q.answerFrom (r.served name), r.asked name) := by
  cases q with
  | define name m => cases h
  | register name module => cases h
  | list => cases h
  | header other =>
    obtain rfl := Option.some.inj h
    rw [Request.run, header_eq]
    rfl
  | descriptor other p =>
    obtain rfl := Option.some.inj h
    rw [Request.run, descriptor_eq]
    rfl
  | written other shorten asData =>
    obtain rfl := Option.some.inj h
    rw [Request.run, runExport_eq]
    rfl

/-- What any request does to the two memories of one language. -/
theorem run_effect (q : Request) (r : Registry) (name : Text) :
    (∀ module, q = .register name module →
      (q.run r).2.languages.get? name = some module ∧ (q.run r).2.loaded.lookup name = none) ∧
    ((∀ module, q ≠ .register name module) →
      (q.run r).2.languages.get? name = r.languages.get? name ∧
      (q.run r).2.loaded.lookup name =
        if q.asks? = some name then (r.served name).toOption else r.loaded.lookup name) := by
  cases hasks : q.asks? with
  | some asked =>
    obtain ⟨-, hlanguages, hself, hothers⟩ := r.asked_effect asked
    rw [run_of_asks hasks]
    refine ⟨?_, ?_⟩
    · rintro module rfl
      cases hasks
    · intro _
      refine ⟨by rw [hlanguages], ?_⟩
      by_cases hname : asked = name
      · rw [if_pos (congrArg some hname), ← hname]
        exact hself
      · rw [if_neg fun h => hname (Option.some.inj h)]
        exact hothers name fun h => hname h.symm
  | none =>
    cases q with
    | define other m => exact ⟨fun _ h => (by cases h), fun _ => ⟨rfl, rfl⟩⟩
    | list => exact ⟨fun _ h => (by cases h), fun _ => ⟨rfl, rfl⟩⟩
    | header other => cases hasks
    | descriptor other p => cases hasks
    | written other shorten asData => cases hasks
    | register other module =>
      have hget : ((Request.register other module).run r).2.languages.get? name =
          if name = other then some module else r.languages.get? name :=
        OrderedMap.get?_insert r.languages other name module
      refine ⟨?_, ?_⟩
      · intro given h
        obtain ⟨rfl, rfl⟩ := Request.register.inj h
        exact ⟨by rw [hget, if_pos rfl], lookup_filter_self _ _⟩
      · intro hother
        have hne : name ≠ other := by
          rintro rfl
          exact hother module rfl
        exact ⟨by rw [hget, if_neg hne], lookup_filter_of_ne hne _⟩

theorem modules_run (q : Request) (r : Registry) : (q.run r).2.modules = q.modulesAfter r.modules := by
  cases hasks : q.asks? with
  | some name =>
    rw [run_of_asks hasks]
    cases q with
    | define name m => cases hasks
    | register name module => cases hasks
    | list => cases hasks
    | header _ => exact (r.asked_effect name).1
    | descriptor _ _ => exact (r.asked_effect name).1
    | written _ _ _ => exact (r.asked_effect name).1
  | none =>
    cases q with
    | header _ => cases hasks
    | descriptor _ _ => cases hasks
    | written _ _ _ => cases hasks
    | define name m => rfl
    | register name module => rfl
    | list => rfl

end Registry
end GrammarKit

import GrammarKit.Proofs.RegistryRequests
import GrammarKit.Proofs.Sorting
import Mathlib.Data.List.Induction

/-!
# What a registry answers after a history of requests

What a registry answers does not show its memories, only the history of requests: a language is
answered from the module of its latest registration, in the version that was there when the language
was first asked for with success since then.
-/

namespace GrammarKit

/-- An error without the list of languages that goes with an unknown one. -/
def RegistryError.withoutList : RegistryError → RegistryError
  | .unknownLanguage name _ => .unknownLanguage name []
  | e => e

namespace Registry

/-! ### Histories -/

/-- The registry after a history of requests, the earliest first. -/
def after (past : List Request) : Registry := past.foldl (fun r q => (q.run r).2) initial

theorem after_snoc (past : List Request) (q : Request) :
    after (past ++ [q]) = (q.run (after past)).2 := by
  rw [after, List.foldl_append]
  rfl

/-- The request with which every registry starts. -/
def birth : Request := .register "rao".toList ".rao".toList

/-- Whether a language has ever been registered. -/
def Registered (past : List Request) (name : Text) : Prop :=
  ∃ module, .register name module ∈ birth :: past

/-- What module names stand for after a history, latest first. -/
def definitions (past : List Request) : List (Text × LanguageModule) :=
  past.foldl (fun modules q => q.modulesAfter modules) ownModules

/-- What is found under a module name after a history. -/
def fetchAfter (past : List Request) (module : Text) : Except RegistryError LanguageModule :=
  fetch { modules := definitions past, languages := .empty, loaded := [] } module

/-- The module that the first of the later requests for a language finds, if one finds any. -/
def firstFetched (name module : Text) : List Request → List Request → Option LanguageModule
  | _, [] => none
  | past, q :: later =>
    if q.asks? = some name then
      match fetchAfter past module with
      | .ok m => some m
      | .error _ => firstFetched name module (past ++ [q]) later
    else firstFetched name module (past ++ [q]) later

/-- The module from which a language is answered that was registered at the end of a history: what
was first found since then, or what is found now. -/
def answering (name module : Text) (past later : List Request) :
    Except RegistryError LanguageModule :=
  match firstFetched name module past later with
  | some m => .ok m
  | none => fetchAfter (past ++ later) module

theorem firstFetched_snoc (name module : Text) (past later : List Request) (q : Request) :
    firstFetched name module past (later ++ [q]) =
      if q.asks? = some name then (answering name module past later).toOption
      else firstFetched name module past later := by
  unfold answering
  induction later generalizing past with
  | nil =>
    rw [List.nil_append, firstFetched, firstFetched, firstFetched, List.append_nil]
    cases fetchAfter past module <;> rfl
  | cons first later ih =>
    have hrest := ih (past ++ [first])
    rw [List.append_assoc, List.singleton_append] at hrest
    rw [List.cons_append, firstFetched, firstFetched, hrest]
    by_cases hfirst : first.asks? = some name
    · rw [if_pos hfirst, if_pos hfirst]
      cases fetchAfter past module with
      | error e => rfl
      | ok m =>
        dsimp only
        split <;> rfl
    · rw [if_neg hfirst, if_neg hfirst]

theorem registered_snoc {past : List Request} {q : Request} {name : Text} :
    Registered (past ++ [q]) name ↔ Registered past name ∨ ∃ module, q = .register name module := by
  unfold Registered
  simp only [← List.cons_append, List.mem_append, List.mem_singleton, exists_or, eq_comm]

theorem definitions_snoc (past : List Request) (q : Request) :
    definitions (past ++ [q]) = q.modulesAfter (definitions past) := by
  rw [definitions, List.foldl_append]
  rfl

/-- The memories of a registry are those that the history behind it calls for. -/
structure Faithful (past : List Request) (r : Registry) : Prop where
  modules : r.modules = definitions past
  unknown : ∀ name, ¬ Registered past name →
    r.languages.get? name = none ∧ r.loaded.lookup name = none
  known : ∀ name, Registered past name → ∃ front module later,
    birth :: past = front ++ .register name module :: later ∧
    (∀ other, .register name other ∉ later) ∧
    r.languages.get? name = some module ∧
    r.loaded.lookup name = firstFetched name module (front ++ [.register name module]) later

theorem faithful_initial : Faithful [] initial := by
  refine ⟨rfl, ?_, ?_⟩
  · intro name hname
    refine ⟨?_, rfl⟩
    have hne : name ≠ "rao".toList := by
      rintro rfl
      exact hname ⟨_, List.mem_cons_self⟩
    exact (OrderedMap.get?_insert _ _ _ _).trans (if_neg hne)
  · rintro name ⟨module, hmem⟩
    obtain ⟨rfl, rfl⟩ := Request.register.inj (List.mem_singleton.1 hmem)
    exact ⟨[], _, [], rfl, by simp, rfl, rfl⟩

/-- The module that answers for a language is the one that the history calls for. -/
theorem Faithful.served_eq {past front later : List Request} {r : Registry} {name module : Text}
    (h : Faithful past r) (hsplit : birth :: past = front ++ .register name module :: later)
    (hname : r.languages.get? name = some module)
    (hloaded : r.loaded.lookup name =
      firstFetched name module (front ++ [.register name module]) later) :
    r.served name = answering name module (front ++ [.register name module]) later := by
  have hpast : definitions (front ++ [.register name module] ++ later) = definitions past := by
    rw [List.append_assoc, List.singleton_append, ← hsplit]
    rfl
  unfold answering
  cases hfirst : firstFetched name module (front ++ [.register name module]) later with
  | some m =>
    rw [hfirst] at hloaded
    rw [served, load_of_loaded hloaded]
    rfl
  | none =>
    rw [hfirst] at hloaded
    have hfetch : r.fetch module = fetchAfter (front ++ [.register name module] ++ later) module := by
      apply fetch_congr
      rw [h.modules, ← hpast]
    rw [served, load_of_registered hloaded hname, hfetch]
    cases fetchAfter (front ++ [.register name module] ++ later) module <;> rfl

theorem Faithful.run {past : List Request} {r : Registry} (h : Faithful past r) (q : Request) :
    Faithful (past ++ [q]) (q.run r).2 := by
  refine ⟨?_, ?_, ?_⟩
  · rw [modules_run, definitions_snoc, h.modules]
  · intro name hname
    rw [registered_snoc, not_or, not_exists] at hname
    obtain ⟨hpast, hq⟩ := hname
    obtain ⟨hlanguages, hloaded⟩ := h.unknown name hpast
    obtain ⟨hget, hlookup⟩ := (run_effect q r name).2 hq
    rw [hget, hlookup]
    refine ⟨hlanguages, ?_⟩
    split
    · rw [served, load_of_unknown hloaded hlanguages]
      rfl
    · exact hloaded
  · intro name hname
    by_cases hq : ∃ module, q = .register name module
    · obtain ⟨module, rfl⟩ := hq
      obtain ⟨hget, hlookup⟩ := (run_effect (.register name module) r name).1 module rfl
      exact ⟨birth :: past, module, [], rfl, by simp, hget, hlookup⟩
    · have hpast : Registered past name := (registered_snoc.1 hname).resolve_right hq
      obtain ⟨front, module, later, hsplit, hlatest, hlanguages, hloaded⟩ := h.known name hpast
      have hother : ∀ module, q ≠ .register name module := fun module he => hq ⟨module, he⟩
      obtain ⟨hget, hlookup⟩ := (run_effect q r name).2 hother
      refine ⟨front, module, later ++ [q], ?_, ?_, by rw [hget, hlanguages], ?_⟩
      · rw [← List.cons_append, hsplit, List.append_assoc, List.cons_append]
      · intro other hmem
        rcases List.mem_append.1 hmem with hmem | hmem
        · exact hlatest other hmem
        · exact hother other (List.mem_singleton.1 hmem).symm
      · rw [hlookup, firstFetched_snoc, h.served_eq hsplit hlanguages hloaded, hloaded]

theorem faithful_after (past : List Request) : Faithful past (after past) := by
  induction past using List.reverseRecOn with
  | nil => exact faithful_initial
  | append_singleton past q ih =>
    rw [after_snoc]
    exact ih.run q

theorem mem_list_after (past : List Request) (name : Text) :
    name ∈ (after past).list ↔ Registered past name := by
  have h := faithful_after past
  rw [list, Text.mem_sorted, OrderedMap.mem_keys_iff]
  by_cases hname : Registered past name
  · obtain ⟨front, module, later, -, -, hget, -⟩ := h.known name hname
    simp [hname, hget]
  · simp [hname, (h.unknown name hname).1]

/-! ### Requests that make no difference -/

/-- An answer without the list of languages that goes with an unknown one. -/
def Answer.withoutList : Answer → Answer
  | .header result => .header (result.mapError .withoutList)
  | .descriptor result => .descriptor (result.mapError .withoutList)
  | .written result => .written (result.mapError .withoutList)
  | answer => answer

/-- Two registries are alike as far as one language is concerned. -/
structure Alike (name : Text) (r s : Registry) : Prop where
  modules : r.modules = s.modules
  languages : r.languages.get? name = s.languages.get? name
  loaded : r.loaded.lookup name = s.loaded.lookup name

/-- A request that leaves a language alone: for the list, for a language that cannot be loaded, or
the registration of another language or a request for it. -/
inductive Idle (name : Text) (r : Registry) : Request → Prop where
  | list : Idle name r .list
  | failed {q : Request} {other : Text} {e : RegistryError} (hasks : q.asks? = some other)
    (hload : r.load other = .error e) : Idle name r q
  | registration {other module : Text} (hother : other ≠ name) :
    Idle name r (.register other module)
  | query {q : Request} {other : Text} (hother : other ≠ name) (hasks : q.asks? = some other) :
    Idle name r q

/-- A history from a registry on, and what is left of it once some requests that leave a language
alone are left out. -/
inductive Omits (name : Text) : Registry → List Request → List Request → Prop where
  | nil {r : Registry} : Omits name r [] []
  | keep {r : Registry} {later kept : List Request} (q : Request)
    (hlater : Omits name (q.run r).2 later kept) : Omits name r (q :: later) (q :: kept)
  | drop {r : Registry} {later kept : List Request} {q : Request} (hidle : Idle name r q)
    (hlater : Omits name (q.run r).2 later kept) : Omits name r (q :: later) kept

section

variable {name : Text} {r s : Registry}

theorem Alike.trans {t : Registry} (h : Alike name r s) (h' : Alike name s t) : Alike name r t :=
  ⟨h.modules.trans h'.modules, h.languages.trans h'.languages, h.loaded.trans h'.loaded⟩

theorem Alike.served (h : Alike name r s) :
    (r.served name).mapError RegistryError.withoutList =
      (s.served name).mapError RegistryError.withoutList := by
  unfold Registry.served
  cases hloaded : s.loaded.lookup name with
  | some m =>
    rw [load_of_loaded hloaded, load_of_loaded (h.loaded.trans hloaded)]
    rfl
  | none =>
    have hloaded' := h.loaded.trans hloaded
    cases hname : s.languages.get? name with
    | none =>
      rw [load_of_unknown hloaded hname, load_of_unknown hloaded' (h.languages.trans hname)]
      rfl
    | some module =>
      rw [load_of_registered hloaded hname, load_of_registered hloaded' (h.languages.trans hname),
        fetch_congr h.modules]
      cases s.fetch module <;> rfl

theorem Alike.toOption_served (h : Alike name r s) :
    (r.served name).toOption = (s.served name).toOption := by
  have hserved := h.served
  revert hserved
  cases r.served name <;> cases s.served name <;> simp [Except.mapError, Except.toOption]

theorem Alike.run (h : Alike name r s) (q : Request) : Alike name (q.run r).2 (q.run s).2 := by
  refine ⟨by rw [modules_run, modules_run, h.modules], ?_, ?_⟩
  · by_cases hq : ∃ module, q = .register name module
    · obtain ⟨module, hq⟩ := hq
      rw [((run_effect q r name).1 module hq).1, ((run_effect q s name).1 module hq).1]
    · have hother : ∀ module, q ≠ .register name module := fun module he => hq ⟨module, he⟩
      rw [((run_effect q r name).2 hother).1, ((run_effect q s name).2 hother).1, h.languages]
  · by_cases hq : ∃ module, q = .register name module
    · obtain ⟨module, hq⟩ := hq
      rw [((run_effect q r name).1 module hq).2, ((run_effect q s name).1 module hq).2]
    · have hother : ∀ module, q ≠ .register name module := fun module he => hq ⟨module, he⟩
      rw [((run_effect q r name).2 hother).2, ((run_effect q s name).2 hother).2,
        h.toOption_served, h.loaded]

theorem alike_of_idle {q : Request} (h : Idle name r q) : Alike name (q.run r).2 r := by
  cases h with
  | list => exact ⟨rfl, rfl, rfl⟩
  | @failed q other e hasks hload =>
    have hserved : r.served other = .error e := congrArg (Except.map Prod.fst) hload
    rw [run_of_asks hasks, asked_of_error hserved]
    exact ⟨rfl, rfl, rfl⟩
  | @registration other module hother =>
    have hne : ∀ given, Request.register other module ≠ .register name given := by
      intro given he
      exact hother (Request.register.inj he).1
    obtain ⟨hget, hlookup⟩ := (run_effect (.register other module) r name).2 hne
    exact ⟨rfl, hget, hlookup⟩
  | @query q other hother hasks =>
    obtain ⟨hmodules, hlanguages, -, hothers⟩ := r.asked_effect other
    rw [run_of_asks hasks]
    exact ⟨hmodules, by rw [hlanguages], hothers name fun he => hother he.symm⟩

theorem alike_of_omits {later kept : List Request} (homits : Omits name r later kept)
    (h : Alike name r s) :
    Alike name (later.foldl (fun r q => (q.run r).2) r) (kept.foldl (fun r q => (q.run r).2) s) := by
  induction homits generalizing s with
  | nil => exact h
  | keep q _ ih => exact ih (h.run q)
  | drop hidle _ ih => exact ih ((alike_of_idle hidle).trans h)

theorem answer_of_alike {q : Request} (h : Alike name r s) (hasks : q.asks? = some name) :
    (q.run r).1.withoutList = (q.run s).1.withoutList := by
  have hserved := h.served
  rw [run_of_asks hasks, run_of_asks hasks]
  cases hr : r.served name with
  | error e =>
    cases hs : s.served name with
    | ok m =>
      rw [hr, hs] at hserved
      cases hserved
    | error e' =>
      rw [hr, hs] at hserved
      have he : e.withoutList = e'.withoutList := Except.error.inj hserved
      cases q with
      | header _ => exact congrArg (fun e => Answer.header (.error e)) he
      | descriptor _ _ => exact congrArg (fun e => Answer.descriptor (.error e)) he
      | written _ _ _ => exact congrArg (fun e => Answer.written (.error e)) he
      | _ => rfl
  | ok m =>
    cases hs : s.served name with
    | error e =>
      rw [hr, hs] at hserved
      cases hserved
    | ok m' =>
      rw [hr, hs] at hserved
      rw [show m = m' from Except.ok.inj hserved]

end

/-- After any history the languages are those ever registered, in order, and a request for any other
name is told so. A registered language is answered from the module of its latest registration: from
what its name stood for when the language was first asked for with success since, or stands for now.
So requests that have nothing to do with a language may be left out. -/
theorem answers_of_history (past : List Request) :
    (∃ names, (Request.run (after past) .list).1 = .languages names ∧ names.Pairwise (· < ·) ∧
      (∀ name, name ∈ names ↔ Registered past name) ∧
      ∀ (name : Text) (q : Request), q.asks? = some name → ¬ Registered past name →
        (q.run (after past)).1 = q.answerFrom (.error (.unknownLanguage name names))) ∧
    (∀ name, Registered past name → ∃ front module later,
      birth :: past = front ++ .register name module :: later ∧
      (∀ other, .register name other ∉ later) ∧
      ∀ q : Request, q.asks? = some name → (q.run (after past)).1 =
        q.answerFrom (answering name module (front ++ [.register name module]) later)) ∧
    ∀ name kept, Omits name initial past kept → ∀ q : Request, q.asks? = some name →
      (q.run (after past)).1.withoutList = (q.run (after kept)).1.withoutList := by
  have hfaithful := faithful_after past
  refine ⟨⟨(after past).list, rfl, Text.pairwise_lt_sorted (after past).languages.nodup,
    mem_list_after past, ?_⟩, ?_, ?_⟩
  · intro name q hasks hname
    obtain ⟨hlanguages, hloaded⟩ := hfaithful.unknown name hname
    have hserved : (after past).served name = .error (.unknownLanguage name (after past).list) := by
      rw [Registry.served, load_of_unknown hloaded hlanguages]
      rfl
    rw [run_of_asks hasks, hserved]
  · intro name hname
    obtain ⟨front, module, later, hsplit, hlatest, hlanguages, hloaded⟩ := hfaithful.known name hname
    refine ⟨front, module, later, hsplit, hlatest, ?_⟩
    intro q hasks
    rw [run_of_asks hasks, hfaithful.served_eq hsplit hlanguages hloaded]
  · intro name kept homits q hasks
    exact answer_of_alike (alike_of_omits homits ⟨rfl, rfl, rfl⟩) hasks

def numberedModule (number : Char) : LanguageModule where
  header := .ofList [("Version".toList, .text [number])]
  build? := some fun p => (Rao.spec p).build

/-- A language whose module is changed after it has been asked for. -/
def sampleHistory : List Request :=
  [.define "m".toList (numberedModule '1'), .register "n".toList "m".toList, .list,
    .header "n".toList, .define "m".toList (numberedModule '2')]

/-- The history without its request for the list. -/
def shorterHistory : List Request :=
  [.define "m".toList (numberedModule '1'), .register "n".toList "m".toList,
    .header "n".toList, .define "m".toList (numberedModule '2')]

theorem answers_of_history_sampleHistory :
    ¬ Registered sampleHistory "x".toList ∧ Registered sampleHistory "n".toList ∧
    Omits "n".toList initial sampleHistory shorterHistory ∧
    (∃ names, (Request.run (after sampleHistory) .list).1 = .languages names ∧
      (Request.run (after sampleHistory) (.header "x".toList)).1 =
        .header (.error (.unknownLanguage "x".toList names))) ∧
    (∃ front module later,
      birth :: sampleHistory = front ++ .register "n".toList module :: later ∧
      (Request.run (after sampleHistory) (.header "n".toList)).1 = .header
        ((answering "n".toList module (front ++ [.register "n".toList module]) later).map
          (headerFrom "n".toList))) ∧
    (Request.run (after sampleHistory) (.header "n".toList)).1.withoutList =
      (Request.run (after shorterHistory) (.header "n".toList)).1.withoutList := by
  obtain ⟨⟨names, hlist, -, -, hunknown⟩, hknown, homits⟩ := answers_of_history sampleHistory
  have hx : ¬ Registered sampleHistory "x".toList := by
    rintro ⟨module, hmem⟩
    simp [birth, sampleHistory] at hmem
  have hn : Registered sampleHistory "n".toList := ⟨"m".toList, by simp [sampleHistory]⟩
  have hdrop : Omits "n".toList initial sampleHistory shorterHistory :=
    .keep _ (.keep _ (.drop .list (.keep _ (.keep _ .nil))))
  obtain ⟨front, module, later, hsplit, -, hanswer⟩ := hknown _ hn
  exact ⟨hx, hn, hdrop, ⟨names, hlist, hunknown _ (.header _) rfl hx⟩,
    ⟨front, module, later, hsplit, hanswer (.header _) rfl⟩, homits _ _ hdrop (.header _) rfl⟩

end Registry
end GrammarKit

import GrammarKit.Text.WordChar

/-!
# Arguments of commands

How a list of arguments is split into switches and words. A long switch may be cut short as long as
it is clear which one is meant, its value may follow an equals sign, and short switches may be written
together. Behind two dashes there are words only. The words have to stand together: those of a second
group, and switches that are not known, are left over.
-/

namespace GrammarKit.CommandLine

structure Switch (σ : Type) where
  id : σ
  /-- Its name, with two dashes. -/
  long : Text
  /-- Its name behind one dash. -/
  short? : Option Char := none
  takesValue : Bool := false
  final : Bool := false

def Switch.names {σ : Type} (s : Switch σ) : List Text :=
  s.long :: s.short?.toList.map fun c => ['-', c]

inductive Arity where
  | none
  | one
  | optional
  | any
  | some
  /-- One, and behind it the arguments of the command that it names. -/
  | command
  deriving DecidableEq, Repr

structure Grammar (σ : Type) where
  switches : List (Switch σ)
  arity : Arity
  required : List σ := []

/-- Why a command is not carried out. -/
inductive Stop (σ : Type) where
  | usage
  | final (id : σ)

inductive Item (σ : Type) where
  | word
  /-- The two dashes before words. -/
  | dashes
  /-- A switch under the name by which it was found, perhaps with a value. -/
  | switch (s : Switch σ) (name : Text) (value? : Option Text)
  /-- A switch that is not known. -/
  | unknown

/-- Whether an item is a word or stands before words. -/
def Item.isWordly {σ : Type} : Item σ → Bool
  | .word => true
  | .dashes => true
  | _ => false

abbrev Arg (σ : Type) := Text × Item σ

/-! ### Telling switches from words -/

/-- Digits, or digits behind a point and perhaps before it. -/
def isDecimalNumber (t : Text) : Bool :=
  match t.dropWhile Text.isDecimal with
  | [] => !t.isEmpty
  | '.' :: digits => !digits.isEmpty && digits.all Text.isDecimal
  | _ => false

/-- Negative numbers, which are words. A newline may end them. -/
def isNegativeNumber : Text → Bool
  | '-' :: rest => isDecimalNumber ((Text.dropEnd? ['\n'] rest).getD rest)
  | _ => false

namespace Grammar

variable {σ : Type} (g : Grammar σ)

def named : List (Text × Switch σ) := g.switches.flatMap fun s => s.names.map fun name => (name, s)

def withName? (name : Text) : Option (Switch σ) := (g.named.find? (·.1 = name)).map (·.2)

def longMatches (name : Text) (value? : Option Text) : List (Item σ) :=
  g.named.filterMap fun (full, s) =>
    if name.isPrefixOf full then some (.switch s full value?) else none

/-- The switches that an argument with one dash may mean: the letter behind the dash, with all that
follows for a value, or a name that starts like the argument. -/
def shortMatches (t : Text) : List (Item σ) :=
  g.named.filterMap fun (full, s) =>
    if full = t.take 2 then some (.switch s full (some (t.drop 2)))
    else if t.isPrefixOf full then some (.switch s full none)
    else none

/-- An argument cut at its first equals sign, if it has one. -/
def cutValue (t : Text) : Text × Option Text :=
  match Text.splitFirst ['='] t with
  | some (name, value) => (name, some value)
  | none => (t, none)

/-- What an argument that starts with a dash and is no full name of a switch is; nothing if that is
not clear. -/
def guess? (t : Text) : Option (Item σ) :=
  let (name, value?) := cutValue t
  match g.withName? name, value? with
  | some s, some value => some (.switch s name (some value))
  | _, _ =>
    match if ['-', '-'].isPrefixOf t then g.longMatches name value? else g.shortMatches t with
    | [item] => some item
    | [] => some (if isNegativeNumber t || t.contains ' ' then .word else .unknown)
    | _ => none

/-- What an argument before any two dashes is; nothing if that is not clear. -/
def item? (t : Text) : Option (Item σ) :=
  match g.withName? t with
  | some s => some (.switch s t none)
  | none =>
    match t with
    | '-' :: _ :: _ => g.guess? t
    | _ => some .word

/-- What the arguments are; nothing if one of them is not clear. -/
def classify? : List Text → Option (List (Arg σ))
  | [] => some []
  | t :: rest =>
    if t = ['-', '-'] then some ((t, .dashes) :: rest.map fun word => (word, .word))
    else do
      let item ← g.item? t
      let items ← classify? rest
      return (t, item) :: items

/-! ### Taking words -/

def wordsOf (args : List (Arg σ)) : List Text :=
  args.filterMap fun (t, item) =>
    match item with
    | .word => some t
    | _ => none

/-- The arguments without two dashes at their start. -/
def skipDashes : List (Arg σ) → List (Arg σ)
  | (_, .dashes) :: rest => rest
  | args => args

/-- The words that are taken from the start of arguments, and the arguments left; nothing if there
are none that fit. -/
def takeWords? (arity : Arity) (args : List (Arg σ)) : Option (List Text × List (Arg σ)) :=
  let run := args.takeWhile (·.2.isWordly)
  let left := args.dropWhile (·.2.isWordly)
  match arity with
  | .none => none
  | .any => some (wordsOf run, left)
  | .some => if (wordsOf run).isEmpty then none else some (wordsOf run, left)
  | .one =>
    match skipDashes args with
    | (t, .word) :: rest => some ([t], skipDashes rest)
    | _ => none
  | .optional =>
    match skipDashes args with
    | (t, .word) :: rest => some ([t], skipDashes rest)
    | rest => some ([], rest)
  | .command => if (wordsOf run).isEmpty then none else some (args.map (·.1), [])

/-- The words if none are given. -/
def noWords? : Arity → Option (List Text)
  | .one => none
  | .some => none
  | .command => none
  | _ => some []

end Grammar

/-! ### Reading -/

structure Reading (σ : Type) where
  /-- The switches with their values, the latest first. -/
  switches : List (σ × Text) := []
  /-- The words, once they have been taken. -/
  words? : Option (List Text) := none
  leftOver : Bool := false

namespace Reading

variable {σ : Type}

def add (s : Switch σ) (value : Text) (r : Reading σ) : Except (Stop σ) (Reading σ) :=
  if s.final then .error (.final s.id) else .ok { r with switches := (s.id, value) :: r.switches }

def addAll : List (Switch σ × Text) → Reading σ → Except (Stop σ) (Reading σ)
  | [], r => .ok r
  | (s, value) :: rest, r => do addAll rest (← r.add s value)

/-- The switches written together: one with what follows it directly, which is its value or, behind a
single dash, the letters of more switches. -/
def together? (g : Grammar σ) (s : Switch σ) (name : Text) :
    Text → Option (List (Switch σ × Text))
  | [] => if s.takesValue then some [(s, [])] else none
  | c :: rest =>
    if s.takesValue then some [(s, c :: rest)]
    else if ['-', '-'].isPrefixOf name then none
    else match g.withName? ['-', c] with
      | none => none
      | some next =>
        if rest.isEmpty then if next.takesValue then none else some [(s, []), (next, [])]
        else (together? g next ['-', c] rest).map ((s, []) :: ·)

/-- Reads arguments, at most as many as the bound says. -/
def readFrom (g : Grammar σ) : Nat → Reading σ → List (Arg σ) → Except (Stop σ) (Reading σ)
  | 0, r, _ => .ok r
  | _, r, [] => .ok r
  | n + 1, r, (t, item) :: rest =>
    match item with
    | .unknown => readFrom g n { r with leftOver := true } rest
    | .switch s name (some value) =>
      match together? g s name value with
      | some found => do readFrom g n (← r.addAll found) rest
      | none => .error .usage
    | .switch s _ none =>
      if s.takesValue then
        match rest with
        | (value, .word) :: later => do readFrom g n (← r.add s value) later
        | _ => .error .usage
      else do readFrom g n (← r.add s []) rest
    | item =>
      match r.words? with
      | some _ => readFrom g n { r with leftOver := true } rest
      | none =>
        match Grammar.takeWords? g.arity ((t, item) :: rest) with
        | some (words, left) => readFrom g n { r with words? := some words } left
        | none => readFrom g n { r with leftOver := true } rest

def ofArguments (g : Grammar σ) (args : List Text) : Except (Stop σ) (Reading σ) :=
  match g.classify? args with
  | some items => do
    let r ← readFrom g items.length {} items
    match r.words?, Grammar.noWords? g.arity with
    | some _, _ => return r
    | none, some words => return { r with words? := some words }
    | none, none => throw .usage
  | none => .error .usage

variable [DecidableEq σ]

def has (r : Reading σ) (id : σ) : Bool := r.switches.any (·.1 = id)

/-- The value of a switch that was given last. -/
def value? (r : Reading σ) (id : σ) : Option Text := r.switches.lookup id

def words (r : Reading σ) : List Text := r.words?.getD []

/-- What has been read, if all that is required is there and nothing is left over. -/
def complete (g : Grammar σ) (r : Reading σ) : Except (Stop σ) (Reading σ) :=
  if r.leftOver || !g.required.all r.has then .error .usage else .ok r

end Reading
end GrammarKit.CommandLine

/-!
# Commands

What the arguments of the program ask for. They are read from left to right. The value of the
configuration flag stands in the same argument or in the next one, unless that starts with a
hyphen; the flag counts as given when the next flag or the end is reached, and must be given exactly
once. Asking for help or for the version ends the reading. After `--` there are no flags. For a flag
that does not exist the most similar one is proposed.
-/

namespace IceTcp

/-! ## Similarity of words

Two words are compared by the characters that they share: each character of the first is paired
with an equal one of the second that stands at most a window away and is not paired yet. The more
characters are paired, and the fewer of the pairs are out of order, the more similar the words are.
Similarities are doubles, and where two of them would be equal their rounding decides.
-/

namespace Similarity

/-- How far from each other paired characters may stand, in words of these lengths. -/
def window (first second : Nat) : Nat := max first second / 2 - 1

/-- The place in the second word of the character that goes with a character of the first. -/
def partner? (window : Nat) (second : List Char) (taken : List Nat) (c : Char) (place : Nat) :
    Option Nat :=
  (List.range second.length).find? fun other =>
    decide (place ≤ other + window) && decide (other ≤ place + window) &&
      second[other]? == some c && !taken.contains other

/-- Pairs characters of the first word, from the left, with places in the second. -/
def pairs (window : Nat) (second : List Char) :
    List (Char × Nat) → List Nat → List (Char × Nat)
  | [], _ => []
  | (c, place) :: later, taken =>
    match partner? window second taken c place with
    | some other => (c, other) :: pairs window second later (other :: taken)
    | none => pairs window second later taken

/-- The similarity of two words, between 0 and 1: the mean of the shares of both words that are
paired and of the share of the pairs that are in order. -/
def similarity (first second : List Char) : Float :=
  let paired := pairs (window first.length second.length) second first.zipIdx []
  let matched := paired.length
  let here := paired.map Prod.fst
  let there := (second.zipIdx.filter fun (_, place) => (paired.map Prod.snd).contains place).map
    Prod.fst
  let displaced := ((here.zip there).countP fun (a, b) => a != b) / 2
  if first.isEmpty && second.isEmpty then 1
  else if matched = 0 then 0
  else
    (matched.toFloat / first.length.toFloat + matched.toFloat / second.length.toFloat +
      (matched - displaced).toFloat / matched.toFloat) / 3

/-- The word of a list that is most similar to the given one, if any is more than similar enough; of
equally similar ones the last. -/
def closest? (enough : Float) (word : String) (words : List String) : Option String :=
  let scored := words.map fun other => (other, similarity word.toList other.toList)
  let best := scored.foldl
    (fun best candidate =>
      match best with
      | none => some candidate
      | some leader => if leader.2 ≤ candidate.2 then some candidate else some leader)
    none
  match best with
  | some (other, score) => if enough < score then some other else none
  | none => none

end Similarity

/-! ## Flags

One of the flags of the command line, the path of the configuration, takes a value.
-/

/-- A flag of the command line. -/
inductive Flag where
  | config
  | help
  | version
  deriving DecidableEq, Repr

namespace Flag

def all : List Flag := [.config, .help, .version]

/-- The name that follows two hyphens. -/
def longName : Flag → String
  | .config => "config"
  | .help => "help"
  | .version => "version"

/-- The name that follows one hyphen. -/
def shortName : Flag → Char
  | .config => 'c'
  | .help => 'h'
  | .version => 'V'

/-- How a flag is shown in messages. -/
def text : Flag → String
  | .config => "--config <CONFIG>"
  | .help => "--help"
  | .version => "--version"

/-- The flag with a long name. -/
def ofLong? (name : String) : Option Flag := all.find? fun flag => flag.longName == name

/-- The flag with a short name. -/
def ofShort? (name : Char) : Option Flag := all.find? fun flag => flag.shortName == name

/-- A name has to be more similar than this to that of a flag for the flag to be proposed. -/
def enough : Float := 0.7

/-- The flag that a mistaken long name may stand for. -/
def meantBy? (name : String) : Option Flag :=
  (Similarity.closest? enough name (all.map longName)).bind ofLong?

end Flag

/-! ## Reading the arguments -/

/-- What the arguments ask for. -/
inductive Command where
  /-- Serve as the configuration in this file says. -/
  | serve (path : String)
  /-- Explain the arguments, at length or not. -/
  | help (detailed : Bool)
  | version
  deriving DecidableEq, Repr

/-- Why arguments make no sense. -/
inductive UsageError where
  /-- The configuration is not given. -/
  | missingConfig
  /-- The flag is given without a value. -/
  | missingValue (flag : Flag)
  | repeated (flag : Flag)
  /-- There is no such argument; perhaps a flag was meant. -/
  | unexpected (argument : String) (meant : Option Flag)
  /-- The flag takes no value. The configuration may have been given before it. -/
  | unexpectedValue (value : String) (flag : Flag) (configGiven : Bool)
  deriving DecidableEq, Repr

/-- The form of an argument. -/
inductive ArgumentForm where
  /-- No flags follow. -/
  | separator
  | long (name : String) (value : Option String)
  /-- The short name of a flag, and what stands behind it. -/
  | short (name : Char) (rest : String)
  | plain

/-- The form that an argument has. -/
def ArgumentForm.of (argument : String) : ArgumentForm :=
  match argument.toList with
  | ['-', '-'] => .separator
  | '-' :: '-' :: text =>
    let name := String.ofList (text.takeWhile (· != '='))
    match text.dropWhile (· != '=') with
    | [] => .long name none
    | _ :: value => .long name (some (String.ofList value))
  | '-' :: name :: rest => .short name (String.ofList rest)
  | _ => .plain

/-- What is known of the configuration while arguments are read. -/
structure ConfigFlag where
  /-- The path that counts. -/
  path : Option String
  /-- The last occurrence of the flag, with its value as far as that has been read. It does not
  count yet. -/
  pending : Option (Option String)
  deriving DecidableEq, Repr

namespace ConfigFlag

/-- Lets the last occurrence count. -/
def settle (state : ConfigFlag) : Except UsageError ConfigFlag :=
  match state.pending, state.path with
  | none, _ => .ok state
  | some none, _ => .error (.missingValue .config)
  | some (some path), none => .ok ⟨some path, none⟩
  | some (some _), some _ => .error (.repeated .config)

/-- Takes an occurrence of the flag, with its value if that stands in the same argument. Such a
value counts at once. -/
def occur (state : ConfigFlag) (value : Option String) : Except UsageError ConfigFlag := do
  let settled ← state.settle
  let occurred := { settled with pending := some value }
  match value with
  | some _ => occurred.settle
  | none => return occurred

end ConfigFlag

namespace Command

/-- The value that stands behind a short name in the same argument. -/
def attached? (rest : String) : Option String :=
  match rest.toList with
  | [] => none
  | '=' :: value => some (String.ofList value)
  | _ => some rest

/-- Reads the arguments behind the separator: there are no flags among them. -/
def ofPlain (state : ConfigFlag) : List String → Except UsageError Command
  | [] => do
    match (← state.settle).path with
    | some path => return .serve path
    | none => throw .missingConfig
  | argument :: _ => .error (.unexpected argument none)

/-- Reads arguments, with what is known already. -/
def read (state : ConfigFlag) : List String → Except UsageError Command
  | [] => ofPlain state []
  | argument :: later =>
    match ArgumentForm.of argument with
    | .separator => ofPlain state later
    | .long name value =>
      match Flag.ofLong? name, value with
      | some .config, value => do read (← state.occur value) later
      | some flag, some value => .error (.unexpectedValue value flag state.path.isSome)
      | some .help, none => do
        let _ ← state.settle
        return .help true
      | some .version, none => do
        let _ ← state.settle
        return .version
      | none, _ => .error (.unexpected ("--" ++ name) (Flag.meantBy? name))
    | .short name rest =>
      match Flag.ofShort? name with
      | some .config => do read (← state.occur (attached? rest)) later
      | some .help => do
        let _ ← state.settle
        return .help false
      | some .version => do
        let _ ← state.settle
        return .version
      | none => .error (.unexpected (String.ofList ['-', name]) none)
    | .plain =>
      match state.pending with
      | some none => read { state with pending := some (some argument) } later
      | _ => .error (.unexpected argument none)

/-- What the arguments ask for. -/
def ofArguments (arguments : List String) : Except UsageError Command := read ⟨none, none⟩ arguments

end Command

end IceTcp

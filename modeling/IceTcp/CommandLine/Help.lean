import IceTcp.CommandLine.Command

/-!
# Texts of the command line

How the program is used, what its version is, and what it says of arguments that make no sense.
Arguments are repeated without the control sequences in them.

Main results:

* `ControlSequence.isShown_of_mem_strip`: only characters that are shown are left of a text.
* `ControlSequence.strip_eq_self`: a text of such characters is left as it is.
-/

namespace IceTcp

/-! ## Text without control sequences

A terminal takes some characters as orders. Control characters other than those that move to
another line or column are orders by themselves; the escape character starts a sequence, which goes
on until a final character or, when it carries a string, until the mark that ends the string. What
is left without the orders is the text that is shown.
-/

namespace ControlSequence

/-- Where a character stands in a sequence. -/
inductive Position where
  /-- In no sequence. -/
  | text
  /-- Behind the escape character. -/
  | escape
  /-- Behind the escape character and some characters that come before the final one. -/
  | escapeMiddle
  /-- In a control sequence, with its parameters. -/
  | control
  /-- In the head of a device control string: at its start, in its parameters, behind them. -/
  | deviceStart
  | deviceParameters
  | deviceMiddle
  /-- In a string that the octet `9c` ends. -/
  | string
  /-- In a string that the bell ends. -/
  | command
  deriving DecidableEq, Repr

/-- The control characters that move to another line or column. -/
def isLayout (c : Char) : Bool := c = '\t' || c = '\n' || c = '\x0c' || c = '\r'

/-- The characters that are shown when they stand in no sequence. -/
def isShown (c : Char) : Bool := isLayout c || (' ' ≤ c && c != '\x7f')

def isAscii (c : Char) : Bool := c ≤ '\x7f'

/-- Whether a character stands between two others, or is one of them. -/
def within (first last c : Char) : Bool := first ≤ c && c ≤ last

namespace Position

/-- Where the character behind this one stands. Characters that mean nothing in a sequence change
nothing. -/
def next (position : Position) (c : Char) : Position :=
  if c = '\x1b' then .escape
  else if c = '\x18' || c = '\x1a' then .text
  else
    match position with
    | .text => .text
    | .escape =>
      if c = '[' then .control
      else if c = ']' then .command
      else if c = 'P' then .deviceStart
      else if c = 'X' || c = '^' || c = '_' then .string
      else if within ' ' '/' c then .escapeMiddle
      else if within '0' '~' c then .text
      else .escape
    | .escapeMiddle => if within '0' '~' c then .text else .escapeMiddle
    | .control => if within '@' '~' c then .text else .control
    | .deviceStart =>
      if within ' ' '/' c then .deviceMiddle
      else if within '0' '?' c then .deviceParameters
      else if within '@' '~' c then .string
      else .deviceStart
    | .deviceParameters =>
      if within ' ' '/' c then .deviceMiddle
      else if within '<' '~' c then .string
      else .deviceParameters
    | .deviceMiddle => if within '0' '~' c then .string else .deviceMiddle
    -- the octet may be part of a character
    | .string => if (String.utf8EncodeChar c).contains 0x9c then .text else .string
    | .command => if c = '\x07' then .text else .command

/-- Whether characters that move to another line or column are obeyed inside of the sequence. -/
def isInterruptible : Position → Bool
  | .escape | .escapeMiddle | .control => true
  | .text | .deviceStart | .deviceParameters | .deviceMiddle | .string | .command => false

end Position

/-- What is shown of a text that starts at some position. A sequence that such a character has
interrupted goes on behind the text that follows it; a character beyond ASCII ends it. -/
def visible : (position : Position) → (interrupted : Bool) → List Char → List Char
  | _, _, [] => []
  | position, interrupted, c :: later =>
    if (position = .text || interrupted) && isShown c then
      c :: visible (if isAscii c then position else .text) interrupted later
    else if position.isInterruptible && isLayout c then c :: visible position true later
    else visible (position.next c) false later

/-- A text without its control sequences. -/
def strip (text : String) : String := String.ofList (visible .text false text.toList)

theorem isShown_of_isLayout {c : Char} (h : isLayout c = true) : isShown c = true := by
  simp [isShown, h]

theorem isShown_of_mem_visible {position : Position} {interrupted : Bool} {text : List Char}
    {c : Char} (h : c ∈ visible position interrupted text) : isShown c = true := by
  induction text generalizing position interrupted with
  | nil => simp [visible] at h
  | cons d later ih =>
    rw [visible] at h
    split at h
    · rename_i hd
      rcases List.mem_cons.mp h with rfl | h
      · exact ((Bool.and_eq_true _ _).mp hd).2
      · exact ih h
    · split at h
      · rename_i hd
        rcases List.mem_cons.mp h with rfl | h
        · exact isShown_of_isLayout ((Bool.and_eq_true _ _).mp hd).2
        · exact ih h
      · exact ih h

/-- Only characters that are shown are left. -/
theorem isShown_of_mem_strip {text : String} {c : Char} (h : c ∈ (strip text).toList) :
    isShown c = true := by
  rw [strip, String.toList_ofList] at h
  exact isShown_of_mem_visible h

theorem visible_eq_self {text : List Char} (h : ∀ c ∈ text, isShown c = true) :
    visible .text false text = text := by
  induction text with
  | nil => rfl
  | cons c later ih =>
    rw [visible, if_pos (by simp [h c (List.mem_cons_self ..)]), ite_self,
      ih fun d hd => h d (List.mem_cons_of_mem _ hd)]

/-- A text of characters that are shown is left as it is. -/
theorem strip_eq_self {text : String} (h : ∀ c ∈ text.toList, isShown c = true) :
    strip text = text := by
  rw [strip, visible_eq_self h, String.ofList_toList]

end ControlSequence

/-! ## Explanations and complaints -/

/-- The lines of a text, each with a line end. -/
def unlines (lines : List String) : String := String.join (lines.map fun line => line ++ "\n")

namespace Help

def programName : String := "ice-tcp-demux"

def versionLine : String := "ice-tcp-demux 0.1.0"

/-- How the program is called. Flags that a message is about are named behind the one that has to be
given. -/
def usage (about : Option Flag) : String :=
  let named := match about with
    | some .help => " --help"
    | some .version => " --version"
    | some .config | none => ""
  s!"Usage: {programName} {Flag.config.text}{named}"

/-- How the program is called with a flag when the configuration has been given too. -/
def usageBeside (flag : Flag) : String :=
  s!"Usage: {programName} {flag.text} <{Flag.config.text}>"

def about : List String :=
  ["Stream-to-message demultiplexer for ICE over TCP connections.", "", usage none, "", "Options:"]

/-- The explanation with a line for each flag. -/
def brief : List String :=
  about ++
  ["  -c, --config <CONFIG>  Specify the configuration file path",
    "  -h, --help             Print help (see more with '--help')",
    "  -V, --version          Print version"]

/-- The explanation with a paragraph for each flag. -/
def detailed : List String :=
  about ++
  ["  -c, --config <CONFIG>",
    "          Specify the configuration file path",
    "          ",
    "          Example: ice-tcp-demux --config /etc/ice-tcp-demux/config.json5",
    "",
    "  -h, --help",
    "          Print help (see a summary with '-h')",
    "",
    "  -V, --version",
    "          Print version"]

end Help

namespace UsageError

/-- What is wrong with the arguments. -/
def summary : UsageError → List String
  | .missingConfig =>
    ["error: the following required arguments were not provided:", s!"  {Flag.config.text}"]
  | .missingValue flag =>
    [s!"error: a value is required for '{flag.text}' but none was supplied"]
  | .repeated flag => [s!"error: the argument '{flag.text}' cannot be used multiple times"]
  | .unexpected argument meant =>
    s!"error: unexpected argument '{ControlSequence.strip argument}' found" ::
      (match meant with
        | some flag => ["", s!"  tip: a similar argument exists: '--{flag.longName}'"]
        | none => [])
  | .unexpectedValue value flag _ =>
    [s!"error: unexpected value '{ControlSequence.strip value}' for '{flag.text}' found; " ++
      "no more were expected"]

/-- How the program should have been called, if the message says so. -/
def usage : UsageError → List String
  | .missingValue _ => []
  | .missingConfig | .repeated _ => [Help.usage none, ""]
  | .unexpected _ meant => [Help.usage meant, ""]
  | .unexpectedValue _ flag configGiven =>
    [if configGiven then Help.usageBeside flag else Help.usage (some flag), ""]

/-- The message that the program ends with. -/
def message (error : UsageError) : String :=
  unlines (error.summary ++ [""] ++ error.usage ++ ["For more information, try '--help'."])

end UsageError

end IceTcp

import IceTcp.Json5.Value
import IceTcp.Text.CharClass

/-!
# JSON5 documents

The text of a JSON5 document is a sequence of tokens: punctuation, words, strings and numerals,
between which blanks and comments may stand. A word is a key or one of the words that are values;
a word with an escape in it is only ever a key. The tokens of a document make one value.

Main results:

* `length_of_scan`: every token, blank or comment takes at least one character, so that a text has
  finitely many.
* `parse?_eq_some_iff`: a text is a document when it splits into tokens that make one value.
-/

namespace IceTcp.Json5

/-- A token. -/
inductive Token where
  | openBrace
  | closeBrace
  | openBracket
  | closeBracket
  | colon
  | comma
  | word (text : Json5Text) (escaped : Bool)
  | string (text : Json5Text)
  | number (numeral : Numeral)
  deriving DecidableEq, Repr

/-! ## Classes of characters -/

/-- The characters that end a line. -/
def isLineTerminator (c : Char) : Bool :=
  c = '\n' || c = '\r' || c = '\u2028' || c = '\u2029'

/-- The characters that may stand between tokens: ends of lines, tabs, form feeds, the byte order
mark and the spaces of Unicode. -/
def isBlank (c : Char) : Bool :=
  isLineTerminator c || c = '\t' || c = '\x0b' || c = '\x0c' || c = ' ' || c = '\u00a0' ||
    c = '\ufeff' || c = '\u1680' || ('\u2000' ≤ c && c ≤ '\u200a') || c = '\u202f' ||
    c = '\u205f' || c = '\u3000'

/-- The characters that a word may start with. -/
def isWordStart (c : Char) : Bool := c = '$' || c = '_' || CharClass.letter.contains c

/-- The characters that a word may go on with. -/
def isWordPart (c : Char) : Bool :=
  isWordStart c || CharClass.wordPart.contains c || c = '\u200c' || c = '\u200d'

theorem isWordPart_of_isWordStart {c : Char} (h : isWordStart c = true) : isWordPart c = true := by
  simp [isWordPart, h]

/-- The digits in base sixteen. -/
def isHexDigit (c : Char) : Bool := (Hex.digitValue? c).isSome

/-! ## Splitting a text into tokens

Strings, words, numerals, comments and punctuation are read off the front of the text, one after
the other. An escape that names no character leaves a string or a word without a text; it does not
make the text malformed.
-/

/-! ### Escapes -/

/-- The character with a code point; surrogates are none. -/
def scalar? (code : Nat) : Option Char :=
  if code.isValidChar then some (Char.ofNat code) else none

/-- The text with a character, or an escape that names none, in front. -/
def consChar (c : Option Char) (text : Option (List Char)) : Option (List Char) :=
  match c, text with
  | some c, some text => some (c :: text)
  | _, _ => none

/-- The character that a letter behind a backslash stands for. -/
def escaped (c : Char) : Char :=
  match c with
  | 'b' => '\x08'
  | 'f' => '\x0c'
  | 'n' => '\n'
  | 'r' => '\r'
  | 't' => '\t'
  | 'v' => '\x0b'
  | '0' => '\x00'
  | c => c

/-- Reads a string up to the quote that ends it. Outside of an escape it holds no end of line; a
backslash before an end of line makes both vanish. -/
def scanString (quote : Char) : List Char → Option (Option (List Char) × List Char)
  | [] => none
  | '\\' :: '\r' :: '\n' :: rest => scanString quote rest
  | '\\' :: 'x' :: a :: b :: rest =>
    if isHexDigit a && isHexDigit b then
      (scanString quote rest).map fun (text, rest) =>
        (consChar (scalar? (Hex.value [a, b])) text, rest)
    else none
  | '\\' :: 'u' :: a :: b :: c :: d :: rest =>
    if [a, b, c, d].all isHexDigit then
      (scanString quote rest).map fun (text, rest) =>
        (consChar (scalar? (Hex.value [a, b, c, d])) text, rest)
    else none
  | '\\' :: c :: rest =>
    if isLineTerminator c then scanString quote rest
    else if c = 'x' || c = 'u' || ('1' ≤ c && c ≤ '9') then none
    else
      (scanString quote rest).map fun (text, rest) => (consChar (some (escaped c)) text, rest)
  | c :: rest =>
    if c = quote then some (some [], rest)
    else if c = '\\' || isLineTerminator c then none
    else (scanString quote rest).map fun (text, rest) => (consChar (some c) text, rest)

/-- The rest of a word: its text, whether it holds an escape, and what follows it. -/
structure WordTail where
  text : Option (List Char)
  escaped : Bool
  rest : List Char

/-- Reads the rest of a word. -/
def scanWordTail : List Char → WordTail
  | '\\' :: 'u' :: a :: b :: c :: d :: rest =>
    if [a, b, c, d].all isHexDigit then
      let tail := scanWordTail rest
      ⟨consChar (scalar? (Hex.value [a, b, c, d])) tail.text, true, tail.rest⟩
    else ⟨some [], false, '\\' :: 'u' :: a :: b :: c :: d :: rest⟩
  | c :: rest =>
    if isWordPart c then
      let tail := scanWordTail rest
      ⟨consChar (some c) tail.text, tail.escaped, tail.rest⟩
    else ⟨some [], false, c :: rest⟩
  | [] => ⟨some [], false, []⟩

/-- Whether a word starts here: with a character of its own, or with an escape of any code. -/
def startsWord : List Char → Bool
  | '\\' :: 'u' :: a :: b :: c :: d :: _ => [a, b, c, d].all isHexDigit
  | c :: _ => isWordStart c
  | [] => false

/-! ### Numerals -/

/-- Reads an exponent, if one stands here. -/
def scanExponent (text : List Char) : Option NumeralExponent × List Char :=
  match text with
  | e :: rest =>
    if e = 'e' || e = 'E' then
      let (negative, digits) := match rest with
        | '+' :: digits => (false, digits)
        | '-' :: digits => (true, digits)
        | digits => (false, digits)
      let written := digits.takeWhile Char.isDigit
      if written = [] then (none, text)
      else (some ⟨negative, written⟩, digits.drop written.length)
    else (none, text)
  | [] => (none, text)

/-- Reads the fraction and the exponent behind the digits `whole`. -/
def scanFraction (whole text : List Char) : Magnitude × List Char :=
  match text with
  | '.' :: rest =>
    let digits := rest.takeWhile Char.isDigit
    let (exponent, rest) := scanExponent (rest.drop digits.length)
    (.decimal whole (some digits) exponent, rest)
  | text =>
    let (exponent, rest) := scanExponent text
    (.decimal whole none exponent, rest)

/-- Reads a numeral without its sign. Digits in base ten have no leading zero, and a point stands
next to a digit. -/
def scanMagnitude : List Char → Option (Magnitude × List Char)
  | 'I' :: 'n' :: 'f' :: 'i' :: 'n' :: 'i' :: 't' :: 'y' :: rest => some (.infinity, rest)
  | 'N' :: 'a' :: 'N' :: rest => some (.nan, rest)
  | '0' :: rest =>
    let hex := match rest with
      | x :: digits => if x = 'x' || x = 'X' then digits.takeWhile isHexDigit else []
      | [] => []
    if hex = [] then some (scanFraction ['0'] rest)
    else some (.hex hex, rest.drop (hex.length + 1))
  | '.' :: d :: rest =>
    if d.isDigit then some (scanFraction [] ('.' :: d :: rest)) else none
  | d :: rest =>
    if d.isDigit then
      let digits := rest.takeWhile Char.isDigit
      some (scanFraction (d :: digits) (rest.drop digits.length))
    else none
  | [] => none

/-! ### Blanks and comments -/

/-- What follows the end of a comment that the two characters `*` and `/` end. -/
def skipBlock : List Char → Option (List Char)
  | '*' :: '/' :: rest => some rest
  | _ :: rest => skipBlock rest
  | [] => none

/-! ### Tokens -/

/-- Reads one token, which is `none` for a blank or a comment. -/
def scan : List Char → Option (Option Token × List Char)
  | [] => none
  | '{' :: rest => some (some .openBrace, rest)
  | '}' :: rest => some (some .closeBrace, rest)
  | '[' :: rest => some (some .openBracket, rest)
  | ']' :: rest => some (some .closeBracket, rest)
  | ':' :: rest => some (some .colon, rest)
  | ',' :: rest => some (some .comma, rest)
  | '/' :: '/' :: rest => some (none, rest.dropWhile fun c => !isLineTerminator c)
  | '/' :: '*' :: rest => (skipBlock rest).map fun rest => (none, rest)
  | c :: rest =>
    if isBlank c then some (none, rest)
    else if c = '"' || c = '\'' then
      (scanString c rest).map fun (text, rest) => (some (.string (text.map String.ofList)), rest)
    else if c = '+' || c = '-' then
      (scanMagnitude rest).map fun (magnitude, rest) =>
        (some (.number ⟨some (if c = '+' then .plus else .minus), magnitude⟩), rest)
    else if startsWord (c :: rest) then
      let tail := scanWordTail (c :: rest)
      some (some (.word (tail.text.map String.ofList) tail.escaped), tail.rest)
    else
      (scanMagnitude (c :: rest)).map fun (magnitude, rest) =>
        (some (.number ⟨none, magnitude⟩), rest)

/-! ### Every token takes a character -/

theorem length_of_scanString {quote : Char} {text rest : List Char} {value : Option (List Char)}
    (h : scanString quote text = some (value, rest)) : rest.length < text.length := by
  fun_induction scanString quote text generalizing value rest with
  | case2 | case7 =>
    rename_i ih
    have := ih h
    simp only [List.length_cons]
    omega
  | case3 | case5 | case9 | case12 =>
    rename_i ih
    obtain ⟨⟨value', rest'⟩, hscan, heq⟩ := Option.map_eq_some_iff.mp h
    have := ih hscan
    simp only [Prod.mk.injEq] at heq
    rw [← heq.2]
    simp only [List.length_cons]
    omega
  | case10 =>
    simp only [Option.some.injEq, Prod.mk.injEq] at h
    rw [← h.2]
    simp
  | case1 | case4 | case6 | case8 | case11 => simp at h

theorem length_scanWordTail (text : List Char) : (scanWordTail text).rest.length ≤ text.length := by
  fun_induction scanWordTail text with
  | case1 | case3 =>
    rename_i ih
    refine Nat.le_trans ih ?_
    simp only [List.length_cons]
    omega
  | case2 | case4 | case5 => simp

theorem length_of_startsWord {text : List Char} (h : startsWord text = true) :
    (scanWordTail text).rest.length < text.length := by
  unfold startsWord at h
  split at h
  · rename_i rest
    rw [scanWordTail, if_pos h]
    have := length_scanWordTail rest
    simp only [List.length_cons]
    omega
  · rename_i c rest hescape
    rw [scanWordTail.eq_2 _ _ hescape, if_pos (isWordPart_of_isWordStart h)]
    have := length_scanWordTail rest
    simp only [List.length_cons]
    omega
  · simp at h

theorem length_scanExponent (text : List Char) : (scanExponent text).2.length ≤ text.length := by
  unfold scanExponent
  split
  · rename_i e rest
    split
    · split
      rename_i negative digits hdigits
      have hle : digits.length ≤ rest.length := by
        split at hdigits <;> simp_all
      extract_lets written
      split
      · exact Nat.le_refl _
      · simp only [List.length_drop, List.length_cons]
        omega
    · exact Nat.le_refl _
  · exact Nat.le_refl _

theorem length_scanFraction (whole text : List Char) :
    (scanFraction whole text).2.length ≤ text.length := by
  unfold scanFraction
  split
  · rename_i rest
    have := length_scanExponent (rest.drop (rest.takeWhile Char.isDigit).length)
    simp only [List.length_drop] at this
    simp only [List.length_cons]
    omega
  · exact length_scanExponent _

theorem length_of_scanMagnitude {text rest : List Char} {magnitude : Magnitude}
    (h : scanMagnitude text = some (magnitude, rest)) : rest.length < text.length := by
  unfold scanMagnitude at h
  split at h
  · simp only [Option.some.injEq, Prod.mk.injEq] at h
    rw [← h.2]
    simp only [List.length_cons]
    omega
  · simp only [Option.some.injEq, Prod.mk.injEq] at h
    rw [← h.2]
    simp only [List.length_cons]
    omega
  · rename_i after
    extract_lets hex at h
    split at h
    · simp only [Option.some.injEq] at h
      have := length_scanFraction ['0'] after
      rw [h] at this
      dsimp only at this
      simp only [List.length_cons]
      omega
    · simp only [Option.some.injEq, Prod.mk.injEq] at h
      rw [← h.2, List.length_drop, List.length_cons]
      omega
  · rename_i d after
    split at h
    · simp only [scanFraction, Option.some.injEq, Prod.mk.injEq] at h
      have := length_scanExponent ((d :: after).drop ((d :: after).takeWhile Char.isDigit).length)
      rw [h.2] at this
      simp only [List.length_drop] at this
      simp only [List.length_cons] at this ⊢
      omega
    · cases h
  · rename_i d after _ _ _ _
    split at h
    · extract_lets digits at h
      simp only [Option.some.injEq] at h
      have := length_scanFraction (d :: digits) (after.drop digits.length)
      rw [h, List.length_drop] at this
      dsimp only at this
      simp only [List.length_cons]
      omega
    · cases h
  · cases h

theorem length_of_skipBlock {text rest : List Char} (h : skipBlock text = some rest) :
    rest.length < text.length := by
  fun_induction skipBlock text with
  | case1 after =>
    simp only [Option.some.injEq] at h
    rw [← h]
    simp only [List.length_cons]
    omega
  | case2 _ after _ ih =>
    have := ih h
    simp only [List.length_cons]
    omega
  | case3 => cases h

/-- Every token, blank or comment takes at least one character. -/
theorem length_of_scan {text rest : List Char} {token : Option Token}
    (h : scan text = some (token, rest)) : rest.length < text.length := by
  unfold scan at h
  split at h
  · cases h
  iterate 6
    · simp only [Option.some.injEq, Prod.mk.injEq] at h
      rw [← h.2]
      simp only [List.length_cons]
      omega
  · rename_i after
    simp only [Option.some.injEq, Prod.mk.injEq] at h
    have := (List.dropWhile_sublist (fun c => !isLineTerminator c) (l := after)).length_le
    rw [← h.2]
    simp only [List.length_cons]
    omega
  · rename_i after
    obtain ⟨after', hskip, heq⟩ := Option.map_eq_some_iff.mp h
    have := length_of_skipBlock hskip
    simp only [Prod.mk.injEq] at heq
    rw [← heq.2]
    simp only [List.length_cons]
    omega
  · rename_i c after _ _ _ _ _ _ _ _
    split at h
    · simp only [Option.some.injEq, Prod.mk.injEq] at h
      rw [← h.2]
      simp
    · split at h
      · obtain ⟨⟨value, after'⟩, hscan, heq⟩ := Option.map_eq_some_iff.mp h
        have := length_of_scanString hscan
        simp only [Prod.mk.injEq] at heq
        rw [← heq.2, List.length_cons]
        omega
      · split at h
        · obtain ⟨⟨magnitude, after'⟩, hscan, heq⟩ := Option.map_eq_some_iff.mp h
          have := length_of_scanMagnitude hscan
          simp only [Prod.mk.injEq] at heq
          rw [← heq.2, List.length_cons]
          omega
        · split at h
          · rename_i hword
            have := length_of_startsWord hword
            simp only [Option.some.injEq, Prod.mk.injEq] at h
            rw [← h.2]
            exact this
          · obtain ⟨⟨magnitude, after'⟩, hscan, heq⟩ := Option.map_eq_some_iff.mp h
            have := length_of_scanMagnitude hscan
            simp only [Prod.mk.injEq] at heq
            rw [← heq.2]
            exact this

/-- The tokens of a text, blanks and comments left out, if it consists of tokens. -/
def tokens (text : List Char) : Option (List Token) :=
  match text with
  | [] => some []
  | c :: rest =>
    match _h : scan (c :: rest) with
    | none => none
    | some (none, rest') => tokens rest'
    | some (some token, rest') => (tokens rest').map (token :: ·)
termination_by text.length
decreasing_by all_goals exact length_of_scan (by assumption)

/-! ## Documents

A document is one value. Its tokens are taken in order, and what has been read so far is kept as
the frames that surround the place reached: arrays and objects that are not closed yet. Commas
stand between items and may follow the last one.
-/

/-- An array or an object that is not closed yet, around a value that is being read. What was read
before is kept last first. -/
inductive Frame where
  | array (items : List Json5)
  | object (entries : List (Json5Text × Json5)) (key : Json5Text)

/-- The place reached in a document, and the frames around it. -/
inductive Place where
  /-- A value has to start. -/
  | value (frames : List Frame)
  /-- An item has to start, or the array ends. -/
  | item (items : List Json5) (frames : List Frame)
  /-- An entry has to start, or the object ends. -/
  | entry (entries : List (Json5Text × Json5)) (frames : List Frame)
  /-- A key has been read and a colon has to follow. -/
  | colon (entries : List (Json5Text × Json5)) (key : Json5Text) (frames : List Frame)
  /-- A value has ended. -/
  | after (value : Json5) (frames : List Frame)

/-- The value that one token makes. -/
def Token.value? : Token → Option Json5
  | .string text => some (.string text)
  | .number numeral => some (.number numeral)
  | .word (some "null") false => some .null
  | .word (some "true") false => some (.bool true)
  | .word (some "false") false => some (.bool false)
  | .word (some "Infinity") false => some (.number ⟨none, .infinity⟩)
  | .word (some "NaN") false => some (.number ⟨none, .nan⟩)
  | _ => none

/-- The key that one token makes. -/
def Token.key? : Token → Option Json5Text
  | .word text _ => some text
  | .string text => some text
  | _ => none

/-- A value starts with this token. -/
def startValue (frames : List Frame) : Token → Option Place
  | .openBracket => some (.item [] frames)
  | .openBrace => some (.entry [] frames)
  | token => token.value?.map fun value => .after value frames

/-- Takes one token. -/
def Place.next : Place → Token → Option Place
  | .value frames, token => startValue frames token
  | .item items frames, .closeBracket => some (.after (.array items.reverse) frames)
  | .item items frames, token => startValue (.array items :: frames) token
  | .entry entries frames, .closeBrace => some (.after (.object entries.reverse) frames)
  | .entry entries frames, token => token.key?.map fun key => .colon entries key frames
  | .colon entries key frames, .colon => some (.value (.object entries key :: frames))
  | .colon .., _ => none
  | .after read (.array items :: frames), .comma => some (.item (read :: items) frames)
  | .after read (.array items :: frames), .closeBracket =>
    some (.after (.array (read :: items).reverse) frames)
  | .after read (.object entries key :: frames), .comma =>
    some (.entry ((key, read) :: entries) frames)
  | .after read (.object entries key :: frames), .closeBrace =>
    some (.after (.object ((key, read) :: entries).reverse) frames)
  | .after .., _ => none

/-- The value that the document has turned out to be, if it may end here. -/
def Place.finish? : Place → Option Json5
  | .after read [] => some read
  | _ => none

/-- The value that tokens make. -/
def ofTokens? (tokens : List Token) : Option Json5 :=
  (tokens.foldlM Place.next (.value [])).bind Place.finish?

/-- The value that a text denotes, if it is a JSON5 document. -/
def parse? (text : String) : Option Json5 := (tokens text.toList).bind ofTokens?

theorem parse?_eq_some_iff (text : String) (value : Json5) :
    parse? text = some value ↔
      ∃ tokens', tokens text.toList = some tokens' ∧ ofTokens? tokens' = some value := by
  simp [parse?, Option.bind_eq_some_iff]

end IceTcp.Json5

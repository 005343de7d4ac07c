import ScriptBridge.Script.Instruction

/-!
# Tokens of scripts

`Token.scan` cuts the bytes of a script into tokens, each with the line on which it ends and the
text that a message about it shows. The list ends with the end of the script or with the first
place that is no token, as the reason why; a reader of the list meets that reason only when it gets
there. Bytes are read as the characters of their numbers.
-/

namespace ScriptBridge.Script

/-- What a token is. A reserved word or operator is a symbol. -/
inductive TokenKind where
  | name (x : Name)
  | symbol (s : String)
  | integer (i : Int64)
  | number (d : Double)
  | string (bytes : Bytes)
  | finish
  | failed (reason : Bytes)
deriving DecidableEq, Repr

/-- A token, with the line on which it ends and its text in messages. -/
structure Token where
  kind : TokenKind
  line : Nat
  shown : Bytes
deriving Repr

namespace Token

/-- The characters of bytes, one each. -/
def characters (bytes : Bytes) : List Char := bytes.map fun b => Char.ofNat b.toNat

/-- The bytes of characters below 256. -/
def bytesOf (cs : List Char) : Bytes := cs.map fun c => UInt8.ofNat c.toNat

/-- The reserved words. -/
def reservedWords : List String :=
  ["and", "break", "do", "else", "elseif", "end", "false", "for", "function", "goto", "if", "in",
    "local", "nil", "not", "or", "repeat", "return", "then", "true", "until", "while"]

/-- A decimal digit. -/
def isDecimal (c : Char) : Bool := '0' ≤ c && c ≤ '9'

/-- A letter or the underscore. -/
def isLetter (c : Char) : Bool := ('a' ≤ c && c ≤ 'z') || ('A' ≤ c && c ≤ 'Z') || c = '_'

/-- The value of a hexadecimal digit. -/
def hexValue? (c : Char) : Option Nat :=
  if '0' ≤ c && c ≤ '9' then some (c.toNat - '0'.toNat)
  else if 'a' ≤ c && c ≤ 'f' then some (c.toNat - 'a'.toNat + 10)
  else if 'A' ≤ c && c ≤ 'F' then some (c.toNat - 'A'.toNat + 10)
  else none

/-- A hexadecimal digit. -/
def isHex (c : Char) : Bool := (hexValue? c).isSome

/-- A blank that does not end a line. -/
def isBlank (c : Char) : Bool := c = ' ' || c = '\t' || c = '\x0b' || c = '\x0c'

/-- The end of a line. -/
def isNewline (c : Char) : Bool := c = '\n' || c = '\r'

/-- The characters after the end of a line that starts here; two different ones are one end. -/
def skipNewline : List Char → List Char
  | a :: b :: rest => if isNewline b && a ≠ b then rest else b :: rest
  | [_] => []
  | [] => []

/-- A text in messages, with quotes. -/
def quoted (cs : List Char) : Bytes :=
  bytesOf ('\x27' :: cs.takeWhile (· ≠ '\x00') ++ ['\x27'])

/-- The text of a character in messages: itself when it can be printed, its number otherwise. The
zero character has none. -/
def shownChar (c : Char) : Bytes :=
  if c = '\x00' then []
  else if ' ' ≤ c && c ≤ '~' then quoted [c]
  else Bytes.ofString ("'<\\" ++ toString c.toNat ++ ">'")

/-- The text of the end of the script in messages. -/
def endShown : Bytes := Bytes.ofString "<eof>"

/-- A reason with the text that it is near, when there is one. -/
def reasonNear (reason : String) (shown : Bytes) : Bytes :=
  if shown.isEmpty then Bytes.ofString reason else Bytes.ofString (reason ++ " near ") ++ shown

/-! ## Numerals -/

/-- The whole number of digits in a base. -/
def digitsValue (base : Nat) (digits : List Char) : Nat :=
  digits.foldl (fun n c => n * base + (hexValue? c).getD 0) 0

/-- The integer of a text of an optional sign and decimal digits, and nothing else. -/
def exponent? (cs : List Char) : Option Int :=
  let (negative, digits) := match cs with
    | '-' :: rest => (true, rest)
    | '+' :: rest => (false, rest)
    | rest => (false, rest)
  if digits.isEmpty || !digits.all isDecimal then none
  else
    let n : Int := digitsValue 10 digits
    some (if negative then -n else n)

/-- The digits before and after a point, when there is a digit at all and nothing else. -/
def pointed? (isDigit : Char → Bool) (cs : List Char) : Option (List Char × List Char) :=
  let whole := cs.takeWhile isDigit
  match cs.dropWhile isDigit with
  | [] => if whole.isEmpty then none else some (whole, [])
  | '.' :: fraction =>
    if fraction.all isDigit && !(whole.isEmpty && fraction.isEmpty) then some (whole, fraction)
    else none
  | _ => none

/-- The number of a hexadecimal text after its `0x`. -/
def hexNumber? (cs : List Char) : Option TokenKind :=
  let isPower : Char → Bool := fun c => c = 'p' || c = 'P'
  let mantissa := cs.takeWhile fun c => !isPower c
  match pointed? isHex mantissa, cs.dropWhile fun c => !isPower c with
  | some (whole, fraction), [] =>
    if mantissa.contains '.' then
      some (.number (.ofScaled false (digitsValue 16 (whole ++ fraction)) (-4 * fraction.length)))
    else some (.integer (Int64.ofNat (digitsValue 16 whole)))
  | some (whole, fraction), _ :: power =>
    (exponent? power).map fun e =>
      let limit : Int := 4 * (whole.length + fraction.length) + 2000
      let e := max (-limit) (min e limit)
      .number (.ofScaled false (digitsValue 16 (whole ++ fraction)) (e - 4 * fraction.length))
  | none, _ => none

/-- The number of a decimal text. An integer that does not fit is a double; there is one more that
fits after a minus sign. -/
def decimalNumber? (isNegative : Bool) (cs : List Char) : Option TokenKind :=
  let isPower : Char → Bool := fun c => c = 'e' || c = 'E'
  let mantissa := cs.takeWhile fun c => !isPower c
  match pointed? isDecimal mantissa, cs.dropWhile fun c => !isPower c with
  | some (whole, fraction), [] =>
    let n := digitsValue 10 (whole ++ fraction)
    if mantissa.contains '.' then some (.number (.ofDecimal n (-(fraction.length : Int))))
    else if n < pow2 63 || (isNegative && n = pow2 63) then some (.integer (Int64.ofNat n))
    else some (.number (.ofDecimal n 0))
  | some (whole, fraction), _ :: power =>
    (exponent? power).map fun e =>
      .number (.ofDecimal (digitsValue 10 (whole ++ fraction)) (e - fraction.length))
  | none, _ => none

/-- The number of a text without a sign, which stands after a minus sign or not. -/
def number? (isNegative : Bool) : List Char → Option TokenKind
  | '0' :: x :: rest =>
    if x = 'x' || x = 'X' then hexNumber? rest else decimalNumber? isNegative ('0' :: x :: rest)
  | cs => decimalNumber? isNegative cs

/-- The characters of a numeral and the rest: digits, points, and marks of exponents with their
signs. -/
def numeralSpan (isPower : Char → Bool) : List Char → List Char × List Char
  | c :: sign :: rest =>
    if isPower c && (sign = '+' || sign = '-') then
      let (taken, left) := numeralSpan isPower rest
      (c :: sign :: taken, left)
    else if isPower c || isHex c || c = '.' then
      let (taken, left) := numeralSpan isPower (sign :: rest)
      (c :: taken, left)
    else ([], c :: sign :: rest)
  | [c] => if isPower c || isHex c || c = '.' then ([c], []) else ([], [c])
  | [] => ([], [])

/-- The characters of a numeral and the rest. A letter right after it belongs to it and spoils
it. -/
def numeral (cs : List Char) : List Char × List Char :=
  let (point, digits) := match cs with
    | '.' :: rest => (['.'], rest)
    | _ => ([], cs)
  let (mark, body) := match digits with
    | '0' :: x :: rest => if x = 'x' || x = 'X' then (['0', x], rest) else ([], digits)
    | _ => ([], digits)
  let isPower : Char → Bool :=
    if mark.isEmpty then fun c => c = 'e' || c = 'E' else fun c => c = 'p' || c = 'P'
  let start := point ++ mark
  let (taken, left) := numeralSpan isPower body
  match left with
  | c :: rest => if isLetter c then (start ++ taken ++ [c], rest) else (start ++ taken, left)
  | [] => (start ++ taken, [])

/-! ## Strings -/

/-- The UTF-8 form of a number below `2 ^ 31`, longer than four bytes beyond the characters. -/
def extendedUtf8 (n : Nat) : List Char :=
  let tail (i : Nat) : Char := Char.ofNat (0x80 + (n >>> (6 * i)) % 64)
  if n < 0x80 then [Char.ofNat n]
  else if n < 0x800 then [Char.ofNat (0xC0 + n >>> 6), tail 0]
  else if n < 0x10000 then [Char.ofNat (0xE0 + n >>> 12), tail 1, tail 0]
  else if n < 0x200000 then [Char.ofNat (0xF0 + n >>> 18), tail 2, tail 1, tail 0]
  else if n < 0x4000000 then [Char.ofNat (0xF8 + n >>> 24), tail 3, tail 2, tail 1, tail 0]
  else [Char.ofNat (0xFC + n >>> 30), tail 4, tail 3, tail 2, tail 1, tail 0]

/-- What an escape sequence stands for, and the rest; or the reason why it is none, and the
characters up to the place that spoils it. -/
inductive Escape where
  | gives (cs : List Char) (rest : List Char)
  | newline (rest : List Char)
  | blanks (rest : List Char)
  | spoiled (reason : String) (read : List Char)

/-- The characters up to the one that spoils an escape sequence. -/
def spoiledAt (reason : String) (read rest : List Char) : Escape :=
  .spoiled reason (read ++ rest.take 1)

/-- The number in braces of a Unicode escape, after its first digit. -/
def unicodeEscape (value : Nat) (read : List Char) : List Char → Escape
  | c :: rest =>
    match hexValue? c with
    | some digit =>
      if value < pow2 27 then unicodeEscape (value * 16 + digit) (read ++ [c]) rest
      else .spoiled "UTF-8 value too large" (read ++ [c])
    | none =>
      if c = '}' then .gives (extendedUtf8 value) rest
      else .spoiled "missing '\x7d'" (read ++ [c])
  | [] => .spoiled "missing '\x7d'" read

/-- The escape sequence after a backslash. -/
def escape : List Char → Escape
  | 'a' :: rest => .gives ['\x07'] rest
  | 'b' :: rest => .gives ['\x08'] rest
  | 'f' :: rest => .gives ['\x0c'] rest
  | 'n' :: rest => .gives ['\n'] rest
  | 'r' :: rest => .gives ['\r'] rest
  | 't' :: rest => .gives ['\t'] rest
  | 'v' :: rest => .gives ['\x0b'] rest
  | '\\' :: rest => .gives ['\\'] rest
  | '"' :: rest => .gives ['"'] rest
  | '\x27' :: rest => .gives ['\x27'] rest
  | 'x' :: rest =>
    match rest with
    | a :: b :: rest' =>
      match hexValue? a, hexValue? b with
      | some high, some low => .gives [Char.ofNat (high * 16 + low)] rest'
      | none, _ => .spoiled "hexadecimal digit expected" ['x', a]
      | some _, none => .spoiled "hexadecimal digit expected" ['x', a, b]
    | _ => .spoiled "hexadecimal digit expected" ('x' :: rest)
  | 'u' :: rest =>
    match rest with
    | '{' :: c :: rest' =>
      match hexValue? c with
      | some digit => unicodeEscape digit ['u', '{', c] rest'
      | none => .spoiled "hexadecimal digit expected" ['u', '{', c]
    | '{' :: [] => .spoiled "hexadecimal digit expected" ['u', '{']
    | _ => spoiledAt "missing '\x7b'" ['u'] rest
  | 'z' :: rest => .blanks rest
  | c :: rest =>
    if isNewline c then .newline (c :: rest)
    else if isDecimal c then
      let digits := ((c :: rest).takeWhile isDecimal).take 3
      let rest' := (c :: rest).drop digits.length
      let n := digitsValue 10 digits
      if n < 256 then .gives [Char.ofNat n] rest'
      else spoiledAt "decimal escape too large" digits rest'
    else .spoiled "invalid escape sequence" [c]
  | [] => .spoiled "invalid escape sequence" []

/-- The end of a scan: a token kind with its shown text, the line, and the rest; or a reason. -/
inductive Scanned where
  | token (kind : TokenKind) (shown : Bytes) (line : Nat) (rest : List Char)
  | stop (reason : Bytes) (line : Nat)

/-- Skips blanks and ends of lines. -/
def skipBlanks : Nat → Nat → List Char → Nat × List Char
  | 0, line, cs => (line, cs)
  | fuel + 1, line, c :: rest =>
    if isBlank c then skipBlanks fuel line rest
    else if isNewline c then skipBlanks fuel (line + 1) (skipNewline (c :: rest))
    else (line, c :: rest)
  | _, line, [] => (line, [])

/-- A string up to its closing delimiter, after `read`, whose last character comes first. -/
def quotedString (delimiter : Char) : Nat → Nat → List Char → List Char → Scanned
  | 0, line, _, _ => .stop (reasonNear "unfinished string" endShown) line
  | _, line, _, [] => .stop (reasonNear "unfinished string" endShown) line
  | fuel + 1, line, read, c :: rest =>
    if c = delimiter then
      .token (.string (bytesOf read.reverse))
        (quoted (delimiter :: read.reverse ++ [delimiter])) line rest
    else if isNewline c then
      .stop (reasonNear "unfinished string" (quoted (delimiter :: read.reverse))) line
    else if c = '\\' then
      match escape rest with
      | .gives cs rest' => quotedString delimiter fuel line (cs.reverse ++ read) rest'
      | .newline rest' =>
        quotedString delimiter fuel (line + 1) ('\n' :: read) (skipNewline rest')
      | .blanks rest' =>
        let (line', rest'') := skipBlanks fuel line rest'
        quotedString delimiter fuel line' read rest''
      | .spoiled reason spoiled =>
        if rest.isEmpty then .stop (reasonNear "unfinished string" endShown) line
        else
          .stop (reasonNear reason (quoted (delimiter :: read.reverse ++ '\\' :: spoiled))) line
    else quotedString delimiter fuel line (c :: read) rest

/-- The level of a long bracket that opens here with `[` already read, and the rest after it. -/
def longOpening (cs : List Char) : Option (Nat × List Char) :=
  let level := (cs.takeWhile (· = '=')).length
  match cs.drop level with
  | '[' :: rest => some (level, rest)
  | _ => none

/-- A long string or comment up to its closing bracket, after `read`, whose last character comes
first: its content, the line and the rest. -/
def longBody (level : Nat) :
    Nat → Nat → List Char → List Char → Option (List Char × Nat × List Char)
  | 0, _, _, _ => none
  | _, _, _, [] => none
  | fuel + 1, line, read, c :: rest =>
    if c = ']' then
      let marks := rest.takeWhile (· = '=')
      match rest.drop marks.length with
      | ']' :: rest' =>
        if marks.length = level then some (read.reverse, line, rest')
        else longBody level fuel line (c :: read) rest
      | _ => longBody level fuel line (c :: read) rest
    else if isNewline c then
      longBody level fuel (line + 1) ('\n' :: read) (skipNewline (c :: rest))
    else longBody level fuel line (c :: read) rest

/-- The content of a long bracket, after its opening. An end of line right after the opening does
not belong to it. -/
def longContent (fuel level line : Nat) (cs : List Char) :
    Option (List Char × Nat × List Char) :=
  match cs with
  | c :: _ =>
    if isNewline c then longBody level fuel (line + 1) [] (skipNewline cs)
    else longBody level fuel line [] cs
  | [] => none

/-- The line on which an unfinished text ends. -/
def lastLine : Nat → Nat → List Char → Nat
  | 0, line, _ => line
  | fuel + 1, line, c :: rest =>
    if isNewline c then lastLine fuel (line + 1) (skipNewline (c :: rest))
    else lastLine fuel line rest
  | _, line, [] => line

/-- The operators, longer ones first. -/
def operators : List String :=
  ["...", "<<", ">>", "//", "==", "~=", "<=", ">=", "::", "..", "+", "-", "*", "/", "%", "^", "#",
    "&", "~", "|", "<", ">", "=", "(", ")", "\x7b", "\x7d", "[", "]", ";", ":", ",", "."]

/-- The operator that the characters begin with. -/
def operator? (cs : List Char) : Option (String × List Char) :=
  (operators.find? fun s => s.toList.isPrefixOf cs).map fun s => (s, cs.drop s.length)

/-- The rest of a comment, after its two dashes; or the reason why it has no end. -/
def skipComment (fuel line : Nat) (cs : List Char) :
    Except (Bytes × Nat) (Nat × List Char) :=
  match cs with
  | '[' :: rest =>
    match longOpening rest with
    | some (level, body) =>
      match longContent fuel level line body with
      | some (_, line', rest') => .ok (line', rest')
      | none =>
        let reason := "unfinished long comment (starting at line " ++ toString line ++ ")"
        .error (reasonNear reason endShown, lastLine (body.length + 1) line body)
    | none => .ok (line, cs.dropWhile fun c => !isNewline c)
  | _ => .ok (line, cs.dropWhile fun c => !isNewline c)

/-- The next token. There are fewer characters than units of fuel, here and in what this calls. -/
def scanOne : Nat → Nat → List Char → Scanned
  | 0, line, _ => .token .finish endShown line []
  | _, line, [] => .token .finish endShown line []
  | fuel + 1, line, c :: rest =>
    if isBlank c then scanOne fuel line rest
    else if isNewline c then scanOne fuel (line + 1) (skipNewline (c :: rest))
    else if c = '-' && rest.head? = some '-' then
      match skipComment fuel line (rest.drop 1) with
      | .ok (line', rest') => scanOne fuel line' rest'
      | .error (reason, line') => .stop reason line'
    else if isDecimal c || (c = '.' && (rest.head?.map isDecimal).getD false) then
      let (digits, rest') := numeral (c :: rest)
      match number? false digits with
      | some kind => .token kind (quoted digits) line rest'
      | none => .stop (reasonNear "malformed number" (quoted digits)) line
    else if c = '"' || c = '\x27' then quotedString c fuel line [] rest
    else if c = '[' && (rest.head? = some '[' || rest.head? = some '=') then
      match longOpening rest with
      | some (level, body) =>
        match longContent fuel level line body with
        | some (content, line', rest') =>
          let marks := List.replicate level '='
          .token (.string (bytesOf content))
            (quoted ('[' :: marks ++ '[' :: content ++ ']' :: marks ++ [']'])) line' rest'
        | none =>
          let reason := "unfinished long string (starting at line " ++ toString line ++ ")"
          .stop (reasonNear reason endShown) (lastLine (body.length + 1) line body)
      | none =>
        let marks := rest.takeWhile (· = '=')
        .stop (reasonNear "invalid long string delimiter" (quoted ('[' :: marks))) line
    else if isLetter c then
      let word := (c :: rest).takeWhile fun x => isLetter x || isDecimal x
      let rest' := (c :: rest).drop word.length
      let text := String.ofList word
      if reservedWords.contains text then .token (.symbol text) (quoted word) line rest'
      else .token (.name (bytesOf word)) (quoted word) line rest'
    else
      match operator? (c :: rest) with
      | some (s, rest') => .token (.symbol s) (quoted s.toList) line rest'
      | none => .token (.symbol (String.ofList [c])) (shownChar c) line rest

/-- The tokens of characters from a line on. There are fewer characters than a bound. -/
def scanFrom (bound : Nat) : Nat → Nat → List Char → List Token
  | 0, line, _ => [⟨.finish, line, endShown⟩]
  | fuel + 1, line, cs =>
    match scanOne bound line cs with
    | .token .finish shown line' _ => [⟨.finish, line', shown⟩]
    | .token kind shown line' rest => ⟨kind, line', shown⟩ :: scanFrom bound fuel line' rest
    | .stop reason line' => [⟨.failed reason, line', []⟩]

/-- The tokens of a script. Every token but the last takes a byte. -/
def scan (source : Bytes) : List Token :=
  scanFrom (source.length + 2) (source.length + 1) 1 (characters source)

end Token

end ScriptBridge.Script

import Reckoner.Json.Value

/-!
Reading of JSON by a machine that takes one character at a time. It remembers what has to come
next and, on a stack, the arrays and objects that are still open. A value that ends is delivered to
the innermost open one, or is the document if none is open; after the document only white space may
come. Numbers end where something else begins, so their last character is known only afterwards.
-/

namespace Reckoner.Json

/-- An open array or object, its items or fields last one first. -/
inductive Frame where
  | array (items : List Value)
  | object (fields : List (Quotation × Value))
  /-- An object of which the key of the next field has been read. -/
  | field (fields : List (Quotation × Value)) (key : Quotation)

/-- What has to come next. -/
inductive Phase where
  /-- A value; or the end of the array, if it has only just been opened. -/
  | value (mayClose : Bool)
  /-- A key; or the end of the object, if it has only just been opened. -/
  | key (mayClose : Bool)
  | colon
  /-- A comma or the end of the innermost array or object. -/
  | separator
  /-- The rest of a string, of which the pieces so far are given, last one first. -/
  | string (isKey : Bool) (pieces : Quotation)
  /-- The character after a backslash. -/
  | escape (isKey : Bool) (pieces : Quotation)
  /-- Hexadecimal digits of an escape: how many more, and the number that they make so far. -/
  | code (isKey : Bool) (pieces : Quotation) (more : Nat) (code : Nat)
  /-- The rest of a word that stands for a value. -/
  | word (rest : Text) (value : Value)
  /-- The rest of a number, of which the characters so far are given, last one first. -/
  | number (characters : Text)
  /-- Nothing but white space. -/
  | done (document : Value)

/-- The machine between two characters. -/
structure Reader where
  phase : Phase
  stack : List Frame

/-- The white space of JSON. -/
def isSpace (c : Char) : Bool := c = ' ' || c = '\n' || c = '\t' || c = '\r'

/-- The characters of numbers. -/
def isNumeric (c : Char) : Bool :=
  Text.isDigit c || c = '-' || c = '+' || c = '.' || c = 'e' || c = 'E'

/-- Whether a minus sign comes first, and what follows it. -/
def Numeral.readSign : Text → Bool × Text
  | '-' :: rest => (true, rest)
  | text => (false, text)

/-- The decimals after a point, if one comes first, and what follows them. -/
def Numeral.readFraction : Text → Option Text × Text
  | '.' :: rest => (some (rest.takeWhile Text.isDigit), rest.dropWhile Text.isDigit)
  | text => (none, text)

/-- The exponent that a text is, or none if it is empty. -/
def Numeral.readExponent? : Text → Option (Option (Bool × Text))
  | [] => some none
  | c :: rest =>
    if c = 'e' || c = 'E' then
      match rest with
      | '-' :: digits => some (some (true, digits))
      | '+' :: digits => some (some (false, digits))
      | digits => some (some (false, digits))
    else none

/-- A numeral from all its characters: no zero may lead other digits, and at least one digit stands
on each side of the point and after the letter of the exponent. -/
def Numeral.read? (text : Text) : Option Numeral :=
  let (negative, text) := readSign text
  let whole := text.takeWhile Text.isDigit
  let (fraction, text) := readFraction (text.dropWhile Text.isDigit)
  match readExponent? text with
  | none => none
  | some exponent =>
    if whole = [] || (whole.head? = some '0' && 1 < whole.length) || fraction = some []
      || exponent.any (fun e => e.2 = [] || !e.2.all Text.isDigit) then none
    else some ⟨negative, whole, fraction, exponent⟩

/-- The value of a hexadecimal digit. -/
def hexDigit? (c : Char) : Option Nat :=
  if Text.isDigit c then some (c.toNat - '0'.toNat)
  else if 'a' ≤ c && c ≤ 'f' then some (c.toNat - 'a'.toNat + 10)
  else if 'A' ≤ c && c ≤ 'F' then some (c.toNat - 'A'.toNat + 10)
  else none

/-- The piece that an escaped code stands for. -/
def Piece.ofCode (code : Nat) : Piece :=
  if isHighHalf code || isLowHalf code then .half code else .plain (Char.ofNat code)

/-- The character that a letter after a backslash stands for. -/
def unescape? (c : Char) : Option Char :=
  if c = '"' || c = '\\' || c = '/' then some c
  else if c = 'b' then some '\x08'
  else if c = 'f' then some '\x0C'
  else if c = 'n' then some '\n'
  else if c = 'r' then some '\r'
  else if c = 't' then some '\t'
  else none

namespace Reader

/-- At the start of a document. -/
def start : Reader := ⟨.value false, []⟩

/-- The machine after a value has ended. -/
def deliver (value : Value) : List Frame → Option Reader
  | [] => some ⟨.done value, []⟩
  | .array items :: below => some ⟨.separator, .array (value :: items) :: below⟩
  | .field fields key :: below => some ⟨.separator, .object ((key, value) :: fields) :: below⟩
  | .object _ :: _ => none

/-- The machine after a closing bracket or brace. -/
def close (c : Char) : List Frame → Option Reader
  | .array items :: below => if c = ']' then deliver (.array items.reverse) below else none
  | .object fields :: below => if c = '\x7d' then deliver (.object fields.reverse) below else none
  | _ => none

/-- The machine after the first character of a value. -/
def openValue (mayClose : Bool) (c : Char) (stack : List Frame) : Option Reader :=
  if isSpace c then some ⟨.value mayClose, stack⟩
  else if c = '[' then some ⟨.value true, .array [] :: stack⟩
  else if c = '\x7b' then some ⟨.key true, .object [] :: stack⟩
  else if c = '"' then some ⟨.string false [], stack⟩
  else if c = 'n' then some ⟨.word "ull".toList .null, stack⟩
  else if c = 't' then some ⟨.word "rue".toList (.bool true), stack⟩
  else if c = 'f' then some ⟨.word "alse".toList (.bool false), stack⟩
  else if c = '-' || Text.isDigit c then some ⟨.number [c], stack⟩
  else if mayClose then close c stack
  else none

/-- The machine after a character where a comma or an end is due. -/
def separate (c : Char) (stack : List Frame) : Option Reader :=
  if isSpace c then some ⟨.separator, stack⟩
  else if c = ',' then
    match stack with
    | .array _ :: _ => some ⟨.value false, stack⟩
    | .object _ :: _ => some ⟨.key false, stack⟩
    | _ => none
  else close c stack

/-- The machine after the end of a string. -/
def endString (isKey : Bool) (content : Quotation) (stack : List Frame) : Option Reader :=
  if isKey then
    match stack with
    | .object fields :: below => some ⟨.colon, .field fields content :: below⟩
    | _ => none
  else deliver (.string content) stack

/-- The machine after the end of a number. -/
def endNumber (characters : Text) (stack : List Frame) : Option Reader := do
  deliver (.number (← Numeral.read? characters.reverse)) stack

/-- The machine after a character that follows a finished value. -/
def next (c : Char) (reader : Reader) : Option Reader :=
  match reader.phase with
  | .done _ => if isSpace c then some reader else none
  | _ => separate c reader.stack

/-- The machine after one more character, unless that cannot come here. -/
def step (reader : Reader) (c : Char) : Option Reader :=
  let stack := reader.stack
  match reader.phase with
  | .value mayClose => openValue mayClose c stack
  | .key mayClose =>
    if isSpace c then some reader
    else if c = '"' then some ⟨.string true [], stack⟩
    else if mayClose then close c stack
    else none
  | .colon =>
    if isSpace c then some reader
    else if c = ':' then some ⟨.value false, stack⟩
    else none
  | .separator => separate c stack
  | .string isKey pieces =>
    if c = '"' then endString isKey pieces.reverse stack
    else if c = '\\' then some ⟨.escape isKey pieces, stack⟩
    else if c.toNat < 0x20 then none
    else some ⟨.string isKey (.plain c :: pieces), stack⟩
  | .escape isKey pieces =>
    if c = 'u' then some ⟨.code isKey pieces 4 0, stack⟩
    else (unescape? c).map (fun plain => ⟨.string isKey (.plain plain :: pieces), stack⟩)
  | .code isKey pieces more code =>
    (hexDigit? c).map (fun digit =>
      let code := code * 16 + digit
      if more ≤ 1 then ⟨.string isKey (Piece.ofCode code :: pieces), stack⟩
      else ⟨.code isKey pieces (more - 1) code, stack⟩)
  | .word rest value =>
    match rest with
    | [] => none
    | [last] => if c = last then deliver value stack else none
    | first :: others => if c = first then some ⟨.word others value, stack⟩ else none
  | .number characters =>
    if isNumeric c then some ⟨.number (c :: characters), stack⟩
    else endNumber characters stack >>= next c
  | .done _ => if isSpace c then some reader else none

/-- The document, if it is complete. -/
def finish (reader : Reader) : Option Value :=
  match reader.phase with
  | .done document => some document
  | .number characters =>
    match endNumber characters reader.stack with
    | some ⟨.done document, _⟩ => some document
    | _ => none
  | _ => none

/-- The machine after a text. -/
def run (reader : Reader) (text : Text) : Option Reader := text.foldlM step reader

end Reader

/-- The value that a text holds. -/
def read? (text : Text) : Option Value := Reader.start.run text >>= Reader.finish

end Reckoner.Json

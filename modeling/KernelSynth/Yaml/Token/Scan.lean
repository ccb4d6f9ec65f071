/-
# Scanning YAML text into tokens

`Scanner` reads YAML text into tokens on demand, one fetch at a time, and
keeps a queue of tokens not yet taken. Besides the characters, three things
decide the tokens:

* the flow level, the depth of brackets and braces: inside them indentation
  means nothing;
* the indentation stack: in block context a key or an entry further right
  than the current indentation opens a block collection, and a line that
  starts further left closes collections until the indentation fits;
* simple keys: a scalar, alias, anchor, tag or opening bracket may turn out
  to be a mapping key when a `:` follows on the same line, within 1024
  characters. The scanner notes each such place and, when the `:` comes,
  inserts the key token (and the start of a block mapping) before it. A
  place where a key is required (in block context, at the indentation) that
  gets no `:` is an error.

The queue is kept at least three tokens long before a token is taken, and
longer while its first token may still become a key; so the scanner reads
ahead of the parser by that much, and a scanner problem there is found
before a parser problem at the first token.

Comments are skipped: one to the end of its line, together with the lines
after it that hold only blanks and comments; a comment after a token on the
same line is skipped together with the blanks before it.

The text is read lazily, in rounds of at most 512 bytes, and a round is
checked for characters YAML does not allow as it is read. The scanner asks
for characters before it looks at them (`need`), a few ahead at the start of
a token and up to 512 ahead past comments; asking for a character of the
round that holds the first bad one stops scanning. Looking ahead past blanks
is the exception: there reading the round stops at the bad character, the
look ends, and scanning goes on with the characters before it; the problem
is noted (`readFault`) and reported when the next event is complete, unless
scanning stops with a problem of its own first. A bad character that the
first document never brings into reach is never seen.

The scanner reads the text as the Unicode characters it shows; the
scalars, tags and directives it gives are byte texts (see `Text.Bytes`), and
a tag's `%XX` escapes stand for their bytes, whole characters or not.

Every loop is bounded by the length of the text, and each pass either
consumes a character or leaves the loop.

Key definitions: `Yaml.Scanner`, `Yaml.Scanner.ofText`, `Yaml.peekToken`,
`Yaml.skipToken`.
-/
import KernelSynth.Yaml.Token
import KernelSynth.Text.Bytes

namespace KernelSynth
namespace Yaml

/-- A line break: carriage return, line feed, next line, line or paragraph separator. -/
def isBreak (c : Char) : Bool :=
  c = '\r' || c = '\n' || c = '\u0085' || c = ' ' || c = ' '

/-- A blank: space or tab. -/
def isBlank (c : Char) : Bool := c = ' ' || c = '\t'

/-- The end of the text, read as a NUL character. -/
def isEnd (c : Char) : Bool := c = '\x00'

/-- A line break or the end of the text. -/
def isBreakOrEnd (c : Char) : Bool := isBreak c || isEnd c

/-- A blank, a line break or the end of the text. -/
def isBlankOrEnd (c : Char) : Bool := isBlank c || isBreakOrEnd c

/-- A character of a name: ASCII letter or digit, underscore or dash. -/
def isWordChar (c : Char) : Bool := c.isAlphanum || c = '_' || c = '-'

/-- A decimal digit. -/
def isDigit (c : Char) : Bool := '0' ≤ c && c ≤ '9'

/-- The value of a hex digit, if it is one. -/
def hexValue? (c : Char) : Option Nat :=
  if '0' ≤ c ∧ c ≤ '9' then some (c.toNat - 48)
  else if 'a' ≤ c ∧ c ≤ 'f' then some (c.toNat - 87)
  else if 'A' ≤ c ∧ c ≤ 'F' then some (c.toNat - 55)
  else none

/-- A place that may start a simple key: whether it still may, whether it must, the number
of the token it would precede, and its mark. -/
structure SimpleKey where
  possible : Bool
  required : Bool
  number : Nat
  mark : Mark
  deriving Repr

/-- The state of scanning. -/
structure Scanner where
  input : Array Char
  mark : Mark
  started : Bool
  flowLevel : Nat
  indent : Int
  indents : List Int
  keyAllowed : Bool
  keys : Array SimpleKey
  /-- Token numbers of noted key places, with their level in `keys`. -/
  keyIndex : List (Nat × Nat)
  queue : List Token
  parsed : Nat
  available : Bool
  /-- Line breaks passed since the last character that is not blank. -/
  newlines : Nat
  /-- How many characters can be asked for before reading meets a character YAML does not
  allow; none when the text has no such character. -/
  readLimit : Option Nat
  /-- The place of the first character YAML does not allow, if there is one. -/
  badAt : Option Nat
  /-- The number of characters read after each round of reading still to come. -/
  rounds : List Nat
  /-- The characters read so far. -/
  buffered : Nat
  /-- The NUL characters added at the end of the text, one for each reading past it. -/
  nuls : Nat
  /-- The place of the character at the start of the buffer: the current character at the
  last reading. -/
  bufferStart : Nat
  /-- Whether reading met that character while looking ahead past blanks, which goes on with
  the characters before it and leaves the problem to be reported later. -/
  readFault : Bool

/-- Scanning steps: they change the scanner and may find a problem. -/
abbrev ScanM := StateT Scanner (Except Problem)

/-- Whether a character may stand in YAML text: tab, line feed, carriage return, printable
ASCII, next line, and the rest of Unicode but for the other controls, surrogates, U+FFFE and
U+FFFF. -/
def allowedChar (c : Char) : Bool :=
  let n := c.toNat
  n = 0x09 || n = 0x0A || n = 0x0D || (0x20 ≤ n && n ≤ 0x7E) || n = 0x85 ||
    (0xA0 ≤ n && n ≤ 0xD7FF) || (0xE000 ≤ n && n ≤ 0xFFFD) || 0x10000 ≤ n

/-- The problem of reading a character YAML does not allow. -/
def badCharacter : Problem :=
  ⟨.reader, Mark.origin, Mark.origin, "control characters are not allowed"⟩

/-- The size of a round of reading, in bytes. -/
def roundBytes : Nat := 512

/-- Counts the characters read before the round that holds the first character YAML does not
allow, and the characters before that character; `off` is the byte offset reached, `bound` the
byte offset where the current round ends, `first` the characters read before it, `count` the
characters read so far. A round reads every character that ends within it; the next round
starts at the first byte not yet read. -/
def limitFrom : List Char → Nat → Nat → Nat → Nat → Option (Nat × Nat)
  | [], _, _, _, _ => none
  | c :: cs, off, bound, first, count =>
    let next := off + c.utf8Size
    let (bound, first) := if bound < next then (off + roundBytes, count) else (bound, first)
    if allowedChar c then limitFrom cs next bound first (count + 1) else some (first, count)

/-- How many characters of a text can be asked for before reading meets a character YAML does
not allow, and the place of that character, if it has one. The first round reads the first 512
bytes; a byte order mark at the start is read with them but is not a character of the text. -/
def readLimit? : List Char → Option (Nat × Nat)
  | '\uFEFF' :: rest => limitFrom rest 3 roundBytes 0 0
  | cs => limitFrom cs 0 roundBytes 0 0

/-- The number of characters read after each round of reading, the last round reading to the
end: a round reads every character that ends within its 512 bytes, and the next starts at the
first byte not yet read; `off` is the byte offset reached, `bound` the byte offset where the
current round ends, `count` the characters read so far. -/
def roundEnds : List Char → Nat → Nat → Nat → List Nat
  | [], _, _, count => [count]
  | c :: cs, off, bound, count =>
    let next := off + c.utf8Size
    if bound < next then count :: roundEnds cs next (off + roundBytes) (count + 1)
    else roundEnds cs next bound (count + 1)

/-- The rounds still to read until `want` characters and `nuls` NULs are read: the characters
read after the last round needed and the rounds after it, or none when the text ends first. -/
def fillRounds (want nuls : Nat) : List Nat → Option (Nat × List Nat)
  | [] => none
  | r :: rest => if want ≤ r + nuls then some (r, rest) else fillRounds want nuls rest

namespace Scanner

/-- The characters of a text as the scanner reads them, without a byte order mark at its very
start, and the byte offset they start at. -/
def textChars (text : String) : List Char × Nat :=
  match Text.shownChars text with
  | '\uFEFF' :: rest => (rest, 3)
  | cs => (cs, 0)

/-- A scanner at the start of a text, read as the characters it shows; a byte order mark at
its very start is dropped. -/
def ofText (text : String) : Scanner where
  input := (textChars text).1.toArray
  mark := Mark.origin
  started := false
  flowLevel := 0
  indent := -1
  indents := []
  keyAllowed := false
  keys := #[]
  keyIndex := []
  queue := []
  parsed := 0
  available := false
  newlines := 0
  readLimit := (readLimit? (Text.shownChars text)).map (·.1)
  badAt := (readLimit? (Text.shownChars text)).map (·.2)
  readFault := false
  rounds := roundEnds (textChars text).1 (textChars text).2 roundBytes 0
  buffered := 0
  nuls := 0
  bufferStart := 0

/-- The character `k` places ahead, NUL past the end. -/
def charAt (s : Scanner) (k : Nat) : Char := s.input.getD (s.mark.index + k) '\x00'

/-- A bound on the passes of any loop: the length of the text and a margin. -/
def budget (s : Scanner) : Nat := s.input.size + 16

/-- Whether `n` characters from the current one are read already. -/
def hasRead (s : Scanner) (n : Nat) : Bool := s.mark.index + n ≤ s.buffered + s.nuls

/-- Reads on, as asking for `n` characters when fewer are read does: the current character
moves to the start of the buffer, and rounds are read until `n` characters are there, or the
text ends and a NUL is added. -/
def refill (s : Scanner) (n : Nat) : Scanner :=
  match fillRounds (s.mark.index + n) s.nuls s.rounds with
  | some (r, rest) => { s with buffered := r, rounds := rest, bufferStart := s.mark.index }
  | none =>
    { s with
      buffered := s.input.size
      rounds := []
      nuls := s.nuls + 1
      bufferStart := s.mark.index }

/-- Whether the buffer starts with a byte order mark. -/
def bufferAtMark (s : Scanner) : Bool := s.input.getD s.bufferStart '\x00' == '\uFEFF'

end Scanner

/-- The current character. -/
def cur : ScanM Char := do return (← get).charAt 0

/-- Asks for the `n` characters from the current one, reading on if they are not read yet;
reading past the limit meets a character YAML does not allow. -/
def need (n : Nat) : ScanM Unit := do
  let s ← get
  if let some limit := s.readLimit then
    if limit < s.mark.index + n then throw badCharacter
  if !s.hasRead n then set (s.refill n)

/-- The character `k` places ahead. -/
def ahead (k : Nat) : ScanM Char := do return (← get).charAt k

/-- The current mark. -/
def here : ScanM Mark := do return (← get).mark

/-- Stops with a problem found by the scanner, in the context of `context`. -/
def scanFail (context : Mark) (text : String) : ScanM α := do
  throw ⟨.scanner, context, (← get).mark, text⟩

/-- Moves past one character on the line. -/
def skip : ScanM Unit := modify fun s =>
  { s with
    mark := ⟨s.mark.index + 1, s.mark.line, s.mark.column + 1⟩
    newlines := if isBlank (s.charAt 0) then s.newlines else 0 }

/-- Moves past a line break; a carriage return and line feed count as one. -/
def skipLine : ScanM Unit := modify fun s =>
  if s.charAt 0 = '\r' && s.charAt 1 = '\n' then
    { s with mark := ⟨s.mark.index + 2, s.mark.line + 1, 0⟩, newlines := s.newlines + 1 }
  else if isBreak (s.charAt 0) then
    { s with mark := ⟨s.mark.index + 1, s.mark.line + 1, 0⟩, newlines := s.newlines + 1 }
  else s

/-- Takes the current character and moves past it. -/
def take : ScanM Char := do
  let c ← cur
  skip
  return c

/-- Takes a line break as it stands in a scalar: a line feed for carriage return, line feed
and next line, the separator itself for a line or paragraph separator. -/
def takeBreak : ScanM String := do
  let c ← cur
  if c = ' ' || c = ' ' then
    skipLine
    return c.toString
  else if isBreak c then
    skipLine
    return "\n"
  else return ""

/-- Moves past characters up to a line break or the end. -/
def skipToBreak : ScanM Unit := do
  for _ in [0:(← get).budget] do
    if isBreakOrEnd (← cur) then break
    skip
    need 1

/-- Moves to the comment that starts at `seen`, across blanks and line breaks, and past its
text up to the line break or end that closes it, asking for each character on the way. -/
def consumeComment (seen : Nat) : ScanM Unit := do
  for _ in [0:(← get).budget] do
    need 1
    let s ← get
    if isBreakOrEnd (s.charAt 0) then
      if seen ≤ s.mark.index || isEnd (s.charAt 0) then break
      need 2
      skipLine
    else skip

/-- Appends a token to the queue. -/
def pushToken (t : Token) : ScanM Unit := modify fun s => { s with queue := s.queue ++ [t] }

/-- Inserts a token into the queue, `pos` places after its head. -/
def insertToken (pos : Nat) (t : Token) : ScanM Unit :=
  modify fun s => { s with queue := s.queue.take pos ++ [t] ++ s.queue.drop pos }

/-- Forgets the key place noted for a token number. -/
def forgetKey (number : Nat) : ScanM Unit :=
  modify fun s => { s with keyIndex := s.keyIndex.filter (·.1 ≠ number) }

/-- Drops the key place of the current level; an error if a key was required there. -/
def removeSimpleKey : ScanM Unit := do
  let s ← get
  match s.keys.back? with
  | none => pure ()
  | some k =>
    if k.possible then
      if k.required then scanFail k.mark "could not find expected ':'"
      set { s with keys := s.keys.pop.push { k with possible := false } }
      forgetKey k.number

/-- Notes the current place as a possible simple key, if keys are allowed here. -/
def saveSimpleKey : ScanM Unit := do
  let s ← get
  let required := s.flowLevel == 0 && s.indent == (s.mark.column : Int)
  if s.keyAllowed then
    let k : SimpleKey := ⟨true, required, s.parsed + s.queue.length, s.mark⟩
    removeSimpleKey
    modify fun s =>
      { s with
        keys := s.keys.pop.push k
        keyIndex := (k.number, s.keys.size - 1) :: s.keyIndex.filter (·.1 ≠ k.number) }

/-- Whether the key place at a level can still be a key: not past its line nor 1024
characters on. A required one that can no longer be is an error. -/
def keyValid (level : Nat) : ScanM Bool := do
  let s ← get
  match s.keys[level]? with
  | none => return false
  | some k =>
    if !k.possible then return false
    if k.mark.line < s.mark.line || k.mark.index + 1024 < s.mark.index then
      if k.required then scanFail k.mark "could not find expected ':'"
      set { s with keys := s.keys.modify level fun k => { k with possible := false } }
      return false
    return true

/-- Opens a flow level. -/
def increaseFlowLevel : ScanM Unit := do
  modify fun s => { s with keys := s.keys.push ⟨false, false, 0, s.mark⟩, flowLevel := s.flowLevel + 1 }
  let s ← get
  if s.flowLevel > 10000 then scanFail s.mark "exceeded max depth of 10000"

/-- Closes a flow level. -/
def decreaseFlowLevel : ScanM Unit := do
  let s ← get
  if s.flowLevel > 0 then
    match s.keys.back? with
    | some k =>
      set { s with flowLevel := s.flowLevel - 1, keys := s.keys.pop }
      forgetKey k.number
    | none => set { s with flowLevel := s.flowLevel - 1 }

/-- In block context, opens a collection at `column` if it is further right than the
indentation: the token `kind` goes at the place of token `number`, or at the end. -/
def rollIndent (column : Int) (number : Option Nat) (kind : TokenKind) (m : Mark) :
    ScanM Unit := do
  let s ← get
  if s.flowLevel > 0 then return
  if s.indent < column then
    set { s with indents := s.indent :: s.indents, indent := column }
    if s.indents.length + 1 > 10000 then
      scanFail ((s.keys.back?.map (·.mark)).getD s.mark) "exceeded max depth of 10000"
    let t : Token := ⟨kind, m, m⟩
    match number with
    | some n => insertToken (n - s.parsed) t
    | none => pushToken t

/-- In block context, closes the collections indented further right than `column`. -/
def unrollIndent (column : Int) (scanMark : Mark) : ScanM Unit := do
  if (← get).flowLevel > 0 then return
  let bm : Mark := { scanMark with index := scanMark.index - 1 }
  for _ in [0:(← get).indents.length + 1] do
    let s ← get
    if s.indent ≤ column then break
    match s.indents with
    | i :: rest =>
      pushToken ⟨.blockEnd, bm, bm⟩
      set { (← get) with indent := i, indents := rest }
    | [] => break

/-- The first place from `first` up to 512 characters ahead that holds neither a blank nor a
line break, asking for each character looked at. Reading that meets a character YAML does not
allow ends the look without a place: the characters before that one are read, and the problem
is noted for later. -/
def peekPastBlanks (first : Nat) (breaks : Bool) : ScanM (Option Nat) := do
  for k in [first:roundBytes] do
    let s ← get
    if !s.hasRead (k + 1) then
      if let some limit := s.readLimit then
        if limit < s.mark.index + k + 1 then
          set { s with readLimit := s.badAt, readFault := true, bufferStart := s.mark.index }
          return none
      set (s.refill (k + 1))
    let c := (← get).charAt k
    if !(isBlank c || (breaks && isBreak c)) then return some k
  return none

/-- Skips the comment at the current character to the end of its line, and each later one
that follows only blanks and line breaks, looking at most 512 characters ahead each time. -/
def skipComments : ScanM Unit := do
  consumeComment (← here).index
  for _ in [0:(← get).budget] do
    match ← peekPastBlanks 1 true with
    | some k =>
      if (← get).charAt k = '#' then consumeComment ((← here).index + k) else break
    | none => break

/-- Moves to the next token: past blanks (tabs only in flow context or where no key may
start), comments and line breaks; a line break in block context allows a key. -/
def scanToNextToken : ScanM Unit := do
  for _ in [0:(← get).budget] do
    need 1
    let s ← get
    if s.mark.column == 0 && s.bufferAtMark then skip
    need 1
    for _ in [0:(← get).budget] do
      let s ← get
      let c := s.charAt 0
      if c == ' ' || ((s.flowLevel > 0 || !s.keyAllowed) && c == '\t') then
        skip
        need 1
      else break
    if (← cur) == '#' then skipComments
    if isBreak (← cur) then
      need 2
      skipLine
      if (← get).flowLevel == 0 then modify fun s => { s with keyAllowed := true }
    else break

/-- Skips a comment after a token on the same line, with the blanks before it, looking at
most 512 characters ahead. -/
def scanLineComment : ScanM Unit := do
  if (← get).newlines > 0 then return
  match ← peekPastBlanks 0 false with
  | some k => if (← get).charAt k = '#' then consumeComment ((← here).index + k)
  | none => pure ()

/-- The start of the stream. -/
def fetchStreamStart : ScanM Unit := modify fun s =>
  { s with
    indent := -1
    keys := s.keys.push ⟨false, false, 0, Mark.origin⟩
    keyIndex := []
    keyAllowed := true
    started := true
    queue := s.queue ++ [⟨.streamStart, s.mark, s.mark⟩] }

/-- The end of the stream: every block collection closes. -/
def fetchStreamEnd : ScanM Unit := do
  modify fun s =>
    if s.mark.column != 0 then { s with mark := { s.mark with column := 0, line := s.mark.line + 1 } }
    else s
  unrollIndent (-1) (← here)
  removeSimpleKey
  modify fun s => { s with keyAllowed := false }
  let m ← here
  pushToken ⟨.streamEnd, m, m⟩

/-- A directive name, and the check that a blank follows it. -/
def scanDirectiveName (start : Mark) : ScanM String := do
  need 1
  let mut name := ""
  for _ in [0:(← get).budget] do
    if isWordChar (← cur) then
      name := name.push (← take)
      need 1
    else break
  if name.isEmpty then scanFail start "could not find expected directive name"
  if !isBlankOrEnd (← cur) then scanFail start "found unexpected non-alphabetical character"
  return name

/-- One number of a version directive, at most two digits. -/
def scanVersionNumber (start : Mark) : ScanM Nat := do
  need 1
  let mut value := 0
  let mut length := 0
  for _ in [0:(← get).budget] do
    let c ← cur
    if !isDigit c then break
    length := length + 1
    if length > 2 then scanFail start "found extremely long version number"
    value := value * 10 + (c.toNat - 48)
    skip
    need 1
  if length == 0 then scanFail start "did not find expected version number"
  return value

/-- Skips blanks. -/
def skipBlanks : ScanM Unit := do
  need 1
  for _ in [0:(← get).budget] do
    if isBlank (← cur) then
      skip
      need 1
    else break

/-- A tag handle: `!`, `!!` or `!name!`; in a directive it must be one of them. -/
def scanTagHandle (directive : Bool) (start : Mark) : ScanM String := do
  need 1
  if (← cur) != '!' then scanFail start "did not find expected '!'"
  let mut h := "!"
  skip
  need 1
  for _ in [0:(← get).budget] do
    if isWordChar (← cur) then
      h := h.push (← take)
      need 1
    else break
  if (← cur) == '!' then
    h := h.push (← take)
  else if directive && h != "!" then
    scanFail start "did not find expected '!'"
  return h

/-- The bytes of one character written as URI escapes `%XX`: a lead byte and as many
continuation bytes as it calls for, read as UTF-8 (an overlong or otherwise ill-formed
sequence is its bytes). -/
def scanUriEscapes (start : Mark) : ScanM (List Text.Piece) := do
  let mut bytes : List Nat := []
  let mut width := 0
  for _ in [0:8] do
    need 3
    let s ← get
    match s.charAt 0, hexValue? (s.charAt 1), hexValue? (s.charAt 2) with
    | '%', some hi, some lo =>
      let octet := hi * 16 + lo
      if width == 0 then
        width :=
          if octet / 128 == 0 then 1
          else if octet / 32 == 6 then 2
          else if octet / 16 == 14 then 3
          else if octet / 8 == 30 then 4 else 0
        if width == 0 then scanFail start "found an incorrect leading UTF-8 octet"
      else if octet / 64 != 2 then
        scanFail start "found an incorrect trailing UTF-8 octet"
      bytes := bytes ++ [octet]
      skip; skip; skip
      if bytes.length == width then break
    | _, _, _ => scanFail start "did not find URI escaped octet"
  return Text.decodeUtf8 bytes

/-- The text of a tag after its handle, or of a verbatim tag. -/
def scanTagUri (verbatim : Bool) (head : String) (start : Mark) : ScanM String := do
  let mut s : List Text.Piece := (head.toList.drop 1).map .char
  let mut hasTag := !head.isEmpty
  need 1
  for _ in [0:(← get).budget] do
    let c ← cur
    if isWordChar c || ";/?:@&=+$.%!~*'()".toList.contains c ||
        (verbatim && ",[]".toList.contains c) then
      if c == '%' then s := s ++ (← scanUriEscapes start)
      else s := s ++ [.char (← take)]
      need 1
      hasTag := true
    else break
  if !hasTag then scanFail start "did not find expected tag URI"
  return Text.ofPieces s

/-- A `%YAML` or `%TAG` directive, to the end of its line. -/
def scanDirective : ScanM Token := do
  let start ← here
  skip
  let name ← scanDirectiveName start
  let kind ← if name == "YAML" then do
      skipBlanks
      let major ← scanVersionNumber start
      if (← cur) != '.' then scanFail start "did not find expected digit or '.' character"
      skip
      let minor ← scanVersionNumber start
      pure (TokenKind.versionDirective major minor)
    else if name == "TAG" then do
      skipBlanks
      let handle ← scanTagHandle true start
      need 1
      if !isBlank (← cur) then scanFail start "did not find expected whitespace"
      skipBlanks
      let pre ← scanTagUri true "" start
      need 1
      if !isBlankOrEnd (← cur) then scanFail start "did not find expected whitespace or line break"
      pure (TokenKind.tagDirective handle pre)
    else scanFail start "found unknown directive name"
  let stop ← here
  skipBlanks
  if (← cur) == '#' then skipToBreak
  if !isBreakOrEnd (← cur) then scanFail start "did not find expected comment or line break"
  if isBreak (← cur) then
    need 2
    skipLine
  return ⟨kind, start, stop⟩

/-- A directive line: every block collection closes first. -/
def fetchDirective : ScanM Unit := do
  unrollIndent (-1) (← here)
  removeSimpleKey
  modify fun s => { s with keyAllowed := false }
  pushToken (← scanDirective)

/-- A document marker `---` or `...`: every block collection closes first. -/
def fetchDocumentIndicator (kind : TokenKind) : ScanM Unit := do
  unrollIndent (-1) (← here)
  removeSimpleKey
  modify fun s => { s with keyAllowed := false }
  let start ← here
  skip; skip; skip
  pushToken ⟨kind, start, ← here⟩

/-- One-character indicator token at the current place. -/
def indicator (kind : TokenKind) : ScanM Unit := do
  let start ← here
  skip
  pushToken ⟨kind, start, ← here⟩

/-- `[` or `{`: may start a key, opens a flow level. -/
def fetchFlowCollectionStart (kind : TokenKind) : ScanM Unit := do
  saveSimpleKey
  increaseFlowLevel
  modify fun s => { s with keyAllowed := true }
  indicator kind

/-- `]` or `}`: closes a flow level. -/
def fetchFlowCollectionEnd (kind : TokenKind) : ScanM Unit := do
  removeSimpleKey
  decreaseFlowLevel
  modify fun s => { s with keyAllowed := false }
  indicator kind

/-- `,` between flow entries. -/
def fetchFlowEntry : ScanM Unit := do
  removeSimpleKey
  modify fun s => { s with keyAllowed := true }
  indicator .flowEntry

/-- `-` before a block sequence entry; in block context it may open a sequence. -/
def fetchBlockEntry : ScanM Unit := do
  let s ← get
  if s.flowLevel == 0 then
    if !s.keyAllowed then scanFail s.mark "block sequence entries are not allowed in this context"
    rollIndent s.mark.column none .blockSequenceStart s.mark
  removeSimpleKey
  modify fun s => { s with keyAllowed := true }
  indicator .blockEntry

/-- `?` before a complex key; in block context it may open a mapping. -/
def fetchKey : ScanM Unit := do
  let s ← get
  if s.flowLevel == 0 then
    if !s.keyAllowed then scanFail s.mark "mapping keys are not allowed in this context"
    rollIndent s.mark.column none .blockMappingStart s.mark
  removeSimpleKey
  modify fun s => { s with keyAllowed := s.flowLevel == 0 }
  indicator .key

/-- `:` after a key: a noted simple key gets its key token (and, in block context, the start
of its mapping) inserted before it. -/
def fetchValue : ScanM Unit := do
  let s ← get
  let level := s.keys.size - 1
  let valid ← keyValid level
  let s ← get
  match s.keys[level]? with
  | some k =>
    if valid then
      insertToken (k.number - s.parsed) ⟨.key, k.mark, k.mark⟩
      rollIndent k.mark.column (some k.number) .blockMappingStart k.mark
      modify fun s => { s with keys := s.keys.modify level fun k => { k with possible := false } }
      forgetKey k.number
      modify fun s => { s with keyAllowed := false }
    else
      if s.flowLevel == 0 then
        if !s.keyAllowed then scanFail s.mark "mapping values are not allowed in this context"
        rollIndent s.mark.column none .blockMappingStart s.mark
      modify fun s => { s with keyAllowed := s.flowLevel == 0 }
  | none => pure ()
  indicator .value

/-- An anchor `&name` or an alias `*name`. -/
def scanAnchor (isAlias : Bool) : ScanM Token := do
  let start ← here
  skip
  need 1
  let mut name := ""
  for _ in [0:(← get).budget] do
    if isWordChar (← cur) then
      name := name.push (← take)
      need 1
    else break
  let c ← cur
  if name.isEmpty || !(isBlankOrEnd c || "?:,]\x7d%@\x60".toList.contains c) then
    scanFail start "did not find expected alphabetic or numeric character"
  return ⟨if isAlias then .alias name else .anchor name, start, ← here⟩

/-- An anchor or alias: it may start a key, and no key follows it directly. -/
def fetchAnchor (isAlias : Bool) : ScanM Unit := do
  saveSimpleKey
  modify fun s => { s with keyAllowed := false }
  pushToken (← scanAnchor isAlias)

/-- A tag: `!<uri>`, `!handle!suffix`, `!suffix` or `!`. -/
def scanTag : ScanM Token := do
  let start ← here
  need 2
  let (handle, suffix) ← if (← ahead 1) == '<' then do
      skip; skip
      let suffix ← scanTagUri true "" start
      if (← cur) != '>' then scanFail start "did not find the expected '>'"
      skip
      pure ("", suffix)
    else do
      let h ← scanTagHandle false start
      if h.length > 1 && h.startsWith "!" && h.endsWith "!" then
        pure (h, ← scanTagUri false "" start)
      else
        let suffix ← scanTagUri false h start
        if suffix.isEmpty then pure ("", "!") else pure ("!", suffix)
  need 1
  let c ← cur
  if !isBlankOrEnd c then
    if (← get).flowLevel == 0 || c != ',' then
      scanFail start "did not find expected whitespace or line break"
  return ⟨.tag handle suffix, start, ← here⟩

/-- A tag: it may start a key, and no key follows it directly. -/
def fetchTag : ScanM Unit := do
  saveSimpleKey
  modify fun s => { s with keyAllowed := false }
  pushToken (← scanTag)

/-- The indentation and line breaks before a line of a block scalar; fixes the indentation
from the most indented leading empty line when it is not given. -/
def scanBlockBreaks (indent : Nat) (start : Mark) : ScanM (Nat × String × Mark) := do
  let mut breaks := ""
  let mut stop ← here
  let mut maxIndent := 0
  for _ in [0:(← get).budget] do
    need 1
    for _ in [0:(← get).budget] do
      let s ← get
      if (indent == 0 || s.mark.column < indent) && s.charAt 0 == ' ' then
        skip
        need 1
      else break
    let s ← get
    if s.mark.column > maxIndent then maxIndent := s.mark.column
    if (indent == 0 || s.mark.column < indent) && s.charAt 0 == '\t' then
      scanFail start "found a tab character where an indentation space is expected"
    if !isBreak (s.charAt 0) then break
    need 2
    breaks := breaks ++ (← takeBreak)
    stop ← here
  let s ← get
  let indent' :=
    if indent == 0 then
      let i := max maxIndent (s.indent + 1).toNat
      max i 1
    else indent
  return (indent', breaks, stop)

/-- A literal (`|`) or folded (`>`) block scalar with its chomping and indentation
indicators. -/
def scanBlockScalar (literal : Bool) : ScanM Token := do
  let start ← here
  skip
  need 1
  let mut chomping : Int := 0
  let mut increment := 0
  let c ← cur
  if c == '+' || c == '-' then
    chomping := if c == '+' then 1 else -1
    skip
    need 1
    let d ← cur
    if isDigit d then
      if d == '0' then scanFail start "found an indentation indicator equal to 0"
      increment := d.toNat - 48
      skip
  else if isDigit c then
    if c == '0' then scanFail start "found an indentation indicator equal to 0"
    increment := c.toNat - 48
    skip
    need 1
    let e ← cur
    if e == '+' || e == '-' then
      chomping := if e == '+' then 1 else -1
      skip
  skipBlanks
  if (← cur) == '#' then
    scanLineComment
    skipToBreak
  if !isBreakOrEnd (← cur) then scanFail start "did not find expected comment or line break"
  if isBreak (← cur) then
    need 2
    skipLine
  let s ← get
  let given : Nat :=
    if increment > 0 then (if s.indent ≥ 0 then s.indent.toNat + increment else increment) else 0
  let (indent, firstBreaks, firstStop) ← scanBlockBreaks given start
  let mut text := ""
  let mut leadingBreak := ""
  let mut trailingBreaks := firstBreaks
  let mut stop := firstStop
  let mut leadingBlank := false
  need 1
  for _ in [0:(← get).budget] do
    let s ← get
    if s.mark.column != indent || isEnd (s.charAt 0) then break
    let trailingBlank := isBlank (s.charAt 0)
    if !literal && !leadingBlank && !trailingBlank && leadingBreak.startsWith "\n" then
      if trailingBreaks.isEmpty then text := text.push ' '
    else text := text ++ leadingBreak
    leadingBreak := ""
    text := text ++ trailingBreaks
    trailingBreaks := ""
    leadingBlank := isBlank (s.charAt 0)
    for _ in [0:(← get).budget] do
      if isBreakOrEnd (← cur) then break
      text := text.push (← take)
      need 1
    need 2
    leadingBreak ← takeBreak
    let (_, breaks, stop') ← scanBlockBreaks indent start
    trailingBreaks := breaks
    stop := stop'
  if chomping != -1 then text := text ++ leadingBreak
  if chomping == 1 then text := text ++ trailingBreaks
  return ⟨.scalar (Text.ofUnicode text) (if literal then .literal else .folded), start, stop⟩

/-- A block scalar: any key place is dropped, and a key may follow. -/
def fetchBlockScalar (literal : Bool) : ScanM Unit := do
  removeSimpleKey
  modify fun s => { s with keyAllowed := true }
  pushToken (← scanBlockScalar literal)

/-- Whether a document marker stands at the start of the current line. -/
def atDocumentMarker : ScanM Bool := do
  let s ← get
  return s.mark.column == 0 &&
    ((s.charAt 0 == '-' && s.charAt 1 == '-' && s.charAt 2 == '-') ||
      (s.charAt 0 == '.' && s.charAt 1 == '.' && s.charAt 2 == '.')) && isBlankOrEnd (s.charAt 3)

/-- The character an escape in a double-quoted scalar stands for, or the number of hex
digits of a code that follows. -/
def escapeOf (c : Char) : Option (Sum Char Nat) :=
  match c with
  | '0' => some (.inl '\x00')
  | 'a' => some (.inl '\x07')
  | 'b' => some (.inl '\x08')
  | 't' => some (.inl '\t')
  | '\t' => some (.inl '\t')
  | 'n' => some (.inl '\n')
  | 'v' => some (.inl '\x0b')
  | 'f' => some (.inl '\x0c')
  | 'r' => some (.inl '\r')
  | 'e' => some (.inl '\x1b')
  | ' ' => some (.inl ' ')
  | '"' => some (.inl '"')
  | '\'' => some (.inl '\'')
  | '\\' => some (.inl '\\')
  | 'N' => some (.inl '\u0085')
  | '_' => some (.inl ' ')
  | 'L' => some (.inl ' ')
  | 'P' => some (.inl ' ')
  | 'x' => some (.inr 2)
  | 'u' => some (.inr 4)
  | 'U' => some (.inr 8)
  | _ => none

/-- A single- or double-quoted scalar: escapes, and line breaks folded into spaces. -/
def scanFlowScalar (single : Bool) : ScanM Token := do
  let start ← here
  skip
  let mut text := ""
  let mut leadingBreak := ""
  let mut trailingBreaks := ""
  let mut whitespaces := ""
  for _ in [0:(← get).budget] do
    need 4
    if ← atDocumentMarker then scanFail start "found unexpected document indicator"
    if isEnd (← cur) then scanFail start "found unexpected end of stream"
    let mut leadingBlanks := false
    for _ in [0:(← get).budget] do
      let s ← get
      let c := s.charAt 0
      if isBlankOrEnd c then break
      if single && c == '\'' && s.charAt 1 == '\'' then
        text := text.push '\''
        skip; skip
      else if single && c == '\'' then break
      else if !single && c == '"' then break
      else if !single && c == '\\' && isBreak (s.charAt 1) then
        need 3
        skip
        skipLine
        leadingBlanks := true
        break
      else if !single && c == '\\' then
        match escapeOf (s.charAt 1) with
        | none => scanFail start "found unknown escape character"
        | some (.inl e) =>
          text := text.push e
          skip; skip
        | some (.inr n) =>
          skip; skip
          need n
          let s ← get
          let mut value := 0
          for k in [0:n] do
            match hexValue? (s.charAt k) with
            | some d => value := value * 16 + d
            | none => scanFail start "did not find expected hexdecimal number"
          if (0xD800 ≤ value && value ≤ 0xDFFF) || value > 0x10FFFF then
            scanFail start "found invalid Unicode character escape code"
          text := text.push (Char.ofNat value)
          for _ in [0:n] do skip
      else text := text.push (← take)
      need 2
    need 1
    let c ← cur
    if single && c == '\'' then break
    if !single && c == '"' then break
    for _ in [0:(← get).budget] do
      let c ← cur
      if isBlank c then
        if !leadingBlanks then whitespaces := whitespaces.push (← take) else skip
      else if isBreak c then
        need 2
        if !leadingBlanks then
          whitespaces := ""
          leadingBreak ← takeBreak
          leadingBlanks := true
        else trailingBreaks := trailingBreaks ++ (← takeBreak)
      else break
      need 1
    if leadingBlanks then
      if leadingBreak.startsWith "\n" then
        if trailingBreaks.isEmpty then text := text.push ' ' else text := text ++ trailingBreaks
      else text := text ++ leadingBreak ++ trailingBreaks
      trailingBreaks := ""
      leadingBreak := ""
    else
      text := text ++ whitespaces
      whitespaces := ""
  skip
  return ⟨.scalar (Text.ofUnicode text) (if single then .singleQuoted else .doubleQuoted), start,
    ← here⟩

/-- A quoted scalar: it may start a key, and no key follows it directly. -/
def fetchFlowScalar (single : Bool) : ScanM Unit := do
  saveSimpleKey
  modify fun s => { s with keyAllowed := false }
  pushToken (← scanFlowScalar single)

/-- A plain scalar: it ends before `: ` or a comment, in flow context before a flow
indicator, and in block context at a line indented less than the current collection. -/
def scanPlainScalar : ScanM Token := do
  let s ← get
  let indent : Int := s.indent + 1
  let start := s.mark
  let mut stop := s.mark
  let mut text := ""
  let mut leadingBreak := ""
  let mut trailingBreaks := ""
  let mut whitespaces := ""
  let mut leadingBlanks := false
  for _ in [0:(← get).budget] do
    need 4
    if ← atDocumentMarker then break
    if (← cur) == '#' then break
    for _ in [0:(← get).budget] do
      let s ← get
      let c := s.charAt 0
      if isBlankOrEnd c then break
      if (c == ':' && isBlankOrEnd (s.charAt 1)) ||
          (s.flowLevel > 0 && ",?[]\x7b\x7d".toList.contains c) then break
      if leadingBlanks || !whitespaces.isEmpty then
        if leadingBlanks then
          if leadingBreak.startsWith "\n" then
            if trailingBreaks.isEmpty then text := text.push ' ' else text := text ++ trailingBreaks
          else text := text ++ leadingBreak ++ trailingBreaks
          trailingBreaks := ""
          leadingBreak := ""
          leadingBlanks := false
        else
          text := text ++ whitespaces
          whitespaces := ""
      text := text.push (← take)
      stop ← here
      need 2
    let c ← cur
    if !(isBlank c || isBreak c) then break
    need 1
    for _ in [0:(← get).budget] do
      let s ← get
      let c := s.charAt 0
      if isBlank c then
        if leadingBlanks && (s.mark.column : Int) < indent && c == '\t' then
          scanFail start "found a tab character that violates indentation"
        if !leadingBlanks then whitespaces := whitespaces.push (← take) else skip
      else if isBreak c then
        need 2
        if !leadingBlanks then
          whitespaces := ""
          leadingBreak ← takeBreak
          leadingBlanks := true
        else trailingBreaks := trailingBreaks ++ (← takeBreak)
      else break
      need 1
    let s ← get
    if s.flowLevel == 0 && (s.mark.column : Int) < indent then break
  if leadingBlanks then modify fun s => { s with keyAllowed := true }
  return ⟨.scalar (Text.ofUnicode text) .plain, start, stop⟩

/-- A plain scalar: it may start a key, and no key follows it directly. -/
def fetchPlainScalar : ScanM Unit := do
  saveSimpleKey
  modify fun s => { s with keyAllowed := false }
  pushToken (← scanPlainScalar)

/-- Whether the current character can start a plain scalar. -/
def plainStart : ScanM Bool := do
  let s ← get
  let c := s.charAt 0
  let c1 := s.charAt 1
  return !(isBlankOrEnd c || "-?:,[]\x7b\x7d#&*!|>'\"%@\x60".toList.contains c) ||
    (c == '-' && !isBlank c1) ||
    (s.flowLevel == 0 && (c == '?' || c == ':') && !isBlankOrEnd c1)

/-- The tokens that may carry a comment on the rest of their line. -/
def fetchOnLine : ScanM Unit := do
  let s ← get
  let c := s.charAt 0
  let c1 := s.charAt 1
  if c == '[' then fetchFlowCollectionStart .flowSequenceStart
  else if c == '{' then fetchFlowCollectionStart .flowMappingStart
  else if c == ']' then fetchFlowCollectionEnd .flowSequenceEnd
  else if c == '}' then fetchFlowCollectionEnd .flowMappingEnd
  else if c == ',' then fetchFlowEntry
  else if c == '-' && isBlankOrEnd c1 then fetchBlockEntry
  else if c == '?' && (s.flowLevel > 0 || isBlankOrEnd c1) then fetchKey
  else if c == ':' && (s.flowLevel > 0 || isBlankOrEnd c1) then fetchValue
  else if c == '*' then fetchAnchor true
  else if c == '&' then fetchAnchor false
  else if c == '!' then fetchTag
  else if c == '|' && s.flowLevel == 0 then fetchBlockScalar true
  else if c == '>' && s.flowLevel == 0 then fetchBlockScalar false
  else if c == '\'' then fetchFlowScalar true
  else if c == '"' then fetchFlowScalar false
  else if ← plainStart then fetchPlainScalar
  else scanFail s.mark "found character that cannot start any token"
  let last := (← get).queue.getLast?
  match last with
  | some ⟨.blockEntry, _, _⟩ => pure ()
  | _ => scanLineComment

/-- Fetches the next token into the queue; four characters are asked for at its start, enough
for the longest indicator. -/
def fetchNext : ScanM Unit := do
  need 1
  if !(← get).started then
    fetchStreamStart
    return
  let scanMark ← here
  scanToNextToken
  unrollIndent (← here).column scanMark
  need 4
  let s ← get
  let c := s.charAt 0
  if isEnd c then fetchStreamEnd
  else if s.mark.column == 0 && c == '%' then fetchDirective
  else if s.mark.column == 0 && c == '-' && s.charAt 1 == '-' && s.charAt 2 == '-' && isBlankOrEnd (s.charAt 3) then
    fetchDocumentIndicator .documentStart
  else if s.mark.column == 0 && c == '.' && s.charAt 1 == '.' && s.charAt 2 == '.' && isBlankOrEnd (s.charAt 3) then
    fetchDocumentIndicator .documentEnd
  else fetchOnLine

/-- Fetches tokens until at least three wait and the first of them can no longer turn out to
be a key. -/
def fetchMore : ScanM Unit := do
  for _ in [0:4 * (← get).budget] do
    let s ← get
    if s.queue.length > 2 then
      match s.keyIndex.lookup s.parsed with
      | none => break
      | some level =>
        if !(← keyValid level) then break
    fetchNext
  modify fun s => { s with available := true }

/-- The next token, fetching as needed. -/
def peekToken : ScanM Token := do
  if !(← get).available then fetchMore
  match (← get).queue with
  | t :: _ => return t
  | [] => throw ⟨.scanner, Mark.origin, (← get).mark, "no token"⟩

/-- Takes the next token off the queue. -/
def skipToken : ScanM Unit := modify fun s =>
  { s with available := false, parsed := s.parsed + 1, queue := s.queue.drop 1 }

end Yaml
end KernelSynth

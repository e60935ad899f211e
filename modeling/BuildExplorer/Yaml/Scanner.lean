import BuildExplorer.Text.Utf8
import BuildExplorer.Yaml.Scalar
import BuildExplorer.Yaml.Token

/-!
# From characters to tokens

The scanner reads a stream token by token.  It keeps the indentation of the open
block collections, from which it writes their starts and ends, and for each
level of flow collections the place where the key of an implicit pair could have
started: when a colon follows, a key token is put in front of that place.
-/

namespace BuildExplorer.Yaml

/-- A place where the key of an implicit pair may have started. -/
structure KeyPlace where
  /-- Must a colon follow, because a block collection continues here? -/
  required : Bool
  /-- How many tokens were in front of it. -/
  position : Nat
  offset : Nat
  line : Nat
  column : Nat

/-- The state of the scanner between two tokens. -/
structure Scanner where
  cursor : Cursor
  tokens : Array Token := #[]
  /-- The column of the innermost block collection, or `-1`. -/
  indent : Int := -1
  /-- The columns of the block collections around it. -/
  outer : List Int := []
  /-- May the key of an implicit pair start at the next token? -/
  keyAllowed : Bool := true
  /-- The key place of the innermost flow level. -/
  keyPlace : Option KeyPlace := none
  /-- The key places of the flow levels around it. -/
  outerKeyPlaces : List (Option KeyPlace) := []

namespace Scanner

/-- Is a flow collection open? -/
def inFlow (scanner : Scanner) : Bool :=
  !scanner.outerKeyPlaces.isEmpty

/-- Write a token. -/
def emit (scanner : Scanner) (token : Token) : Scanner :=
  { scanner with tokens := scanner.tokens.push token }

/-- Pass the characters of a token and write it. -/
def emitPassing (scanner : Scanner) (count : Nat) (token : Token) : Scanner :=
  { scanner with
    cursor := scanner.cursor.skipMany count
    tokens := scanner.tokens.push token }

/-! ## Keys -/

/-- Give up a key place; a required one may not be given up. -/
def dropKeyPlace (scanner : Scanner) : Option Scanner :=
  match scanner.keyPlace with
  | some place => if place.required then none else some { scanner with keyPlace := none }
  | none => some scanner

/-- Remember that a key may start here. -/
def saveKeyPlace (scanner : Scanner) : Option Scanner :=
  if scanner.keyAllowed then
    (scanner.dropKeyPlace).map fun scanner =>
      { scanner with
        keyPlace := some {
          required := !scanner.inFlow && scanner.indent == scanner.cursor.column
          position := scanner.tokens.size
          offset := scanner.cursor.offset
          line := scanner.cursor.line
          column := scanner.cursor.column } }
  else some scanner

/-- Is the place too far back for a key: on an earlier line or more than 1024
bytes away? -/
def isStale (cursor : Cursor) (place : KeyPlace) : Bool :=
  place.line < cursor.line || place.offset + 1024 < cursor.offset

/-- A key place that is still of use; `none` if one is too far back and
required. -/
def refresh (cursor : Cursor) : Option KeyPlace → Option (Option KeyPlace)
  | none => some none
  | some place =>
      if isStale cursor place then if place.required then none else some none
      else some (some place)

/-- Give up all key places that are too far back. -/
def dropStale (scanner : Scanner) : Option Scanner := do
  let keyPlace ← refresh scanner.cursor scanner.keyPlace
  let outerKeyPlaces ← scanner.outerKeyPlaces.mapM (refresh scanner.cursor)
  return { scanner with keyPlace, outerKeyPlaces }

/-! ## Indentation -/

/-- Open a block collection at a column, unless one of that column is open.  Its
start is written in front of the token at `position`. -/
def roll (scanner : Scanner) (column : Nat) (position : Nat) (token : Token) : Scanner :=
  if scanner.inFlow || scanner.indent ≥ column then scanner
  else
    { scanner with
      outer := scanner.indent :: scanner.outer
      indent := column
      tokens := scanner.tokens.insertIdxIfInBounds position token }

/-- Close the block collections to the right of a column. -/
def unrollFrom (column : Int) (scanner : Scanner) : List Int → Scanner
  | [] => { scanner with outer := [] }
  | next :: rest =>
      if scanner.indent > column then
        unrollFrom column { (scanner.emit .blockEnd) with indent := next } rest
      else { scanner with outer := next :: rest }

/-- Close the block collections to the right of a column. -/
def unroll (scanner : Scanner) (column : Int) : Scanner :=
  if scanner.inFlow then scanner else unrollFrom column scanner scanner.outer

/-! ## Blanks -/

/-- Pass blanks, comments and line ends up to the next token.  In a block
collection a tab may not stand where a key may start, and a key may start on each
new line. -/
def skipBlanks (fuel : Nat) (scanner : Scanner) : Scanner :=
  match fuel with
  | 0 => scanner
  | fuel + 1 =>
      let cursor := scanner.cursor
      let cursor :=
        if cursor.column == 0 && cursor.rest.head? == some '\uFEFF' then cursor.skip else cursor
      let tabs := scanner.inFlow || !scanner.keyAllowed
      let cursor := cursor.skipWhile fun char => char == ' ' || (tabs && char == '\t')
      let cursor :=
        if cursor.rest.head? == some '#' then cursor.skipWhile (!isBreak ·) else cursor
      match cursor.rest with
      | [] => { scanner with cursor }
      | char :: _ =>
          if isBreak char then
            skipBlanks fuel {
              scanner with
              cursor := cursor.takeBreak.2
              keyAllowed := scanner.keyAllowed || !scanner.inFlow }
          else { scanner with cursor }

/-! ## Directives, anchors and tags -/

/-- Read a name of letters, digits, underscores and hyphens. -/
def takeName (cursor : Cursor) : List Char × Cursor :=
  (cursor.rest.takeWhile isNameChar, cursor.skipWhile isNameChar)

/-- Read a number of at most nine digits. -/
def takeVersionNumber (cursor : Cursor) : Option (Nat × Cursor) :=
  let digits := cursor.rest.takeWhile Char.isDigit
  if digits.isEmpty || digits.length > 9 then none
  else some (Text.numeralValue digits, cursor.skipMany digits.length)

/-- Read the handle of a tag: an exclamation mark, perhaps a name and another
mark. -/
def takeTagHandle (directive : Bool) (cursor : Cursor) : Option (List Char × Cursor) :=
  match cursor.rest with
  | '!' :: _ =>
      let (name, cursor) := takeName cursor.skip
      match cursor.rest with
      | '!' :: _ => some ('!' :: name ++ ['!'], cursor.skip)
      | _ => if directive && !name.isEmpty then none else some ('!' :: name, cursor)
  | _ => none

/-- A character of the address in a tag. -/
def isAddressChar (verbatim : Bool) (char : Char) : Bool :=
  isNameChar char ||
    [';', '/', '?', ':', '@', '&', '=', '+', '$', '.', '%', '!', '~', '*', '\'', '(', ')'].contains
      char ||
    (verbatim && [',', '[', ']'].contains char)

/-- How many more bytes belong to a character whose first byte is given. -/
def bytesBehind? (byte : UInt8) : Option Nat :=
  if byte < 0x80 then some 0
  else if byte < 0xC0 then none
  else if byte < 0xE0 then some 1
  else if byte < 0xF0 then some 2
  else if byte < 0xF8 then some 3
  else none

/-- Decode the percent escapes of an address into bytes.  Escapes come in runs of
a first byte and as many bytes as belong to it, of which `missing` are still to
come. -/
def addressBytes : (missing : Nat) → List Char → Option (List UInt8)
  | 0, [] => some []
  | _ + 1, [] => none
  | missing, '%' :: high :: low :: rest => do
      let byte := UInt8.ofNat (16 * (← Text.hexValue high) + (← Text.hexValue low))
      match missing with
      | 0 => return byte :: (← addressBytes (← bytesBehind? byte) rest)
      | missing + 1 =>
          if 0x80 ≤ byte && byte < 0xC0 then return byte :: (← addressBytes missing rest) else none
  | 0, char :: rest =>
      if char == '%' then none
      else (addressBytes 0 rest).map (String.utf8EncodeChar char ++ ·)
  | _ + 1, _ => none

/-- Read the address of a tag, which follows what was read of it before. -/
def takeAddress (verbatim : Bool) (before : List Char) (cursor : Cursor) :
    Option (Tag × Cursor) := do
  let text := cursor.rest.takeWhile (isAddressChar verbatim)
  if before.isEmpty && text.isEmpty then none
  else
    let bytes ← addressBytes 0 text
    return (.ofBytes (Text.Utf8.encode (before.drop 1) ++ bytes), cursor.skipMany text.length)

/-- Read a directive. -/
def takeDirective (cursor : Cursor) : Option (Token × Cursor) := do
  let (name, cursor) := takeName cursor.skip
  if name.isEmpty || !endsWord cursor.rest then none
  else
    let cursor := cursor.skipWhile isGap
    if name = ['Y', 'A', 'M', 'L'] then
      let (major, cursor) ← takeVersionNumber cursor
      match cursor.rest with
      | '.' :: _ =>
          let (minor, cursor) ← takeVersionNumber cursor.skip
          let cursor ← cursor.skipToLineEnd
          return (.versionDirective major minor, cursor)
      | _ => none
    else if name = ['T', 'A', 'G'] then
      let (handle, cursor) ← takeTagHandle true cursor
      if !(cursor.rest.head?.any isGap) then none
      else
        let (scope, cursor) ← takeAddress true [] (cursor.skipWhile isGap)
        if !endsWord cursor.rest then none
        else
          let cursor ← cursor.skipToLineEnd
          return (.tagDirective (String.ofList handle) scope, cursor)
    else none

/-- Read the name of an anchor or of an alias. -/
def takeAnchor (cursor : Cursor) : Option (String × Cursor) :=
  let (name, cursor) := takeName cursor.skip
  let ended := endsWord cursor.rest ||
    cursor.rest.head?.any ['?', ':', ',', ']', '\x7d', '%', '@', '`'].contains
  if name.isEmpty || !ended then none else some (String.ofList name, cursor)

/-- Read the handle and the suffix of a tag. -/
def takeTagParts (cursor : Cursor) : Option (List Char × Tag × Cursor) :=
  match cursor.rest with
  | '!' :: '<' :: _ => do
      let (suffix, cursor) ← takeAddress true [] (cursor.skipMany 2)
      match cursor.rest with
      | '>' :: _ => return ([], suffix, cursor.skip)
      | _ => none
  | _ => do
      let (handle, after) ← takeTagHandle false cursor
      if handle.length > 1 && handle.getLast? == some '!' then
        let (suffix, cursor) ← takeAddress false [] after
        return (handle, suffix, cursor)
      else
        let (suffix, cursor) ← takeAddress false handle after
        return if suffix.bytes.isEmpty then ([], .ofText "!", cursor) else (['!'], suffix, cursor)

/-- Read a tag. -/
def takeTag (inFlow : Bool) (cursor : Cursor) : Option (Token × Cursor) := do
  let (handle, suffix, cursor) ← takeTagParts cursor
  if (inFlow && cursor.rest.head? == some ',') || endsWord cursor.rest then
    return (.tag (String.ofList handle) suffix, cursor)
  else none

/-! ## Tokens -/

/-- Write a token that was read, behind which no key may start. -/
def emitAt (scanner : Scanner) (token : Token) (cursor : Cursor) : Scanner :=
  { (scanner.emit token) with cursor, keyAllowed := false }

/-- Read a marker between documents. -/
def documentMarker (scanner : Scanner) (token : Token) : Option Scanner := do
  let scanner ← (scanner.unroll (-1)).dropKeyPlace
  return { (scanner.emitPassing 3 token) with keyAllowed := false }

/-- Read the start of a flow collection. -/
def flowStart (scanner : Scanner) (token : Token) : Option Scanner := do
  let scanner ← scanner.saveKeyPlace
  return {
    (scanner.emitPassing 1 token) with
    outerKeyPlaces := scanner.keyPlace :: scanner.outerKeyPlaces
    keyPlace := none
    keyAllowed := true }

/-- Read the end of a flow collection. -/
def flowEnd (scanner : Scanner) (token : Token) : Option Scanner := do
  let scanner ← scanner.dropKeyPlace
  let scanner :=
    match scanner.outerKeyPlaces with
    | [] => scanner
    | place :: rest => { scanner with keyPlace := place, outerKeyPlaces := rest }
  return { (scanner.emitPassing 1 token) with keyAllowed := false }

/-- Read the comma of a flow collection. -/
def flowEntry (scanner : Scanner) : Option Scanner := do
  let scanner ← scanner.dropKeyPlace
  return { (scanner.emitPassing 1 .flowEntry) with keyAllowed := true }

/-- Read the hyphen of a block sequence. -/
def blockEntry (scanner : Scanner) : Option Scanner := do
  if !scanner.inFlow && !scanner.keyAllowed then none
  else
    let scanner := scanner.roll scanner.cursor.column scanner.tokens.size .blockSequenceStart
    let scanner ← scanner.dropKeyPlace
    return { (scanner.emitPassing 1 .blockEntry) with keyAllowed := true }

/-- Read the question mark of an explicit key. -/
def explicitKey (scanner : Scanner) : Option Scanner := do
  if !scanner.inFlow && !scanner.keyAllowed then none
  else
    let scanner := scanner.roll scanner.cursor.column scanner.tokens.size .blockMappingStart
    let scanner ← scanner.dropKeyPlace
    return { (scanner.emitPassing 1 .key) with keyAllowed := !scanner.inFlow }

/-- Read the colon of a pair. -/
def valueMark (scanner : Scanner) : Option Scanner :=
  match scanner.keyPlace with
  | some place =>
      let scanner :=
        { scanner with tokens := scanner.tokens.insertIdxIfInBounds place.position .key }
      let scanner := scanner.roll place.column place.position .blockMappingStart
      some { (scanner.emitPassing 1 .value) with keyPlace := none, keyAllowed := false }
  | none =>
      if !scanner.inFlow && !scanner.keyAllowed then none
      else
        let scanner := scanner.roll scanner.cursor.column scanner.tokens.size .blockMappingStart
        some { (scanner.emitPassing 1 .value) with keyAllowed := !scanner.inFlow }

/-- Read an anchor or an alias. -/
def anchorMark (scanner : Scanner) (token : String → Token) : Option Scanner := do
  let scanner ← scanner.saveKeyPlace
  let (name, cursor) ← takeAnchor scanner.cursor
  return scanner.emitAt (token name) cursor

/-- Read a tag. -/
def tagMark (scanner : Scanner) : Option Scanner := do
  let scanner ← scanner.saveKeyPlace
  let (token, cursor) ← takeTag scanner.inFlow scanner.cursor
  return scanner.emitAt token cursor

/-- Read a block scalar. -/
def blockScalar (scanner : Scanner) (style : ScalarStyle) : Option Scanner := do
  let scanner ← scanner.dropKeyPlace
  let (text, cursor) ← Scalar.block (style == .folded) scanner.indent scanner.cursor
  return { (scanner.emit (.scalar (String.ofList text) style)) with cursor, keyAllowed := true }

/-- Read a quoted scalar. -/
def quotedScalar (scanner : Scanner) : Option Scanner := do
  let scanner ← scanner.saveKeyPlace
  let (text, cursor) ← Scalar.quoted scanner.cursor
  return scanner.emitAt (.scalar (String.ofList text) .quoted) cursor

/-- Read a plain scalar. -/
def plainScalar (scanner : Scanner) : Option Scanner := do
  let scanner ← scanner.saveKeyPlace
  let (text, broken, cursor) ← Scalar.plain scanner.inFlow (scanner.indent + 1) scanner.cursor
  return { (scanner.emitAt (.scalar (String.ofList text) .plain) cursor) with keyAllowed := broken }

/-- Read a directive. -/
def directive (scanner : Scanner) : Option Scanner := do
  let scanner ← (scanner.unroll (-1)).dropKeyPlace
  let (token, cursor) ← takeDirective scanner.cursor
  return scanner.emitAt token cursor

/-- A character that starts no plain scalar. -/
def isIndicator (char : Char) : Bool :=
  ['-', '?', ':', ',', '[', ']', '\x7b', '\x7d', '#', '&', '*', '!', '|', '>', '\'', '"', '%', '@',
    '`'].contains char

/-- Read the token that starts here with the given character. -/
def token (scanner : Scanner) (char : Char) (rest : List Char) : Option Scanner :=
  let inFlow := scanner.inFlow
  if scanner.cursor.column == 0 && char == '%' then scanner.directive
  else if scanner.cursor.atDocumentMarker then
    scanner.documentMarker (if char == '-' then .documentStart else .documentEnd)
  else if char == '[' then scanner.flowStart .flowSequenceStart
  else if char == '\x7b' then scanner.flowStart .flowMappingStart
  else if char == ']' then scanner.flowEnd .flowSequenceEnd
  else if char == '\x7d' then scanner.flowEnd .flowMappingEnd
  else if char == ',' then scanner.flowEntry
  else if char == '-' && endsWord rest then scanner.blockEntry
  else if char == '?' && (inFlow || endsWord rest) then scanner.explicitKey
  else if char == ':' && (inFlow || endsWord rest) then scanner.valueMark
  else if char == '*' then scanner.anchorMark .alias
  else if char == '&' then scanner.anchorMark .anchor
  else if char == '!' then scanner.tagMark
  else if char == '|' && !inFlow then scanner.blockScalar .literal
  else if char == '>' && !inFlow then scanner.blockScalar .folded
  else if char == '\'' || char == '"' then scanner.quotedScalar
  else if (!isGapOrBreak char && !isIndicator char) ||
      (char == '-' && !(rest.head?.any isGap)) ||
      (!inFlow && (char == '?' || char == ':') && !endsWord rest) then
    scanner.plainScalar
  else none

/-- Read all tokens. -/
def run (fuel : Nat) (scanner : Scanner) : Option (List Token) :=
  match fuel with
  | 0 => none
  | fuel + 1 =>
      match (scanner.skipBlanks (scanner.cursor.rest.length + 1)).dropStale with
      | none => none
      | some scanner =>
          let scanner := scanner.unroll scanner.cursor.column
          match scanner.cursor.rest with
          | [] => ((scanner.unroll (-1)).dropKeyPlace).map (·.tokens.toList)
          | char :: rest =>
              match scanner.token char rest with
              | none => none
              | some scanner => run fuel scanner

end Scanner

/-- The tokens of a stream, or `none` where it is not well formed. -/
def tokens (stream : List Char) : Option (List Token) :=
  if stream.all isAllowed then Scanner.run (stream.length + 1) { cursor := { rest := stream } }
  else none

end BuildExplorer.Yaml

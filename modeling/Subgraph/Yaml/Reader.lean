import Subgraph.Text.Chars
import Subgraph.Yaml.Plain
import Subgraph.Yaml.Wrapped

namespace Subgraph.Yaml.Reader

def fail {α : Type} (cause : Cause) (place : Cursor) : Except Fault α :=
  .error (.wrong cause place)

/-- A value, or a mark that may be a key only. -/
inductive Node where
  | value (content : Value)
  | mark (text : String)

def Node.asValue (place : Cursor) : Node → Except Fault Value
  | value content => .ok content
  | mark text => fail (.keyMarkAsValue text) place

/-- The key of an entry of a map that begins at `start`. -/
def Node.asKey (start place : Cursor) : Node → Except Fault Scalar
  | value (.scalar key) => .ok key
  | value _ => fail (.keyHasParts start) place
  | mark text => if text == "=" then .ok (.text text) else fail (.keyMarkAsValue text) place

/-- The name of what stands at a place inside brackets. -/
def flowToken (cursor : Cursor) : String :=
  if cursor.atDocumentStart then "<document start>"
  else if cursor.atDocumentEnd then "<document end>"
  else
    match cursor.rest with
    | [] => "<stream end>"
    | c :: _ => if [',', '[', ']', '\x7b', '\x7d', ':', '?'].contains c then String.singleton c else "<scalar>"

/-- Characters that stand at a place and start nothing are refused before anything else. -/
def refuseStray {α : Type} (flow : Bool) (cause : Cause) (place : Cursor) : Except Fault α :=
  match place.rest with
  | c :: _ =>
    let known := [',', '[', ']', '\x7b', '\x7d', ':', '\'', '"'].contains c || place.atDash
    if known || Wrapped.startsPlain flow place.rest then fail cause place else fail (.stray c) place
  | [] => fail cause place

/-- A scalar in quotes. -/
def quoted (cursor : Cursor) (body : List Char → Scan) : Except Fault (Node × Cursor) :=
  match body (cursor.rest.drop 1) with
  | .ok (text, rest) => .ok (.value (.text (String.ofList text)), cursor.moveTo rest)
  | .error (cause, rest) => fail (cause cursor) (cursor.moveTo rest)

/-- A scalar without quotes. -/
def plain (flow : Bool) (indent : Nat) (cursor : Cursor) : Node × Cursor :=
  let (text, rest) := Wrapped.plain flow indent .nothing cursor.rest
  let text := String.ofList text
  let node := match Scalar.ofPlain? text with
    | some value => Node.value (.scalar value)
    | none => .mark text
  (node, cursor.moveTo rest)

/-- The failure where a scalar or a collection should start. -/
def failAtom {α : Type} (flow : Bool) (cursor : Cursor) : Except Fault α :=
  let found := flowToken cursor
  refuseStray flow (if flow then .flowContentMissing found else .contentMissing found) cursor

/-- Moves on over the comma that must stand before every part in brackets but the first. -/
def passComma (first : Bool) (cause : String → Cause) (cursor : Cursor) : Except Fault Cursor :=
  if first then .ok cursor
  else if cursor.isAt ',' then .ok (cursor.advance 1).skip
  else refuseStray true (cause (flowToken cursor)) cursor

mutual

/-- A scalar or a collection in brackets, at a place that is not filler. Inside brackets indentation
has no meaning. -/
def atom (flow : Bool) (indent : Nat) : (fuel : Nat) → Cursor → Except Fault (Node × Cursor)
  | 0, cursor => fail (.contentMissing (flowToken cursor)) cursor
  | fuel + 1, cursor =>
    if cursor.atEnd then failAtom flow cursor
    else if cursor.isAt '[' then do
      let (items, after) ← flowItems cursor true fuel (cursor.advance 1)
      return (.value (.list items), after)
    else if cursor.isAt '\x7b' then do
      let (entries, after) ← flowEntries cursor [] true fuel (cursor.advance 1)
      return (.value (.map entries), after)
    else if cursor.isAt '\'' then quoted cursor (Wrapped.singleQuoted .nothing)
    else if cursor.isAt '"' then quoted cursor (Wrapped.doubleQuoted .nothing .none)
    else if Wrapped.startsPlain flow cursor.rest then .ok (plain flow indent cursor)
    else failAtom flow cursor
/-- The items of a list in brackets up to its end. -/
def flowItems (start : Cursor) (first : Bool) : (fuel : Nat) → Cursor → Except Fault (List Value × Cursor)
  | 0, cursor => fail (.flowListUnclosed start (flowToken cursor)) cursor
  | fuel + 1, cursor => do
    let cursor := cursor.skip
    if cursor.isAt ']' then return ([], cursor.advance 1)
    let cursor ← passComma first (.flowListUnclosed start) cursor
    if cursor.isAt ']' then return ([], cursor.advance 1)
    let (node, after) ← atom true 0 fuel cursor
    let colon := after.skip
    if colon.isAt ':' && colon.line == cursor.line then
      let key ← node.asKey cursor cursor
      let (value, after) ← flowValue ']' fuel (colon.advance 1)
      let (items, last) ← flowItems start false fuel after
      return (.map [(key, value)] :: items, last)
    else
      let value ← node.asValue cursor
      let (items, last) ← flowItems start false fuel after
      return (value :: items, last)
/-- The entries of a map in brackets up to its end. -/
def flowEntries (start : Cursor) (entries : Entries) (first : Bool) :
    (fuel : Nat) → Cursor → Except Fault (Entries × Cursor)
  | 0, cursor => fail (.flowMapUnclosed start (flowToken cursor)) cursor
  | fuel + 1, cursor => do
    let cursor := cursor.skip
    if cursor.isAt '\x7d' then return (entries, cursor.advance 1)
    let cursor ← passComma first (.flowMapUnclosed start) cursor
    if cursor.isAt '\x7d' then return (entries, cursor.advance 1)
    let (node, after) ← atom true 0 fuel cursor
    let key ← node.asKey start cursor
    let colon := after.skip
    if colon.isAt ':' && colon.line == cursor.line then
      let (value, after) ← flowValue '\x7d' fuel (colon.advance 1)
      flowEntries start (entries.put key value) false fuel after
    else flowEntries start (entries.put key .null) false fuel after
/-- The value after a colon inside brackets, which may be left out. -/
def flowValue (close : Char) : (fuel : Nat) → Cursor → Except Fault (Value × Cursor)
  | 0, cursor => fail (.flowContentMissing (flowToken cursor)) cursor
  | fuel + 1, cursor => do
    let cursor := cursor.skip
    if cursor.isAt ',' || cursor.isAt close then return (.null, cursor)
    let (node, after) ← atom true 0 fuel cursor
    return (← node.asValue cursor, after)

end

/-- Whether a colon ends a key that begins at `start` and is followed by `after`. Both stand on one
line. -/
def endsKey (start after : Cursor) : Bool :=
  after.skipSpaces.atColon && after.skipSpaces.line == start.line

/-- The name of what stands at a place outside brackets. A list or a map that is `deeper` than the one
around it would start there. -/
def blockToken (deeper : Bool) (fuel : Nat) (cursor : Cursor) : Except Fault String :=
  if cursor.atDash then .ok (if deeper then "<block sequence start>" else "-")
  else
    match atom false 0 fuel cursor with
    | .ok (_, after) =>
      if endsKey cursor after then .ok (if deeper then "<block mapping start>" else "?")
      else .ok (flowToken cursor)
    | .error (.wrong (.contentMissing found) _) => .ok found
    | .error fault => .error fault

/-- What a key without a colon is reported with. -/
def failKey {α : Type} (start after : Cursor) : Except Fault α :=
  fail (.colonMissing start) (if after.line = start.line then after.skip else after)

/-- The failure where a list that begins at `start` has to end and something else follows. -/
def failItem {α : Type} (start : Cursor) (fuel : Nat) (next : Cursor) : Except Fault α := do
  let found ← blockToken (start.column < next.column) fuel next
  if next.column = start.column && found == "<scalar>" then
    let (_, after) ← atom false (start.column + 1) fuel next
    failKey next after
  else fail (.listUnended start found) next

/-- A key of the map that begins at `start`, and the place in front of its colon. -/
def blockKey (start : Cursor) (fuel : Nat) (cursor : Cursor) : Except Fault (Node × Cursor) :=
  match atom false (start.column + 1) fuel cursor with
  | .ok (node, after) =>
    if endsKey cursor after then .ok (node, after.skipSpaces) else failKey cursor after
  | .error (.wrong (.contentMissing found) place) => fail (.mapUnended start found) place
  | .error fault => .error fault

mutual

/-- A value outside brackets, at a place that is not filler. Lines that belong to it are indented by
more than the collection it stands in, by `indent` at least. Where `nest` does not hold, it cannot be
a list or a map of its own lines. -/
def block (indent : Nat) (nest : Bool) : (fuel : Nat) → Cursor → Except Fault (Value × Cursor)
  | 0, cursor => fail (.contentMissing (flowToken cursor)) cursor
  | fuel + 1, cursor =>
    if cursor.atDash then
      if nest then do
        let (items, after) ← blockItems cursor false fuel cursor
        return (.list items, after)
      else fail .listMisplaced cursor
    else do
      let (node, after) ← atom false indent fuel cursor
      let colon := after.skipSpaces
      if !colon.atColon then return (← node.asValue cursor, after)
      else if nest && colon.line = cursor.line then
        let (entries, after) ← blockEntries cursor [] fuel cursor
        return (.map entries, after)
      else fail .mapMisplaced colon

/-- The items of a list that begins at `start`, from a dash on. The items may stand in the column of
the key that the list belongs to, and then the list ends where no dash follows. -/
def blockItems (start : Cursor) (shared : Bool) : (fuel : Nat) → Cursor → Except Fault (List Value × Cursor)
  | 0, cursor => fail (.listUnended start (flowToken cursor)) cursor
  | fuel + 1, cursor => do
    let column := start.column
    let content := (cursor.advance 1).skip
    let (value, after) ←
      if content.atEnd || content.column ≤ column then .ok (.null, content)
      else block (column + 1) true fuel content
    let next := after.skip
    if next.atEnd || next.column < column then return ([value], next)
    else if next.column = column && next.atDash then
      let (items, last) ← blockItems start shared fuel next
      return (value :: items, last)
    else if shared then return ([value], next)
    else failItem start fuel next
/-- The entries of a map that begins at `start`, from a key on. -/
def blockEntries (start : Cursor) (entries : Entries) : (fuel : Nat) → Cursor → Except Fault (Entries × Cursor)
  | 0, cursor => fail (.mapUnended start (flowToken cursor)) cursor
  | fuel + 1, cursor => do
    let column := start.column
    if cursor.atDash then fail (.mapUnended start "-") cursor
    let (node, colon) ← blockKey start fuel cursor
    let key ← node.asKey start cursor
    let (value, after) ← blockValue column fuel (colon.advance 1)
    let entries := entries.put key value
    let next := after.skip
    if next.atEnd || next.column < column then return (entries, next)
    else if next.column = column then blockEntries start entries fuel next
    else fail (.mapUnended start (← blockToken true fuel next)) next
/-- The value of an entry, from behind the colon on. `column` is the column of the key. -/
def blockValue (column : Nat) : (fuel : Nat) → Cursor → Except Fault (Value × Cursor)
  | 0, cursor => fail (.contentMissing (flowToken cursor)) cursor
  | fuel + 1, cursor =>
    let content := cursor.skip
    if content.atEnd then .ok (.null, content)
    else if content.column = column && content.atDash then do
      let (items, after) ← blockItems content true fuel content
      return (.list items, after)
    else if content.column ≤ column then .ok (.null, content)
    else block (column + 1) (content.line != cursor.line) fuel content

end

/-- Characters that a text may have. -/
def printableRanges : Text.Ranges :=
  [(0x09, 0x0A), (0x0D, 0x0D), (0x20, 0x7E), (0x85, 0x85), (0xA0, 0xD7FF), (0xE000, 0xFFFD),
    (0x10000, 0x10FFFF)]

/-- Nothing but the end of the document, and of the text, may follow. -/
def finish (start : Cursor) (fuel : Nat) (cursor : Cursor) : Except Fault Unit := do
  let next := cursor.skip
  let next := if next.atDocumentEnd then (next.advance 3).skip else next
  if next.rest.isEmpty then return
  if next.atDocumentStart then fail (.secondDocument start) next
  fail (.documentUnended (← blockToken true fuel next)) next

/-- The value that a document from a place on holds. -/
def document (fuel : Nat) (cursor : Cursor) (nest : Bool) : Except Fault (Value × Cursor) :=
  if cursor.atEnd then .ok (.null, cursor) else block 0 nest fuel cursor

end Subgraph.Yaml.Reader

namespace Subgraph.Yaml

/-- The value of a text that holds one document. A text without content stands for null. A byte order
mark in front of it says nothing. The marks of anchors, aliases, tags, block scalars, explicit keys and
directives are refused. -/
def read (text : String) : Except Fault Value := do
  match text.toList.findIdx? (!Reader.printableRanges.contains ·) with
  | some position => throw (.unprintable (text.toList.getD position ' ') position)
  | none =>
    let marked := text.toList.head? == some '\ufeff'
    let start := Cursor.skip ⟨[], if marked then text.toList.drop 1 else text.toList⟩
    let fuel := 4 * text.length + 8
    let content := if start.atDocumentStart then (start.advance 3).skip else start
    let nest := !start.atDocumentStart || content.line != start.line
    let (value, after) ← Reader.document fuel content nest
    Reader.finish content fuel after
    return value

end Subgraph.Yaml

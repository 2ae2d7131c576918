import HostedCheckout.Text.Utf8
import HostedCheckout.Toml.Literal
import HostedCheckout.Toml.Table

/-!
# Reading TOML documents

A document is a sequence of lines: entries of the table that was opened last,
and headers that open tables.  A document with any fault has no value; what the
fault is does not matter.
-/

namespace HostedCheckout.Toml

/-- A reader of characters. -/
abbrev Reader (α : Type) := StateT (List Char) Option α

namespace Reader

/-- Refuse the document. -/
def refuse {α : Type} : Reader α := fun _ => none

/-- Take the longest stretch of characters of a kind. -/
def takeWhile (accept : Char → Bool) : Reader (List Char) := fun text =>
  some (text.takeWhile accept, text.dropWhile accept)

/-- Take the given text if it comes next. -/
def accepts (expected : List Char) : Reader Bool := fun text =>
  if expected.isPrefixOf text then some (true, text.drop expected.length) else some (false, text)

/-- Take the given text. -/
def expect (expected : List Char) : Reader Unit := do
  if ← accepts expected then pure () else refuse

/-- Whether a character may stand in a line. -/
def isLineChar (character : Char) : Bool :=
  character == '\t' || (0x20 ≤ character.toNat && character.toNat != 0x7F)

/-- Take blanks. -/
def blanks : Reader Unit := do
  let _ ← takeWhile fun character => character == ' ' || character == '\t'

/-- Take a line break, if there is one. -/
def lineBreak : Reader Bool := do
  if ← accepts ['\n'] then return true
  else accepts ['\r', '\n']

/-- Take blanks and a comment. -/
def comment : Reader Unit := do
  blanks
  if ← accepts ['#'] then
    let _ ← takeWhile isLineChar

/-- Take blanks, comments and line breaks. -/
def gap : Nat → Reader Unit
  | 0 => pure ()
  | bound + 1 => do
      comment
      if ← lineBreak then gap bound

/-- Take blanks, comments and line breaks, as many as there are. -/
def skipGap : Reader Unit := do
  gap ((← get).length + 1)

/-- Take the character that so many hexadecimal digits stand for. -/
def codePoint (count : Nat) : Reader Char := fun text => do
  let digits := text.take count
  if digits.length = count then
    let point ← Literal.number? 16 digits
    if point.isValidChar ∧ !digits.contains '_' then some (Char.ofNat point, text.drop count)
    else none
  else none

/-- Take what follows a backslash. -/
def escape : Reader Char := fun text =>
  match text with
  | 'b' :: rest => some ('\x08', rest)
  | 't' :: rest => some ('\t', rest)
  | 'n' :: rest => some ('\n', rest)
  | 'f' :: rest => some ('\x0c', rest)
  | 'r' :: rest => some ('\r', rest)
  | 'e' :: rest => some ('\x1b', rest)
  | '"' :: rest => some ('"', rest)
  | '\\' :: rest => some ('\\', rest)
  | 'x' :: rest => codePoint 2 rest
  | 'u' :: rest => codePoint 4 rest
  | 'U' :: rest => codePoint 8 rest
  | _ => none

/-- Take the inside of a string in double quotes, and the end of it. -/
def quotedBody : Nat → List Char → Reader (List Char)
  | 0, _ => refuse
  | bound + 1, taken => do
      match ← get with
      | '"' :: rest => do
          set rest
          return taken.reverse
      | '\\' :: rest => do
          set rest
          quotedBody bound ((← escape) :: taken)
      | character :: rest =>
          if isLineChar character then do
            set rest
            quotedBody bound (character :: taken)
          else refuse
      | [] => refuse

/-- Take a string in single quotes; nothing is escaped in it. -/
def plainBody : Reader (List Char) := do
  let inside ← takeWhile fun character => isLineChar character && character != '\''
  expect ['\'']
  return inside

/-- Take the quotes that end a string of several lines.  Up to two more belong
to the string. -/
def closing? (quote : Char) : List Char → Option (List Char × List Char)
  | first :: second :: third :: rest =>
      if first = quote ∧ second = quote ∧ third = quote then
        let more := (rest.takeWhile (· == quote)).take 2
        some (more, rest.drop more.length)
      else none
  | _ => none

/-- Take blanks and line breaks after a backslash at the end of a line. -/
def continuation : Reader Unit := do
  blanks
  if ← lineBreak then
    let _ ← takeWhile fun character => " \t\r\n".toList.contains character
  else refuse

/-- Take the inside of a string of several lines, and the end of it. -/
def longBody (quote : Char) : Nat → List Char → Reader (List Char)
  | 0, _ => refuse
  | bound + 1, taken => do
      let text ← get
      match closing? quote text with
      | some (more, rest) => do
          set rest
          return taken.reverse ++ more
      | none =>
          match text with
          | '\\' :: rest => do
              set rest
              if quote = '\'' then longBody quote bound ('\\' :: taken)
              else if rest.head?.any (fun next => " \t\r\n".toList.contains next) then do
                continuation
                longBody quote bound taken
              else longBody quote bound ((← escape) :: taken)
          | character :: rest =>
              if isLineChar character then do
                set rest
                longBody quote bound (character :: taken)
              else if ← lineBreak then longBody quote bound ('\n' :: taken)
              else refuse
          | [] => refuse

/-- Take a string of one line whose opening quote comes next. -/
def shortString : Reader String := do
  if ← accepts ['"'] then
    return String.ofList (← quotedBody ((← get).length + 1) [])
  else do
    expect ['\'']
    return String.ofList (← plainBody)

/-- Take a string of any kind. -/
def string : Reader String := do
  for quote in ['"', '\''] do
    if ← accepts [quote, quote, quote] then
      let _ ← lineBreak
      return String.ofList (← longBody quote ((← get).length + 1) [])
  shortString

/-- Whether a character may stand in a key without quotes. -/
def isBare (character : Char) : Bool :=
  character.isAlphanum || character == '_' || character == '-'

/-- Take a key without dots. -/
def simpleKey : Reader String := do
  let bare ← takeWhile isBare
  if bare = [] then shortString else return String.ofList bare

/-- Take the rest of a dotted key. -/
def keyRest : Nat → Reader (List String)
  | 0 => refuse
  | bound + 1 => do
      blanks
      if ← accepts ['.'] then
        blanks
        let key ← simpleKey
        return key :: (← keyRest bound)
      else return []

/-- Take a dotted key: the path, and the key at its end. -/
def dottedKey : Reader (List String × String) := do
  let first ← simpleKey
  let keys := first :: (← keyRest ((← get).length + 1))
  return (keys.dropLast, keys.getLast?.getD first)

/-- Whether a character may stand in a bare value. -/
def isLiteralChar (character : Char) : Bool :=
  character.isAlphanum || "+-_.:".toList.contains character

/-- Take a bare value.  A blank between a date and a time belongs to it. -/
def literal : Reader Value := do
  let first ← takeWhile isLiteralChar
  let rest ← get
  let joined := match rest with
    | ' ' :: digit :: _ => digit.isDigit && (Moment.date? first).isSome
    | _ => false
  let text ← if joined then do
      set (rest.drop 1)
      let second ← takeWhile isLiteralChar
      pure (first ++ ' ' :: second)
    else pure first
  match Literal.read? text with
  | some value => return value
  | none => refuse

/-- Take the elements of an array and the end of it. -/
def items (item : Reader Value) : Nat → List Value → Reader (List Value)
  | 0, _ => refuse
  | bound + 1, taken => do
      skipGap
      if ← accepts [']'] then return taken.reverse
      else do
        let value ← item
        skipGap
        if ← accepts [','] then items item bound (value :: taken)
        else do
          expect [']']
          return (value :: taken).reverse

/-- Take a key, an equals sign and a value, and add them to a table. -/
def entry (item : Reader Value) (nodes : Nodes) : Reader Nodes := do
  let (path, key) ← dottedKey
  blanks
  expect ['=']
  blanks
  match nodes.assign path key (← item) with
  | some longer => return longer
  | none => refuse

/-- Take the entries of a table in braces and the end of it. -/
def inlineEntries (item : Reader Value) : Nat → Nodes → Reader Nodes
  | 0, _ => refuse
  | bound + 1, nodes => do
      skipGap
      if ← accepts ['\x7d'] then return nodes
      else do
        let longer ← entry item nodes
        skipGap
        if ← accepts [','] then inlineEntries item bound longer
        else do
          expect ['\x7d']
          return longer

/-- How deep arrays and tables may be nested within a value. -/
def depthLimit : Nat := 80

/-- Take a value with at most so many levels of nesting. -/
def value : Nat → Reader Value
  | 0 => refuse
  | depth + 1 => do
      match (← get).head? with
      | some '"' | some '\'' => return .string (← string)
      | some '[' => do
          expect ['[']
          return .array (← items (value depth) ((← get).length + 1) [])
      | some '\x7b' => do
          expect ['\x7b']
          let nodes ← inlineEntries (value depth) ((← get).length + 1) []
          return .table (entriesToValues nodes)
      | _ => literal

/-- A document in the making: the tables, and the one that was opened last. -/
structure Draft where
  nodes : Nodes
  current : List String

/-- Change the table that was opened last. -/
def Draft.change (draft : Draft) (change : Nodes → Option Nodes) : Reader Draft := fun text =>
  (Nodes.within .implied change draft.current draft.nodes).map fun nodes =>
    ({ draft with nodes := nodes }, text)

/-- Open a table or begin one of an array. -/
def Draft.enter (draft : Draft) (path : List String) (key : String)
    (change : String → Nodes → Option Nodes) : Reader Draft := fun text =>
  (Nodes.within .implied (change key) path draft.nodes).map fun nodes =>
    (⟨nodes, path ++ [key]⟩, text)

/-- Take a header whose first bracket comes next. -/
def header (draft : Draft) : Reader Draft := do
  let double ← accepts ['[', '[']
  if !double then expect ['[']
  blanks
  let (path, key) ← dottedKey
  blanks
  expect (if double then [']', ']'] else [']'])
  draft.enter path key (if double then Nodes.appendNew else Nodes.openNew)

/-- Take an entry of the table that was opened last. -/
def line (draft : Draft) : Reader Draft := do
  let (path, key) ← dottedKey
  blanks
  expect ['=']
  blanks
  let given ← value depthLimit
  draft.change (·.assign path key given)

/-- Take the lines of a document. -/
def lines : Nat → Draft → Reader Draft
  | 0, _ => refuse
  | bound + 1, draft => do
      blanks
      let next ← match (← get).head? with
        | none | some '#' | some '\n' | some '\r' => pure draft
        | some '[' => header draft
        | some _ => line draft
      comment
      if (← get) = [] then return next
      else if ← lineBreak then lines bound next
      else refuse

end Reader

/-- Read a document.  A byte order mark at its front is ignored. -/
def read? (text : String) : Option Entries :=
  let characters := text.toList
  let body := if characters.head? = some (Char.ofNat 0xFEFF) then characters.drop 1 else characters
  (Reader.lines (body.length + 1) ⟨[], []⟩ body).map fun result => entriesToValues result.1.nodes

end HostedCheckout.Toml

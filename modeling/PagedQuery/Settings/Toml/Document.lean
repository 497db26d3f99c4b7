import PagedQuery.Settings.Toml.Scalar
import PagedQuery.Settings.Toml.Tables
import PagedQuery.Settings.Toml.Token
import PagedQuery.Text.Utf8

/-!
# TOML files

A file is a sequence of lines that hold a header, a key and a value, or nothing. It is read one
token at a time: the reader knows what the names stand for so far and what has to come next, with
the arrays and inline tables that are still open on a stack.

What is inside a table or an array is checked but not kept, as no setting has such a value.

* `path?`: the path that the tokens of a key make up;
* `Reader.step?`: one token;
* `Toml.parse?`: the names of a file and their values.
-/

namespace PagedQuery.Toml

/-- Whether a character can stand in a name without quotes. -/
def isBare (c : Char) : Bool :=
  c.isAlphanum || c == '_' || c == '-'

/-- The names in a token of a key, with `none` for the dots between them. -/
def keyParts? : Token → Option (List (Option String))
  | .blank => some []
  | .string false text => some [some (String.ofList text)]
  | .word text =>
    (text.splitBy fun a b => isBare a && isBare b).mapM fun run =>
      if run == ['.'] then some none
      else if run.all isBare then some (some (String.ofList run))
      else none
  | _ => none

/-- The path that the tokens of a key make up: names with dots between them. -/
def path? (key : List Token) : Option Path := do
  let parts ← key.mapM keyParts?
  (parts.flatten.splitOn none).mapM fun
    | [some name] => some name
    | _ => none

/-- What a value is wanted for: a line's key, the next place in an array, or a key of an inline
    table, which has names of its own. -/
inductive Frame
  | line (t : Tables) (path : Path)
  | array
  | inlineTable (t : Tables) (path : Path)

/-- What has to come next. Keys are collected last token first. -/
inductive Reader
  | lineStart (t : Tables)
  | lineEnd (t : Tables)
  | key (t : Tables) (key : List Token)
  /-- A bracket at the start of a line, which is a header's first. -/
  | bracket (t : Tables)
  | tableHeader (t : Tables) (key : List Token)
  | elementHeader (t : Tables) (key : List Token)
  /-- The first of two brackets at the end of a header. -/
  | secondBracket (t : Tables)
  | value (frames : List Frame)
  | elementOrEnd (frames : List Frame)
  | afterElement (frames : List Frame)
  | memberOrEnd (t : Tables) (frames : List Frame)
  | memberKey (t : Tables) (key : List Token) (frames : List Frame)
  | afterMember (t : Tables) (frames : List Frame)

namespace Reader

/-- A value has come to its end. -/
def completed? (v : SettingValue) : List Frame → Option Reader
  | [] => none
  | .line t path :: _ => (t.assign? path v).map lineEnd
  | .array :: frames => some (afterElement frames)
  | .inlineTable t path :: frames => (t.assign? path v).map (afterMember · frames)

/-- A token in the place of a value. -/
def startValue? (frames : List Frame) : Token → Option Reader
  | .word text => (scalar? text).bind (completed? · frames)
  | .string _ text => completed? (.string (String.ofList text)) frames
  | .openBracket => some (elementOrEnd frames)
  | .openBrace => some (memberOrEnd .empty frames)
  | _ => none

/-- A blank or a line break in a place where it means nothing: blanks everywhere but in keys, line
    breaks between lines and inside brackets and braces. -/
def skip? (reader : Reader) : Token → Option Reader
  | .blank =>
    match reader with
    | lineStart _ | lineEnd _ | value _ | elementOrEnd _ | afterElement _ | memberOrEnd ..
    | afterMember .. => some reader
    | _ => none
  | .lineBreak =>
    match reader with
    | lineStart t | lineEnd t => some (lineStart t)
    | elementOrEnd _ | afterElement _ | memberOrEnd .. | afterMember .. => some reader
    | _ => none
  | _ => none

/-- One token. -/
def step? (reader : Reader) (token : Token) : Option Reader :=
  skip? reader token <|>
  match reader, token with
  | lineStart t, .openBracket => some (bracket t)
  | lineStart t, token => some (key t [token])
  | lineEnd _, _ => none
  | key t tokens, .equals => (path? tokens.reverse).map fun path => value [.line t path]
  | key t tokens, token => some (key t (token :: tokens))
  | bracket t, .openBracket => some (elementHeader t [])
  | bracket t, token => some (tableHeader t [token])
  | tableHeader t tokens, .closeBracket =>
    ((path? tokens.reverse).bind t.openTable?).map lineEnd
  | tableHeader t tokens, token => some (tableHeader t (token :: tokens))
  | elementHeader t tokens, .closeBracket =>
    ((path? tokens.reverse).bind t.openElement?).map secondBracket
  | elementHeader t tokens, token => some (elementHeader t (token :: tokens))
  | secondBracket t, .closeBracket => some (lineEnd t)
  | secondBracket _, _ => none
  | value frames, token => startValue? frames token
  | elementOrEnd frames, .closeBracket => completed? .compound frames
  | elementOrEnd frames, token => startValue? (.array :: frames) token
  | afterElement frames, .comma => some (elementOrEnd frames)
  | afterElement frames, .closeBracket => completed? .compound frames
  | afterElement _, _ => none
  | memberOrEnd _ frames, .closeBrace => completed? .compound frames
  | memberOrEnd t frames, token => some (memberKey t [token] frames)
  | memberKey t tokens frames, .equals =>
    (path? tokens.reverse).map fun path => value (.inlineTable t path :: frames)
  | memberKey t tokens frames, token => some (memberKey t (token :: tokens) frames)
  | afterMember t frames, .comma => some (memberOrEnd t frames)
  | afterMember _ frames, .closeBrace => completed? .compound frames
  | afterMember _ _, _ => none

/-- What the names of a file stand for, at its end. -/
def tables? : Reader → Option Tables
  | lineStart t | lineEnd t => some t
  | _ => none

end Reader

/-- The names of a file and their values. A mark of the byte order may precede the file. -/
def parse? (s : String) : Option (List (String × SettingValue)) := do
  let tokens ← lex? (Text.Utf8.withoutMark s.toList)
  let reader ← tokens.foldlM Reader.step? (.lineStart .empty)
  return (← reader.tables?).entries

end PagedQuery.Toml
